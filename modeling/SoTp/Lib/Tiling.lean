import Mathlib

/-!
# Lists of disjoint pieces

A region `u` cut into the sets of a list. `Packing u ls`: the sets of `ls` are
pairwise disjoint parts of `u`. `Tiling u ls`: they also leave nothing of `u`
out. Neither depends on the order of the list.

* `Packing.replace`, `Tiling.replace`: some pieces may be exchanged for others
  made of the same points.
* `Packing.split`, `Tiling.split`, `Packing.merge`, `Packing.erase`: the same for
  a list that is edited by index.
-/

namespace SoTp.Lib

variable {α : Type*} {u : Set α} {ls ps qs rest : List (Set α)}

/-- The points of the pieces. -/
def covered (ls : List (Set α)) : Set α := {x | ∃ s ∈ ls, x ∈ s}

@[simp] theorem covered_singleton (s : Set α) : covered [s] = s := by
  ext x
  simp [covered]

@[simp] theorem covered_pair (s t : Set α) : covered [s, t] = s ∪ t := by
  ext x
  simp [covered]

theorem covered_append (ps qs : List (Set α)) : covered (ps ++ qs) = covered ps ∪ covered qs := by
  ext x
  simp only [covered, List.mem_append, Set.mem_ofPred_eq, Set.mem_union]
  constructor
  · rintro ⟨s, hs | hs, hx⟩
    · exact Or.inl ⟨s, hs, hx⟩
    · exact Or.inr ⟨s, hs, hx⟩
  · rintro (⟨s, hs, hx⟩ | ⟨s, hs, hx⟩)
    · exact ⟨s, Or.inl hs, hx⟩
    · exact ⟨s, Or.inr hs, hx⟩

theorem covered_perm (h : ps.Perm qs) : covered ps = covered qs := by
  ext x
  simp only [covered, Set.mem_ofPred_eq, h.mem_iff]

/-- The pieces are pairwise disjoint parts of `u`. -/
structure Packing (u : Set α) (ls : List (Set α)) : Prop where
  disjoint : ls.Pairwise Disjoint
  inside : ∀ s ∈ ls, s ⊆ u

/-- The pieces are pairwise disjoint and make up `u`. -/
structure Tiling (u : Set α) (ls : List (Set α)) : Prop extends Packing u ls where
  cover : covered ls = u

/-! ## Order -/

theorem Packing.perm (h : Packing u ps) (hperm : ps.Perm qs) : Packing u qs where
  disjoint := (hperm.pairwise_iff fun hst => hst.symm).mp h.disjoint
  inside := fun s hs => h.inside s (hperm.mem_iff.mpr hs)

theorem Tiling.perm (h : Tiling u ps) (hperm : ps.Perm qs) : Tiling u qs where
  toPacking := h.toPacking.perm hperm
  cover := by rw [← covered_perm hperm, h.cover]

/-! ## Exchanging pieces -/

/-- Pieces may be exchanged for disjoint pieces of their points. -/
theorem Packing.replace (h : Packing u (ps ++ rest)) (hqs : qs.Pairwise Disjoint)
    (hsub : ∀ q ∈ qs, q ⊆ covered ps) : Packing u (qs ++ rest) := by
  obtain ⟨-, hrest, hcross⟩ := List.pairwise_append.mp h.disjoint
  refine ⟨List.pairwise_append.mpr ⟨hqs, hrest, ?_⟩, ?_⟩
  · intro q hq t ht
    rw [Set.disjoint_left]
    intro x hxq hxt
    obtain ⟨p, hp, hxp⟩ := hsub q hq hxq
    exact Set.disjoint_left.mp (hcross p hp t ht) hxp hxt
  · intro s hs
    rcases List.mem_append.mp hs with hs | hs
    · intro x hx
      obtain ⟨p, hp, hxp⟩ := hsub s hs hx
      exact h.inside p (List.mem_append_left _ hp) hxp
    · exact h.inside s (List.mem_append_right _ hs)

theorem Tiling.replace (h : Tiling u (ps ++ rest)) (hqs : qs.Pairwise Disjoint)
    (heq : covered qs = covered ps) : Tiling u (qs ++ rest) where
  toPacking := h.toPacking.replace hqs fun q hq x hx => heq ▸ ⟨q, hq, hx⟩
  cover := by rw [covered_append, heq, ← covered_append, h.cover]

/-! ## Editing by index -/

theorem perm_eraseIdx {i : ℕ} (hi : i < ls.length) : ls.Perm ([ls[i]] ++ ls.eraseIdx i) :=
  (List.getElem_cons_eraseIdx_perm hi).symm

theorem perm_set_append {i : ℕ} (hi : i < ls.length) (s t : Set α) :
    ([s, t] ++ ls.eraseIdx i).Perm (ls.set i s ++ [t]) :=
  calc ([s, t] ++ ls.eraseIdx i).Perm ((s :: ls.eraseIdx i) ++ [t]) :=
        (List.perm_append_singleton t (ls.eraseIdx i)).symm.cons s
    _ |>.Perm (ls.set i s ++ [t]) := (List.set_perm_cons_eraseIdx hi s).symm.append_right [t]

theorem Packing.split (h : Packing u ls) {i : ℕ} (hi : i < ls.length) {s t : Set α}
    (hst : Disjoint s t) (heq : ls[i] = s ∪ t) : Packing u (ls.set i s ++ [t]) := by
  refine ((h.perm (perm_eraseIdx hi)).replace (by simpa using hst) ?_).perm (perm_set_append hi s t)
  intro q hq x hx
  rw [covered_singleton, heq, ← covered_pair]
  exact ⟨q, hq, hx⟩

theorem Tiling.split (h : Tiling u ls) {i : ℕ} (hi : i < ls.length) {s t : Set α}
    (hst : Disjoint s t) (heq : ls[i] = s ∪ t) : Tiling u (ls.set i s ++ [t]) := by
  refine ((h.perm (perm_eraseIdx hi)).replace (by simpa using hst) ?_).perm (perm_set_append hi s t)
  rw [covered_pair, covered_singleton, heq]

/-- Joining the piece at `j` to the one at `i`. -/
theorem Packing.merge (h : Packing u ls) {i j : ℕ} (hij : i < j) (hj : j < ls.length)
    {s : Set α} (heq : s = ls[i] ∪ ls[j]) : Packing u ((ls.set i s).eraseIdx j) := by
  have hi : i < (ls.eraseIdx j).length := by
    rw [List.length_eraseIdx_of_lt hj]
    omega
  have hget : (ls.eraseIdx j)[i] = ls[i] := List.getElem_eraseIdx_of_lt hi hij
  have hperm : ls.Perm ([ls[j], ls[i]] ++ (ls.eraseIdx j).eraseIdx i) := by
    have h₂ := (List.getElem_cons_eraseIdx_perm hi).symm
    rw [hget] at h₂
    exact (List.getElem_cons_eraseIdx_perm hj).symm.trans (h₂.cons ls[j])
  have hmerge : Packing u ([s] ++ (ls.eraseIdx j).eraseIdx i) := by
    refine (h.perm hperm).replace (List.pairwise_singleton _ _) ?_
    intro q hq
    rw [List.mem_singleton.mp hq, heq, covered_pair, Set.union_comm]
  rw [List.eraseIdx_set_gt hij]
  exact hmerge.perm (List.set_perm_cons_eraseIdx hi s).symm

theorem Packing.erase (h : Packing u ls) (i : ℕ) : Packing u (ls.eraseIdx i) where
  disjoint := h.disjoint.sublist (List.eraseIdx_sublist ls i)
  inside := fun s hs => h.inside s (List.mem_of_mem_eraseIdx hs)

end SoTp.Lib
