import Mathlib

/-!
# Searching a text of separated pieces

`strstr v l` is where the first occurrence of `v` in `l` starts. In a text of pieces with
separators behind them or between them, a pattern without the separator is found inside
the first piece that has it.

* `intercalate_append_cons`: a text of pieces around one of them.
* `intercalate_singleton_inj`: the pieces are determined by the text.
* `strstr_eq_some`: what is found is an occurrence.
* `strstr_append_cons_of_some`, `strstr_append_cons_of_none`: the search in a piece and what
  is behind its separator; `strstr_flatMap`: behind pieces without the pattern.
-/

namespace SoTp.Lib

variable {α : Type*} {c : α} {v l x : List α} {i : ℕ}

/-! ## Pieces and separators -/

theorem prefix_append_cons_iff (hc : c ∉ v) (rest : List α) :
    v <+: x ++ c :: rest ↔ v <+: x := by
  refine ⟨fun h => ?_, fun h => h.trans (List.prefix_append x _)⟩
  rcases Nat.lt_or_ge x.length v.length with hlt | hle
  · have hx : x ++ [c] <+: x ++ c :: rest := ⟨rest, by simp⟩
    have hxv : x ++ [c] <+: v := List.prefix_of_prefix_length_le hx h (by simpa using hlt)
    exact absurd (hxv.subset (by simp)) hc
  · exact List.prefix_of_prefix_length_le h (List.prefix_append x _) hle

theorem intercalate_cons (w : List α) (ys : List (List α)) :
    [c].intercalate (w :: ys) = w ++ ys.flatMap (c :: ·) := by
  induction ys generalizing w with
  | nil => rw [List.intercalate_singleton, List.flatMap_nil, List.append_nil]
  | cons y ys ih =>
    rw [List.intercalate_cons_cons, ih, List.flatMap_cons, List.append_assoc,
      List.singleton_append, List.cons_append]

theorem intercalate_append_cons (xs : List (List α)) (w : List α) (ys : List (List α)) :
    [c].intercalate (xs ++ w :: ys) =
      xs.flatMap (· ++ [c]) ++ w ++ ys.flatMap (c :: ·) := by
  induction xs with
  | nil => exact intercalate_cons w ys
  | cons x xs ih =>
    obtain ⟨z, zs, hz⟩ := List.exists_cons_of_ne_nil (List.append_ne_nil_of_right_ne_nil xs
      (List.cons_ne_nil w ys))
    rw [List.cons_append, hz, List.intercalate_cons_cons, ← hz, ih, List.flatMap_cons]
    simp only [List.append_assoc]

variable [DecidableEq α]

theorem intercalate_singleton_inj {xs ys : List (List α)} (hxs : ∀ x ∈ xs, c ∉ x)
    (hys : ∀ y ∈ ys, c ∉ y) (hx : xs ≠ []) (hy : ys ≠ [])
    (h : [c].intercalate xs = [c].intercalate ys) : xs = ys := by
  rw [← List.splitOn_intercalate c hxs hx, h, List.splitOn_intercalate c hys hy]

/-! ## The search -/

/-- `strstr`: where the first occurrence of `v` in a text starts. -/
def strstr (v : List α) : List α → Option ℕ
  | [] => if v = [] then some 0 else none
  | b :: bs => if v <+: b :: bs then some 0 else (strstr v bs).map (· + 1)

@[simp] theorem strstr_self (v : List α) : strstr v v = some 0 := by
  cases v with
  | nil => exact if_pos rfl
  | cons b bs => exact if_pos List.prefix_rfl

theorem strstr_nil (hv : v ≠ []) : strstr v [] = none := if_neg hv

/-- What is found is an occurrence. -/
theorem strstr_eq_some (h : strstr v l = some i) : ∃ p q, l = p ++ v ++ q ∧ p.length = i := by
  induction l generalizing i with
  | nil =>
    unfold strstr at h
    split_ifs at h with hv
    exact ⟨[], [], by rw [hv]; rfl, Option.some.inj h⟩
  | cons b bs ih =>
    unfold strstr at h
    split_ifs at h with hpre
    · obtain ⟨q, hq⟩ := hpre
      exact ⟨[], q, hq.symm, Option.some.inj h⟩
    · obtain ⟨j, hj, rfl⟩ := Option.map_eq_some_iff.mp h
      obtain ⟨p, q, rfl, rfl⟩ := ih hj
      exact ⟨b :: p, q, rfl, rfl⟩

/-- A pattern that is found in the first piece. -/
theorem strstr_append_cons_of_some (hc : c ∉ v) (h : strstr v x = some i) (rest : List α) :
    strstr v (x ++ c :: rest) = some i := by
  induction x generalizing i with
  | nil =>
    unfold strstr at h
    split_ifs at h with hv
    rw [List.nil_append, strstr, if_pos (hv ▸ List.nil_prefix), h]
  | cons b x ih =>
    rw [List.cons_append, strstr, ← List.cons_append]
    simp only [prefix_append_cons_iff hc]
    unfold strstr at h
    split_ifs at h ⊢ with hpre
    · exact h
    · obtain ⟨j, hj, rfl⟩ := Option.map_eq_some_iff.mp h
      rw [ih hj, Option.map_some]

/-- A pattern that is not. -/
theorem strstr_append_cons_of_none (hc : c ∉ v) (h : strstr v x = none) (rest : List α) :
    strstr v (x ++ c :: rest) = (strstr v rest).map (· + (x.length + 1)) := by
  induction x with
  | nil =>
    have hv : v ≠ [] := by
      rintro rfl
      cases h
    have hpre : ¬ v <+: c :: rest := fun hpre =>
      hv (List.prefix_nil.mp ((prefix_append_cons_iff hc rest).mp hpre))
    rw [List.nil_append, strstr, if_neg hpre]
    rfl
  | cons b x ih =>
    rw [List.cons_append, strstr, ← List.cons_append]
    simp only [prefix_append_cons_iff hc]
    unfold strstr at h
    split_ifs at h ⊢ with hpre
    rw [ih (Option.map_eq_none_iff.mp h), Option.map_map]
    congr 1

/-- A pattern that none of the pieces in front has. -/
theorem strstr_flatMap {xs : List (List α)} (hc : c ∉ v) (h : ∀ x ∈ xs, strstr v x = none)
    (rest : List α) :
    strstr v (xs.flatMap (· ++ [c]) ++ rest) =
      (strstr v rest).map (· + (xs.flatMap (· ++ [c])).length) := by
  induction xs with
  | nil => exact Option.map_id_fun' ▸ rfl
  | cons x xs ih =>
    obtain ⟨hx, hxs⟩ := List.forall_mem_cons.mp h
    rw [List.flatMap_cons, List.append_assoc, List.append_assoc, List.singleton_append,
      strstr_append_cons_of_none hc hx, ih hxs, Option.map_map]
    congr 1
    funext n
    simp only [Function.comp_apply, List.length_append, List.length_singleton]
    omega

end SoTp.Lib
