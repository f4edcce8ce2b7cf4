import Mathlib

/-!
# The first least element of a list

`FirstLeast p f l i a` says that `a`, at index `i` of `l`, is the first of the elements
with `p` on which `f` is least. A scan that keeps the best element so far is followed
with the lemmas on `l ++ [b]`: there is none before (`firstLeast_append_new`), the new
one is better (`FirstLeast.append_better`), or the old one stays
(`FirstLeast.append_keep`).

* `FirstLeast.unique`: there is at most one.
* `exists_firstLeast_iff`: there is one whenever some element has `p`.
* `firstLeast_const_iff`: with a constant `f` it is the first element with `p`.
-/

namespace SoTp.Lib

variable {α β : Type*} [LinearOrder β] {p : α → Prop} {f : α → β} {l : List α} {i : ℕ} {a b : α}

/-- `a` is at `i`, and it is the first of those with `p` on which `f` is least. -/
structure FirstLeast (p : α → Prop) (f : α → β) (l : List α) (i : ℕ) (a : α) : Prop where
  get : l[i]? = some a
  ok : p a
  least : ∀ b ∈ l, p b → f a ≤ f b
  first : ∀ j < i, ∀ b, l[j]? = some b → p b → f a < f b

/-! ## Uniqueness -/

theorem FirstLeast.mem (h : FirstLeast p f l i a) : a ∈ l := List.mem_of_getElem? h.get

theorem FirstLeast.lt_length (h : FirstLeast p f l i a) : i < l.length :=
  (List.getElem?_eq_some_iff.mp h.get).1

theorem FirstLeast.unique {j : ℕ} (h : FirstLeast p f l i a) (h' : FirstLeast p f l j b) :
    i = j ∧ a = b := by
  have hij : i = j := by
    rcases lt_trichotomy i j with hlt | heq | hlt
    · exact absurd (h'.first i hlt a h.get h.ok) (not_lt_of_ge (h.least b h'.mem h'.ok))
    · exact heq
    · exact absurd (h.first j hlt b h'.get h'.ok) (not_lt_of_ge (h'.least a h.mem h.ok))
  subst hij
  exact ⟨rfl, Option.some.inj (h.get.symm.trans h'.get)⟩

/-! ## One more element -/

/-- The first element with `p`. -/
theorem firstLeast_append_new (hnone : ∀ b ∈ l, ¬ p b) (ha : p a) :
    FirstLeast p f (l ++ [a]) l.length a where
  get := List.getElem?_concat_length
  ok := ha
  least := by
    intro b hb hpb
    rcases List.mem_append.mp hb with hb | hb
    · exact absurd hpb (hnone b hb)
    · rw [List.mem_singleton.mp hb]
  first := by
    intro j hj b hget hpb
    rw [List.getElem?_append_left hj] at hget
    exact absurd hpb (hnone b (List.mem_of_getElem? hget))

/-- A better one. -/
theorem FirstLeast.append_better (h : FirstLeast p f l i a) (hb : p b) (hlt : f b < f a) :
    FirstLeast p f (l ++ [b]) l.length b where
  get := List.getElem?_concat_length
  ok := hb
  least := by
    intro c hc hpc
    rcases List.mem_append.mp hc with hc | hc
    · exact hlt.le.trans (h.least c hc hpc)
    · rw [List.mem_singleton.mp hc]
  first := by
    intro j hj c hget hpc
    rw [List.getElem?_append_left hj] at hget
    exact hlt.trans_le (h.least c (List.mem_of_getElem? hget) hpc)

/-- One that is not better. -/
theorem FirstLeast.append_keep (h : FirstLeast p f l i a) (hb : p b → f a ≤ f b) :
    FirstLeast p f (l ++ [b]) i a where
  get := (List.getElem?_append_left h.lt_length).trans h.get
  ok := h.ok
  least := by
    intro c hc hpc
    rcases List.mem_append.mp hc with hc | hc
    · exact h.least c hc hpc
    · rw [List.mem_singleton.mp hc] at hpc ⊢
      exact hb hpc
  first := by
    intro j hj c hget hpc
    rw [List.getElem?_append_left (hj.trans h.lt_length)] at hget
    exact h.first j hj c hget hpc

/-! ## Existence -/

theorem exists_firstLeast_iff : (∃ i a, FirstLeast p f l i a) ↔ ∃ a ∈ l, p a := by
  constructor
  · rintro ⟨i, a, h⟩
    exact ⟨a, h.mem, h.ok⟩
  · intro hex
    induction l using List.reverseRecOn with
    | nil =>
      obtain ⟨a, ha, -⟩ := hex
      exact absurd ha List.not_mem_nil
    | append_singleton l b ih =>
      by_cases hl : ∃ a ∈ l, p a
      · obtain ⟨i, a, h⟩ := ih hl
        by_cases hb : p b ∧ f b < f a
        · exact ⟨_, b, h.append_better hb.1 hb.2⟩
        · exact ⟨i, a, h.append_keep fun hpb => not_lt.mp fun hlt => hb ⟨hpb, hlt⟩⟩
      · push Not at hl
        obtain ⟨a, ha, hpa⟩ := hex
        rcases List.mem_append.mp ha with ha | ha
        · exact absurd hpa (hl a ha)
        · rw [List.mem_singleton.mp ha] at hpa
          exact ⟨_, b, firstLeast_append_new hl hpa⟩

theorem firstLeast_const_iff {c : β} :
    FirstLeast p (fun _ => c) l i a ↔
      l[i]? = some a ∧ p a ∧ ∀ j < i, ∀ b, l[j]? = some b → ¬ p b := by
  constructor
  · intro h
    exact ⟨h.get, h.ok, fun j hj b hget hpb => lt_irrefl c (h.first j hj b hget hpb)⟩
  · rintro ⟨hget, ha, hfirst⟩
    exact ⟨hget, ha, fun _ _ _ => le_rfl, fun j hj b hb hpb => absurd hpb (hfirst j hj b hb)⟩

end SoTp.Lib
