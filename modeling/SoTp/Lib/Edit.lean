import Mathlib

/-!
# Lists edited by index

What a list keeps when an element is replaced (`List.set`) or removed (`List.eraseIdx`).

* `filter_eraseIdx_of_not`, `filter_set_of_not`: a filter does not see the removal of an
  element that it leaves out, and sees a replacement by such an element as a removal.
* `exists_getElem?_set_iff`: the elements at some positions after a replacement.
* `mem_eraseIdx_eraseIdx_iff`: the elements after two neighbours are removed.
* `take_succ_eraseIdx`, `drop_succ_eraseIdx`: the list around the place of a removed element.
* `pairwise_set`, `pairwise_set_eraseIdx`: an order of the list.
* `sum_map_eraseIdx_add`, `sum_map_set_add`: what a sum over the list loses and gains.
* `eraseP_eq_filter`: removing the first element with a property, where no other one has it.
-/

namespace SoTp.Lib

variable {α : Type*} {l : List α} {i : ℕ} {a b x : α}

theorem filter_eraseIdx_of_not {p : α → Bool} (hget : l[i]? = some a) (ha : p a = false) :
    (l.eraseIdx i).filter p = l.filter p := by
  obtain ⟨hi, rfl⟩ := List.getElem?_eq_some_iff.mp hget
  conv_rhs => rw [← List.take_append_drop i l, List.drop_eq_getElem_cons hi]
  rw [List.eraseIdx_eq_take_drop_succ, List.filter_append, List.filter_append,
    List.filter_cons_of_neg (by rw [ha]; exact Bool.false_ne_true)]

theorem filter_set_of_not {p : α → Bool} (hi : i < l.length) (hb : p b = false) :
    (l.set i b).filter p = (l.eraseIdx i).filter p := by
  rw [← filter_eraseIdx_of_not (List.getElem?_set_self hi) hb, List.eraseIdx_set_eq]

/-- The elements at the positions with `P`, one of which has been replaced. -/
theorem exists_getElem?_set_iff {P : ℕ → Prop} (hi : i < l.length) (hP : P i) :
    (∃ k, P k ∧ (l.set i b)[k]? = some x) ↔ x = b ∨ ∃ k, k ≠ i ∧ P k ∧ l[k]? = some x := by
  constructor
  · rintro ⟨k, hk, hget⟩
    by_cases hki : k = i
    · subst hki
      rw [List.getElem?_set_self hi] at hget
      exact Or.inl (Option.some.inj hget).symm
    · rw [List.getElem?_set_ne (Ne.symm hki)] at hget
      exact Or.inr ⟨k, hki, hk, hget⟩
  · rintro (rfl | ⟨k, hki, hk, hget⟩)
    · exact ⟨i, hP, List.getElem?_set_self hi⟩
    · exact ⟨k, hk, (List.getElem?_set_ne (Ne.symm hki)).trans hget⟩

/-- The element at `i` and the one behind it are removed. -/
theorem mem_eraseIdx_eraseIdx_iff :
    x ∈ (l.eraseIdx i).eraseIdx i ↔ ∃ k, (k ≠ i ∧ k ≠ i + 1) ∧ l[k]? = some x := by
  rw [List.mem_eraseIdx_iff_getElem?]
  constructor
  · rintro ⟨k, hk, hget⟩
    rw [List.getElem?_eraseIdx] at hget
    split at hget
    · exact ⟨k, by omega, hget⟩
    · exact ⟨k + 1, by omega, hget⟩
  · rintro ⟨k, hk, hget⟩
    by_cases hlt : k < i
    · refine ⟨k, by omega, ?_⟩
      rw [List.getElem?_eraseIdx, if_pos hlt]
      exact hget
    · refine ⟨k - 1, by omega, ?_⟩
      rw [List.getElem?_eraseIdx, if_neg (by omega), Nat.sub_add_cancel (by omega)]
      exact hget

/-! ## What is in front of an index and behind it -/

theorem take_succ_eraseIdx (l : List α) (hi : i < l.length) :
    (l.eraseIdx i).take (i + 1) = l.take i ++ (l.drop (i + 1)).take 1 := by
  have hlen : (l.take i).length = i := by
    rw [List.length_take]
    omega
  rw [List.eraseIdx_eq_take_drop_succ, List.take_append, hlen, Nat.add_sub_cancel_left,
    List.take_of_length_le (by omega)]

theorem drop_succ_eraseIdx (l : List α) (hi : i < l.length) :
    (l.eraseIdx i).drop (i + 1) = (l.drop (i + 1)).tail := by
  have hlen : (l.take i).length = i := by
    rw [List.length_take]
    omega
  rw [List.eraseIdx_eq_take_drop_succ, List.drop_append, hlen, Nat.add_sub_cancel_left,
    List.drop_of_length_le (by omega), List.nil_append, List.drop_one]

/-! ## Order -/

theorem rel_of_mem_drop_succ {r : α → α → Prop} (h : l.Pairwise r) (hget : l[i]? = some a) :
    ∀ y ∈ l.drop (i + 1), r a y := by
  obtain ⟨hi, rfl⟩ := List.getElem?_eq_some_iff.mp hget
  have hdrop : (l.drop i).Pairwise r := h.sublist (List.drop_sublist _ _)
  rw [List.drop_eq_getElem_cons hi] at hdrop
  exact (List.pairwise_cons.mp hdrop).1

/-- The list with another element at `i` keeps its order when that element fits in. -/
theorem pairwise_set {r : α → α → Prop} (h : l.Pairwise r) (hget : l[i]? = some a)
    (hpre : ∀ x, r x a → r x b) (hpost : ∀ y ∈ l.drop (i + 1), r b y) : (l.set i b).Pairwise r := by
  obtain ⟨hi, rfl⟩ := List.getElem?_eq_some_iff.mp hget
  rw [← List.take_append_drop i l, List.drop_eq_getElem_cons hi] at h
  obtain ⟨htake, hdrop, hcross⟩ := List.pairwise_append.mp h
  rw [List.set_eq_take_append_cons_drop, if_pos hi]
  refine List.pairwise_append.mpr ⟨htake, List.pairwise_cons.mpr ⟨hpost, hdrop.of_cons⟩, ?_⟩
  intro x hx
  exact List.forall_mem_cons.mpr ⟨hpre x (hcross x hx _ List.mem_cons_self),
    fun y hy => hcross x hx y (List.mem_cons_of_mem _ hy)⟩

/-- And so does the list where one element takes the place of two neighbours. -/
theorem pairwise_set_eraseIdx {r : α → α → Prop} {c : α} (h : l.Pairwise r)
    (hget : l[i]? = some a) (hnext : l[i + 1]? = some c) (hpre : ∀ x, r x a → r x b)
    (hpost : ∀ y, r c y → r b y) : ((l.set i b).eraseIdx (i + 1)).Pairwise r := by
  have hlt : i + 1 < l.length := (List.getElem?_eq_some_iff.mp hnext).1
  have hget' : (l.eraseIdx (i + 1))[i]? = some a := by
    rw [List.getElem?_eraseIdx, if_pos (Nat.lt_succ_self i)]
    exact hget
  have hdrop : (l.eraseIdx (i + 1)).drop (i + 1) = l.drop (i + 2) := by
    rw [List.eraseIdx_eq_take_drop_succ, List.drop_left' (by rw [List.length_take]; omega)]
  rw [List.eraseIdx_set_gt (Nat.lt_succ_self i)]
  refine pairwise_set (h.sublist (List.eraseIdx_sublist _ _)) hget' hpre fun y hy => hpost y ?_
  rw [hdrop] at hy
  exact rel_of_mem_drop_succ h hnext y hy

/-! ## Sums -/

theorem sum_map_eraseIdx_add {M : Type*} [AddCommMonoid M] (f : α → M) (hget : l[i]? = some a) :
    ((l.eraseIdx i).map f).sum + f a = (l.map f).sum := by
  obtain ⟨hi, rfl⟩ := List.getElem?_eq_some_iff.mp hget
  have hi' : i < (l.map f).length := by rwa [List.length_map]
  rw [← List.eraseIdx_map, add_comm, ← List.getElem_map f (h := hi'),
    List.CommMonoid.add_sum_eraseIdx hi']

theorem sum_map_set_add {M : Type*} [AddCommMonoid M] (f : α → M) (hget : l[i]? = some a) :
    ((l.set i b).map f).sum + f a = (l.map f).sum + f b := by
  have hi : i < l.length := (List.getElem?_eq_some_iff.mp hget).1
  have hnueva := sum_map_eraseIdx_add f (List.getElem?_set_self (a := b) hi)
  rw [List.eraseIdx_set_eq] at hnueva
  rw [← hnueva, ← sum_map_eraseIdx_add f hget, add_right_comm]

/-! ## Elements with a property -/

/-- Where at most one element has the property, removing the first one removes all. -/
theorem eraseP_eq_filter {p : α → Bool} (h : l.countP p ≤ 1) :
    l.eraseP p = l.filter fun x => !p x := by
  induction l with
  | nil => rfl
  | cons a l ih =>
    by_cases ha : p a
    · have hotros : ∀ x ∈ l, ¬ p x := by
        rw [List.countP_cons_of_pos ha] at h
        exact List.countP_eq_zero.mp (by omega)
      rw [List.eraseP_cons_of_pos ha, List.filter_cons_of_neg (by simp [ha]), eq_comm,
        List.filter_eq_self]
      intro x hx
      simpa using hotros x hx
    · rw [List.countP_cons_of_neg ha] at h
      rw [List.eraseP_cons_of_neg ha, List.filter_cons_of_pos (by simp [ha]), ih h]

end SoTp.Lib
