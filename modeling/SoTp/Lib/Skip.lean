import Mathlib

/-!
# Removing elements while walking over a list

A loop visits a list by index and removes the elements with `p`. The index grows all the
same, so that the element behind a removed one is not looked at: `skipRemoved p l` are the
elements that go, `skipKept p l` the ones that stay.

* `skipRemoved_append_skipKept`, `skipRemoved_sublist`, `skipKept_sublist`: each element goes
  or stays, and both lists are in order.
* `forall_skipKept_iff`: everything with `p` goes exactly when no two neighbours have it, and
  then the lists are those of `List.filter`.
-/

namespace SoTp.Lib

variable {α : Type*} (p : α → Bool)

/-- The elements that the loop removes. -/
def skipRemoved : List α → List α
  | [] => []
  | [a] => if p a then [a] else []
  | a :: b :: l => if p a then a :: skipRemoved l else skipRemoved (b :: l)

/-- The elements that it leaves. -/
def skipKept : List α → List α
  | [] => []
  | [a] => if p a then [] else [a]
  | a :: b :: l => if p a then b :: skipKept l else a :: skipKept (b :: l)

variable {p} {a b : α} {l : List α}

theorem skipRemoved_cons_of_not (h : ¬ p a) : skipRemoved p (a :: l) = skipRemoved p l := by
  cases l with
  | nil => exact if_neg h
  | cons b l => exact if_neg h

theorem skipKept_cons_of_not (h : ¬ p a) : skipKept p (a :: l) = a :: skipKept p l := by
  cases l with
  | nil => exact if_neg h
  | cons b l => exact if_neg h

theorem skipRemoved_cons_cons (h : p a) :
    skipRemoved p (a :: b :: l) = a :: skipRemoved p l := if_pos h

theorem skipKept_cons_cons (h : p a) : skipKept p (a :: b :: l) = b :: skipKept p l := if_pos h

theorem skipRemoved_cons (h : p a) : skipRemoved p (a :: l) = a :: skipRemoved p l.tail := by
  cases l with
  | nil => exact if_pos h
  | cons b l => exact skipRemoved_cons_cons h

theorem skipKept_cons (h : p a) : skipKept p (a :: l) = l.take 1 ++ skipKept p l.tail := by
  cases l with
  | nil => exact if_pos h
  | cons b l => exact skipKept_cons_cons h

/-! ## What goes and what stays -/

variable (p l)

theorem skipRemoved_append_skipKept : (skipRemoved p l ++ skipKept p l).Perm l := by
  induction l using skipRemoved.induct p with
  | case1 => exact .refl _
  | case2 a h => simp [skipRemoved, skipKept, h]
  | case3 a h => simp [skipRemoved, skipKept, h]
  | case4 a b l h ih =>
    rw [skipRemoved_cons_cons h, skipKept_cons_cons h, List.cons_append]
    exact (List.perm_middle.trans (ih.cons b)).cons a
  | case5 a b l h ih =>
    rw [skipRemoved_cons_of_not h, skipKept_cons_of_not h]
    exact List.perm_middle.trans (ih.cons a)

theorem skipRemoved_sublist : (skipRemoved p l).Sublist l := by
  induction l using skipRemoved.induct p with
  | case1 => exact .refl _
  | case2 a h => simp [skipRemoved, h]
  | case3 a h => simp [skipRemoved, h]
  | case4 a b l h ih =>
    rw [skipRemoved_cons_cons h]
    exact (ih.cons b).cons_cons a
  | case5 a b l h ih =>
    rw [skipRemoved_cons_of_not h]
    exact ih.cons a

theorem skipKept_sublist : (skipKept p l).Sublist l := by
  induction l using skipRemoved.induct p with
  | case1 => exact .refl _
  | case2 a h => simp [skipKept, h]
  | case3 a h => simp [skipKept, h]
  | case4 a b l h ih =>
    rw [skipKept_cons_cons h]
    exact (ih.cons_cons b).cons a
  | case5 a b l h ih =>
    rw [skipKept_cons_of_not h]
    exact ih.cons_cons a

theorem mem_skipRemoved : ∀ x ∈ skipRemoved p l, p x := by
  induction l using skipRemoved.induct p with
  | case1 => simp [skipRemoved]
  | case2 a h => simp [skipRemoved, h]
  | case3 a h => simp [skipRemoved, h]
  | case4 a b l h ih =>
    rw [skipRemoved_cons_cons h, List.forall_mem_cons]
    exact ⟨h, ih⟩
  | case5 a b l h ih =>
    rw [skipRemoved_cons_of_not h]
    exact ih

/-- Something goes when there is something with `p`. -/
theorem skipRemoved_ne_nil {x : α} (hx : x ∈ l) (hpx : p x) : skipRemoved p l ≠ [] := by
  induction l using skipRemoved.induct p with
  | case1 => exact absurd hx List.not_mem_nil
  | case2 a h => simp [skipRemoved, h]
  | case3 a h => exact absurd (List.mem_singleton.mp hx ▸ hpx) h
  | case4 a b l h ih =>
    rw [skipRemoved_cons_cons h]
    exact List.cons_ne_nil a _
  | case5 a b l h ih =>
    rw [skipRemoved_cons_of_not h]
    rcases List.mem_cons.mp hx with rfl | hx
    · exact absurd hpx h
    · exact ih hx

/-! ## When everything goes -/

/-- No element with `p` comes right behind another one. -/
def NoNeighbours : List α → Prop := List.IsChain fun a b => p a → ¬ p b

instance (l : List α) : Decidable (NoNeighbours p l) :=
  inferInstanceAs (Decidable (List.IsChain _ l))

theorem forall_skipKept_iff : (∀ x ∈ skipKept p l, ¬ p x) ↔ NoNeighbours p l := by
  unfold NoNeighbours
  induction l using skipRemoved.induct p with
  | case1 => simp [skipKept]
  | case2 a h => simp [skipKept, h]
  | case3 a h => simp [skipKept, h]
  | case4 a b l h ih =>
    rw [skipKept_cons_cons h, List.forall_mem_cons, List.isChain_cons_cons, ih]
    constructor
    · rintro ⟨hb, hl⟩
      refine ⟨fun _ => hb, ?_⟩
      cases l with
      | nil => exact List.isChain_singleton b
      | cons c l => exact List.isChain_cons_cons.mpr ⟨fun hpb => absurd hpb hb, hl⟩
    · rintro ⟨hb, hl⟩
      exact ⟨hb h, hl.tail⟩
  | case5 a b l h ih =>
    rw [skipKept_cons_of_not h, List.forall_mem_cons, List.isChain_cons_cons, ih]
    exact and_congr_left fun _ => iff_of_true h fun hpa => absurd hpa h

variable {p l}

theorem skipRemoved_eq_filter (h : NoNeighbours p l) : skipRemoved p l = l.filter p := by
  have hkept := (forall_skipKept_iff p l).mpr h
  have hperm := (skipRemoved_append_skipKept p l).filter p
  have hleft : (skipRemoved p l).filter p = skipRemoved p l :=
    List.filter_eq_self.mpr (mem_skipRemoved p l)
  have hright : (skipKept p l).filter p = [] :=
    List.filter_eq_nil_iff.mpr hkept
  rw [List.filter_append, hleft, hright, List.append_nil] at hperm
  have hsub : (skipRemoved p l).Sublist (l.filter p) := by
    rw [← hleft]
    exact (skipRemoved_sublist p l).filter p
  exact hsub.eq_of_length hperm.length_eq

end SoTp.Lib
