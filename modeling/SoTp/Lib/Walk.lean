import Mathlib

/-!
# Walks on a line

A pointer moves along a line by the signed steps of a list. `starts x steps` and
`ends x steps`: where each step begins and ends; `stretches x steps`: the half-open interval
that each step runs over, empty when the step goes back.

* `forall_ends_ge_iff`, `forall_starts_le`: the ends of the steps from their starts, and back.
* `pairwise_disjoint_stretches_iff`: in a walk that stays to the right of its start, the
  intervals are pairwise disjoint exactly when no step forward comes after a step back.
-/

namespace SoTp.Lib

variable {α : Type*} [AddCommGroup α]

/-- The position before each step. -/
def starts : α → List α → List α
  | _, [] => []
  | x, s :: steps => x :: starts (x + s) steps

@[simp] theorem starts_cons (x s : α) (steps : List α) :
    starts x (s :: steps) = x :: starts (x + s) steps := rfl

/-- The position after each step. -/
def ends : α → List α → List α
  | _, [] => []
  | x, s :: steps => (x + s) :: ends (x + s) steps

@[simp] theorem ends_cons (x s : α) (steps : List α) :
    ends x (s :: steps) = (x + s) :: ends (x + s) steps := rfl

variable [LinearOrder α]

/-- A step ends where the next one starts, and the last one at the sum of all. -/
theorem forall_ends_ge_iff {low : α} (steps : List α) (x : α)
    (hlow : ∀ y ∈ starts x steps, low ≤ y) (hx : low ≤ x) :
    (∀ y ∈ ends x steps, low ≤ y) ↔ low ≤ x + steps.sum := by
  induction steps generalizing x with
  | nil => simp [ends, hx]
  | cons s steps ih =>
    rw [starts_cons, List.forall_mem_cons] at hlow
    rw [ends_cons, List.forall_mem_cons, List.sum_cons, ← add_assoc]
    cases steps with
    | nil => simp [ends]
    | cons t steps =>
      have hnext : low ≤ x + s := hlow.2 (x + s) List.mem_cons_self
      rw [ih (x + s) hlow.2 hnext, and_iff_right hnext]

theorem forall_starts_le {high : α} (steps : List α) (x : α)
    (hhigh : ∀ y ∈ ends x steps, y ≤ high) (hx : x ≤ high) :
    ∀ y ∈ starts x steps, y ≤ high := by
  induction steps generalizing x with
  | nil => simp [starts]
  | cons s steps ih =>
    rw [ends_cons, List.forall_mem_cons] at hhigh
    rw [starts_cons, List.forall_mem_cons]
    exact ⟨hx, ih (x + s) hhigh.2 hhigh.1⟩

/-- The interval of each step. -/
def stretches : α → List α → List (Set α)
  | _, [] => []
  | x, s :: steps => Set.Ico x (x + s) :: stretches (x + s) steps

@[simp] theorem stretches_cons (x s : α) (steps : List α) :
    stretches x (s :: steps) = Set.Ico x (x + s) :: stretches (x + s) steps := rfl

/-- After a step back, the walk makes no step forward. -/
def NoReturn (steps : List α) : Prop := steps.Pairwise fun s t => s < 0 → t ≤ 0

instance (steps : List α) : Decidable (NoReturn steps) :=
  inferInstanceAs (Decidable (steps.Pairwise _))

variable [IsOrderedAddMonoid α]

/-- A step forward from `x` is apart from what is covered exactly when it starts at the end of
it. -/
theorem disjoint_step_iff {low x high s : α} (hlow : low ≤ x) (hx : x ≤ high) (hs : 0 < s) :
    Disjoint (Set.Ico low high) (Set.Ico x (x + s)) ↔ x = high := by
  constructor
  · intro hdisjoint
    by_contra hne
    exact Set.disjoint_left.mp hdisjoint ⟨hlow, lt_of_le_of_ne hx hne⟩
      ⟨le_rfl, lt_add_of_pos_right x hs⟩
  · rintro rfl
    exact Set.Ico_disjoint_Ico_same

/-- A walk that has covered `[low, high)` before it comes to `x`: the intervals to come are
disjoint from one another and from what is covered exactly when there is no step forward
after a step back, nor from below `high`. -/
theorem disjoint_stretches_iff {low : α} (steps : List α) (x high : α) (hx : x ≤ high)
    (hlow : ∀ y ∈ starts x steps, low ≤ y) :
    ((stretches x steps).Pairwise Disjoint ∧
        ∀ t ∈ stretches x steps, Disjoint (Set.Ico low high) t) ↔
      NoReturn steps ∧ (x < high → ∀ s ∈ steps, s ≤ 0) := by
  induction steps generalizing x high with
  | nil => simp [stretches, NoReturn]
  | cons s steps ih =>
    rw [starts_cons, List.forall_mem_cons] at hlow
    obtain ⟨hlowx, hlow⟩ := hlow
    have hcons : NoReturn (s :: steps) ↔ (∀ t ∈ steps, s < 0 → t ≤ 0) ∧ NoReturn steps :=
      List.pairwise_cons
    rw [stretches_cons, List.pairwise_cons, List.forall_mem_cons, hcons, List.forall_mem_cons]
    rcases le_or_gt s 0 with hback | hforward
    · -- the interval is empty, and the walk goes on from `x + s ≤ x`
      have hempty : Set.Ico x (x + s) = ∅ :=
        Set.Ico_eq_empty (not_lt.mpr (add_le_of_nonpos_right hback))
      have hnext := ih (x + s) high ((add_le_of_nonpos_right hback).trans hx) hlow
      rw [hempty]
      constructor
      · rintro ⟨⟨-, hpair⟩, -, hcovered⟩
        obtain ⟨hno, hbelow⟩ := hnext.mp ⟨hpair, hcovered⟩
        refine ⟨⟨fun t ht hs => hbelow ?_ t ht, hno⟩, fun hlt => ⟨hback, hbelow ?_⟩⟩
        · exact (add_lt_of_neg_right x hs).trans_le hx
        · exact (add_le_of_nonpos_right hback).trans_lt hlt
      · rintro ⟨⟨hs, hno⟩, hbelow⟩
        have hbelow' : x + s < high → ∀ t ∈ steps, t ≤ 0 := by
          intro hlt
          rcases hx.lt_or_eq with hx | rfl
          · exact (hbelow hx).2
          · exact fun t ht => hs t ht (neg_of_add_lt_right hlt)
        obtain ⟨hpair, hcovered⟩ := hnext.mpr ⟨hno, hbelow'⟩
        exact ⟨⟨fun t _ => Set.empty_disjoint t, hpair⟩, Set.disjoint_empty _, hcovered⟩
    · -- the interval starts at `high`, and with it `[low, x + s)` is covered
      have hstep := disjoint_step_iff hlowx hx hforward
      have hnext := ih (x + s) (x + s) le_rfl hlow
      have hunion : Set.Ico low (x + s) = Set.Ico low x ∪ Set.Ico x (x + s) :=
        (Set.Ico_union_Ico_eq_Ico hlowx (lt_add_of_pos_right x hforward).le).symm
      constructor
      · rintro ⟨⟨hfirst, hpair⟩, hthis, hcovered⟩
        obtain rfl := hstep.mp hthis
        have hall : ∀ t ∈ stretches (x + s) steps, Disjoint (Set.Ico low (x + s)) t := by
          intro t ht
          rw [hunion]
          exact Set.disjoint_union_left.mpr ⟨hcovered t ht, hfirst t ht⟩
        obtain ⟨hno, -⟩ := hnext.mp ⟨hpair, hall⟩
        exact ⟨⟨fun t _ hs => absurd hs hforward.not_gt, hno⟩, fun hlt => absurd hlt (lt_irrefl x)⟩
      · rintro ⟨⟨-, hno⟩, hbelow⟩
        obtain rfl : x = high := by
          by_contra hne
          exact absurd (hbelow (lt_of_le_of_ne hx hne)).1 (not_le.mpr hforward)
        obtain ⟨hpair, hall⟩ := hnext.mpr ⟨hno, fun hlt => absurd hlt (lt_irrefl _)⟩
        rw [hunion] at hall
        refine ⟨⟨fun t ht => ?_, hpair⟩, hstep.mpr rfl, fun t ht => ?_⟩
        · exact (Set.disjoint_union_left.mp (hall t ht)).2
        · exact (Set.disjoint_union_left.mp (hall t ht)).1

/-- **When the intervals of a walk are pairwise disjoint**: exactly when it makes no step
forward after a step back. -/
theorem pairwise_disjoint_stretches_iff (x : α) (steps : List α)
    (hlow : ∀ y ∈ starts x steps, x ≤ y) :
    (stretches x steps).Pairwise Disjoint ↔ NoReturn steps := by
  have h := disjoint_stretches_iff steps x x le_rfl hlow
  rw [Set.Ico_self] at h
  constructor
  · intro hpair
    exact (h.mp ⟨hpair, fun t _ => Set.empty_disjoint t⟩).1
  · intro hno
    exact (h.mpr ⟨hno, fun hlt => absurd hlt (lt_irrefl x)⟩).1

end SoTp.Lib
