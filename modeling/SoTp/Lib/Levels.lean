import Mathlib

/-!
# Queues in levels

A scheduler with priorities keeps one queue a level: `q i` is what waits at level `i`,
in the order in which it is taken. `waiting n q` is everything that waits at a level
below `n`.

* `waiting_push`, `waiting_pop`: an element pushed at a level, or taken from one, is the
  only change to what waits.
* `Balanced.push`, `Balanced.pop`: over a history, what was pushed at a level is what was
  taken from it and, behind that, what waits there.
-/

namespace SoTp.Lib

variable {α : Type*}

/-- What waits at the levels below `n`. -/
def waiting (n : ℕ) (q : ℕ → List α) : List α := (List.range n).flatMap q

theorem waiting_succ (n : ℕ) (q : ℕ → List α) : waiting (n + 1) q = waiting n q ++ q n := by
  unfold waiting
  rw [List.range_succ, List.flatMap_append, List.flatMap_singleton]

theorem waiting_update_of_le {n i : ℕ} (h : n ≤ i) (q : ℕ → List α) (l : List α) :
    waiting n (Function.update q i l) = waiting n q := by
  refine List.flatMap_congr fun j hj => ?_
  have hne : j ≠ i := by
    have hlt := List.mem_range.mp hj
    omega
  exact Function.update_of_ne hne l q

/-- A level below `n` contributes its queue, whatever the queue is. -/
theorem waiting_update {n i : ℕ} (h : i < n) (q : ℕ → List α) :
    ∃ as bs, ∀ l, waiting n (Function.update q i l) = as ++ l ++ bs := by
  induction n with
  | zero => exact absurd h (Nat.not_lt_zero i)
  | succ n ih =>
    by_cases hin : i < n
    · obtain ⟨as, bs, hall⟩ := ih hin
      refine ⟨as, bs ++ q n, fun l => ?_⟩
      have hne : n ≠ i := by omega
      rw [waiting_succ, hall, Function.update_of_ne hne, List.append_assoc]
    · obtain rfl : i = n := by omega
      refine ⟨waiting i q, [], fun l => ?_⟩
      rw [waiting_succ, waiting_update_of_le le_rfl, Function.update_self, List.append_nil]

theorem waiting_push {n i : ℕ} (h : i < n) (q : ℕ → List α) (x : α) :
    (waiting n (Function.update q i (q i ++ [x]))).Perm (x :: waiting n q) := by
  obtain ⟨as, bs, hall⟩ := waiting_update h q
  have hq := hall (q i)
  rw [Function.update_eq_self] at hq
  have hcons : as ++ (q i ++ [x]) ++ bs = (as ++ q i) ++ x :: bs := by
    simp only [List.append_assoc, List.singleton_append]
  rw [hall, hq, hcons]
  exact List.perm_middle

theorem waiting_pop {n i : ℕ} (h : i < n) {q : ℕ → List α} {x : α} {l : List α}
    (hq : q i = x :: l) : (waiting n q).Perm (x :: waiting n (Function.update q i l)) := by
  obtain ⟨as, bs, hall⟩ := waiting_update h q
  have hall' := hall (q i)
  rw [Function.update_eq_self] at hall'
  have hcons : as ++ (x :: l) ++ bs = as ++ x :: (l ++ bs) := by
    rw [List.append_assoc, List.cons_append]
  rw [hall', hq, hall, hcons, List.append_assoc]
  exact List.perm_middle

/-! ## Histories -/

/-- The queues `q i` of the levels below `n` after a history in which `pushed i` was
pushed at level `i` and `popped i` was taken from it, both in order. -/
def Balanced (n : ℕ) (pushed popped q : ℕ → List α) : Prop :=
  ∀ i < n, pushed i = popped i ++ q i

section Histories

variable {n : ℕ} {pushed popped q : ℕ → List α}

theorem balanced_of_empty (hq : ∀ i < n, q i = []) :
    Balanced n (fun _ => []) (fun _ => []) q := by
  intro i hi
  rw [hq i hi, List.append_nil]

theorem Balanced.push (h : Balanced n pushed popped q) (i : ℕ) (x : α) :
    Balanced n (Function.update pushed i (pushed i ++ [x])) popped
      (Function.update q i (q i ++ [x])) := by
  intro j hj
  by_cases hji : j = i
  · subst hji
    rw [Function.update_self, Function.update_self, h j hj, List.append_assoc]
  · rw [Function.update_of_ne hji, Function.update_of_ne hji]
    exact h j hj

theorem Balanced.pop (h : Balanced n pushed popped q) {i : ℕ} {x : α} {l : List α}
    (hq : q i = x :: l) :
    Balanced n pushed (Function.update popped i (popped i ++ [x])) (Function.update q i l) := by
  intro j hj
  by_cases hji : j = i
  · subst hji
    rw [Function.update_self, Function.update_self, h j hj, hq, List.append_assoc,
      List.singleton_append]
  · rw [Function.update_of_ne hji, Function.update_of_ne hji]
    exact h j hj

theorem Balanced.eq_nil_iff (h : Balanced n pushed popped q) {i : ℕ} (hi : i < n) :
    q i = [] ↔ pushed i = popped i := by
  rw [h i hi]
  exact List.append_right_eq_self.symm

end Histories

end SoTp.Lib
