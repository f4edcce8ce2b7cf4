import Mathlib.Data.Nat.Init
import Mathlib.Data.Option.Basic

/-!
# Loops with a guard

`while guard do body`, for a body that may be stuck (`none`). `whileRounds guard body n s` is
the state after exactly `n` rounds; `whileLoop guard body n s` is the state in which the loop
is left, when that takes at most `n` rounds.

* `whileLoop_eq_some_iff`: the loop is left in the states that rounds reach and in which the
  guard is false.
* `whileRounds_invariant`, `whileRounds_progress`: what a round keeps, any number of rounds
  keep; and where a round can always be made, any number of them can.
-/

namespace SoTp.Lib

variable {σ : Type*} (guard : σ → Prop) [DecidablePred guard] (body : σ → Option σ)

/-- Exactly `n` rounds, each of them begun with the guard true. -/
def whileRounds : ℕ → σ → Option σ
  | 0, s => some s
  | n + 1, s => if guard s then (body s).bind (whileRounds n) else none

/-- The loop, for at most `n` rounds. -/
def whileLoop : ℕ → σ → Option σ
  | 0, s => if guard s then none else some s
  | n + 1, s => if guard s then (body s).bind (whileLoop n) else some s

variable {guard body} {s t : σ}

theorem whileRounds_succ_eq_some {n : ℕ} (h : whileRounds guard body (n + 1) s = some t) :
    guard s ∧ ∃ u, body s = some u ∧ whileRounds guard body n u = some t := by
  unfold whileRounds at h
  split at h
  · rename_i hguard
    exact ⟨hguard, Option.bind_eq_some_iff.mp h⟩
  · cases h

theorem whileRounds_succ_of_guard {n : ℕ} {u : σ} (hguard : guard s) (hu : body s = some u) :
    whileRounds guard body (n + 1) s = whileRounds guard body n u := by
  rw [whileRounds, if_pos hguard, hu, Option.bind_some]

/-- **The loop is left** where rounds lead to a state with the guard false. -/
theorem whileLoop_eq_some_iff {n : ℕ} : whileLoop guard body n s = some t ↔
    ∃ k ≤ n, whileRounds guard body k s = some t ∧ ¬ guard t := by
  induction n generalizing s with
  | zero =>
    unfold whileLoop
    constructor
    · intro h
      split at h
      · cases h
      · rename_i hguard
        obtain rfl := Option.some.inj h
        exact ⟨0, Nat.le_refl 0, rfl, hguard⟩
    · rintro ⟨k, hk, hrounds, hguard⟩
      obtain rfl := Nat.le_zero.mp hk
      obtain rfl := Option.some.inj hrounds
      exact if_neg hguard
  | succ n ih =>
    rw [whileLoop]
    by_cases hguard : guard s
    · rw [if_pos hguard]
      constructor
      · intro h
        obtain ⟨u, hu, h⟩ := Option.bind_eq_some_iff.mp h
        obtain ⟨k, hk, hrounds, hend⟩ := ih.mp h
        exact ⟨k + 1, Nat.succ_le_succ hk,
          (whileRounds_succ_of_guard hguard hu).trans hrounds, hend⟩
      · rintro ⟨k, hk, hrounds, hend⟩
        cases k with
        | zero =>
          obtain rfl := Option.some.inj hrounds
          exact absurd hguard hend
        | succ k =>
          obtain ⟨-, u, hu, hrounds⟩ := whileRounds_succ_eq_some hrounds
          rw [hu, Option.bind_some]
          exact ih.mpr ⟨k, Nat.le_of_succ_le_succ hk, hrounds, hend⟩
    · rw [if_neg hguard]
      constructor
      · intro h
        obtain rfl := Option.some.inj h
        exact ⟨0, Nat.zero_le _, rfl, hguard⟩
      · rintro ⟨k, -, hrounds, -⟩
        cases k with
        | zero => exact hrounds
        | succ k => exact absurd (whileRounds_succ_eq_some hrounds).1 hguard

variable {I : ℕ → σ → Prop}

/-- **Invariant rule.** What holds after `k` rounds is followed round by round. -/
theorem whileRounds_invariant
    (hround : ∀ k s t, I k s → guard s → body s = some t → I (k + 1) t) {k n : ℕ}
    (hs : I k s) (h : whileRounds guard body n s = some t) : I (k + n) t := by
  induction n generalizing k s with
  | zero =>
    obtain rfl := Option.some.inj h
    exact hs
  | succ n ih =>
    obtain ⟨hguard, u, hu, h⟩ := whileRounds_succ_eq_some h
    rw [← Nat.add_assoc, Nat.add_right_comm]
    exact ih (hround k s u hs hguard hu) h

/-- **Progress rule.** Where a round can always be made, any number of rounds can. -/
theorem whileRounds_progress
    (hround : ∀ k s, I k s → guard s ∧ ∃ t, body s = some t ∧ I (k + 1) t) {k : ℕ}
    (hs : I k s) (n : ℕ) : ∃ t, whileRounds guard body n s = some t ∧ I (k + n) t := by
  induction n generalizing k s with
  | zero => exact ⟨s, rfl, hs⟩
  | succ n ih =>
    obtain ⟨hguard, u, hu, hI⟩ := hround k s hs
    obtain ⟨t, ht, hI⟩ := ih hI
    refine ⟨t, (whileRounds_succ_of_guard hguard hu).trans ht, ?_⟩
    rwa [← Nat.add_assoc, Nat.add_right_comm]

end SoTp.Lib
