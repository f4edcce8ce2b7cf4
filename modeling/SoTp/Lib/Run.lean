import Mathlib

/-!
# Runs of a machine

A machine is a function `step : σ → α → Option σ` that takes an action, or is
stuck (`none`). `run step s as` takes the actions of `as` in order; `Along step
P s as` says that `P` holds of every action of `as` and the state it is taken
in.

* `run_invariant`: what each step keeps, a whole run keeps.
* `run_output_invariant`: the same for a machine whose steps write something, and
  what a whole run has written.
-/

namespace SoTp.Lib

variable {σ α : Type*} (step : σ → α → Option σ)

/-- The state after the actions, when none of them is stuck. -/
def run : σ → List α → Option σ
  | s, [] => some s
  | s, a :: as => (step s a).bind fun s' => run s' as

/-- Every action that the run takes is taken in a state where `P` holds. -/
def Along (P : σ → α → Prop) : σ → List α → Prop
  | _, [] => True
  | s, a :: as => P s a ∧ ∀ s', step s a = some s' → Along P s' as

@[simp] theorem run_nil (s : σ) : run step s [] = some s := rfl

@[simp] theorem run_singleton (s : σ) (a : α) : run step s [a] = step s a := by
  unfold run
  exact Option.bind_fun_some _

theorem run_cons_eq_some {s t : σ} {a : α} {as : List α} (h : run step s (a :: as) = some t) :
    ∃ s', step s a = some s' ∧ run step s' as = some t :=
  Option.bind_eq_some_iff.mp h

theorem run_append (s : σ) (as bs : List α) :
    run step s (as ++ bs) = (run step s as).bind fun s' => run step s' bs := by
  induction as generalizing s with
  | nil => rfl
  | cons a as ih =>
    rw [List.cons_append, run, run, Option.bind_assoc]
    congr 1
    funext s'
    exact ih s'

variable {step}

theorem Along.head {P : σ → α → Prop} {s : σ} {a : α} {as : List α}
    (h : Along step P s (a :: as)) : P s a := h.1

theorem Along.tail {P : σ → α → Prop} {s s' : σ} {a : α} {as : List α}
    (h : Along step P s (a :: as)) (hs : step s a = some s') : Along step P s' as := h.2 s' hs

theorem along_cons {P : σ → α → Prop} {s s' : σ} {a : α} {as : List α}
    (hs : step s a = some s') (hP : P s a) (has : Along step P s' as) :
    Along step P s (a :: as) := by
  refine ⟨hP, fun t ht => ?_⟩
  rw [hs] at ht
  exact Option.some.inj ht ▸ has

theorem Along.mono {P Q : σ → α → Prop} (hPQ : ∀ s a, P s a → Q s a) {s : σ} {as : List α}
    (h : Along step P s as) : Along step Q s as := by
  induction as generalizing s with
  | nil => trivial
  | cons a as ih => exact ⟨hPQ s a h.head, fun s' hs' => ih (h.tail hs')⟩

/-- **Invariant rule.** What every step taken under `P` keeps, holds after every
run whose steps are taken under `P`. -/
theorem run_invariant {P : σ → α → Prop} {Inv : σ → Prop}
    (hstep : ∀ s a s', Inv s → P s a → step s a = some s' → Inv s') {s t : σ} {as : List α}
    (hs : Inv s) (hP : Along step P s as) (hrun : run step s as = some t) : Inv t := by
  induction as generalizing s with
  | nil =>
    obtain rfl : s = t := by simpa using hrun
    exact hs
  | cons a as ih =>
    obtain ⟨s', hs', hrun'⟩ := run_cons_eq_some step hrun
    exact ih (hstep s a s' hs hP.head hs') (hP.tail hs') hrun'

section

variable {β : Type*} (out : σ → α → List β)

variable (step) in
/-- What the run writes, when `out s a` is what action `a` writes in state `s`. -/
def output : σ → List α → List β
  | _, [] => []
  | s, a :: as => out s a ++ (step s a).elim [] fun s' => output s' as

variable {out}

theorem output_cons {s s' : σ} {a : α} {as : List α} (hs : step s a = some s') :
    output step out s (a :: as) = out s a ++ output step out s' as := by
  rw [output, hs]
  rfl

/-- **Invariant rule with an output.** What every step taken under `P` keeps of the state
and of all that has been written, holds after every run whose steps are taken under `P`. -/
theorem run_output_invariant {P : σ → α → Prop} {Inv : σ → List β → Prop}
    (hstep : ∀ s a s' bs, Inv s bs → P s a → step s a = some s' → Inv s' (bs ++ out s a))
    {s t : σ} {as : List α} {bs : List β} (hs : Inv s bs) (hP : Along step P s as)
    (hrun : run step s as = some t) : Inv t (bs ++ output step out s as) := by
  induction as generalizing s bs with
  | nil =>
    obtain rfl : s = t := by simpa using hrun
    rw [output, List.append_nil]
    exact hs
  | cons a as ih =>
    obtain ⟨s', hs', hrun'⟩ := run_cons_eq_some step hrun
    rw [output_cons hs', ← List.append_assoc]
    exact ih (hstep s a s' bs hs hP.head hs') (hP.tail hs') hrun'

end

/-- On a given run a decidable condition can be checked. -/
instance decidableAlong {P : σ → α → Prop} [∀ s a, Decidable (P s a)] :
    ∀ (s : σ) (as : List α), Decidable (Along step P s as)
  | _, [] => isTrue trivial
  | s, a :: as =>
    match hs : step s a with
    | none => decidable_of_iff (P s a)
        ⟨fun h => ⟨h, fun s' hs' => by rw [hs] at hs'; cases hs'⟩, fun h => h.1⟩
    | some t =>
      letI : Decidable (Along step P t as) := decidableAlong t as
      decidable_of_iff (P s a ∧ Along step P t as)
        ⟨fun h => along_cons hs h.1 h.2, fun h => ⟨h.1, h.2 t hs⟩⟩

/-- Without a condition on the steps. -/
theorem along_true (s : σ) (as : List α) : Along step (fun _ _ => True) s as := by
  induction as generalizing s with
  | nil => trivial
  | cons a as ih => exact ⟨trivial, fun s' _ => ih s'⟩

/-- With a condition that holds wherever an invariant does. -/
theorem along_of_invariant {P : σ → α → Prop} {Inv : σ → Prop}
    (hstep : ∀ s a s', Inv s → step s a = some s' → Inv s') (h : ∀ s a, Inv s → P s a) {s : σ}
    (hs : Inv s) (as : List α) : Along step P s as := by
  induction as generalizing s with
  | nil => trivial
  | cons a as ih => exact ⟨h s a hs, fun s' hs' => ih (hstep s a s' hs hs')⟩

/-- With a condition on the actions alone. -/
theorem along_of_forall {P : α → Prop} {as : List α} (h : ∀ a ∈ as, P a) (s : σ) :
    Along step (fun _ a => P a) s as := by
  induction as generalizing s with
  | nil => trivial
  | cons a as ih =>
    exact ⟨h a List.mem_cons_self, fun s' _ => ih (fun b hb => h b (List.mem_cons_of_mem a hb)) s'⟩

end SoTp.Lib
