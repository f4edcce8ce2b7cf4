import SoTp.Lib.Run

/-!
# Machines, abstractions and assertions

Two ways to reason about the runs of a machine in other terms than its own.

* `run_map`: an abstraction with which every step commutes. **The abstract runs are those of the
  machine**, stuck ones included.
* `Asserted`: an assertion at each point of a program, which every transition keeps. By
  `always_iff_asserted` the method is **sound and complete** for what holds in every state that
  can be reached.
-/

namespace SoTp.Lib

/-! ## Abstractions -/

section

variable {σ τ α β : Type*} {step : σ → α → Option σ} {step' : τ → β → Option τ} {f : σ → τ}
  {e : α → β}

/-- **Lockstep.** When the steps commute with the abstraction `f` of the states and `e` of the
actions, so do the runs. -/
theorem run_map (hstep : ∀ s a, (step s a).map f = step' (f s) (e a)) (s : σ) (as : List α) :
    (run step s as).map f = run step' (f s) (as.map e) := by
  induction as generalizing s with
  | nil => rfl
  | cons a as ih =>
    rw [List.map_cons, run, run, Option.map_bind, ← hstep, Option.bind_map]
    exact Option.bind_congr fun s' _ => ih s'

theorem run_map_of_some (hstep : ∀ s a, (step s a).map f = step' (f s) (e a)) {s t : σ}
    {as : List α} (hrun : run step s as = some t) : run step' (f s) (as.map e) = some (f t) := by
  rw [← run_map hstep, hrun, Option.map_some]

theorem exists_run_of_map (hstep : ∀ s a, (step s a).map f = step' (f s) (e a))
    (he : Function.Surjective e) {s : σ} {t' : τ} {bs : List β}
    (hrun : run step' (f s) bs = some t') : ∃ as t, run step s as = some t ∧ f t = t' := by
  obtain ⟨as, rfl⟩ := List.map_surjective_iff.mpr he bs
  rw [← run_map hstep] at hrun
  obtain ⟨t, ht, hf⟩ := Option.map_eq_some_iff.mp hrun
  exact ⟨as, t, ht, hf⟩

end

/-! ## Assertions -/

section

variable {σ ι : Type*} {r : σ → σ → Prop} {point : σ → ι}

/-- An assertion at each point. A transition from a state where the assertion of its point holds
leads to one where that of its own point does. -/
def Asserted (r : σ → σ → Prop) (point : σ → ι) (A : ι → σ → Prop) : Prop :=
  ∀ s t, A (point s) s → r s t → A (point t) t

/-- **Soundness.** -/
theorem Asserted.reach {A : ι → σ → Prop} (hA : Asserted r point A) {s t : σ}
    (hs : A (point s) s) (h : Relation.ReflTransGen r s t) : A (point t) t := by
  induction h with
  | refl => exact hs
  | tail _ hstep ih => exact hA _ _ ih hstep

theorem asserted_reachable (P : σ → Prop) :
    Asserted r point fun _ t => ∃ s, P s ∧ Relation.ReflTransGen r s t := by
  rintro s t ⟨u, hu, hs⟩ hstep
  exact ⟨u, hu, hs.tail hstep⟩

/-- **Sound and complete**: what holds in every state that is reached from `P` follows from
assertions, and only such things do. -/
theorem always_iff_asserted (P Q : σ → Prop) :
    (∀ s t, P s → Relation.ReflTransGen r s t → Q t) ↔
      ∃ A, (∀ s, P s → A (point s) s) ∧ Asserted r point A ∧ ∀ s, A (point s) s → Q s := by
  constructor
  · intro h
    refine ⟨_, fun s hs => ⟨s, hs, .refl⟩, asserted_reachable P, ?_⟩
    rintro t ⟨s, hs, ht⟩
    exact h s t hs ht
  · rintro ⟨A, hP, hA, hQ⟩ s t hs ht
    exact hQ t (hA.reach (hP s hs) ht)

end

end SoTp.Lib
