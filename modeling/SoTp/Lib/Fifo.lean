import SoTp.Lib.Run

/-!
# Queues

A queue inside a machine: some steps put elements at its back, some take elements from its
front. `Fifo before out after` says that `out` has left the queue `before` and `after` is what
it has become, with whatever joined it in the meantime.

* `Fifo.trans`, `run_fifo`: one step after another, and a whole run.
* `Fifo.prefix_or_prefix`: **nobody is overtaken**. What has left is the front part of the queue,
  or the whole queue has left before anything else.
* `Balance`, `run_balance`: the books of a queue that does not keep its order.
-/

namespace SoTp.Lib

variable {σ α β : Type*}

/-- `out` has left the queue from the front, and what has joined it is at the back. -/
def Fifo (before out after : List β) : Prop := ∃ joined, before ++ joined = out ++ after

namespace Fifo

variable {before out mid out' after : List β}

theorem of_prefix (h : before <+: after) : Fifo before [] after := h

theorem refl (before : List β) : Fifo before [] before := of_prefix List.prefix_rfl

theorem cons (b : β) (after : List β) : Fifo (b :: after) [b] after := ⟨[], List.append_nil _⟩

theorem trans (h : Fifo before out mid) (h' : Fifo mid out' after) :
    Fifo before (out ++ out') after := by
  obtain ⟨joined, hjoined⟩ := h
  obtain ⟨joined', hjoined'⟩ := h'
  refine ⟨joined ++ joined', ?_⟩
  rw [← List.append_assoc, hjoined, List.append_assoc, hjoined', List.append_assoc]

theorem prefix_or_prefix (h : Fifo before out after) : out <+: before ∨ before <+: out := by
  obtain ⟨joined, hjoined⟩ := h
  exact List.prefix_or_prefix_of_prefix ⟨after, hjoined.symm⟩ ⟨joined, rfl⟩

end Fifo

/-- **Over a run** the queue stays one, when it does in every step. -/
theorem run_fifo {step : σ → α → Option σ} {P : σ → α → Prop} {Inv : σ → Prop}
    (queue : σ → List β) (out : σ → α → List β)
    (hinv : ∀ s a s', Inv s → step s a = some s' → Inv s')
    (hstep : ∀ s a s', Inv s → P s a → step s a = some s' → Fifo (queue s) (out s a) (queue s'))
    {s t : σ} {as : List α} (hs : Inv s) (hP : Along step P s as) (hrun : run step s as = some t) :
    Fifo (queue s) (output step out s as) (queue t) := by
  have hkeep (u : σ) (a : α) (u' : σ) (bs : List β) (hu : Inv u ∧ Fifo (queue s) bs (queue u))
      (ha : P u a) (hu' : step u a = some u') :
      Inv u' ∧ Fifo (queue s) (bs ++ out u a) (queue u') :=
    ⟨hinv u a u' hu.1 hu', hu.2.trans (hstep u a u' hu.1 ha hu')⟩
  exact (run_output_invariant hkeep ⟨hs, Fifo.refl _⟩ hP hrun).2

/-! ## Without the order -/

/-- What was there and what has entered are what has left and what is there, each as often. -/
def Balance (before entered out after : List β) : Prop := (before ++ entered).Perm (out ++ after)

namespace Balance

variable {before entered out mid entered' out' after : List β}

theorem refl (before : List β) : Balance before [] [] before :=
  List.Perm.of_eq (List.append_nil before)

theorem of_prefix (h : before <+: after) : Balance before (after.drop before.length) [] after :=
  List.Perm.of_eq (List.prefix_iff_eq_append.mp h)

theorem cons (b : β) (after : List β) : Balance (b :: after) [] [b] after :=
  List.Perm.of_eq (List.append_nil _)

theorem trans (h : Balance before entered out mid) (h' : Balance mid entered' out' after) :
    Balance before (entered ++ entered') (out ++ out') after := by
  have hfirst : (before ++ entered ++ entered').Perm (out ++ mid ++ entered') :=
    h.append_right entered'
  have hsecond : (out ++ (mid ++ entered')).Perm (out ++ (out' ++ after)) := h'.append_left out
  unfold Balance
  rw [← List.append_assoc, List.append_assoc out out' after]
  rw [List.append_assoc out mid entered'] at hfirst
  exact hfirst.trans hsecond

end Balance

/-- **Over a run** the books balance, when they do in every step. -/
theorem run_balance {step : σ → α → Option σ} {Inv : σ → Prop} (queue : σ → List β)
    (entered out : σ → α → List β) (hinv : ∀ s a s', Inv s → step s a = some s' → Inv s')
    (hstep : ∀ s a s', Inv s → step s a = some s' →
      Balance (queue s) (entered s a) (out s a) (queue s'))
    {s t : σ} {as : List α} (hs : Inv s) (hrun : run step s as = some t) :
    Balance (queue s) (output step entered s as) (output step out s as) (queue t) := by
  induction as generalizing s with
  | nil =>
    obtain rfl : s = t := Option.some.inj hrun
    exact Balance.refl _
  | cons a as ih =>
    obtain ⟨s', hs', hrun'⟩ := run_cons_eq_some step hrun
    rw [output_cons hs', output_cons hs']
    exact (hstep s a s' hs hs').trans (ih (hinv s a s' hs hs') hrun')

end SoTp.Lib
