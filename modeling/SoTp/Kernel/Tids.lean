import SoTp.Kernel.Finalizacion
import SoTp.Kernel.Identidad

/-!
# The loop over the threads of a process

The loop of `finalizarProceso` (`kernel/src/k_largo_plazo.c`, lines 100–107), with the `TIDs`
that it has looked up. `count` is read in every round, and written in none.

* `finTermina_iff`: **exactly when the loop ends**: when there is nothing to look up.
* `whileRounds_sinFin`: otherwise it goes on for ever, and looks up the last `TID` each time.
-/

namespace SoTp.Kernel

open SoTp.Lib SoTp.Utils

/-! ## A round -/

theorem BucleTids.not_sigue_iff (b : BucleTids) : ¬ b.sigue ↔ b.count = 0 := not_not

theorem cuerpoTids_eq_some {PID : UInt32} {TIDs : List UInt32} {b b' : BucleTids}
    (h : cuerpoTids PID TIDs b = some b') :
    b'.count = b.count ∧ b'.vistos = b.vistos ++ [listGet TIDs (b.count - 1)] := by
  obtain ⟨tcbN, -, h⟩ := Option.bind_eq_some_iff.mp h
  obtain ⟨lista, -, h⟩ := Option.bind_eq_some_iff.mp h
  obtain rfl := Option.some.inj h
  exact ⟨rfl, rfl⟩

/-! ## When the loop ends -/

/-- `finalizarProceso(pcb)`, accepted by memoria, comes back after some number of rounds, which
have looked up each of the `TIDs` of the PCB `b` once. -/
def FinTermina (pcb : Puntero) (b : PCB) (s : Nucleo) : Prop :=
  ∃ rondas t, whileRounds BucleTids.sigue (cuerpoTids b.PID b.TIDs) rondas
      (bucleInicial b.TIDs s) = some t ∧ ¬ t.sigue ∧ t.vistos.Perm b.TIDs ∧
    finalizarProceso rondas 1 pcb s =
      some { t.nucleo with pcbs := Function.update t.nucleo.pcbs pcb none }

theorem whileRounds_count {PID : UInt32} {TIDs : List UInt32} {s : Nucleo} {n : ℕ}
    {t : BucleTids} (h : whileRounds BucleTids.sigue (cuerpoTids PID TIDs) n
      (bucleInicial TIDs s) = some t) : t.count = TIDs.length := by
  refine whileRounds_invariant (I := fun _ t => t.count = TIDs.length) (k := 0) ?_ rfl h
  intro _ t t' hcount _ hround
  exact (cuerpoTids_eq_some hround).1.trans hcount

/-- With a `TID` no number of rounds is enough. -/
theorem finalizarProceso_conTids {pcb : Puntero} {b : PCB} {s : Nucleo}
    (hpcb : s.pcbs pcb = some b) (hTIDs : b.TIDs ≠ []) (rondas : ℕ) :
    finalizarProceso rondas 1 pcb s = none := by
  unfold finalizarProceso
  rw [hpcb]
  show (finalizarTids b.PID b.TIDs rondas s).bind _ = none
  unfold finalizarTids
  cases h : whileLoop BucleTids.sigue (cuerpoTids b.PID b.TIDs) rondas (bucleInicial b.TIDs s) with
  | none => rfl
  | some t =>
    obtain ⟨k, -, hrounds, hfin⟩ := whileLoop_eq_some_iff.mp h
    have hcount := t.not_sigue_iff.mp hfin
    rw [whileRounds_count hrounds] at hcount
    exact absurd (List.length_eq_zero_iff.mp hcount) hTIDs

/-- **Exactly when the loop of `finalizarProceso` ends**: the PCB has no `TIDs`. For every PCB
and every `lista_exec_hilo`. -/
theorem finTermina_iff (pcb : Puntero) (b : PCB) (s : Nucleo) (hpcb : s.pcbs pcb = some b) :
    FinTermina pcb b s ↔ b.TIDs = [] := by
  constructor
  · rintro ⟨rondas, t, hrounds, hfin, -⟩
    have hcount : t.count = 0 := t.not_sigue_iff.mp hfin
    rw [whileRounds_count hrounds] at hcount
    exact List.length_eq_zero_iff.mp hcount
  · intro htids
    refine ⟨0, bucleInicial b.TIDs s, rfl, ?_, ?_, finalizarProceso_sinTids 0 hpcb htids⟩
    · rw [BucleTids.not_sigue_iff, htids]
      rfl
    · rw [htids]
      exact List.Perm.refl []

/-- Process 0, at address 1, with `TIDs`; its thread 0, at address 2, runs. -/
def unProceso (TIDs : List UInt32) : Nucleo :=
  { nucleoInicial .fifo with
    siguiente := 3
    pcbs := Function.update (fun _ => none) 1 (some ⟨0, .ready, TIDs, []⟩)
    tcbs := Function.update (fun _ => none) 2 (some ⟨0, 0, 0, EstadoProceso.exec.codigo⟩)
    listaExecHilo := [2] }

/-- A process without `TIDs`. -/
theorem finTermina_sinTids : FinTermina 1 ⟨0, .ready, [], []⟩ (unProceso []) :=
  (finTermina_iff 1 ⟨0, .ready, [], []⟩ (unProceso []) rfl).mpr rfl

/-! ## Without an end -/

/-- What holds after `k` rounds: the locals, and all that is left in `lista_exec_hilo` are
different threads. -/
structure EnBucle (TIDs : List UInt32) (tid : UInt32) (k : ℕ) (t : BucleTids) : Prop where
  count : t.count = TIDs.length
  vistos : t.vistos = List.replicate k tid
  nulo : t.nucleo.tcbs NULL = none
  distintos : t.nucleo.listaExecHilo.Nodup
  vivos : ∀ p ∈ t.nucleo.listaExecHilo, (t.nucleo.tcbs p).isSome

section

variable {tid : UInt32} {TIDs : List UInt32} {k : ℕ} {t : BucleTids}

/-- A round from there can always be made. -/
theorem EnBucle.ronda (PID : UInt32) (h : EnBucle TIDs tid k t)
    (htid : listGet TIDs (TIDs.length - 1) = tid) :
    ∃ t', cuerpoTids PID TIDs t = some t' ∧ EnBucle TIDs tid (k + 1) t' := by
  have hvistos : t.vistos ++ [tid] = List.replicate (k + 1) tid := by
    rw [h.vistos, List.replicate_succ']
  unfold cuerpoTids
  dsimp only
  rw [h.count, htid]
  rcases exists_esHilo_or_forall_esOtro PID tid h.vivos with
    ⟨l₁, p, l₂, hlista, hl₁, hp⟩ | hotros
  · have hdistintos : (l₁ ++ p :: l₂).Nodup := hlista ▸ h.distintos
    obtain ⟨hfuera, hresto⟩ := List.nodup_cons.mp (List.nodup_middle.mp hdistintos)
    rw [hlista, obtenerTCBPorPIDyTID_append hl₁ hp, quitarTCBDeLista_append hl₁ hp]
    refine ⟨_, rfl, rfl, hvistos, ?_, hresto, fun q hq => ?_⟩
    · show Function.update t.nucleo.tcbs p none NULL = none
      rw [Function.update_apply, h.nulo, ite_self]
    · show (Function.update t.nucleo.tcbs p none q).isSome
      have hqp : q ≠ p := fun hqp => hfuera (hqp ▸ hq)
      rw [Function.update_of_ne hqp]
      refine h.vivos q ?_
      rw [hlista]
      exact (List.mem_append.mp hq).elim (List.mem_append_left _) fun hq =>
        List.mem_append_right _ (List.mem_cons_of_mem p hq)
  · rw [obtenerTCBPorPIDyTID_otros hotros, quitarTCBDeLista_otros hotros]
    have hlibre : Function.update t.nucleo.tcbs NULL none = t.nucleo.tcbs := by
      rw [← h.nulo, Function.update_eq_self]
    refine ⟨_, rfl, rfl, hvistos, ?_, h.distintos, fun q hq => ?_⟩
    · show Function.update t.nucleo.tcbs NULL none NULL = none
      exact Function.update_self ..
    · show (Function.update t.nucleo.tcbs NULL none q).isSome
      rw [hlibre]
      exact h.vivos q hq

end

/-- **With a `TID` the loop never ends**: where the threads of `lista_exec_hilo` are different
and on the heap, any number of rounds is made, and each of them has looked up the last
`TID`. -/
theorem whileRounds_sinFin (PID : UInt32) {TIDs : List UInt32} (s : Nucleo) (hTIDs : TIDs ≠ [])
    (hnulo : s.tcbs NULL = none) (hdistintos : s.listaExecHilo.Nodup)
    (hvivos : ∀ p ∈ s.listaExecHilo, (s.tcbs p).isSome) (rondas : ℕ) :
    ∃ t, whileRounds BucleTids.sigue (cuerpoTids PID TIDs) rondas (bucleInicial TIDs s) = some t ∧
      t.sigue ∧ t.vistos = List.replicate rondas (listGet TIDs (TIDs.length - 1)) := by
  have hsigue {t : BucleTids} (hcount : t.count = TIDs.length) : t.sigue := by
    intro hcero
    rw [hcount] at hcero
    exact hTIDs (List.length_eq_zero_iff.mp hcero)
  obtain ⟨t, ht, hbucle⟩ := whileRounds_progress
    (I := EnBucle TIDs (listGet TIDs (TIDs.length - 1)))
    (fun k t h => ⟨hsigue h.count, h.ronda PID rfl⟩) (k := 0)
    (s := bucleInicial TIDs s) ⟨rfl, rfl, hnulo, hdistintos, hvivos⟩ rondas
  refine ⟨t, ht, hsigue hbucle.count, ?_⟩
  rw [hbucle.vistos, Nat.zero_add]

/-- One `TID`, whose thread runs: it is looked up in every round, and there is no last one. -/
theorem not_finTermina_unTid :
    (∀ rondas, ∃ t, whileRounds BucleTids.sigue (cuerpoTids 0 [0]) rondas
        (bucleInicial [0] (unProceso [0])) = some t ∧ t.vistos = List.replicate rondas 0) ∧
      (∀ rondas, finalizarProceso rondas 1 1 (unProceso [0]) = none) ∧
      ¬ FinTermina 1 ⟨0, .ready, [0], []⟩ (unProceso [0]) := by
  refine ⟨fun rondas => ?_, finalizarProceso_conTids rfl (List.cons_ne_nil 0 []), ?_⟩
  · obtain ⟨t, ht, -, hvistos⟩ := whileRounds_sinFin 0 (unProceso [0]) (List.cons_ne_nil 0 []) rfl
      (List.nodup_singleton 2) (List.forall_mem_singleton.mpr rfl) rondas
    exact ⟨t, ht, hvistos⟩
  · rintro ⟨rondas, t, -, -, -, hfin⟩
    rw [finalizarProceso_conTids rfl (List.cons_ne_nil 0 [])] at hfin
    cases hfin

end SoTp.Kernel
