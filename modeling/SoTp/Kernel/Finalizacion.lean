import SoTp.Kernel.Busqueda
import SoTp.Lib.Rounds

/-!
# Ends of threads and processes

`finalizar_hilo` and `finalizarProceso` (`kernel/src/k_largo_plazo.c`, lines 173–198 and
89–113), and the answers of memoria to them. `free` leaves nothing at an address; the
`sem_post` of `finalizarProceso` changes none of the collections.

* `finalizarHilo_sinDependiente`: the end of a thread for which nobody waits.
* `finalizarTids_invariant`: what a round of the loop over the `TIDs` of a process keeps, the loop
  keeps.
* `finalizarProceso_sinTids`: the end of a process without `TIDs` frees its PCB, and nothing
  else.
-/

namespace SoTp.Kernel

open SoTp.Lib SoTp.Utils

/-! ## Model -/

/-- `finalizar_hilo(hilo_finalizado)` (lines 173–198); `aceptado` is what
`finalizarHiloMemoria` returns. -/
def finalizarHilo (aceptado : Bool) (hilo : Puntero) (s : EstadoKernel) : Option EstadoKernel :=
  if hilo = NULL then some s
  else do
    let _ ← s.tcbs hilo
    if aceptado then do
      let s ← liberarTcb agregarHiloAReady hilo s
      some { s with tcbs := Function.update s.tcbs hilo none }
    else some s

/-- The state of the loop of `finalizarProceso`; `vistos` are the `TIDs` that it has looked up. -/
structure BucleTids where
  nucleo : Nucleo
  count : ℕ
  vistos : List UInt32

/-- The condition of the loop. -/
def BucleTids.sigue (b : BucleTids) : Prop := b.count ≠ 0

instance : DecidablePred BucleTids.sigue := fun b => instDecidableNot (p := b.count = 0)

/-- A round of the loop (lines 103–106). `count` is the same in every round. -/
def cuerpoTids (PID : UInt32) (TIDs : List UInt32) (b : BucleTids) : Option BucleTids := do
  let tidN := listGet TIDs (b.count - 1)
  let tcbN ← obtenerTCBPorPIDyTID b.nucleo.tcbs PID tidN b.nucleo.listaExecHilo
  let lista ← quitarTCBDeLista b.nucleo.tcbs PID tidN b.nucleo.listaExecHilo
  some { b with
    nucleo := { b.nucleo with
      listaExecHilo := lista
      tcbs := Function.update b.nucleo.tcbs tcbN none }
    vistos := b.vistos ++ [tidN] }

/-- The state in front of the loop (line 100). -/
def bucleInicial (TIDs : List UInt32) (s : Nucleo) : BucleTids where
  nucleo := s
  count := TIDs.length
  vistos := []

/-- The loop of `finalizarProceso` (lines 100–107), for at most `rondas` rounds. -/
def finalizarTids (PID : UInt32) (TIDs : List UInt32) (rondas : ℕ) (s : Nucleo) : Option Nucleo :=
  (whileLoop BucleTids.sigue (cuerpoTids PID TIDs) rondas (bucleInicial TIDs s)).map
    BucleTids.nucleo

/-- `finalizarProceso(pcb_finalizado)` (lines 89–113); `respuesta` is what
`finalizarProcesoMemoria` returns. -/
def finalizarProceso (rondas : ℕ) (respuesta : Int32) (pcb : Puntero) (s : Nucleo) :
    Option Nucleo := do
  let b ← s.pcbs pcb
  if respuesta = 1 then do
    let s ← finalizarTids b.PID b.TIDs rondas s
    some { s with pcbs := Function.update s.pcbs pcb none }
  else some s

/-! ## What they do -/

section

variable {hilo : Puntero} {aceptado : Bool}

theorem finalizarHilo_conserva {s s' : EstadoKernel} (h : finalizarHilo aceptado hilo s = some s') :
    Conserva s s' := by
  unfold finalizarHilo at h
  split at h
  · exact Option.some.inj h ▸ Conserva.refl s
  · obtain ⟨tcb, -, h⟩ := Option.bind_eq_some_iff.mp h
    split at h
    · obtain ⟨t, ht, h⟩ := Option.bind_eq_some_iff.mp h
      obtain rfl := Option.some.inj h
      refine (liberarTcb_conserva agregarHiloAReady_conserva hilo s t ht).trans
        ⟨rfl, rfl, rfl, rfl, fun p hp => ?_, le_rfl⟩
      show Function.update t.tcbs hilo none p = none
      rw [Function.update_apply]
      exact ite_eq_left_iff.mpr fun _ => hp
    · exact Option.some.inj h ▸ Conserva.refl s

theorem finalizarHilo_sinDependiente {s : EstadoKernel} {tcb : TCB} (hhilo : hilo ≠ NULL)
    (htcb : s.tcbs hilo = some tcb) (hsin : SinDependiente hilo s) :
    finalizarHilo aceptado hilo s = some { s with
      tcbs := if aceptado then Function.update s.tcbs hilo none else s.tcbs } := by
  unfold finalizarHilo
  rw [if_neg hhilo, htcb, liberarTcb_sinDependiente _ hsin]
  cases aceptado with
  | true => rfl
  | false => rfl

end

/-- **What a round keeps, the loop keeps.** Each one may take a thread out of `lista_exec_hilo`,
and frees a block. -/
theorem finalizarTids_invariant {PID : UInt32} {TIDs : List UInt32} {rondas : ℕ} {s s' : Nucleo}
    {I : Nucleo → Prop} (hs : I s)
    (hronda : ∀ n tid tcbN lista, I n →
      quitarTCBDeLista n.tcbs PID tid n.listaExecHilo = some lista →
      I { n with listaExecHilo := lista, tcbs := Function.update n.tcbs tcbN none })
    (h : finalizarTids PID TIDs rondas s = some s') : I s' := by
  obtain ⟨t, ht, rfl⟩ := Option.map_eq_some_iff.mp h
  obtain ⟨k, -, hrounds, -⟩ := whileLoop_eq_some_iff.mp ht
  refine whileRounds_invariant (I := fun _ b => I b.nucleo) (k := 0) ?_ hs hrounds
  intro _ b b' hb _ hround
  obtain ⟨tcbN, -, hround⟩ := Option.bind_eq_some_iff.mp hround
  obtain ⟨lista, hlista, hround⟩ := Option.bind_eq_some_iff.mp hround
  obtain rfl := Option.some.inj hround
  exact hronda b.nucleo _ tcbN lista hb hlista

theorem finalizarProceso_eq_none {rondas : ℕ} {respuesta : Int32} {pcb : Puntero} {s : Nucleo}
    (h : s.pcbs pcb = none) : finalizarProceso rondas respuesta pcb s = none := by
  unfold finalizarProceso
  rw [h]
  rfl

theorem finalizarProceso_sinTids (rondas : ℕ) {pcb : Puntero} {b : PCB} {s : Nucleo}
    (hpcb : s.pcbs pcb = some b) (htids : b.TIDs = []) :
    finalizarProceso rondas 1 pcb s =
      some { s with pcbs := Function.update s.pcbs pcb none } := by
  unfold finalizarProceso
  rw [hpcb]
  dsimp only [Option.bind_eq_bind, Option.bind_some]
  rw [htids]
  cases rondas with
  | zero => rfl
  | succ rondas => rfl

end SoTp.Kernel
