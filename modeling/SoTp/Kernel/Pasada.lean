import SoTp.Kernel.Niveles
import SoTp.Kernel.Marcha

/-!
# A pass over the levels

`atender_cmn` (`kernel/src/k_corto_plazo.c`, lines 124–166) goes once over the levels, from 0
upwards. At each it takes one thread, runs it, and puts it back in the level of its priority when
it is BLOCKED or READY afterwards. What a run does to the kernel is a parameter.

* `pasarNivel_responder`: with a reply of the CPU as the run, a level is `atenderNivel` and
  `responder`.
* `run_prioridad`: **a thread of a level is run while the levels before are empty**, in every
  pass in which each thread taken before it was alone in its level and has come back to none.
-/

namespace SoTp.Kernel

open SoTp.Lib SoTp.Utils

/-! ## Model -/

/-- What happens between `enviarTCBCPU` and the end of `interpretarCPU`. -/
abbrev Ejecucion := Nucleo → Option Nucleo

/-- `ejecutar_hilo(un_tcb)` (lines 145–155). -/
def ejecutarHilo (ejecucion : Ejecucion) (unTcb : Puntero) (s : Nucleo) : Option Nucleo :=
  if unTcb ≠ NULL then do
    let k ← ponerEstado unTcb .exec s.toEstadoKernel
    ejecucion { s with toEstadoKernel := k, listaExecHilo := s.listaExecHilo ++ [unTcb] }
  else some s

/-- The body of the loop of `atender_cmn` for level `i` (lines 128–141). -/
def pasarNivel (ejecucion : Ejecucion) (i : ℕ) (s : Nucleo) : Option Nucleo := do
  let (thread, k) ← getNextThread i s.toEstadoKernel
  if thread ≠ NULL then do
    let s ← ejecutarHilo ejecucion thread { s with toEstadoKernel := k }
    reinsertar thread s
  else some { s with toEstadoKernel := k }

/-- The kernel and the level that the loop has come to. -/
structure Pasada extends Nucleo where
  nivel : ℕ

/-- One round of the loop, with what the thread that it takes, if any, does. -/
def pasar (s : Pasada) (ejecucion : Ejecucion) : Option Pasada :=
  if s.nivel < maxNivelesPrioridad then
    (pasarNivel ejecucion s.nivel s.toNucleo).map fun n => ⟨n, s.nivel + 1⟩
  else none

/-! ## The pass and the kernel at work -/

/-- **A level with a reply of the CPU**: `atenderNivel` sends its thread and `responder` does the
rest. -/
theorem pasarNivel_responder {PID TID : UInt32} {syscall : Syscall} {m : Entorno} {s : Marcha}
    {thread : Puntero} {k : EstadoKernel} (halgoritmo : s.algoritmo = .colasMultinivel)
    (hnivel : s.nivel < maxNivelesPrioridad)
    (hthread : getNextThread s.nivel s.toEstadoKernel = some (thread, k)) (hnull : thread ≠ NULL) :
    (atenderNivel s).bind (responder PID TID syscall m) =
      (pasarNivel (interpretarSyscall PID TID m syscall) s.nivel s.toNucleo).map fun n =>
        { s with toNucleo := n, enCpu := none, nivel := s.nivel + 1 } := by
  have hk : k.algoritmo = .colasMultinivel := by
    obtain ⟨cola, -, h⟩ := Option.map_eq_some_iff.mp hthread
    cases cola with
    | nil => exact (Prod.mk.inj h).2 ▸ halgoritmo
    | cons q cola => exact (Prod.mk.inj h).2 ▸ halgoritmo
  unfold atenderNivel pasarNivel
  rw [if_pos hnivel, hthread]
  dsimp only [Option.bind_eq_bind, Option.bind_some]
  rw [if_pos hnull, if_pos hnull]
  unfold enviarHilo ejecutarHilo ponerEstado
  rw [if_pos hnull]
  cases k.tcbs thread with
  | none =>
    rw [if_pos hnull]
    rfl
  | some tcb =>
    dsimp only [Option.bind_eq_bind, Option.map_some, Option.bind_some]
    rw [if_pos hnull]
    unfold responder
    dsimp only [Option.bind_eq_bind, Option.bind_some]
    rw [hk, Option.map_bind]
    refine Option.bind_congr fun n _ => ?_
    exact if_pos rfl

/-! ## Priority -/

/-- A thread of level `s.nivel` that is taken is taken while the levels before are empty. -/
def RespetaPrioridad (s : Pasada) : Prop :=
  ∀ thread k, getNextThread s.nivel s.toEstadoKernel = some (thread, k) → thread ≠ NULL →
    ∀ j < s.nivel, niveles s.toEstadoKernel j = []

/-- The round leaves nobody in its level and adds nobody to the levels before. When a thread is
taken, its run puts nobody in these levels, those that were behind it are gone afterwards (there
are none when it was alone), and it is in a state in which it does not come back to them. -/
structure Agota (s : Pasada) (ejecucion : Ejecucion) : Prop where
  nadie : ∀ k, getNextThread s.nivel s.toEstadoKernel = some (NULL, k) →
    (niveles s.toEstadoKernel s.nivel).tail = []
  corre : ∀ thread k n, getNextThread s.nivel s.toEstadoKernel = some (thread, k) →
    thread ≠ NULL →
    ejecutarHilo ejecucion thread { s.toNucleo with toEstadoKernel := k } = some n →
    (∀ j ≤ s.nivel, niveles n.toEstadoKernel j ⊆ niveles k j) ∧
      (∀ p ∈ (niveles s.toEstadoKernel s.nivel).tail, p ∉ niveles n.toEstadoKernel s.nivel) ∧
      ∀ tcb, n.tcbs thread = some tcb → Vuelve tcb → s.nivel < tcb.prioridad.toNat

/-- The levels that the loop has gone over are empty. -/
def Agotada (s : Pasada) : Prop := ∀ j < s.nivel, niveles s.toEstadoKernel j = []

theorem Agotada.respeta {s : Pasada} (h : Agotada s) : RespetaPrioridad s :=
  fun _ _ _ _ j hj => h j hj

theorem getNextThread_niveles {i j : ℕ} {s k : EstadoKernel} {thread : Puntero} (hj : j ≠ i)
    (h : getNextThread i s = some (thread, k)) : niveles k j = niveles s j := by
  obtain ⟨cola, hcola, h⟩ := Option.map_eq_some_iff.mp h
  cases cola with
  | nil =>
    obtain ⟨-, rfl⟩ := Prod.mk.inj h
    rfl
  | cons q cola =>
    obtain ⟨-, rfl⟩ := Prod.mk.inj h
    rw [niveles_update, Function.update_of_ne hj]

theorem getNextThread_nivel {i : ℕ} {s k : EstadoKernel} {thread : Puntero}
    (h : getNextThread i s = some (thread, k)) : niveles k i = (niveles s i).tail := by
  obtain ⟨cola, hcola, h⟩ := Option.map_eq_some_iff.mp h
  rw [niveles_of_some hcola]
  cases cola with
  | nil =>
    obtain ⟨-, rfl⟩ := Prod.mk.inj h
    exact niveles_of_some hcola
  | cons q cola =>
    obtain ⟨-, rfl⟩ := Prod.mk.inj h
    rw [niveles_update, Function.update_self, List.tail_cons]

theorem reinsertar_niveles {thread : Puntero} {s s' : Nucleo} {j : ℕ}
    (h : reinsertar thread s = some s')
    (hj : ∀ tcb, s.tcbs thread = some tcb → Vuelve tcb → j ≠ tcb.prioridad.toNat) :
    niveles s'.toEstadoKernel j = niveles s.toEstadoKernel j := by
  rcases reinsertar_cases h with rfl | ⟨tcb, insertado, k, htcb, hvuelve, hk, rfl⟩
  · rfl
  · obtain ⟨-, rfl⟩ | ⟨tcb', cola, -, htcb', -, -, rfl⟩ := insertarEnColaReadyCmn_cases hk
    · rfl
    · obtain rfl := Option.some.inj (htcb.symm.trans htcb')
      rw [niveles_update, Function.update_of_ne (hj tcb htcb hvuelve)]

/-- **One round.** -/
theorem pasar_agotada {s s' : Pasada} {ejecucion : Ejecucion} (hs : Agotada s)
    (hagota : Agota s ejecucion) (h : pasar s ejecucion = some s') : Agotada s' := by
  unfold pasar at h
  split at h
  · obtain ⟨n, hn, rfl⟩ := Option.map_eq_some_iff.mp h
    obtain ⟨⟨thread, k⟩, hk, hn⟩ := Option.bind_eq_some_iff.mp hn
    intro j hj
    have hj : j ≤ s.nivel := Nat.le_of_lt_succ hj
    dsimp only at hn
    split at hn
    · rename_i hnull
      obtain ⟨n', hn', hreinsertar⟩ := Option.bind_eq_some_iff.mp hn
      obtain ⟨hagrega, hqueda, hvuelve⟩ := hagota.corre thread k n' hk hnull hn'
      have hvacio : niveles n'.toEstadoKernel j = [] := by
        refine List.eq_nil_iff_forall_not_mem.mpr fun p hp => ?_
        have hantes := hagrega j hj hp
        by_cases hjn : j = s.nivel
        · subst hjn
          rw [getNextThread_nivel hk] at hantes
          exact hqueda p hantes hp
        · rw [getNextThread_niveles hjn hk, hs j (by omega)] at hantes
          cases hantes
      show niveles n.toEstadoKernel j = []
      rw [reinsertar_niveles hreinsertar fun tcb htcb hv => ?_, hvacio]
      have hlt := hvuelve tcb htcb hv
      omega
    · rename_i hnull
      obtain rfl := Option.some.inj hn
      rw [not_not.mp hnull] at hk
      show niveles k j = []
      by_cases hjn : j = s.nivel
      · rw [hjn, getNextThread_nivel hk]
        exact hagota.nadie k hk
      · rw [getNextThread_niveles hjn hk]
        exact hs j (by omega)
  · cases h

/-- **Higher levels first.** From any contents of the levels, and whatever the threads do in their
runs: after rounds each of which leaves nobody in its level and adds nobody to the ones before,
the next thread is taken while the levels before its own are empty. -/
theorem run_prioridad (s : Nucleo) (ejecuciones : List Ejecucion) (t : Pasada)
    (hagotan : Along pasar Agota ⟨s, 0⟩ ejecuciones)
    (hrun : run pasar ⟨s, 0⟩ ejecuciones = some t) : RespetaPrioridad t := by
  have hinicio : Agotada ⟨s, 0⟩ := fun j hj => absurd hj (Nat.not_lt_zero j)
  exact (run_invariant (fun _ _ _ hs hagota h => pasar_agotada hs hagota h) hinicio hagotan
    hrun).respeta

/-- The threads 0 and 1, with priority 0, are at the addresses 1 and 2, and thread 2, with
priority 1, at 3. The levels 0 and 1 hold the given threads. -/
def conNiveles (cola₀ cola₁ : List Puntero) : Nucleo :=
  { nucleoInicial .colasMultinivel with
    tcbs := fun p =>
      [none, some ⟨0, 0, 0, EstadoProceso.ready.codigo⟩, some ⟨0, 1, 0, EstadoProceso.ready.codigo⟩,
        some ⟨0, 2, 1, EstadoProceso.ready.codigo⟩].getD p none
    colasReadyCmn := fun i => if i = 0 then some cola₀ else if i = 1 then some cola₁ else some [] }

/-- Thread 0 asks for an I/O: it leaves `lista_exec_hilo` and comes back to no level. -/
def pideIo : Ejecucion := interpretarSyscall 0 0 memoriaAcepta (.io 0)

/-- Alone in its level, it leaves it empty for thread 2. -/
theorem run_prioridad_conNiveles :
    ∃ t, run pasar ⟨conNiveles [1] [3], 0⟩ [pideIo] = some t ∧ RespetaPrioridad t := by
  refine ⟨_, rfl, run_prioridad (conNiveles [1] [3]) [pideIo] _ (along_cons rfl ?_ trivial) rfl⟩
  refine ⟨fun k hk => ?_, fun thread k n hk _ hn => ?_⟩
  · exact absurd (Prod.mk.inj (Option.some.inj hk)).1 (by decide)
  · obtain ⟨rfl, rfl⟩ := Prod.mk.inj (Option.some.inj hk)
    obtain rfl := Option.some.inj hn
    refine ⟨fun j hj => ?_, fun p hp => absurd hp List.not_mem_nil, fun tcb htcb hvuelve => ?_⟩
    · obtain rfl := Nat.le_zero.mp hj
      exact List.Subset.refl _
    · obtain rfl := Option.some.inj htcb
      exact absurd hvuelve (by decide)

/-- With thread 1 behind it in level 0, thread 2 is taken from level 1 before thread 1 is. -/
theorem not_respetaPrioridad_conNiveles :
    ∃ t, run pasar ⟨conNiveles [1, 2] [3], 0⟩ [pideIo] = some t ∧ t.nivel = 1 ∧
      niveles t.toEstadoKernel 0 = [2] ∧ niveles t.toEstadoKernel 1 = [3] ∧
      ¬ RespetaPrioridad t := by
  refine ⟨_, rfl, rfl, rfl, rfl, fun h => ?_⟩
  exact absurd (h 3 _ rfl (by decide) 0 (by decide)) (List.cons_ne_nil 2 [])

end SoTp.Kernel
