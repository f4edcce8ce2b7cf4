import SoTp.Kernel.Interprete

/-!
# The kernel at work

The dispatchers (`kernel/src/k_corto_plazo.c`, lines 37–195) take one thread after another
from the ready collections, send it to the CPU and serve its reply; meanwhile other threads
call `crearProceso`. A `Marcha` is the kernel with the place where its dispatcher stands, and
a `Suceso` what happens next: a run of the kernel is any sequence of them.

* `atenderReady_pasos`: an iteration of `atender_fifo` or `atender_prioridades` without the locks
  that it takes and releases.
* `atenderReady_cases`, `responder_cases`: everything that an iteration and a reply can do.

`none` is a step that the kernel does not take: it leaves the defined behaviour of C, waits
for a lock that nobody releases, or has ended.
-/

namespace SoTp.Kernel

open SoTp.Lib SoTp.Utils

/-! ## Data -/

/-- The kernel and its dispatcher. -/
structure Marcha extends Nucleo where
  /-- `mutex_cola_ready_fifo_prioridades` has been left locked. -/
  candado : Bool
  /-- The thread that was sent to the CPU, until its reply arrives. -/
  enCpu : Option Puntero
  /-- The level that `atender_cmn` has come to. -/
  nivel : ℕ

/-- The kernel when its dispatcher starts. -/
def marchaInicial (algoritmo : Algoritmo) : Marcha where
  toNucleo := nucleoInicial algoritmo
  candado := false
  enCpu := none
  nivel := 0

/-- What happens in the kernel. -/
inductive Suceso where
  /-- `crearProceso(archivo, tam, prioridad)`, called outside of the dispatcher, or once more
  after a wait. -/
  | crearProceso (m : Entorno) (prioridad : Int32)
  /-- A call of `crearProceso` is refused and waits for `sem_nuevoProceso`. -/
  | rechazo
  /-- An iteration of the dispatcher, up to the reply of the CPU. The unassigned variable
  `elegido` of `elegir_maxima_prioridad` holds `elegido`. -/
  | despachar (elegido : Puntero)
  /-- The rest of the iteration, for a reply of thread `TID` of process `PID`. -/
  | respuesta (PID TID : UInt32) (syscall : Syscall) (m : Entorno)

/-! ## The locks -/

/-- Which of `mutex_lista_exec_hilo` and `mutex_cola_ready_fifo_prioridades` the dispatcher
holds. No other thread takes them, so that one it holds already is one it waits for without
end. -/
structure Candados where
  listaExecHilo : Bool
  colaReady : Bool
  deriving DecidableEq, Repr

namespace Candados

/-- It holds none. -/
def sueltos : Candados := ⟨false, false⟩

/-- `pthread_mutex_lock(&mutex_lista_exec_hilo)`. -/
def tomarExec (c : Candados) : Option Candados :=
  if c.listaExecHilo then none else some { c with listaExecHilo := true }

/-- `pthread_mutex_unlock(&mutex_lista_exec_hilo)`. -/
def soltarExec (c : Candados) : Candados := { c with listaExecHilo := false }

/-- `pthread_mutex_lock(&mutex_cola_ready_fifo_prioridades)`. -/
def tomarReady (c : Candados) : Option Candados :=
  if c.colaReady then none else some { c with colaReady := true }

/-- `pthread_mutex_unlock(&mutex_cola_ready_fifo_prioridades)`. -/
def soltarReady (c : Candados) : Candados := { c with colaReady := false }

end Candados

/-- A kernel at work and the mutexes that its dispatcher holds. -/
structure ConCandados where
  marcha : Marcha
  tiene : Candados

/-! ## The dispatchers -/

/-- The loop of `elegir_maxima_prioridad` for `n` more rounds. `inicio` is never set, so
`elegido` is not read from the queue. -/
def elegirDesde (tcbs : Puntero → Option TCB) :
    ℕ → Puntero → List Puntero → Option (Puntero × List Puntero)
  | 0, elegido, cola => some (elegido, cola)
  | n + 1, elegido, cola => do
    let tcbActual := cola.headD NULL
    let actual ← tcbs tcbActual
    let mejor ← tcbs elegido
    if actual.prioridad < mejor.prioridad then
      elegirDesde tcbs n elegido (cola.tail ++ [tcbActual])
    else elegirDesde tcbs n tcbActual (cola.tail ++ [elegido])

/-- `elegir_maxima_prioridad(cola)` (lines 168–195), with the queue afterwards. -/
def elegirMaximaPrioridad (tcbs : Puntero → Option TCB) (elegido : Puntero)
    (cola : List Puntero) : Option (Puntero × List Puntero) :=
  elegirDesde tcbs (cola.length - 1) elegido cola

/-- The thread that `atender_prioridades` takes from a queue that is not empty
(lines 91–97). -/
def sacarPrioridades (elegido : Puntero) (s : EstadoKernel) :
    Option (Puntero × EstadoKernel) := do
  let cola ← s.colaReadyFifoPrioridades
  if cola.length = 1 then sacarReady s
  else (elegirMaximaPrioridad s.tcbs elegido cola).map fun r =>
    (r.1, { s with colaReadyFifoPrioridades := some r.2 })

/-- The thread is logged, moved to `lista_exec_hilo` and sent (`atender_fifo`, lines 52–61,
`atender_prioridades`, lines 100–110, `ejecutar_hilo`, lines 145–150). -/
def enviarHilo (unTcb : Puntero) (s : Marcha) : Option Marcha := do
  let _ ← s.tcbs unTcb
  if unTcb ≠ NULL then do
    let k ← ponerEstado unTcb .exec s.toEstadoKernel
    some { s with
      toEstadoKernel := k
      listaExecHilo := s.listaExecHilo ++ [unTcb]
      enCpu := some unTcb }
  else some s

/-- An iteration of `atender_fifo` (lines 39–72) or `atender_prioridades` (lines 79–120), which
take a thread with `sacar`, up to the reply of the CPU, or to its end where no thread is sent. -/
def vuelta (sacar : EstadoKernel → Option (Puntero × EstadoKernel)) (t : ConCandados) :
    Option ConCandados := do
  let s := t.marcha
  let c ← t.tiene.tomarExec
  if s.listaExecHilo = [] then do
    let c ← c.tomarReady
    let cola ← s.colaReadyFifoPrioridades
    if cola ≠ [] then do
      let (unTcb, k) ← sacar s.toEstadoKernel
      let c := c.soltarReady
      let s ← enviarHilo unTcb { s with toEstadoKernel := k }
      if unTcb ≠ NULL then some ⟨s, c⟩ else some ⟨s, c.soltarExec⟩
    -- the other branch of `queue_is_empty` logs a warning
    else some ⟨s, c.soltarExec⟩
  else some ⟨s, c.soltarExec⟩

/-- The same for a kernel that keeps of the locks whether `mutex_cola_ready_fifo_prioridades` has
been left taken. The other one is free at the head of the loop. -/
def atenderReady (sacar : EstadoKernel → Option (Puntero × EstadoKernel)) (s : Marcha) :
    Option Marcha :=
  (vuelta sacar ⟨s, ⟨false, s.candado⟩⟩).map fun t => { t.marcha with candado := t.tiene.colaReady }

/-- A level of the loop of `atender_cmn` (lines 127–141). -/
def atenderNivel (s : Marcha) : Option Marcha :=
  if s.nivel < maxNivelesPrioridad then do
    let (thread, k) ← getNextThread s.nivel s.toEstadoKernel
    if thread ≠ NULL then enviarHilo thread { s with toEstadoKernel := k }
    else some { s with toEstadoKernel := k, nivel := s.nivel + 1 }
  else some s

/-- An iteration of the dispatcher, which is not waiting for a reply. -/
def despachar (elegido : Puntero) (s : Marcha) : Option Marcha :=
  if s.enCpu.isSome then none
  else do
    let despachador ← planificadorCortoPlazo s.algoritmo
    match despachador with
    | .atenderFifo => atenderReady sacarReady s
    | .atenderPrioridades => atenderReady (sacarPrioridades elegido) s
    | .atenderCmn => atenderNivel s

/-- The thread is to be put back: `thread->estado == BLOCKED || thread->estado == READY`. -/
def Vuelve (tcb : TCB) : Prop :=
  tcb.estado = EstadoProceso.blocked.codigo ∨ tcb.estado = EstadoProceso.ready.codigo

instance (tcb : TCB) : Decidable (Vuelve tcb) := inferInstanceAs (Decidable (_ ∨ _))

/-- What `atender_cmn` does after the run of a thread (lines 134–138). -/
def reinsertar (thread : Puntero) (s : Nucleo) : Option Nucleo := do
  let tcb ← s.tcbs thread
  if Vuelve tcb then
    (insertarEnColaReadyCmn thread s.toEstadoKernel).map fun r => { s with toEstadoKernel := r.2 }
  else some s

/-- `interpretarCPU`, and what `atender_cmn` does after it with the thread that it has sent. -/
def responder (PID TID : UInt32) (syscall : Syscall) (m : Entorno) (s : Marcha) :
    Option Marcha := do
  let thread ← s.enCpu
  let n ← interpretarSyscall PID TID m syscall s.toNucleo
  if s.algoritmo = .colasMultinivel then
    (reinsertar thread n).map fun n =>
      { s with toNucleo := n, enCpu := none, nivel := s.nivel + 1 }
  else some { s with toNucleo := n, enCpu := none }

/-- The state in which a call of `crearProceso` waits. -/
def esperarMemoria (s : EstadoKernel) : Option EstadoKernel :=
  if s.colaNew = [] then some { (crearPcb s).2 with colaNew := s.colaNew ++ [s.siguiente] }
  else none

/-- One step of the kernel. -/
def suceder (s : Marcha) : Suceso → Option Marcha
  | .crearProceso m prioridad =>
    (crearProceso m.basura m.hilo prioridad m.procesos s.toEstadoKernel).map fun k =>
      { s with toEstadoKernel := k }
  | .rechazo => (esperarMemoria s.toEstadoKernel).map fun k => { s with toEstadoKernel := k }
  | .despachar elegido => despachar elegido s
  | .respuesta PID TID syscall m => responder PID TID syscall m s

/-! ## What an iteration and a reply can do -/

section

variable {s s' : Marcha}

theorem enviarHilo_candado (unTcb : Puntero) (s : Marcha) (candado : Bool) :
    (enviarHilo unTcb s).map (fun s' => { s' with candado := candado }) =
      enviarHilo unTcb { s with candado := candado } := by
  unfold enviarHilo
  dsimp only
  cases s.tcbs unTcb with
  | none => rfl
  | some tcb =>
    dsimp only [Option.bind_eq_bind, Option.bind_some]
    split
    · cases ponerEstado unTcb .exec s.toEstadoKernel <;> rfl
    · rfl

/-- The lock of the list is free again, and that of the queue where there was a thread. -/
theorem vuelta_pasos (sacar : EstadoKernel → Option (Puntero × EstadoKernel)) (s : Marcha)
    (candado : Bool) :
    (vuelta sacar ⟨s, ⟨false, candado⟩⟩).map
        (fun t => { t.marcha with candado := t.tiene.colaReady }) =
      if s.listaExecHilo ≠ [] then some { s with candado := candado }
      else if candado then none
      else s.colaReadyFifoPrioridades.bind fun cola =>
        if cola = [] then some { s with candado := true }
        else (sacar s.toEstadoKernel).bind fun r =>
          enviarHilo r.1 { s with toEstadoKernel := r.2, candado := candado } := by
  unfold vuelta
  dsimp only [Candados.tomarExec, Candados.tomarReady]
  rw [if_neg Bool.false_ne_true]
  dsimp only [Option.bind_eq_bind, Option.bind_some]
  by_cases hexec : s.listaExecHilo = []
  · rw [if_pos hexec, if_neg (not_not.mpr hexec)]
    cases candado with
    | true => rfl
    | false =>
      rw [if_neg Bool.false_ne_true, if_neg Bool.false_ne_true]
      dsimp only [Option.bind_some]
      cases s.colaReadyFifoPrioridades with
      | none => rfl
      | some cola =>
        dsimp only [Option.bind_some]
        by_cases hcola : cola = []
        · rw [if_neg (not_not.mpr hcola), if_pos hcola]
          rfl
        · rw [if_pos hcola, if_neg hcola]
          cases sacar s.toEstadoKernel with
          | none => rfl
          | some r =>
            dsimp only [Option.bind_some]
            have hcandado := enviarHilo_candado r.1 { s with toEstadoKernel := r.2 } false
            dsimp only at hcandado
            rw [← hcandado]
            cases enviarHilo r.1 { s with toEstadoKernel := r.2 } with
            | none => rfl
            | some s' =>
              dsimp only [Option.bind_some, Option.map_some]
              split <;> rfl
  · rw [if_neg hexec, if_pos hexec]
    rfl

/-- **An iteration without its locks.** -/
theorem atenderReady_pasos (sacar : EstadoKernel → Option (Puntero × EstadoKernel)) (s : Marcha) :
    atenderReady sacar s =
      if s.listaExecHilo ≠ [] then some s
      else if s.candado then none
      else s.colaReadyFifoPrioridades.bind fun cola =>
        if cola = [] then some { s with candado := true }
        else (sacar s.toEstadoKernel).bind fun r =>
          enviarHilo r.1 { s with toEstadoKernel := r.2 } :=
  vuelta_pasos sacar s s.candado

/-- **An iteration** finds a thread that runs, or no thread, or sends one. -/
theorem atenderReady_cases {sacar : EstadoKernel → Option (Puntero × EstadoKernel)}
    (h : atenderReady sacar s = some s') :
    (s.listaExecHilo ≠ [] ∧ s' = s) ∨
      (s.colaReadyFifoPrioridades = some [] ∧ s' = { s with candado := true }) ∨
      ∃ cola p k, s.listaExecHilo = [] ∧ s.colaReadyFifoPrioridades = some cola ∧ cola ≠ [] ∧
        sacar s.toEstadoKernel = some (p, k) ∧
        enviarHilo p { s with toEstadoKernel := k } = some s' := by
  rw [atenderReady_pasos] at h
  split at h
  case isTrue hexec => exact Or.inl ⟨hexec, (Option.some.inj h).symm⟩
  case isFalse hexec =>
    split at h
    · cases h
    · obtain ⟨cola, hcola, h⟩ := Option.bind_eq_some_iff.mp h
      split at h
      case isTrue hvacia =>
        exact Or.inr (Or.inl ⟨hvacia ▸ hcola, (Option.some.inj h).symm⟩)
      case isFalse hne =>
        obtain ⟨⟨p, k⟩, hk, h⟩ := Option.bind_eq_some_iff.mp h
        exact Or.inr (Or.inr ⟨cola, p, k, not_not.mp hexec, hcola, hne, hk, h⟩)

theorem reinsertar_cases {thread : Puntero} {n n' : Nucleo} (h : reinsertar thread n = some n') :
    n' = n ∨ ∃ tcb insertado k, n.tcbs thread = some tcb ∧ Vuelve tcb ∧
      insertarEnColaReadyCmn thread n.toEstadoKernel = some (insertado, k) ∧
      n' = { n with toEstadoKernel := k } := by
  obtain ⟨tcb, htcb, h⟩ := Option.bind_eq_some_iff.mp h
  split at h
  case isTrue hvuelve =>
    obtain ⟨⟨insertado, k⟩, hk, rfl⟩ := Option.map_eq_some_iff.mp h
    exact Or.inr ⟨tcb, insertado, k, htcb, hvuelve, hk, rfl⟩
  case isFalse => exact Or.inl (Option.some.inj h).symm

/-- **A reply** is that of the thread in the CPU: its syscall is served, and the thread may be put
back in a level. -/
theorem responder_cases {PID TID : UInt32} {syscall : Syscall} {m : Entorno}
    (h : responder PID TID syscall m s = some s') :
    ∃ thread n, s.enCpu = some thread ∧
      interpretarSyscall PID TID m syscall s.toNucleo = some n ∧ s'.enCpu = none ∧
      (s'.toNucleo = n ∨ ∃ insertado k,
        insertarEnColaReadyCmn thread n.toEstadoKernel = some (insertado, k) ∧
        s'.toNucleo = { n with toEstadoKernel := k }) := by
  obtain ⟨thread, hcpu, h⟩ := Option.bind_eq_some_iff.mp h
  obtain ⟨n, hn, h⟩ := Option.bind_eq_some_iff.mp h
  refine ⟨thread, n, hcpu, hn, ?_⟩
  split at h
  · obtain ⟨n', hn', rfl⟩ := Option.map_eq_some_iff.mp h
    rcases reinsertar_cases hn' with rfl | ⟨tcb, insertado, k, -, -, hk, rfl⟩
    · exact ⟨rfl, Or.inl rfl⟩
    · exact ⟨rfl, Or.inr ⟨insertado, k, hk, rfl⟩⟩
  · obtain rfl := Option.some.inj h
    exact ⟨rfl, Or.inl rfl⟩

end

end SoTp.Kernel
