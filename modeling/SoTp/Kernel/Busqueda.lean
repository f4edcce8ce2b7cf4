import SoTp.Kernel.Ready

/-!
# What the kernel runs, and how it finds it

The lists in which the dispatcher and the syscalls look for the running thread and its
process (`kernel/src/main.c`, lines 8–11, `kernel/src/k_largo_plazo.c`, line 5), and the
functions that look there (`kernel/src/main.c`, lines 617–667, 713–739 and 767–818).

* `buscarTCBDeCola_eq_some`: the queue that is emptied and filled again is the same queue.
* `buscarHilo_eq_some`: looking for a thread changes nothing.
-/

namespace SoTp.Kernel

open SoTp.Lib SoTp.Utils

/-! ## Model -/

/-- `Mutex` (`commons.h`, lines 101–108). A queue that was allocated and not created is
`none`. -/
structure Mutex where
  recurso : CString
  tomado : Bool
  bloqueado : Bool
  hiloActual : UInt32
  colaBloqueados : Option (List Puntero)
  deriving DecidableEq

/-- The globals of the kernel with `lista_exec_hilo`, `cola_exec` and the mutexes on the
heap. -/
structure Nucleo extends EstadoKernel where
  listaExecHilo : List Puntero
  colaExec : List Puntero
  mutexes : Puntero → Option Mutex

/-- Nothing runs, and there are no mutexes. -/
def nucleoInicial (algoritmo : Algoritmo) : Nucleo where
  toEstadoKernel := kernelInicial algoritmo
  listaExecHilo := []
  colaExec := []
  mutexes := fun _ => none

/-- `obtener_TCB_por_PID_y_TID(lista, PID, TID)` (lines 654–667). -/
def obtenerTCBPorPIDyTID (tcbs : Puntero → Option TCB) (PID TID : UInt32) :
    List Puntero → Option Puntero
  | [] => some NULL
  | p :: lista => do
    let tcb ← tcbs p
    if tcb.PID = PID ∧ tcb.TID = TID then some p
    else obtenerTCBPorPIDyTID tcbs PID TID lista

/-- The first loop of `buscarTCBDeCola` (lines 721–730): every thread moves to
`cola_auxiliar`, and threads are compared until one is found. -/
def vaciarCola (tcbs : Puntero → Option TCB) (PID TID : UInt32) :
    Puntero → List Puntero → List Puntero → Option (Puntero × List Puntero)
  | encontrado, auxiliar, [] => some (encontrado, auxiliar)
  | encontrado, auxiliar, p :: cola =>
    if encontrado = NULL then do
      let tcb ← tcbs p
      vaciarCola tcbs PID TID (if tcb.PID = PID ∧ tcb.TID = TID then p else encontrado)
        (auxiliar ++ [p]) cola
    else vaciarCola tcbs PID TID encontrado (auxiliar ++ [p]) cola

/-- The second loop of `buscarTCBDeCola` (lines 733–735): `cola_auxiliar` is emptied into the
queue. The one of `quitar_TCB_de_cola` (lines 705–707) and the one of `queue_remove`
(`k_corto_plazo.c`, lines 221–223) are the same. -/
def restaurar : List Puntero → List Puntero → List Puntero
  | cola, [] => cola
  | cola, p :: auxiliar => restaurar (cola ++ [p]) auxiliar

/-- `buscarTCBDeCola(cola, PID, TID)` (lines 713–739): the thread, and the queue
afterwards. -/
def buscarTCBDeCola (tcbs : Puntero → Option TCB) (PID TID : UInt32) :
    Option (List Puntero) → Option (Puntero × Option (List Puntero))
  | none => some (NULL, none)
  | some cola => (vaciarCola tcbs PID TID NULL [] cola).map fun r => (r.1, some (restaurar [] r.2))

/-- The levels of `buscarTCBPorPIDyTID` from the given ones on. The inner loop goes round
once for each thread of a level, and looks at the first one each time. -/
def buscarEnNiveles (tcbs : Puntero → Option TCB) (colas : ℕ → Option (List Puntero))
    (PID TID : UInt32) : List ℕ → Option Puntero
  | [] => some NULL
  | i :: is => do
    let cola ← colas i
    match cola with
    | [] => buscarEnNiveles tcbs colas PID TID is
    | p :: _ =>
      let tcb ← tcbs p
      if tcb.PID = PID ∧ tcb.TID = TID then some p else buscarEnNiveles tcbs colas PID TID is

/-- `buscarTCBPorPIDyTID(colas_ready, PID, TID)` (lines 767–782); its `false` is `NULL`. -/
def buscarTCBPorPIDyTID (tcbs : Puntero → Option TCB) (colas : ℕ → Option (List Puntero))
    (PID TID : UInt32) : Option Puntero :=
  buscarEnNiveles tcbs colas PID TID (List.range maxNivelesPrioridad)

/-- `buscarHilo(PID, TID)` (lines 784–806). -/
def buscarHilo (PID TID : UInt32) (s : Nucleo) : Option (Puntero × Nucleo) := do
  let tcb ← obtenerTCBPorPIDyTID s.tcbs PID TID s.listaExecHilo
  if tcb ≠ NULL then some (tcb, s)
  else do
    let tcb ← obtenerTCBPorPIDyTID s.tcbs PID TID s.listaBloqHilo
    if tcb ≠ NULL then some (tcb, s)
    else
      match s.algoritmo with
      | .fifo | .prioridades =>
        let (tcb, cola) ← buscarTCBDeCola s.tcbs PID TID s.colaReadyFifoPrioridades
        some (tcb, { s with colaReadyFifoPrioridades := cola })
      | .cmn => (buscarTCBPorPIDyTID s.tcbs s.colasReadyCmn PID TID).map fun tcb => (tcb, s)
      | .colasMultinivel | .desconocido => some (tcb, s)

/-- The loop of `obtener_PCB_por_PID` for `n` more rounds: a PCB that is not the one goes to
the back, the one that is stays out. -/
def rotarPCB (pcbs : Puntero → Option PCB) (PID : UInt32) :
    ℕ → List Puntero → Option (Puntero × List Puntero)
  | 0, cola => some (NULL, cola)
  | n + 1, cola => do
    let pcb ← pcbs (cola.headD NULL)
    if pcb.PID = PID then some (cola.headD NULL, cola.tail)
    else rotarPCB pcbs PID n (cola.tail ++ [cola.headD NULL])

/-- `obtener_PCB_por_PID(cola, PID)` (lines 624–646), with the queue afterwards. -/
def obtenerPCBPorPID (pcbs : Puntero → Option PCB) (PID : UInt32) (cola : List Puntero) :
    Option (Puntero × List Puntero) :=
  rotarPCB pcbs PID cola.length cola

/-- `buscar_mutex(lista_mutexes, recurso)` (lines 809–818). -/
def buscarMutex (mutexes : Puntero → Option Mutex) (recurso : CString) :
    List Puntero → Option Puntero
  | [] => some NULL
  | p :: lista => do
    let mutex ← mutexes p
    if mutex.recurso = recurso then some p else buscarMutex mutexes recurso lista

/-! ## What the lookups do -/

section

variable {tcbs : Puntero → Option TCB} {PID TID : UInt32}

theorem obtenerTCBPorPIDyTID_singleton {p : Puntero} {tcb : TCB} (htcb : tcbs p = some tcb)
    (hPID : tcb.PID = PID) (hTID : tcb.TID = TID) :
    obtenerTCBPorPIDyTID tcbs PID TID [p] = some p := by
  unfold obtenerTCBPorPIDyTID
  rw [htcb]
  exact if_pos ⟨hPID, hTID⟩

theorem quitarTCBDeLista_singleton {p : Puntero} {tcb : TCB} (htcb : tcbs p = some tcb)
    (hPID : tcb.PID = PID) (hTID : tcb.TID = TID) :
    quitarTCBDeLista tcbs PID TID [p] = some [] := by
  unfold quitarTCBDeLista
  rw [htcb]
  exact if_pos ⟨hPID, hTID⟩

theorem obtenerTCBPorPIDyTID_singleton_ne {p : Puntero} {tcb : TCB} (htcb : tcbs p = some tcb)
    (hne : ¬ (tcb.PID = PID ∧ tcb.TID = TID)) :
    obtenerTCBPorPIDyTID tcbs PID TID [p] = some NULL := by
  unfold obtenerTCBPorPIDyTID
  rw [htcb]
  exact if_neg hne

theorem quitarTCBDeLista_singleton_ne {p : Puntero} {tcb : TCB} (htcb : tcbs p = some tcb)
    (hne : ¬ (tcb.PID = PID ∧ tcb.TID = TID)) :
    quitarTCBDeLista tcbs PID TID [p] = some [p] := by
  unfold quitarTCBDeLista
  rw [htcb]
  exact if_neg hne

/-- Every thread gets to `cola_auxiliar`, in order. -/
theorem vaciarCola_eq_some {cola auxiliar cola' : List Puntero} {encontrado p : Puntero}
    (h : vaciarCola tcbs PID TID encontrado auxiliar cola = some (p, cola')) :
    cola' = auxiliar ++ cola := by
  induction cola generalizing encontrado auxiliar with
  | nil =>
    obtain ⟨-, rfl⟩ := Prod.mk.inj (Option.some.inj h)
    exact (List.append_nil _).symm
  | cons q cola ih =>
    unfold vaciarCola at h
    split at h
    · obtain ⟨tcb, -, h⟩ := Option.bind_eq_some_iff.mp h
      rw [ih h, List.append_assoc, List.singleton_append]
    · rw [ih h, List.append_assoc, List.singleton_append]

theorem restaurar_eq (cola auxiliar : List Puntero) :
    restaurar cola auxiliar = cola ++ auxiliar := by
  induction auxiliar generalizing cola with
  | nil => rw [restaurar, List.append_nil]
  | cons p auxiliar ih => rw [restaurar, ih, List.append_assoc, List.singleton_append]

theorem buscarTCBDeCola_eq_some {cola cola' : Option (List Puntero)} {p : Puntero}
    (h : buscarTCBDeCola tcbs PID TID cola = some (p, cola')) : cola' = cola := by
  cases cola with
  | none => exact (Prod.mk.inj (Option.some.inj h)).2.symm
  | some cola =>
    obtain ⟨⟨q, auxiliar⟩, hvaciar, h⟩ := Option.map_eq_some_iff.mp h
    obtain ⟨-, rfl⟩ := Prod.mk.inj h
    rw [restaurar_eq, List.nil_append, vaciarCola_eq_some hvaciar, List.nil_append]

/-- Looking for a thread changes nothing. -/
theorem buscarHilo_eq_some {s s' : Nucleo} {p : Puntero}
    (h : buscarHilo PID TID s = some (p, s')) : s' = s := by
  obtain ⟨p₁, -, h⟩ := Option.bind_eq_some_iff.mp h
  split at h
  · exact (Prod.mk.inj (Option.some.inj h)).2.symm
  · obtain ⟨p₂, -, h⟩ := Option.bind_eq_some_iff.mp h
    split at h
    · exact (Prod.mk.inj (Option.some.inj h)).2.symm
    · have hcola (h : ((buscarTCBDeCola s.tcbs PID TID s.colaReadyFifoPrioridades).bind
          fun r => some (r.1, { s with colaReadyFifoPrioridades := r.2 })) = some (p, s')) :
          s' = s := by
        obtain ⟨⟨p₃, cola⟩, hbuscar, h⟩ := Option.bind_eq_some_iff.mp h
        obtain ⟨-, rfl⟩ := Prod.mk.inj (Option.some.inj h)
        rw [buscarTCBDeCola_eq_some hbuscar]
      split at h
      · exact hcola h
      · exact hcola h
      · obtain ⟨p₃, -, h⟩ := Option.map_eq_some_iff.mp h
        exact (Prod.mk.inj h).2.symm
      · exact (Prod.mk.inj (Option.some.inj h)).2.symm
      · exact (Prod.mk.inj (Option.some.inj h)).2.symm

theorem buscarHilo_singleton {s : Nucleo} {p : Puntero} {tcb : TCB} (hexec : s.listaExecHilo = [p])
    (hp : p ≠ NULL) (htcb : s.tcbs p = some tcb) (hPID : tcb.PID = PID) (hTID : tcb.TID = TID) :
    buscarHilo PID TID s = some (p, s) := by
  unfold buscarHilo
  rw [hexec, obtenerTCBPorPIDyTID_singleton htcb hPID hTID]
  exact if_pos hp

end

theorem obtenerPCBPorPID_nil (pcbs : Puntero → Option PCB) (PID : UInt32) :
    obtenerPCBPorPID pcbs PID [] = some (NULL, []) := rfl

end SoTp.Kernel
