import SoTp.Kernel.Finalizacion
import SoTp.Kernel.Hilos
import SoTp.Kernel.Syscall

/-!
# The interpreter of replies

`interpretarCPU` (`kernel/src/main.c`, lines 222–492) reads a reply of the CPU and serves
the syscall in it. `leerSyscall` is what its `switch` takes a code and a buffer for, and each
case is a function of the threads and processes of the kernel.

* `leerSyscall_codigo`, `leerSyscall_argumentos`: the syscall has the code of the reply, and
  the arguments that `leerArgumentos` reads.
* `interpretarSyscall_usaPcb`: what looks for a PCB in an empty `cola_exec` goes through a
  null pointer.
-/

namespace SoTp.Kernel

open SoTp.Lib SoTp.Utils

/-! ## Data -/

/-- The cases of the `switch (funcion)`, with what they read. -/
inductive Syscall where
  | dumpMemory
  | io (retorno : UInt32)
  | processCreate (archivo : CString) (tamanio prioridad₀ : UInt32)
  | threadCreate (archivo : CString) (prioridad : UInt32)
  | threadJoin (tid : UInt32)
  | threadCancel (tid : UInt32)
  | mutexCreate (recurso : CString)
  | mutexLock (recurso : CString)
  | mutexUnlock (recurso : CString)
  | threadExit
  | writeMem (error : Int32)
  | processExit
  /-- A code without a case. -/
  | otra (funcion : Int32)
  deriving DecidableEq

/-- The `funcion` of a syscall. -/
def Syscall.codigo : Syscall → Int32
  | dumpMemory => Instruccion.dumpMemory.codigo
  | io _ => Instruccion.io.codigo
  | processCreate _ _ _ => Instruccion.processCreate.codigo
  | threadCreate _ _ => Instruccion.threadCreate.codigo
  | threadJoin _ => Instruccion.threadJoin.codigo
  | threadCancel _ => Instruccion.threadCancel.codigo
  | mutexCreate _ => Instruccion.mutexCreate.codigo
  | mutexLock _ => Instruccion.mutexLock.codigo
  | mutexUnlock _ => Instruccion.mutexUnlock.codigo
  | threadExit => Instruccion.threadExit.codigo
  | writeMem _ => Instruccion.writeMem.codigo
  | processExit => Instruccion.processExit.codigo
  | otra funcion => funcion

/-- What a syscall has read. -/
def Syscall.argumentos : Syscall → List Field
  | io retorno => [.uint32 retorno]
  | processCreate archivo tamanio prioridad₀ =>
    [.string archivo, .uint32 tamanio, .uint32 prioridad₀]
  | threadCreate archivo prioridad => [.string archivo, .uint32 prioridad]
  | threadJoin tid | threadCancel tid => [.uint32 tid]
  | mutexCreate recurso | mutexLock recurso | mutexUnlock recurso => [.string recurso]
  | writeMem error => [.int error]
  | dumpMemory | threadExit | processExit | otra _ => []

/-- The labels of the `switch`, in order. -/
def casos : List Instruccion :=
  [.dumpMemory, .io, .processCreate, .threadCreate, .threadJoin, .threadCancel, .mutexCreate,
    .mutexLock, .mutexUnlock, .threadExit, .writeMem, .processExit]

/-- The case of the `switch` for `funcion`, and what it reads from the buffer. -/
def leerSyscall (funcion : Int32) (buffer : TBuffer) : Syscall :=
  match casos.find? (·.codigo = funcion) with
  | some .dumpMemory => .dumpMemory
  | some .io => .io (bufferReadUint32 buffer).1
  | some .processCreate =>
    let (archivo, buffer) := bufferReadString buffer
    let (tamanio, buffer) := bufferReadUint32 buffer
    .processCreate archivo tamanio (bufferReadUint32 buffer).1
  | some .threadCreate =>
    let (archivo, buffer) := bufferReadString buffer
    .threadCreate archivo (bufferReadUint32 buffer).1
  | some .threadJoin => .threadJoin (bufferReadUint32 buffer).1
  | some .threadCancel => .threadCancel (bufferReadUint32 buffer).1
  | some .mutexCreate => .mutexCreate (bufferReadString buffer).1
  | some .mutexLock => .mutexLock (bufferReadString buffer).1
  | some .mutexUnlock => .mutexUnlock (bufferReadString (bufferReadString buffer).2).1
  | some .threadExit => .threadExit
  | some .writeMem => .writeMem (bufferReadInt buffer).1
  | some .processExit => .processExit
  | _ => .otra funcion

/-- What comes from outside of the kernel while it serves a syscall. -/
structure Entorno where
  /-- What `malloc` leaves in the `TID` of a block. -/
  basura : Puntero → UInt32
  /-- The unassigned pointer `mutex` of the case `MUTEX_UNLOCK`. -/
  mutex : Puntero
  /-- `respuesta` of the case `DUMP_MEMORY` (line 257): the pointer to the buffer that
  `RecibirBuffer` returns, cut to an `int`. What memoria has sent is in the buffer, and is not
  read. -/
  dump : Int32
  /-- The answers of memoria: to `crearProcesoMemoria`, call after call, to `crearHiloMemoria`,
  `finalizarHiloMemoria` and `finalizarProcesoMemoria`. -/
  procesos : List Int32
  hilo : Bool
  finHilo : Bool
  finProceso : Int32
  /-- A bound on the rounds of `finalizarProceso`. -/
  rondas : ℕ

/-- Memoria accepts everything, the heap is full of zeros, and a pointer that is cut to an `int` is
not negative. -/
def memoriaAcepta : Entorno where
  basura := fun _ => 0
  mutex := NULL
  dump := 0
  procesos := [1]
  hilo := true
  finHilo := true
  finProceso := 1
  rondas := 1

/-- After a function that does not look at `lista_exec_hilo`, `cola_exec` or the mutexes. -/
def Nucleo.conKernel (s : Nucleo) (kernel : EstadoKernel) : Nucleo :=
  { s with toEstadoKernel := kernel }

/-! ## The cases -/

section Casos

variable (PID TID : UInt32)

/-- `DUMP_MEMORY` (lines 239–267). The first `quitar_TCB_de_lista_exec_hilo` gets the thread
as its list: what it takes for the first link of that list are the `PID` and the `TID`. What is
compared with 0 is a pointer, not the answer of memoria. -/
def casoDumpMemory (m : Entorno) (s : Nucleo) : Option Nucleo := do
  let tcbN ← obtenerTCBPorPIDyTID s.tcbs PID TID s.listaExecHilo
  let k ← ponerEstado tcbN .blocked s.toEstadoKernel
  if PID = 0 ∧ TID = 0 then do
    let k := { k with listaBloqHilo := k.listaBloqHilo ++ [tcbN] }
    if m.dump < 0 then do
      let k ← ponerEstado tcbN .exit k
      let lista ← quitarTCBDeLista k.tcbs PID TID s.listaExecHilo
      let k ← finalizarHilo m.finHilo tcbN k
      some { s with toEstadoKernel := k, listaExecHilo := lista }
    else do
      let k ← ponerEstado tcbN .ready k
      let lista ← quitarTCBDeLista k.tcbs PID TID k.listaBloqHilo
      let k := { k with listaBloqHilo := lista }
      some { s with toEstadoKernel := k, listaExecHilo := s.listaExecHilo ++ [tcbN] }
  else none

/-- `IO` (lines 268–282). -/
def casoIo (s : Nucleo) : Option Nucleo := do
  let tcb ← obtenerTCBPorPIDyTID s.tcbs PID TID s.listaExecHilo
  let lista ← quitarTCBDeLista s.tcbs PID TID s.listaExecHilo
  let k ← agregarHiloAReady tcb s.toEstadoKernel
  some { s with toEstadoKernel := k, listaExecHilo := lista }

/-- `THREAD_JOIN` (lines 309–332). -/
def casoThreadJoin (tid : UInt32) (s : Nucleo) : Option Nucleo := do
  let (tcbN, s) ← buscarHilo PID tid s
  if tcbN ≠ NULL then do
    let tcb ← obtenerTCBPorPIDyTID s.tcbs PID tid s.listaExecHilo
    let lista ← quitarTCBDeLista s.tcbs PID tid s.listaExecHilo
    some { s with
      listaDependencias := s.listaDependencias ++ [⟨tcbN, tcb⟩]
      listaExecHilo := lista
      listaBloqHilo := s.listaBloqHilo ++ [tcb] }
  else some s

/-- `THREAD_CANCEL` (lines 333–345). -/
def casoThreadCancel (m : Entorno) (tid : UInt32) (s : Nucleo) : Option Nucleo := do
  let (tcb, s) ← buscarHilo PID tid s
  let k ← ponerEstado tcb .exit s.toEstadoKernel
  (finalizarHilo m.finHilo tcb k).map s.conKernel

/-- `MUTEX_CREATE` (lines 346–368). The queue of the mutex is allocated and not created. -/
def casoMutexCreate (recurso : CString) (s : Nucleo) : Option Nucleo := do
  let (pcb, cola) ← obtenerPCBPorPID s.pcbs PID s.colaExec
  let (_, s) ← buscarHilo PID TID { s with colaExec := cola }
  let b ← s.pcbs pcb
  some { s with
    siguiente := s.siguiente + 1
    mutexes := Function.update s.mutexes s.siguiente (some ⟨recurso, false, false, 0, none⟩)
    pcbs := Function.update s.pcbs pcb (some { b with mutex := b.mutex ++ [s.siguiente] }) }

/-- `MUTEX_LOCK` (lines 369–398). -/
def casoMutexLock (recurso : CString) (s : Nucleo) : Option Nucleo := do
  let (pcb, cola) ← obtenerPCBPorPID s.pcbs PID s.colaExec
  let s := { s with colaExec := cola }
  let tcb ← obtenerTCBPorPIDyTID s.tcbs PID TID s.listaExecHilo
  let b ← s.pcbs pcb
  let mutexExistente ← buscarMutex s.mutexes recurso b.mutex
  if mutexExistente ≠ NULL then do
    let mutex ← s.mutexes mutexExistente
    let bloqueados ← mutex.colaBloqueados
    let mutex := { mutex with colaBloqueados := some (bloqueados ++ [tcb]) }
    if mutex.tomado then
      some { s with mutexes := Function.update s.mutexes mutexExistente (some mutex) }
    else do
      let hilo ← s.tcbs tcb
      let mutex := { mutex with bloqueado := true, tomado := true, hiloActual := hilo.TID }
      let k ← ponerEstado tcb .blocked s.toEstadoKernel
      let lista ← quitarTCBDeLista k.tcbs PID TID s.listaExecHilo
      some { s with
        toEstadoKernel := { k with listaBloqHilo := k.listaBloqHilo ++ [tcb] }
        listaExecHilo := lista
        mutexes := Function.update s.mutexes mutexExistente (some mutex) }
  else some s

/-- `MUTEX_UNLOCK` (lines 399–449). What the two inner branches assign to the mutex is
overwritten behind them; in the second one the next thread of the queue is read. -/
def casoMutexUnlock (m : Entorno) (recurso : CString) (s : Nucleo) : Option Nucleo := do
  let (pcb, cola) ← obtenerPCBPorPID s.pcbs PID s.colaExec
  let s := { s with colaExec := cola }
  let _ ← obtenerTCBPorPIDyTID s.tcbs PID TID s.listaExecHilo
  let b ← s.pcbs pcb
  let mutexExistente ← buscarMutex s.mutexes recurso b.mutex
  if m.mutex ≠ NULL then do
    let mutex ← s.mutexes mutexExistente
    if mutex.tomado then do
      let sinAsignar ← s.mutexes m.mutex
      let otros ← sinAsignar.colaBloqueados
      let bloqueados ← mutex.colaBloqueados
      let tcb := bloqueados.headD NULL
      let bloqueados := bloqueados.tail
      if otros.length ≠ 1 ∧ s.tcbs (bloqueados.headD NULL) = none then none
      else do
        let k ← ponerEstado tcb .ready s.toEstadoKernel
        let k ← agregarHiloAReady tcb k
        let hilo ← k.tcbs tcb
        let mutex := { mutex with
          bloqueado := true
          tomado := true
          hiloActual := hilo.TID
          colaBloqueados := some (bloqueados ++ [tcb]) }
        some { s with
          toEstadoKernel := k
          mutexes := Function.update s.mutexes mutexExistente (some mutex) }
    else some s
  else some s

/-- `THREAD_EXIT` (lines 450–461). -/
def casoThreadExit (m : Entorno) (s : Nucleo) : Option Nucleo := do
  let tcbN ← obtenerTCBPorPIDyTID s.tcbs PID TID s.listaExecHilo
  let k ← ponerEstado tcbN .exit s.toEstadoKernel
  let lista ← quitarTCBDeLista k.tcbs PID TID s.listaExecHilo
  let k ← finalizarHilo m.finHilo tcbN k
  some { s with toEstadoKernel := k, listaExecHilo := lista }

/-- The end of the process in the cases `WRITE_MEM` and `PROCESS_EXIT`. -/
def terminarProceso (m : Entorno) (s : Nucleo) : Option Nucleo := do
  let (pcb, cola) ← obtenerPCBPorPID s.pcbs PID s.colaExec
  finalizarProceso m.rondas m.finProceso pcb { s with colaExec := cola }

/-- The `switch (funcion)` of `interpretarCPU` for a reply of thread `TID` of process
`PID`. -/
def interpretarSyscall (m : Entorno) : Syscall → Nucleo → Option Nucleo
  | .dumpMemory, s => casoDumpMemory PID TID m s
  | .io _, s => casoIo PID TID s
  | .processCreate _ _ prioridad₀, s =>
    (crearProceso m.basura m.hilo prioridad₀.toInt32 m.procesos s.toEstadoKernel).map s.conKernel
  | .threadCreate _ prioridad, s =>
    (crearHilo m.basura m.hilo prioridad.toInt32 PID.toInt32 s.toEstadoKernel).map s.conKernel
  | .threadJoin tid, s => casoThreadJoin PID tid s
  | .threadCancel tid, s => casoThreadCancel PID m tid s
  | .mutexCreate recurso, s => casoMutexCreate PID TID recurso s
  | .mutexLock recurso, s => casoMutexLock PID TID recurso s
  | .mutexUnlock recurso, s => casoMutexUnlock PID TID m recurso s
  | .threadExit, s => casoThreadExit PID TID m s
  | .writeMem error, s => if error = opOutOfMemory then terminarProceso PID m s else some s
  | .processExit, s => if TID = 0 then terminarProceso PID m s else some s
  | .otra _, s => some s

end Casos

/-! ## What is read -/

theorem leerSyscall_codigo (funcion : Int32) (buffer : TBuffer) :
    (leerSyscall funcion buffer).codigo = funcion := by
  unfold leerSyscall
  cases hcaso : casos.find? (·.codigo = funcion) with
  | none => rfl
  | some caso =>
    have hcodigo := List.find?_some hcaso
    rw [decide_eq_true_eq] at hcodigo
    cases caso <;> first | exact hcodigo | rfl

theorem leerSyscall_argumentos (funcion : Int32) (buffer : TBuffer) :
    (leerSyscall funcion buffer).argumentos = (leerArgumentos funcion buffer).1 := by
  unfold leerSyscall
  cases hcaso : casos.find? (·.codigo = funcion) with
  | none =>
    have hsin := List.find?_eq_none.mp hcaso
    have hne : ∀ caso ∈ casos, funcion ≠ caso.codigo := by
      intro caso hmem heq
      exact hsin caso hmem (decide_eq_true heq.symm)
    simp only [casos, List.forall_mem_cons] at hne
    unfold leerArgumentos
    simp [hne, Syscall.argumentos]
  | some caso =>
    have hcodigo := List.find?_some hcaso
    rw [decide_eq_true_eq] at hcodigo
    subst hcodigo
    cases caso <;> rfl

theorem interpretarCPU_syscall {g : Mem} {s s' : List UInt8} {leida : SyscallLeida}
    (h : interpretarCPU g s = some (leida, s')) :
    ∃ syscall : Syscall, syscall.codigo = leida.funcion ∧
      syscall.argumentos = leida.argumentos := by
  obtain ⟨⟨buffer, resto⟩, -, h⟩ := Option.bind_eq_some_iff.mp h
  obtain ⟨rfl, -⟩ := Prod.mk.inj (Option.some.inj h)
  exact ⟨leerSyscall _ _, leerSyscall_codigo _ _, leerSyscall_argumentos _ _⟩

/-! ## Without a PCB -/

/-- The replies for which `cola_exec` is searched for the process. -/
def Syscall.usaPcb (TID : UInt32) : Syscall → Prop
  | mutexCreate _ | mutexLock _ | mutexUnlock _ => True
  | writeMem error => error = opOutOfMemory
  | processExit => TID = 0
  | _ => False

section

variable {PID TID : UInt32} {m : Entorno} {s : Nucleo}

theorem terminarProceso_eq_none (hexec : s.colaExec = []) (hnull : s.pcbs NULL = none) :
    terminarProceso PID m s = none := by
  unfold terminarProceso
  rw [hexec, obtenerPCBPorPID_nil]
  exact finalizarProceso_eq_none hnull

theorem casoMutexCreate_eq_none {recurso : CString} (hexec : s.colaExec = [])
    (hnull : s.pcbs NULL = none) : casoMutexCreate PID TID recurso s = none := by
  unfold casoMutexCreate
  rw [hexec, obtenerPCBPorPID_nil]
  show ((buscarHilo PID TID { s with colaExec := [] }).bind fun r =>
    (r.2.pcbs NULL).bind fun b => _) = none
  cases hbuscar : buscarHilo PID TID { s with colaExec := [] } with
  | none => rfl
  | some r =>
    have hs : r.2 = { s with colaExec := [] } := buscarHilo_eq_some hbuscar
    rw [Option.bind_some, hs]
    show (s.pcbs NULL).bind _ = none
    rw [hnull]
    rfl

theorem casoMutexLock_eq_none {recurso : CString} (hexec : s.colaExec = [])
    (hnull : s.pcbs NULL = none) : casoMutexLock PID TID recurso s = none := by
  unfold casoMutexLock
  rw [hexec, obtenerPCBPorPID_nil]
  show ((obtenerTCBPorPIDyTID s.tcbs PID TID s.listaExecHilo).bind fun tcb =>
    (s.pcbs NULL).bind fun b => _) = none
  rw [hnull]
  exact Option.bind_fun_none _

theorem casoMutexUnlock_eq_none {recurso : CString} (hexec : s.colaExec = [])
    (hnull : s.pcbs NULL = none) : casoMutexUnlock PID TID m recurso s = none := by
  unfold casoMutexUnlock
  rw [hexec, obtenerPCBPorPID_nil]
  show ((obtenerTCBPorPIDyTID s.tcbs PID TID s.listaExecHilo).bind fun tcb =>
    (s.pcbs NULL).bind fun b => _) = none
  rw [hnull]
  exact Option.bind_fun_none _

theorem interpretarSyscall_usaPcb (hexec : s.colaExec = []) (hnull : s.pcbs NULL = none)
    {syscall : Syscall} (husa : syscall.usaPcb TID) :
    interpretarSyscall PID TID m syscall s = none := by
  cases syscall with
  | mutexCreate recurso => exact casoMutexCreate_eq_none hexec hnull
  | mutexLock recurso => exact casoMutexLock_eq_none hexec hnull
  | mutexUnlock recurso => exact casoMutexUnlock_eq_none hexec hnull
  | writeMem error => exact (if_pos husa).trans (terminarProceso_eq_none hexec hnull)
  | processExit => exact (if_pos husa).trans (terminarProceso_eq_none hexec hnull)
  | _ => exact absurd husa id

end

end SoTp.Kernel
