import SoTp.Cpu.Ciclo
import SoTp.Utils.Fields
import SoTp.Utils.Serializacion

/-!
# A syscall on its way to the kernel

What `ServerCPU` sends when `EjecutarProceso` returns (`cpu/src/main.c`, line 122)
and what `interpretarCPU` reads (`kernel/src/main.c`, lines 222–489).

`bufferRetorno` is created with size 0 and no `buffer_add_*` changes that, so the
records of the run stay behind: the message is the four bytes of a zero. The
kernel reads a TCB, a code and the arguments from a block of no bytes.

* `enviarBuffer_bufferRetorno`: the message of every run.
* `not_syscallTransportada`: **no syscall is decoded as it was asked for**, whatever
  the run.
-/

namespace SoTp.Kernel

open SoTp.Lib SoTp.Utils SoTp.Cpu

/-! ## Model -/

/-- What the kernel takes a reply of the CPU for. -/
structure SyscallLeida where
  PID : UInt32
  TID : UInt32
  funcion : Int32
  argumentos : List Field
  deriving DecidableEq

/-- What the cases of the `switch (funcion)` read. -/
def leerArgumentos (funcion : Int32) (buffer : TBuffer) : List Field × TBuffer :=
  if funcion = Instruccion.io.codigo then
    let (retorno, buffer) := bufferReadUint32 buffer
    ([.uint32 retorno], buffer)
  else if funcion = Instruccion.processCreate.codigo then
    let (archivo, buffer) := bufferReadString buffer
    let (tamanio, buffer) := bufferReadUint32 buffer
    let (prioridad₀, buffer) := bufferReadUint32 buffer
    ([.string archivo, .uint32 tamanio, .uint32 prioridad₀], buffer)
  else if funcion = Instruccion.threadCreate.codigo then
    let (archivo, buffer) := bufferReadString buffer
    let (prioridad, buffer) := bufferReadUint32 buffer
    ([.string archivo, .uint32 prioridad], buffer)
  else if funcion = Instruccion.threadJoin.codigo ∨ funcion = Instruccion.threadCancel.codigo then
    let (tid, buffer) := bufferReadUint32 buffer
    ([.uint32 tid], buffer)
  else if funcion = Instruccion.mutexCreate.codigo ∨ funcion = Instruccion.mutexLock.codigo then
    let (recurso, buffer) := bufferReadString buffer
    ([.string recurso], buffer)
  else if funcion = Instruccion.mutexUnlock.codigo then
    -- the resource is read twice, and the second one is used
    let (_, buffer) := bufferReadString buffer
    let (recurso, buffer) := bufferReadString buffer
    ([.string recurso], buffer)
  else if funcion = Instruccion.writeMem.codigo then
    let (error, buffer) := bufferReadInt buffer
    ([.int error], buffer)
  else ([], buffer)

/-- The reading part of `interpretarCPU` when `s` is in flight on the dispatch
connection; `g` is what `malloc` finds. -/
def interpretarCPU (g : Mem) (s : List UInt8) : Option (SyscallLeida × List UInt8) := do
  let (buffer, s) ← recibirBuffer g s
  let (tcb, buffer) := deserializarTCB buffer
  let (funcion, buffer) := bufferReadInt buffer
  some (⟨tcb.PID, tcb.TID, funcion, (leerArgumentos funcion buffer).1⟩, s)

/-- The arguments that an instruction asks the kernel for. -/
def argumentosPedidos (inst : TInstruccion) (registros : Registros) : List Field :=
  match inst.instruccion with
  | .io | .threadJoin | .threadCancel => [.uint32 inst.valor]
  | .processCreate =>
    inst.archivo.toList.map Field.string ++
      (inst.registro1.toList ++ inst.registro2.toList).map fun r => .uint32 (valor registros r)
  | .threadCreate =>
    inst.archivo.toList.map Field.string ++
      inst.registro1.toList.map fun r => .uint32 (valor registros r)
  | .mutexCreate | .mutexLock | .mutexUnlock => inst.recurso.toList.map Field.string
  | _ => []

/-- The syscall of a thread that has returned: its last instruction, with the
registers it left as they were. -/
def syscallPedida (PID TID : UInt32) (s : Ciclo) : Option SyscallLeida :=
  s.traza.getLast?.map fun ultima =>
    let inst := decodeInstruccion ultima.2
    ⟨PID, TID, inst.instruccion.codigo, argumentosPedidos inst s.registros⟩

/-- Whatever the kernel's heap holds, it decodes the reply of the thread to the PID,
TID, code and arguments of its syscall. -/
def SyscallTransportada (PID TID : UInt32) (s : Ciclo) : Prop :=
  ∀ g : Mem, ∃ leida, interpretarCPU g (enviarBuffer s.bufferRetorno) = some (leida, []) ∧
    syscallPedida PID TID s = some leida

/-! ## The message -/

theorem run_size {programa : List CString} {PID TID : UInt32} {g : Mem} {registros : Registros}
    {eventos : List Evento} {s : Ciclo}
    (hrun : run (avanzar programa PID TID) (despacho g registros) eventos = some s) :
    s.bufferRetorno.size = 0 :=
  run_invariant (fun _ _ _ h _ hs => avanzar_size h hs) rfl (along_true _ _) hrun

theorem enviarBuffer_of_size {buffer : TBuffer} (h : buffer.size = 0) :
    enviarBuffer buffer = [0, 0, 0, 0] := by
  unfold enviarBuffer TBuffer.payload
  rw [h]
  rfl

theorem enviarBuffer_bufferRetorno {programa : List CString} {PID TID : UInt32} {g : Mem}
    {registros : Registros} {eventos : List Evento} {s : Ciclo}
    (hrun : run (avanzar programa PID TID) (despacho g registros) eventos = some s) :
    enviarBuffer s.bufferRetorno = [0, 0, 0, 0] :=
  enviarBuffer_of_size (run_size hrun)

/-- From that message the kernel decodes the heap. -/
theorem interpretarCPU_PID (b : UInt8) {leida : SyscallLeida}
    (h : interpretarCPU (fun _ => b) [0, 0, 0, 0] = some (leida, [])) :
    leida.PID = uint32OfBytes [b, b, b, b] := by
  have hrecibir : recibirBuffer (fun _ => b) [0, 0, 0, 0] =
      some (⟨0, 0, (Block.alloc (fun _ => b) 0).store 0 []⟩, []) := rfl
  unfold interpretarCPU at h
  rw [hrecibir] at h
  have hPID := congrArg (fun r => r.1.PID) (Option.some.inj h)
  have hread : (Mem.write (fun _ => b) 0 []).read 0 4 = Mem.read (fun _ => b) 0 4 :=
    Mem.read_congr fun i _ => Mem.write_apply_of_le (Nat.zero_le _)
  rw [← hPID]
  show uint32OfBytes ((Mem.write (fun _ => b) 0 []).read 0 4) = _
  rw [hread]
  rfl

/-- **No syscall reaches the kernel**: in no state of any run does the kernel decode
the reply to the syscall of the thread. -/
theorem not_syscallTransportada (programa : List CString) (PID TID : UInt32) (g : Mem)
    (registros : Registros) (eventos : List Evento) (s : Ciclo)
    (hrun : run (avanzar programa PID TID) (despacho g registros) eventos = some s) :
    ¬ SyscallTransportada PID TID s := by
  intro h
  have hPID : ∀ b : UInt8, uint32OfBytes [b, b, b, b] = PID := by
    intro b
    obtain ⟨leida, hleida, hpedida⟩ := h (fun _ => b)
    rw [enviarBuffer_bufferRetorno hrun] at hleida
    obtain ⟨ultima, -, heq⟩ := Option.map_eq_some_iff.mp hpedida
    rw [← interpretarCPU_PID b hleida, ← heq]
  exact absurd ((hPID 0).trans (hPID 1).symm) (by decide)

/-- Thread 2 of process 1 executes `THREAD_EXIT` and returns. -/
theorem not_syscallTransportada_threadExit :
    ∃ s, run (avanzar [CString.ofBytes (ascii "THREAD_EXIT")] 1 2)
        (despacho (fun _ => 0) ⟨0, 0, 0, 0, 0, 0, 0, 0, 0, 0, 64⟩)
        [.paso (fun _ => 0) 0, .paso (fun _ => 0) 0, .paso (fun _ => 0) 0] = some s ∧
      ¬ SyscallTransportada 1 2 s := by
  have hsome : (run (avanzar [CString.ofBytes (ascii "THREAD_EXIT")] 1 2)
      (despacho (fun _ => 0) ⟨0, 0, 0, 0, 0, 0, 0, 0, 0, 0, 64⟩)
      [.paso (fun _ => 0) 0, .paso (fun _ => 0) 0, .paso (fun _ => 0) 0]).isSome := by decide
  obtain ⟨s, hs⟩ := Option.isSome_iff_exists.mp hsome
  exact ⟨s, hs, not_syscallTransportada _ 1 2 _ _ _ s hs⟩

/-- Thread 0 of process 1 executes `IO 5` and returns. When the heap of the kernel
holds zeros it decodes process 0 and the code 0, which no case handles. -/
theorem not_syscallTransportada_io :
    ∃ s, run (avanzar [CString.ofBytes (ascii "IO 5")] 1 0)
        (despacho (fun _ => 0) ⟨0, 0, 0, 0, 0, 0, 0, 0, 0, 0, 64⟩)
        [.paso (fun _ => 0) 0, .paso (fun _ => 0) 0, .paso (fun _ => 0) 0] = some s ∧
      s.punto = .fin ∧ syscallPedida 1 0 s = some ⟨1, 0, 8, [.uint32 5]⟩ ∧
      ¬ SyscallTransportada 1 0 s := by
  have hrun : (run (avanzar [CString.ofBytes (ascii "IO 5")] 1 0)
      (despacho (fun _ => 0) ⟨0, 0, 0, 0, 0, 0, 0, 0, 0, 0, 64⟩)
      [.paso (fun _ => 0) 0, .paso (fun _ => 0) 0, .paso (fun _ => 0) 0]).map
      (fun s => (s.punto, syscallPedida 1 0 s,
        interpretarCPU (fun _ => 0) (enviarBuffer s.bufferRetorno))) =
        some (.fin, some ⟨1, 0, 8, [.uint32 5]⟩, some (⟨0, 0, 0, []⟩, [])) := by decide
  obtain ⟨s, hs, hproj⟩ := Option.map_eq_some_iff.mp hrun
  obtain ⟨hfin, hproj⟩ := Prod.mk.inj hproj
  obtain ⟨hpedida, hleida⟩ := Prod.mk.inj hproj
  refine ⟨s, hs, hfin, hpedida, fun h => ?_⟩
  obtain ⟨leida, hmensaje, hpedida'⟩ := h (fun _ => 0)
  rw [hpedida] at hpedida'
  rw [hleida] at hmensaje
  rw [← Option.some.inj hpedida'] at hmensaje
  exact absurd hmensaje (by decide)

end SoTp.Kernel
