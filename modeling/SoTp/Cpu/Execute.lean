import SoTp.Cpu.Decode
import SoTp.Utils.Socket

/-!
# Executing an instruction

Models of `executeInstruccion` (`cpu/src/cpu.c`, lines 357–610), of
`obtener_direccion_fisica` (`cpu/src/mmu.c`) and of the requests `leer_en_memoria`
and `escribir_en_memoria` (`cpu/src/conexion_memoria.c`, lines 3–25).

* `executeInstruccion` is `none` where the code follows a `NULL` pointer.
* `respuesta` is the `uint32_t` at the start of the answer of memoria, which only
  `READ_MEM` and `WRITE_MEM` wait for.

`executeInstruccion_spec`: which instructions evict the thread, and that none of
them makes the buffer of the reply longer.
-/

namespace SoTp.Cpu

open SoTp.Lib SoTp.Utils

/-! ## Requests to memoria -/

/-- `obtener_direccion_fisica(dir, base, limite)`: a `void *`, with the sum made as
a `uint32_t`. -/
def obtenerDireccionFisica (dir base limite : UInt32) : UInt64 :=
  if limite < dir then -1
  else
    let fisica := dir + base
    fisica.toUInt64

/-- The bytes of a pointer. -/
def bytesPuntero (direccion : UInt64) : List UInt8 := leBytes 8 direccion.toNat

/-- The request of `leer_en_memoria(direccion)`; `g` is what `malloc` finds. -/
def leerEnMemoria (g : Mem) (direccion : UInt64) : List UInt8 :=
  let buffer := bufferCreate g 16
  let buffer := bufferWrite buffer (bytesPuntero direccion)
  enviarOperacion MemoriaOperacion.cpuReadMem.codigo buffer

/-- The request of `escribir_en_memoria(direccion, value)`, which has no room for the
value. -/
def escribirEnMemoria (g : Mem) (direccion : UInt64) : List UInt8 :=
  let buffer := bufferCreate g 8
  let buffer := bufferWrite buffer (bytesPuntero direccion)
  enviarOperacion MemoriaOperacion.cpuWriteMem.codigo buffer

/-! ## Model -/

/-- What an instruction leaves: the registers, `bufferRetorno`, the bytes sent to
memoria and the value returned. -/
structure Ejecucion where
  registros : Registros
  bufferRetorno : TBuffer
  enviado : List UInt8
  interrupcionInterna : Bool

/-- The record that every known instruction appends: PID, TID and a code. -/
def agregarRegistro (bufferRetorno : TBuffer) (PID TID : UInt32) (codigo : Instruccion) : TBuffer :=
  let bufferRetorno := bufferAddUint32 bufferRetorno PID
  let bufferRetorno := bufferAddUint32 bufferRetorno TID
  bufferAddInt bufferRetorno codigo.codigo

/-- `executeInstruccion(instruccion, …, procesoEnEjecucion, threadEnEjecucion, pc)`
(lines 357–610). -/
def executeInstruccion (g : Mem) (respuesta : UInt32) (inst : TInstruccion) (PID TID : UInt32)
    (registros : Registros) (bufferRetorno : TBuffer) : Option Ejecucion :=
  let retorno := agregarRegistro bufferRetorno PID TID
  match inst.instruccion with
  | .set => do
    let registro1 ← inst.registro1
    some ⟨asignar registros registro1 inst.valor, retorno .set, [], false⟩
  | .readMem => do
    let registro2 ← inst.registro2
    let direccion := obtenerDireccionFisica (valor registros registro2) PID TID
    let registro1 ← inst.registro1
    some ⟨asignar registros registro1 respuesta, retorno .readMem, leerEnMemoria g direccion, false⟩
  | .writeMem => do
    let registro1 ← inst.registro1
    let dir := obtenerDireccionFisica (valor registros registro1) PID TID
    let _ ← inst.registro2
    let errorCode := respuesta.toInt32
    -- the record carries the code of SUM
    let bufferRetorno := retorno .sum
    if errorCode < 0 then
      some ⟨registros, bufferAddInt bufferRetorno opOutOfMemory, escribirEnMemoria g dir, true⟩
    else some ⟨registros, bufferAddInt bufferRetorno 0, escribirEnMemoria g dir, false⟩
  | .sum => do
    let registro1 ← inst.registro1
    let registro2 ← inst.registro2
    some ⟨asignar registros registro1 (valor registros registro1 + valor registros registro2),
      retorno .sum, [], false⟩
  | .sub =>
    match inst.registro1, inst.registro2 with
    | some registro1, some registro2 =>
      some ⟨asignar registros registro1 (valor registros registro1 - valor registros registro2),
        retorno .sub, [], false⟩
    | _, _ => some ⟨registros, retorno .sub, [], false⟩
  | .jnz => do
    let registro1 ← inst.registro1
    some ⟨if valor registros registro1 ≠ 0 then { registros with PC := inst.valor } else registros,
      retorno .jnz, [], false⟩
  | .log => some ⟨registros, retorno .log, [], false⟩
  | .dumpMemory => some ⟨registros, retorno .dumpMemory, [], true⟩
  | .io => some ⟨registros, bufferAddUint32 (retorno .io) inst.valor, [], true⟩
  | .processCreate => do
    let registro1 ← inst.registro1
    let archivo ← inst.archivo
    let registro2 ← inst.registro2
    let bufferRetorno := bufferAddString (retorno .processCreate) archivo
    let bufferRetorno := bufferAddUint32 bufferRetorno (valor registros registro1)
    some ⟨registros, bufferAddUint32 bufferRetorno (valor registros registro2), [], true⟩
  | .threadCreate => do
    let registro1 ← inst.registro1
    -- the log follows registro2, which the parser never sets
    let _ ← inst.registro2
    let archivo ← inst.archivo
    let bufferRetorno := bufferAddString (retorno .threadCreate) archivo
    some ⟨registros, bufferAddUint32 bufferRetorno (valor registros registro1), [], true⟩
  | .threadJoin => some ⟨registros, bufferAddUint32 (retorno .threadJoin) inst.valor, [], true⟩
  | .threadCancel => some ⟨registros, bufferAddUint32 (retorno .threadCancel) inst.valor, [], true⟩
  | .mutexCreate => do
    let recurso ← inst.recurso
    some ⟨registros, bufferAddString (retorno .mutexCreate) recurso, [], true⟩
  | .mutexLock => do
    let recurso ← inst.recurso
    some ⟨registros, bufferAddString (retorno .mutexLock) recurso, [], true⟩
  | .mutexUnlock => do
    let recurso ← inst.recurso
    some ⟨registros, bufferAddString (retorno .mutexUnlock) recurso, [], true⟩
  | .processExit => some ⟨registros, retorno .processExit, [], true⟩
  | .threadExit => some ⟨registros, retorno .threadExit, [], true⟩
  | .resize | .copyString | .wait | .signal | .instExit | .invalidInstruction =>
    some ⟨registros, bufferRetorno, [], false⟩

/-! ## What every instruction does -/

/-- The instruction evicts the thread: it is a syscall, or a write that memoria
refuses. -/
def desaloja (respuesta : UInt32) : Instruccion → Bool
  | .writeMem => decide (respuesta.toInt32 < 0)
  | .dumpMemory | .io | .processCreate | .threadCreate | .threadJoin | .threadCancel
  | .mutexCreate | .mutexLock | .mutexUnlock | .threadExit | .processExit => true
  | _ => false

@[simp] theorem agregarRegistro_size (bufferRetorno : TBuffer) (PID TID : UInt32)
    (codigo : Instruccion) :
    (agregarRegistro bufferRetorno PID TID codigo).size = bufferRetorno.size := rfl

section

variable {g : Mem} {respuesta : UInt32} {inst : TInstruccion} {PID TID : UInt32}
  {registros : Registros} {bufferRetorno : TBuffer} {e : Ejecucion}

/-- The value returned tells whether the instruction evicts, and the record that
is appended leaves the `size` of the buffer as it was. -/
theorem executeInstruccion_spec
    (h : executeInstruccion g respuesta inst PID TID registros bufferRetorno = some e) :
    e.interrupcionInterna = desaloja respuesta inst.instruccion ∧
      e.bufferRetorno.size = bufferRetorno.size := by
  unfold executeInstruccion at h
  split at h <;> rename_i hinst <;> rw [hinst] <;>
    grind [desaloja, Option.bind_eq_some_iff, agregarRegistro_size, bufferAddInt_size,
      bufferAddUint32_size, bufferAddString_size]

/-- The registers after an instruction depend neither on the heap nor on
`bufferRetorno`. -/
theorem executeInstruccion_registros (g g' : Mem) (bufferRetorno bufferRetorno' : TBuffer) :
    (executeInstruccion g respuesta inst PID TID registros bufferRetorno).map Ejecucion.registros =
      (executeInstruccion g' respuesta inst PID TID registros bufferRetorno').map
        Ejecucion.registros := by
  unfold executeInstruccion
  cases inst.instruccion <;> dsimp only
  case writeMem =>
    cases inst.registro1 <;> cases inst.registro2 <;>
      by_cases hneg : respuesta.toInt32 < 0 <;> simp [hneg]
  all_goals
    cases inst.registro1 <;> cases inst.registro2 <;> cases inst.archivo <;>
      cases inst.recurso <;> rfl

end

end SoTp.Cpu
