import SoTp.Cpu.Saltos
import SoTp.Utils.Fields

/-!
# The records of the reply

What each instruction appends to `bufferRetorno` with `buffer_add_*`
(`cpu/src/cpu.c`, lines 357–610), as a sequence of fields, and what the
instructions of a run append one after the other.

* `executeInstruccion_campos`: the buffer after an instruction is the buffer before
  it with its fields added.
* `executeInstruccion_syscall`: a syscall changes no register and evicts the thread.
-/

namespace SoTp.Cpu

open SoTp.Lib SoTp.Utils

/-! ## Fields -/

/-- The instructions that have a case in `executeInstruccion`. -/
def tieneCaso : Instruccion → Bool
  | .resize | .copyString | .wait | .signal | .instExit | .invalidInstruction => false
  | _ => true

/-- PID, TID and a code. -/
def encabezado (PID TID : UInt32) (codigo : Int32) : List Field :=
  [.uint32 PID, .uint32 TID, .int codigo]

/-- The fields that an instruction appends. -/
def camposDe (respuesta : UInt32) (inst : TInstruccion) (PID TID : UInt32)
    (registros : Registros) : List Field :=
  let codigo := encabezado PID TID inst.instruccion.codigo
  match inst.instruccion with
  | .set | .readMem | .sum | .sub | .jnz | .log | .dumpMemory | .threadExit | .processExit => codigo
  | .writeMem =>
    encabezado PID TID Instruccion.sum.codigo ++
      [.int (if respuesta.toInt32 < 0 then opOutOfMemory else 0)]
  | .io | .threadJoin | .threadCancel => codigo ++ [.uint32 inst.valor]
  | .processCreate =>
    codigo ++ (inst.archivo.toList.map Field.string ++
      (inst.registro1.toList ++ inst.registro2.toList).map fun r => .uint32 (valor registros r))
  | .threadCreate =>
    codigo ++ (inst.archivo.toList.map Field.string ++
      inst.registro1.toList.map fun r => .uint32 (valor registros r))
  | .mutexCreate | .mutexLock | .mutexUnlock => codigo ++ inst.recurso.toList.map Field.string
  | .resize | .copyString | .wait | .signal | .instExit | .invalidInstruction => []

section

variable {g : Mem} {respuesta : UInt32} {inst : TInstruccion} {PID TID : UInt32}
  {registros : Registros} {bufferRetorno : TBuffer} {e : Ejecucion}

/-- What an instruction leaves in the buffer. -/
theorem executeInstruccion_campos
    (h : executeInstruccion g respuesta inst PID TID registros bufferRetorno = some e) :
    e.bufferRetorno = addFields bufferRetorno (camposDe respuesta inst PID TID registros) := by
  unfold executeInstruccion at h
  unfold camposDe
  cases hinst : inst.instruccion <;> rw [hinst] at h <;> dsimp only at h ⊢
  case set | jnz =>
    obtain ⟨_, _, h⟩ := Option.bind_eq_some_iff.mp h
    obtain rfl := Option.some.inj h
    rfl
  case readMem | sum =>
    obtain ⟨_, _, h⟩ := Option.bind_eq_some_iff.mp h
    obtain ⟨_, _, h⟩ := Option.bind_eq_some_iff.mp h
    obtain rfl := Option.some.inj h
    rfl
  case writeMem =>
    obtain ⟨_, _, h⟩ := Option.bind_eq_some_iff.mp h
    obtain ⟨_, _, h⟩ := Option.bind_eq_some_iff.mp h
    split at h <;> rename_i hneg <;> obtain rfl := Option.some.inj h
    · rw [if_pos hneg]
      rfl
    · rw [if_neg hneg]
      rfl
  case sub =>
    split at h <;> obtain rfl := Option.some.inj h <;> rfl
  case processCreate =>
    obtain ⟨registro1, hregistro1, h⟩ := Option.bind_eq_some_iff.mp h
    obtain ⟨archivo, harchivo, h⟩ := Option.bind_eq_some_iff.mp h
    obtain ⟨registro2, hregistro2, h⟩ := Option.bind_eq_some_iff.mp h
    obtain rfl := Option.some.inj h
    rw [hregistro1, harchivo, hregistro2]
    rfl
  case threadCreate =>
    obtain ⟨registro1, hregistro1, h⟩ := Option.bind_eq_some_iff.mp h
    obtain ⟨_, _, h⟩ := Option.bind_eq_some_iff.mp h
    obtain ⟨archivo, harchivo, h⟩ := Option.bind_eq_some_iff.mp h
    obtain rfl := Option.some.inj h
    rw [hregistro1, harchivo]
    rfl
  case mutexCreate | mutexLock | mutexUnlock =>
    obtain ⟨recurso, hrecurso, h⟩ := Option.bind_eq_some_iff.mp h
    obtain rfl := Option.some.inj h
    rw [hrecurso]
    rfl
  all_goals
    obtain rfl := Option.some.inj h
    rfl

theorem executeInstruccion_syscall
    (h : executeInstruccion g respuesta inst PID TID registros bufferRetorno = some e)
    (hsyscall : esSyscall inst.instruccion = true) :
    e.registros = registros ∧ e.interrupcionInterna = true := by
  have hdesaloja : desaloja respuesta inst.instruccion = true := by
    cases hinst : inst.instruccion <;> rw [hinst] at hsyscall <;> first | rfl | cases hsyscall
  refine ⟨?_, (executeInstruccion_spec h).1.trans hdesaloja⟩
  unfold executeInstruccion at h
  unfold esSyscall at hsyscall
  split at h <;> rename_i hinst <;> rw [hinst] at hsyscall <;>
    grind [Option.bind_eq_some_iff]

theorem camposDe_eq_nil_iff :
    camposDe respuesta inst PID TID registros = [] ↔ tieneCaso inst.instruccion = false := by
  unfold camposDe tieneCaso encabezado
  cases inst.instruccion <;> simp

end

/-! ## The fields of a run -/

/-- The fields that a step appends. -/
def agregados (programa : List CString) (PID TID : UInt32) (s : Ciclo) : Evento → List Field
  | .interrupcion => []
  | .paso _ respuesta =>
    (lectura programa s).elim [] fun leida =>
      camposDe respuesta (decodeInstruccion leida.inst) PID TID leida.registros

section

variable {programa : List CString} {PID TID : UInt32} {g : Mem} {respuesta : UInt32} {s : Ciclo}

theorem agregados_eq_nil (h : lectura programa s = none) :
    agregados programa PID TID s (.paso g respuesta) = [] := by
  unfold agregados
  rw [h]
  rfl

theorem agregados_ejecuta (hpunto : s.punto = .cabeza)
    (hflag : (s.interrupcionInterna || s.interrupcionRecibida) = false) {inst : CString}
    (hinst : fetchInstruccion programa s.registros.PC = some inst) :
    agregados programa PID TID s (.paso g respuesta) =
      camposDe respuesta (decodeInstruccion inst) PID TID s.registros := by
  unfold agregados
  rw [lectura_cabeza hpunto hflag, hinst]
  rfl

end

/-- The fields that a run appends. -/
def camposAgregados (programa : List CString) (PID TID : UInt32) (s : Ciclo)
    (eventos : List Evento) : List Field :=
  output (avanzar programa PID TID) (agregados programa PID TID) s eventos

end SoTp.Cpu
