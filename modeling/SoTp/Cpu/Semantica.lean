import SoTp.Cpu.Execute
import SoTp.Cpu.Texto

/-!
# The instruction set on the registers

What each instruction means for the registers, as a function on register values,
and that `decodeInstruccion` followed by `executeInstruccion`
(`cpu/src/cpu.c`, lines 180–610) computes it from every text of the instruction.

`THREAD_CREATE` is left out: the log of that instruction follows a register pointer
that the parser leaves `NULL`.

* `executeInstruccion_decodificada`: execution of a decoded instruction.
* `executeInstruccion_texto`: **from any text**, with the frame: the result is
  equal to the meaning as a function of the register.
-/

namespace SoTp.Cpu

open SoTp.Lib SoTp.Utils

/-! ## Meaning -/

/-- The values of the registers. -/
abbrev Valores := Registro → UInt32

/-- The mnemonics of earlier versions, which `obtenerInstruccion` still knows. -/
inductive Vieja where
  | resize
  | copyString
  | wait
  deriving DecidableEq, Repr

/-- Everything with a known mnemonic. Nobody reads the operands of an old one. -/
inductive Orden where
  | renglon (s : Renglon)
  | vieja (v : Vieja) (operandos : List (List UInt8))

def Vieja.mnemonico : Vieja → List UInt8
  | .resize => ascii "RESIZE"
  | .copyString => ascii "COPY_STRING"
  | .wait => ascii "WAIT"

def Vieja.instruccion : Vieja → Instruccion
  | .resize => .resize
  | .copyString => .copyString
  | .wait => .wait

/-- A text of an order. -/
def Orden.Escrita : Orden → CString → Prop
  | .renglon s, texto => Texto s texto
  | .vieja v operandos, texto =>
    (∀ t ∈ operandos, IsToken 32 t) ∧ Spaced 32 v.mnemonico operandos texto.bytes

/-- The registers after an instruction, when memoria replies `respuesta`. -/
def Renglon.significado (respuesta : UInt32) (R : Valores) : Renglon → Valores
  | .set r v => Function.update R r v.valor
  | .sum r₁ r₂ => Function.update R r₁ (R r₁ + R r₂)
  | .sub r₁ r₂ => Function.update R r₁ (R r₁ - R r₂)
  | .readMem r₁ _ => Function.update R r₁ respuesta
  | .jnz r v => if R r ≠ 0 then Function.update R .PC v.valor else R
  | _ => R

/-- The syscalls. -/
def Renglon.esSyscall : Renglon → Bool
  | .dumpMemory | .io _ | .processCreate _ _ _ | .threadCreate _ _ | .threadJoin _
  | .threadCancel _ | .mutexCreate _ | .mutexLock _ | .mutexUnlock _ | .threadExit
  | .processExit => true
  | _ => false

/-- What `executeInstruccion` has to return: true for the syscalls, and for a write
that memoria answers with a negative number. -/
def Renglon.vuelve (respuesta : UInt32) (s : Renglon) : Prop :=
  s.esSyscall ∨ (∃ r₁ r₂, s = .writeMem r₁ r₂) ∧ respuesta.toInt32 < 0

theorem Renglon.sigue {s : Renglon} {respuesta : UInt32} (hsyscall : s.esSyscall = false)
    (hwrite : ∀ r₁ r₂, s ≠ .writeMem r₁ r₂) : false = true ↔ s.vuelve respuesta := by
  constructor
  · intro h
    cases h
  · rintro (h | ⟨⟨r₁, r₂, h⟩, -⟩)
    · exact hsyscall.symm.trans h
    · exact absurd h (hwrite r₁ r₂)

/-- The meaning of an order: the old ones do nothing. -/
def Orden.significado (respuesta : UInt32) (R : Valores) : Orden → Valores
  | .renglon s => s.significado respuesta R
  | .vieja _ _ => R

def Orden.vuelve (respuesta : UInt32) : Orden → Prop
  | .renglon s => s.vuelve respuesta
  | .vieja _ _ => False

/-- `THREAD_CREATE`. -/
def Orden.EsThreadCreate : Orden → Prop
  | .renglon (.threadCreate _ _) => True
  | _ => False

/-! ## Execution -/

theorem valor_asignar_eq (registros : Registros) (r : Registro) (v : UInt32) :
    valor (asignar registros r v) = Function.update (valor registros) r v := by
  funext r'
  rw [valor_asignar, Function.update_apply]

/-- Execution of a decoded instruction. -/
theorem executeInstruccion_decodificada (g : Mem) (respuesta PID TID : UInt32)
    (registros : Registros) (bufferRetorno : TBuffer) (s : Renglon)
    (hs : ¬ (Orden.renglon s).EsThreadCreate) :
    ∃ e, executeInstruccion g respuesta s.decodificada PID TID registros bufferRetorno = some e ∧
      valor e.registros = s.significado respuesta (valor registros) ∧
      (e.interrupcionInterna = true ↔ s.vuelve respuesta) := by
  cases s with
  | set r v =>
    exact ⟨_, rfl, valor_asignar_eq _ _ _, Renglon.sigue rfl fun _ _ h => by cases h⟩
  | jnz r v =>
    refine ⟨_, rfl, ?_, Renglon.sigue rfl fun _ _ h => by cases h⟩
    by_cases hr : valor registros r ≠ 0
    · show valor (if valor registros r ≠ 0 then asignar registros .PC v.valor else registros) = _
      rw [if_pos hr, valor_asignar_eq]
      unfold Renglon.significado
      exact (if_pos hr).symm
    · show valor (if valor registros r ≠ 0 then asignar registros .PC v.valor else registros) = _
      rw [if_neg hr]
      unfold Renglon.significado
      exact (if_neg hr).symm
  | readMem r₁ r₂ =>
    exact ⟨_, rfl, valor_asignar_eq _ _ _, Renglon.sigue rfl fun _ _ h => by cases h⟩
  | sum r₁ r₂ =>
    exact ⟨_, rfl, valor_asignar_eq _ _ _, Renglon.sigue rfl fun _ _ h => by cases h⟩
  | sub r₁ r₂ =>
    exact ⟨_, rfl, valor_asignar_eq _ _ _, Renglon.sigue rfl fun _ _ h => by cases h⟩
  | writeMem r₁ r₂ =>
    by_cases hneg : respuesta.toInt32 < 0
    · refine ⟨_, if_pos hneg, rfl, ?_⟩
      exact ⟨fun _ => Or.inr ⟨⟨r₁, r₂, rfl⟩, hneg⟩, fun _ => rfl⟩
    · refine ⟨_, if_neg hneg, rfl, ?_⟩
      simp [Renglon.vuelve, Renglon.esSyscall, hneg]
  | log n => exact ⟨_, rfl, rfl, Renglon.sigue rfl fun _ _ h => by cases h⟩
  | threadCreate f r => exact absurd trivial hs
  | _ => exact ⟨_, rfl, rfl, fun _ => Or.inl rfl, fun _ => rfl⟩

/-! ## From the text -/

/-- An old mnemonic is decoded to its code alone. -/
theorem decodeInstruccion_vieja {v : Vieja} {operandos : List (List UInt8)} {texto : CString}
    (h : (Orden.vieja v operandos).Escrita texto) :
    decodeInstruccion texto = { inicializarInstruccion with instruccion := v.instruccion } := by
  obtain ⟨hoperandos, hspaced⟩ := h
  have hmnemonico : IsToken 32 v.mnemonico := by
    cases v <;> exact ⟨by decide, by decide⟩
  have hstrtok : strtok texto = (v.mnemonico :: operandos).map CString.ofBytes :=
    congrArg (List.map CString.ofBytes) (tokens_of_spaced hspaced hmnemonico hoperandos)
  have hcodigo : obtenerInstruccion (CString.ofBytes v.mnemonico) = v.instruccion := by
    cases v <;> decide
  rw [List.map_cons] at hstrtok
  rw [decodeInstruccion_eq hstrtok, hcodigo]
  cases v <;> rfl

/-- **Decode and execute implement the instruction set.** From every text of an order
other than `THREAD_CREATE` the execution completes, gives every register the value that
the order means, and returns true exactly for the syscalls and for a refused write. -/
theorem executeInstruccion_texto (g : Mem) (respuesta PID TID : UInt32) (registros : Registros)
    (bufferRetorno : TBuffer) (orden : Orden) (texto : CString) (horden : ¬ orden.EsThreadCreate)
    (htexto : orden.Escrita texto) :
    ∃ e, executeInstruccion g respuesta (decodeInstruccion texto) PID TID registros
        bufferRetorno = some e ∧
      valor e.registros = orden.significado respuesta (valor registros) ∧
      (e.interrupcionInterna = true ↔ orden.vuelve respuesta) := by
  cases orden with
  | renglon s =>
    rw [decodeInstruccion_texto s texto htexto]
    exact executeInstruccion_decodificada g respuesta PID TID registros bufferRetorno s horden
  | vieja v operandos =>
    rw [decodeInstruccion_vieja htexto]
    have hno : ∀ b : Bool, b = false → (b = true ↔ False) := by simp
    cases v <;> exact ⟨_, rfl, rfl, hno _ rfl⟩

/-- `SUM AX PC` with 1 in AX and 2^32 − 1 in PC leaves 0 in AX. -/
theorem executeInstruccion_texto_sum :
    ∃ e, executeInstruccion (fun _ => 0) 0 (decodeInstruccion (CString.ofBytes (ascii "SUM AX PC")))
        3 1 ⟨4294967295, 1, 0, 0, 0, 0, 0, 0, 0, 0, 0⟩ (bufferCreate (fun _ => 0) 64) = some e ∧
      valor e.registros .AX = 0 ∧ valor e.registros .PC = 4294967295 := by
  obtain ⟨e, he, hvalor, -⟩ := executeInstruccion_texto (fun _ => 0) 0 3 1
    ⟨4294967295, 1, 0, 0, 0, 0, 0, 0, 0, 0, 0⟩ (bufferCreate (fun _ => 0) 64)
    (.renglon (.sum .AX .PC)) (CString.ofBytes (ascii "SUM AX PC")) id
    ⟨0, _, .token 0 (ascii "AX") (.token 0 (ascii "PC") (.fin 0)), rfl⟩
  refine ⟨e, he, ?_, ?_⟩
  · rw [hvalor]
    decide
  · rw [hvalor]
    decide

end SoTp.Cpu
