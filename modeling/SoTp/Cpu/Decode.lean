import SoTp.Utils.Tipos

/-!
# Decoding an instruction

Models of `obtenerRegistro`, `obtenerInstruccion`, `parsearInstruccion` and
`decodeInstruccion` (`cpu/src/cpu.c`, lines 64–355) and of the functions of the C
library that they use.

A `uint32_t *` into the register file is the name of the register, and `NULL` is
`none`.

`decodeInstruccion_eq`: **what the decoder makes of a mnemonic and its operands**,
whatever they are.
-/

namespace SoTp.Cpu

open SoTp.Lib SoTp.Utils

/-! ## Tokens and numbers -/

/-- The tokens that `strtok(instruccion, " ")` and the calls `strtok(NULL, " ")`
after it return. -/
def strtok (instruccion : CString) : List CString :=
  ((instruccion.bytes.splitOn 32).filter (· ≠ [])).map CString.ofBytes

/-- `isspace` in the C locale. -/
def isspace (b : UInt8) : Bool := b == 32 || (decide (9 ≤ b) && decide (b ≤ 13))

/-- `isdigit`. -/
def isdigit (b : UInt8) : Bool := decide (48 ≤ b) && decide (b ≤ 57)

/-- `atoi`: blanks, a sign, digits. The number is read as a `long`, which stops at
its bounds, and cut to an `int`. -/
def atoi (token : CString) : Int32 :=
  let bytes := token.bytes.dropWhile isspace
  let (negativo, bytes) := match bytes with
    | 45 :: bytes => (true, bytes)
    | 43 :: bytes => (false, bytes)
    | bytes => (false, bytes)
  let n : ℕ := (bytes.takeWhile isdigit).foldl (fun n b => 10 * n + (b.toNat - 48)) 0
  Int32.ofInt (if negativo then max (-2 ^ 63) (-n) else min (2 ^ 63 - 1) n)

/-! ## Registers -/

/-- The fields of `Registros` that an instruction can name. -/
inductive Registro where
  | PC
  | AX
  | BX
  | CX
  | DX
  | EX
  | FX
  | GX
  | HX
  | BASE
  | LIMITE
  deriving DecidableEq, Repr

/-- The value a register pointer points to. -/
def valor (registros : Registros) : Registro → UInt32
  | .PC => registros.PC
  | .AX => registros.AX
  | .BX => registros.BX
  | .CX => registros.CX
  | .DX => registros.DX
  | .EX => registros.EX
  | .FX => registros.FX
  | .GX => registros.GX
  | .HX => registros.HX
  | .BASE => registros.BASE
  | .LIMITE => registros.LIMITE

/-- The register file after an assignment through a register pointer. -/
def asignar (registros : Registros) (registro : Registro) (v : UInt32) : Registros :=
  match registro with
  | .PC => { registros with PC := v }
  | .AX => { registros with AX := v }
  | .BX => { registros with BX := v }
  | .CX => { registros with CX := v }
  | .DX => { registros with DX := v }
  | .EX => { registros with EX := v }
  | .FX => { registros with FX := v }
  | .GX => { registros with GX := v }
  | .HX => { registros with HX := v }
  | .BASE => { registros with BASE := v }
  | .LIMITE => { registros with LIMITE := v }

theorem valor_asignar (registros : Registros) (r r' : Registro) (v : UInt32) :
    valor (asignar registros r v) r' = if r' = r then v else valor registros r' := by
  cases r <;> cases r' <;> rfl

/-- The names that `obtenerRegistro` compares with, in order. -/
def nombresRegistro : List (String × Registro) :=
  [("PC", .PC), ("AX", .AX), ("BX", .BX), ("CX", .CX), ("DX", .DX), ("EX", .EX), ("FX", .FX),
    ("GX", .GX), ("HX", .HX), ("BASE", .BASE), ("LIMITE", .LIMITE)]

/-- `obtenerRegistro(registros, token)` (lines 74–115). -/
def obtenerRegistro (token : CString) : Option Registro :=
  (nombresRegistro.find? fun nombre => token.bytes == ascii nombre.1).map Prod.snd

/-! ## Instructions -/

/-- The names that `obtenerInstruccion` compares with, in order. -/
def nombresInstruccion : List (String × Instruccion) :=
  [("SET", .set), ("READ_MEM", .readMem), ("WRITE_MEM", .writeMem), ("SUM", .sum), ("SUB", .sub),
    ("JNZ", .jnz), ("LOG", .log), ("DUMP_MEMORY", .dumpMemory), ("IO", .io),
    ("PROCESS_CREATE", .processCreate), ("THREAD_CREATE", .threadCreate),
    ("THREAD_JOIN", .threadJoin), ("THREAD_CANCEL", .threadCancel),
    ("MUTEX_CREATE", .mutexCreate), ("MUTEX_LOCK", .mutexLock), ("MUTEX_UNLOCK", .mutexUnlock),
    ("THREAD_EXIT", .threadExit), ("PROCESS_EXIT", .processExit), ("RESIZE", .resize),
    ("COPY_STRING", .copyString), ("WAIT", .wait)]

/-- `obtenerInstruccion(token)` (lines 117–178). -/
def obtenerInstruccion (token : CString) : Instruccion :=
  ((nombresInstruccion.find? fun nombre => token.bytes == ascii nombre.1).map Prod.snd).getD
    .invalidInstruction

/-- `t_instruccion` (`commons.h`, lines 173–181). -/
structure TInstruccion where
  instruccion : Instruccion
  registro1 : Option Registro
  registro2 : Option Registro
  registro3 : Option Registro
  valor : UInt32
  interfaz : Option CString
  archivo : Option CString
  recurso : Option CString
  deriving DecidableEq

/-- `inicializarInstruccion` (lines 64–72): zeros, and zero is `SET`. -/
def inicializarInstruccion : TInstruccion := ⟨.set, none, none, none, 0, none, none, none⟩

/-- A loop over the operands from number `n` on; `caso` is the body of its
`switch (operandoCount)`. -/
def operandos (caso : ℕ → CString → TInstruccion → TInstruccion) :
    ℕ → List CString → TInstruccion → TInstruccion
  | _, [], instruccion => instruccion
  | n, token :: tokens, instruccion => operandos caso (n + 1) tokens (caso n token instruccion)

/-- A register and a number: `SET` and `JNZ`. -/
def casoRegistroValor : ℕ → CString → TInstruccion → TInstruccion
  | 1, token, instruccion => { instruccion with registro1 := obtenerRegistro token }
  | 2, token, instruccion => { instruccion with valor := (atoi token).toUInt32 }
  | _, _, instruccion => instruccion

/-- Two registers: `READ_MEM`, `WRITE_MEM`, `SUM` and `SUB`. -/
def casoRegistros : ℕ → CString → TInstruccion → TInstruccion
  | 1, token, instruccion => { instruccion with registro1 := obtenerRegistro token }
  | 2, token, instruccion => { instruccion with registro2 := obtenerRegistro token }
  | _, _, instruccion => instruccion

/-- A file and two registers: `PROCESS_CREATE`. -/
def casoProcessCreate : ℕ → CString → TInstruccion → TInstruccion
  | 1, token, instruccion => { instruccion with archivo := some token }
  | 2, token, instruccion => { instruccion with registro1 := obtenerRegistro token }
  | 3, token, instruccion => { instruccion with registro2 := obtenerRegistro token }
  | _, _, instruccion => instruccion

/-- A file and one register: `THREAD_CREATE`. -/
def casoThreadCreate : ℕ → CString → TInstruccion → TInstruccion
  | 1, token, instruccion => { instruccion with archivo := some token }
  | 2, token, instruccion => { instruccion with registro1 := obtenerRegistro token }
  | _, _, instruccion => instruccion

/-- Every operand is a number, and the last one stays: `LOG`, `IO`, `THREAD_JOIN`
and `THREAD_CANCEL`. -/
def casoValor : ℕ → CString → TInstruccion → TInstruccion
  | _, token, instruccion => { instruccion with valor := (atoi token).toUInt32 }

/-- Every operand is a resource, and the last one stays: the `MUTEX` calls. -/
def casoRecurso : ℕ → CString → TInstruccion → TInstruccion
  | _, token, instruccion => { instruccion with recurso := some token }

/-- `parsearInstruccion(instruccion, registros)` (lines 180–351). -/
def parsearInstruccion (instruccion : CString) : TInstruccion :=
  match strtok instruccion with
  | [] => inicializarInstruccion
  | token :: tokens =>
    let parseada := { inicializarInstruccion with instruccion := obtenerInstruccion token }
    match parseada.instruccion with
    | .set => operandos casoRegistroValor 1 tokens parseada
    | .jnz => { operandos casoRegistroValor 1 tokens parseada with registro2 := some .PC }
    | .readMem | .writeMem | .sum | .sub => operandos casoRegistros 1 tokens parseada
    | .log | .io | .threadJoin | .threadCancel => operandos casoValor 1 tokens parseada
    | .processCreate => operandos casoProcessCreate 1 tokens parseada
    | .threadCreate => operandos casoThreadCreate 1 tokens parseada
    | .mutexCreate | .mutexLock | .mutexUnlock => operandos casoRecurso 1 tokens parseada
    | _ => parseada

/-- `decodeInstruccion(instruccion, registros)` (lines 353–355). -/
def decodeInstruccion (instruccion : CString) : TInstruccion := parsearInstruccion instruccion

/-! ## What the decoder reads -/

/-- The register that operand `i` names, `NULL` without a register of that name. -/
def registroEn (operandos : List CString) (i : ℕ) : Option Registro :=
  operandos[i]?.bind obtenerRegistro

/-- The number that an operand holds, zero without the operand. -/
def numeroEn (operando : Option CString) : UInt32 :=
  (operando.map fun token => (atoi token).toUInt32).getD 0

/-- An instruction and its operands, as they are decoded. -/
def leida (codigo : Instruccion) (operandos : List CString) : TInstruccion :=
  let parseada := { inicializarInstruccion with instruccion := codigo }
  match codigo with
  | .set =>
    { parseada with registro1 := registroEn operandos 0, valor := numeroEn operandos[1]? }
  | .jnz =>
    { parseada with
      registro1 := registroEn operandos 0
      registro2 := some .PC
      valor := numeroEn operandos[1]? }
  | .readMem | .writeMem | .sum | .sub =>
    { parseada with registro1 := registroEn operandos 0, registro2 := registroEn operandos 1 }
  | .log | .io | .threadJoin | .threadCancel =>
    { parseada with valor := numeroEn operandos.getLast? }
  | .processCreate =>
    { parseada with
      archivo := operandos[0]?
      registro1 := registroEn operandos 1
      registro2 := registroEn operandos 2 }
  | .threadCreate =>
    { parseada with archivo := operandos[0]?, registro1 := registroEn operandos 1 }
  | .mutexCreate | .mutexLock | .mutexUnlock => { parseada with recurso := operandos.getLast? }
  | _ => parseada

theorem operandos_frame {caso : ℕ → CString → TInstruccion → TInstruccion} {n : ℕ}
    (hcaso : ∀ k, n ≤ k → ∀ token parseada, caso k token parseada = parseada)
    (ops : List CString) (parseada : TInstruccion) :
    operandos caso n ops parseada = parseada := by
  induction ops generalizing n with
  | nil => rfl
  | cons token ops ih =>
    unfold operandos
    rw [hcaso n le_rfl]
    exact ih fun k hk => hcaso k (Nat.le_of_succ_le hk)

/-- A loop whose body writes the same field every time leaves what the last operand wrote. -/
theorem operandos_ultimo {caso : ℕ → CString → TInstruccion → TInstruccion}
    (hcaso : ∀ m n token token' parseada,
      caso n token' (caso m token parseada) = caso 0 token' parseada)
    (hcero : ∀ n token parseada, caso n token parseada = caso 0 token parseada)
    (n : ℕ) (ops : List CString) (parseada : TInstruccion) :
    operandos caso n ops parseada =
      (ops.getLast?.map fun token => caso 0 token parseada).getD parseada := by
  induction ops generalizing n parseada with
  | nil => rfl
  | cons token ops ih =>
    unfold operandos
    rw [ih]
    cases hlast : ops.getLast? with
    | none =>
      obtain rfl := List.getLast?_eq_none_iff.mp hlast
      exact hcero n token parseada
    | some token' =>
      rw [List.getLast?_cons, hlast]
      exact hcaso n 0 token token' parseada

section

variable (codigo : Instruccion) (ops : List CString)

theorem operandos_casoRegistroValor :
    operandos casoRegistroValor 1 ops { inicializarInstruccion with instruccion := codigo } =
      { inicializarInstruccion with
        instruccion := codigo, registro1 := registroEn ops 0, valor := numeroEn ops[1]? } := by
  match ops with
  | [] => rfl
  | [_] => rfl
  | _ :: _ :: ops =>
    exact operandos_frame (n := 3)
      (fun k hk token parseada =>
        casoRegistroValor.eq_3 k token parseada (by omega) (by omega)) ops _

theorem operandos_casoRegistros :
    operandos casoRegistros 1 ops { inicializarInstruccion with instruccion := codigo } =
      { inicializarInstruccion with
        instruccion := codigo, registro1 := registroEn ops 0, registro2 := registroEn ops 1 } := by
  match ops with
  | [] => rfl
  | [_] => rfl
  | _ :: _ :: ops =>
    exact operandos_frame (n := 3)
      (fun k hk token parseada =>
        casoRegistros.eq_3 k token parseada (by omega) (by omega)) ops _

theorem operandos_casoProcessCreate :
    operandos casoProcessCreate 1 ops { inicializarInstruccion with instruccion := codigo } =
      { inicializarInstruccion with
        instruccion := codigo
        archivo := ops[0]?
        registro1 := registroEn ops 1
        registro2 := registroEn ops 2 } := by
  match ops with
  | [] => rfl
  | [_] => rfl
  | [_, _] => rfl
  | _ :: _ :: _ :: ops =>
    exact operandos_frame (n := 4)
      (fun k hk token parseada =>
        casoProcessCreate.eq_4 k token parseada (by omega) (by omega) (by omega)) ops _

theorem operandos_casoThreadCreate :
    operandos casoThreadCreate 1 ops { inicializarInstruccion with instruccion := codigo } =
      { inicializarInstruccion with
        instruccion := codigo, archivo := ops[0]?, registro1 := registroEn ops 1 } := by
  match ops with
  | [] => rfl
  | [_] => rfl
  | _ :: _ :: ops =>
    exact operandos_frame (n := 3)
      (fun k hk token parseada =>
        casoThreadCreate.eq_3 k token parseada (by omega) (by omega)) ops _

theorem operandos_casoValor :
    operandos casoValor 1 ops { inicializarInstruccion with instruccion := codigo } =
      { inicializarInstruccion with instruccion := codigo, valor := numeroEn ops.getLast? } := by
  rw [operandos_ultimo (fun _ _ _ _ _ => rfl) fun _ _ _ => rfl]
  cases ops.getLast? <;> rfl

theorem operandos_casoRecurso :
    operandos casoRecurso 1 ops { inicializarInstruccion with instruccion := codigo } =
      { inicializarInstruccion with instruccion := codigo, recurso := ops.getLast? } := by
  rw [operandos_ultimo (fun _ _ _ _ _ => rfl) fun _ _ _ => rfl]
  cases ops.getLast? <;> rfl

end

/-- **What is decoded** when there is a token: the code of the first one, and the fields
that its operands fill. -/
theorem decodeInstruccion_eq {texto token : CString} {ops : List CString}
    (h : strtok texto = token :: ops) :
    decodeInstruccion texto = leida (obtenerInstruccion token) ops := by
  unfold decodeInstruccion parsearInstruccion
  rw [h]
  dsimp only
  cases obtenerInstruccion token <;>
    simp only [leida, operandos_casoRegistroValor, operandos_casoRegistros,
      operandos_casoProcessCreate, operandos_casoThreadCreate, operandos_casoValor,
      operandos_casoRecurso]

theorem decodeInstruccion_nil {texto : CString} (h : strtok texto = []) :
    decodeInstruccion texto = leida .set [] := by
  unfold decodeInstruccion parsearInstruccion
  rw [h]
  rfl

example : decodeInstruccion (CString.ofBytes (ascii "SUM AX BX")) =
    { inicializarInstruccion with
      instruccion := .sum
      registro1 := some .AX
      registro2 := some .BX } := by decide

end SoTp.Cpu
