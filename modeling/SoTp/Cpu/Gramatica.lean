import SoTp.Cpu.Execute
import SoTp.Cpu.Texto

/-!
# Well-formed and malformed instructions

`parsearInstruccion` fills the fields of an instruction and `executeInstruccion`
uses them (`cpu/src/cpu.c`, lines 180–610), each with a `switch` of its own. Here
any text is read, with any operands missing, unknown or left over.

* `executeInstruccion_isSome_iff`: which operands an execution needs.
* `executeInstruccion_bienFormada_iff`: **a well-formed instruction is executed
  without following a `NULL` pointer exactly when it is not `THREAD_CREATE`**.
* `inocua_iff`: **exactly which texts do no harm**, malformed or not.
-/

namespace SoTp.Cpu

open SoTp.Lib SoTp.Utils

/-! ## Well-formed texts -/

/-- The kinds of operands. -/
inductive Clase where
  | registro
  | numero
  | nombre
  deriving DecidableEq, Repr

/-- Decimal digits, perhaps with a sign in front. -/
def EsDecimal (t : List UInt8) : Prop :=
  ∃ signo ∈ [[], ascii "-", ascii "+"], ∃ cifras, cifras ≠ [] ∧ (∀ b ∈ cifras, isdigit b) ∧
    t = signo ++ cifras

/-- The operand is of the kind. -/
def Clase.Admite : Clase → List UInt8 → Prop
  | .registro, t => ∃ r : Registro, t = r.nombre
  | .numero, t => EsDecimal t
  | .nombre, t => t ≠ []

/-- The mnemonics, with the kinds of their operands. The last three are those of earlier
versions. -/
def firmas : List (String × List Clase) :=
  [("SET", [.registro, .numero]), ("JNZ", [.registro, .numero]),
    ("READ_MEM", [.registro, .registro]), ("WRITE_MEM", [.registro, .registro]),
    ("SUM", [.registro, .registro]), ("SUB", [.registro, .registro]),
    ("LOG", [.numero]), ("IO", [.numero]), ("THREAD_JOIN", [.numero]),
    ("THREAD_CANCEL", [.numero]), ("PROCESS_CREATE", [.nombre, .registro, .registro]),
    ("THREAD_CREATE", [.nombre, .registro]), ("MUTEX_CREATE", [.nombre]),
    ("MUTEX_LOCK", [.nombre]), ("MUTEX_UNLOCK", [.nombre]), ("DUMP_MEMORY", []),
    ("THREAD_EXIT", []), ("PROCESS_EXIT", []), ("RESIZE", []), ("COPY_STRING", []), ("WAIT", [])]

/-- A known mnemonic with the number and the kinds of its operands. -/
def BienFormada (texto : CString) : Prop :=
  ∃ firma ∈ firmas, ∃ operandos, tokens 32 texto.bytes = ascii firma.1 :: operandos ∧
    List.Forall₂ Clase.Admite firma.2 operandos

theorem Numeral.admite (n : Numeral) : Clase.numero.Admite n.cifras :=
  ⟨[], List.mem_cons_self, n.cifras, n.ne_nil, n.isdigit, rfl⟩

/-- Every text of an instruction is well formed. -/
theorem bienFormada_texto {renglon : Renglon} {texto : CString} (h : Texto renglon texto) :
    BienFormada texto := by
  have htokens : tokens 32 texto.bytes = renglon.mnemonico :: renglon.argumentos :=
    tokens_of_spaced h (isToken_mnemonico renglon) (isToken_argumentos renglon)
  have hfirma (nombre : String) (clases : List Clase) (hmem : (nombre, clases) ∈ firmas)
      (hnombre : renglon.mnemonico = ascii nombre)
      (hops : List.Forall₂ Clase.Admite clases renglon.argumentos) : BienFormada texto :=
    ⟨(nombre, clases), hmem, renglon.argumentos, hnombre ▸ htokens, hops⟩
  cases renglon with
  | set r v =>
    exact hfirma "SET" [.registro, .numero] (by decide) rfl
      (.cons ⟨r, rfl⟩ (.cons v.admite .nil))
  | jnz r v =>
    exact hfirma "JNZ" [.registro, .numero] (by decide) rfl
      (.cons ⟨r, rfl⟩ (.cons v.admite .nil))
  | readMem r₁ r₂ =>
    exact hfirma "READ_MEM" [.registro, .registro] (by decide) rfl
      (.cons ⟨r₁, rfl⟩ (.cons ⟨r₂, rfl⟩ .nil))
  | writeMem r₁ r₂ =>
    exact hfirma "WRITE_MEM" [.registro, .registro] (by decide) rfl
      (.cons ⟨r₁, rfl⟩ (.cons ⟨r₂, rfl⟩ .nil))
  | sum r₁ r₂ =>
    exact hfirma "SUM" [.registro, .registro] (by decide) rfl
      (.cons ⟨r₁, rfl⟩ (.cons ⟨r₂, rfl⟩ .nil))
  | sub r₁ r₂ =>
    exact hfirma "SUB" [.registro, .registro] (by decide) rfl
      (.cons ⟨r₁, rfl⟩ (.cons ⟨r₂, rfl⟩ .nil))
  | log n => exact hfirma "LOG" [.numero] (by decide) rfl (.cons n.admite .nil)
  | io n => exact hfirma "IO" [.numero] (by decide) rfl (.cons n.admite .nil)
  | threadJoin n => exact hfirma "THREAD_JOIN" [.numero] (by decide) rfl (.cons n.admite .nil)
  | threadCancel n => exact hfirma "THREAD_CANCEL" [.numero] (by decide) rfl (.cons n.admite .nil)
  | processCreate f r₁ r₂ =>
    exact hfirma "PROCESS_CREATE" [.nombre, .registro, .registro] (by decide) rfl
      (.cons f.ne_nil (.cons ⟨r₁, rfl⟩ (.cons ⟨r₂, rfl⟩ .nil)))
  | threadCreate f r =>
    exact hfirma "THREAD_CREATE" [.nombre, .registro] (by decide) rfl
      (.cons f.ne_nil (.cons ⟨r, rfl⟩ .nil))
  | mutexCreate s => exact hfirma "MUTEX_CREATE" [.nombre] (by decide) rfl (.cons s.ne_nil .nil)
  | mutexLock s => exact hfirma "MUTEX_LOCK" [.nombre] (by decide) rfl (.cons s.ne_nil .nil)
  | mutexUnlock s => exact hfirma "MUTEX_UNLOCK" [.nombre] (by decide) rfl (.cons s.ne_nil .nil)
  | dumpMemory => exact hfirma "DUMP_MEMORY" [] (by decide) rfl .nil
  | threadExit => exact hfirma "THREAD_EXIT" [] (by decide) rfl .nil
  | processExit => exact hfirma "PROCESS_EXIT" [] (by decide) rfl .nil

theorem strtok_eq (texto : CString) :
    strtok texto = (tokens 32 texto.bytes).map CString.ofBytes := rfl

/-! ## What the execution needs -/

/-- The operands that the execution of an instruction needs. `SUB` looks at its pointers
first. -/
def Completa (codigo : Instruccion) (operandos : List CString) : Prop :=
  match codigo with
  | .set | .jnz => (registroEn operandos 0).isSome
  | .readMem | .writeMem | .sum =>
    (registroEn operandos 0).isSome ∧ (registroEn operandos 1).isSome
  | .processCreate => (registroEn operandos 1).isSome ∧ (registroEn operandos 2).isSome
  -- the log follows a pointer that no operand fills
  | .threadCreate => False
  | .mutexCreate | .mutexLock | .mutexUnlock => operandos ≠ []
  | _ => True

/-- The registers after the instruction are the registers before it: what it writes is
what is there. -/
def Conserva (respuesta : UInt32) (registros : Registros) (codigo : Instruccion)
    (operandos : List CString) : Prop :=
  match codigo with
  | .set => ∀ r, registroEn operandos 0 = some r → valor registros r = numeroEn operandos[1]?
  | .jnz => ∀ r, registroEn operandos 0 = some r →
      valor registros r = 0 ∨ registros.PC = numeroEn operandos[1]?
  | .readMem => ∀ r, registroEn operandos 0 = some r → valor registros r = respuesta
  | .sum | .sub => ∀ r₁ r₂, registroEn operandos 0 = some r₁ → registroEn operandos 1 = some r₂ →
      valor registros r₂ = 0
  | _ => True

theorem asignar_eq_self_iff {registros : Registros} {r : Registro} {v : UInt32} :
    asignar registros r v = registros ↔ valor registros r = v := by
  constructor
  · intro h
    rw [← h, valor_asignar, if_pos rfl]
  · rintro rfl
    cases r <;> rfl

section

variable (g : Mem) (respuesta PID TID : UInt32) (registros : Registros) (bufferRetorno : TBuffer)
  (codigo : Instruccion) (ops : List CString)

/-- No `NULL` pointer is followed exactly when the operands are there. -/
theorem executeInstruccion_isSome_iff :
    (executeInstruccion g respuesta (leida codigo ops) PID TID registros bufferRetorno).isSome ↔
      Completa codigo ops := by
  unfold executeInstruccion leida Completa
  cases codigo <;> dsimp only
  case set | jnz => cases registroEn ops 0 <;> simp
  case readMem | sum | sub => cases registroEn ops 0 <;> cases registroEn ops 1 <;> simp
  case writeMem =>
    cases registroEn ops 0 <;> cases registroEn ops 1 <;>
      by_cases hneg : respuesta.toInt32 < 0 <;> simp [hneg]
  case processCreate =>
    -- the file stands in front of the registers
    cases ops with
    | nil => simp [registroEn]
    | cons archivo ops =>
      cases registroEn (archivo :: ops) 1 <;> cases registroEn (archivo :: ops) 2 <;> simp
  case threadCreate => cases registroEn ops 1 <;> simp [inicializarInstruccion]
  case mutexCreate | mutexLock | mutexUnlock =>
    cases hlast : ops.getLast? <;> simp [← List.getLast?_eq_none_iff, hlast]
  all_goals exact ⟨fun _ => trivial, fun _ => rfl⟩

/-- What an execution that completes leaves in the registers. -/
theorem executeInstruccion_conserva_iff {e : Ejecucion}
    (he : executeInstruccion g respuesta (leida codigo ops) PID TID registros bufferRetorno =
      some e) : e.registros = registros ↔ Conserva respuesta registros codigo ops := by
  unfold executeInstruccion leida at he
  unfold Conserva
  cases codigo <;> dsimp only at he ⊢
  case set =>
    obtain ⟨r, hr, he⟩ := Option.bind_eq_some_iff.mp he
    obtain rfl := Option.some.inj he
    rw [hr]
    simp [asignar_eq_self_iff]
  case readMem =>
    obtain ⟨_, _, he⟩ := Option.bind_eq_some_iff.mp he
    obtain ⟨r, hr, he⟩ := Option.bind_eq_some_iff.mp he
    obtain rfl := Option.some.inj he
    rw [hr]
    simp [asignar_eq_self_iff]
  case sum =>
    obtain ⟨r₁, hr₁, he⟩ := Option.bind_eq_some_iff.mp he
    obtain ⟨r₂, hr₂, he⟩ := Option.bind_eq_some_iff.mp he
    obtain rfl := Option.some.inj he
    rw [hr₁, hr₂]
    -- a sum is its first term when the second one is zero
    simp [asignar_eq_self_iff, left_eq_add]
  case sub =>
    split at he
    · rename_i r₁ r₂ hr₁ hr₂
      obtain rfl := Option.some.inj he
      rw [hr₁, hr₂]
      simp [asignar_eq_self_iff, eq_comm (b := valor registros r₁ - _), sub_eq_self]
    · rename_i hno
      obtain rfl := Option.some.inj he
      exact ⟨fun _ r₁ r₂ hr₁ hr₂ => (hno r₁ r₂ hr₁ hr₂).elim, fun _ => rfl⟩
  case jnz =>
    obtain ⟨r, hr, he⟩ := Option.bind_eq_some_iff.mp he
    obtain rfl := Option.some.inj he
    rw [hr]
    by_cases hcero : valor registros r = 0
    · simp [hcero]
    · have hPC : { registros with PC := numeroEn ops[1]? } = registros ↔
          registros.PC = numeroEn ops[1]? :=
        asignar_eq_self_iff (r := .PC)
      simp [hcero, hPC]
  all_goals grind [Option.bind_eq_some_iff]

end

/-! ## Well-formed instructions -/

/-- The kinds of operands stand where the execution looks for a register or a string. -/
def Alcanza (codigo : Instruccion) (clases : List Clase) : Bool :=
  match codigo with
  | .set | .jnz => clases[0]? = some .registro
  | .readMem | .writeMem | .sum => clases[0]? = some .registro ∧ clases[1]? = some .registro
  | .processCreate => clases[1]? = some .registro ∧ clases[2]? = some .registro
  | .threadCreate => false
  | .mutexCreate | .mutexLock | .mutexUnlock => clases ≠ []
  | _ => true

theorem alcanza_firmas : ∀ firma ∈ firmas, ascii firma.1 ≠ ascii "THREAD_CREATE" →
    Alcanza (obtenerInstruccion (CString.ofBytes (ascii firma.1))) firma.2 := by
  decide

theorem obtenerInstruccion_threadCreate :
    obtenerInstruccion (CString.ofBytes (ascii "THREAD_CREATE")) = .threadCreate := by
  decide

section

variable {clases : List Clase} {ops : List (List UInt8)}

theorem registroEn_isSome (hops : List.Forall₂ Clase.Admite clases ops) {i : ℕ}
    (hi : clases[i]? = some .registro) : (registroEn (ops.map CString.ofBytes) i).isSome := by
  obtain ⟨hlt, hclase⟩ := List.getElem?_eq_some_iff.mp hi
  have hlt' : i < ops.length := hops.length_eq ▸ hlt
  have hadmite := hops.get hlt hlt'
  rw [List.get_eq_getElem, hclase] at hadmite
  obtain ⟨r, hr⟩ := hadmite
  unfold registroEn
  rw [List.getElem?_map, List.getElem?_eq_getElem hlt']
  show (obtenerRegistro (CString.ofBytes (ops.get ⟨i, hlt'⟩))).isSome
  rw [hr, obtenerRegistro_nombre]
  rfl

/-- Operands of the right kinds are enough. -/
theorem completa_of_alcanza (hops : List.Forall₂ Clase.Admite clases ops) {codigo : Instruccion}
    (h : Alcanza codigo clases) : Completa codigo (ops.map CString.ofBytes) := by
  unfold Alcanza at h
  unfold Completa
  cases codigo <;> dsimp only at h ⊢
  case set | jnz => exact registroEn_isSome hops (of_decide_eq_true h)
  case readMem | writeMem | sum | processCreate =>
    obtain ⟨h₁, h₂⟩ := of_decide_eq_true h
    exact ⟨registroEn_isSome hops h₁, registroEn_isSome hops h₂⟩
  case threadCreate => cases h
  case mutexCreate | mutexLock | mutexUnlock =>
    intro hnil
    obtain rfl := List.map_eq_nil_iff.mp hnil
    exact of_decide_eq_true h (List.forall₂_nil_right_iff.mp hops)

end

/-- **Exactly which well-formed instructions are safe**: for every well-formed text, every
register file and every reply of memoria, the execution of what is decoded completes,
without following a `NULL` pointer, if and only if the mnemonic is not `THREAD_CREATE`. -/
theorem executeInstruccion_bienFormada_iff (g : Mem) (respuesta PID TID : UInt32)
    (registros : Registros) (bufferRetorno : TBuffer) (texto : CString)
    (h : BienFormada texto) :
    (executeInstruccion g respuesta (decodeInstruccion texto) PID TID registros
        bufferRetorno).isSome ↔
      (tokens 32 texto.bytes).head? ≠ some (ascii "THREAD_CREATE") := by
  obtain ⟨firma, hfirma, ops, htokens, hops⟩ := h
  have hstrtok : strtok texto = CString.ofBytes (ascii firma.1) :: ops.map CString.ofBytes := by
    rw [strtok_eq, htokens, List.map_cons]
  rw [decodeInstruccion_eq hstrtok, executeInstruccion_isSome_iff, htokens, List.head?_cons,
    ne_eq, Option.some.injEq]
  constructor
  · intro hcompleta heq
    rw [heq, obtenerInstruccion_threadCreate] at hcompleta
    exact hcompleta
  · intro hne
    exact completa_of_alcanza hops (alcanza_firmas firma hfirma hne)

/-- `SUM AX LIMITE` is executed in every state. -/
theorem executeInstruccion_bienFormada_sum :
    (executeInstruccion (fun _ => 0) 0 (decodeInstruccion (CString.ofBytes (ascii "SUM AX LIMITE")))
      3 1 ⟨0, 0, 0, 0, 0, 0, 0, 0, 0, 0, 0⟩ (bufferCreate (fun _ => 0) 0)).isSome :=
  (executeInstruccion_bienFormada_iff (fun _ => 0) 0 3 1 ⟨0, 0, 0, 0, 0, 0, 0, 0, 0, 0, 0⟩
    (bufferCreate (fun _ => 0) 0) (CString.ofBytes (ascii "SUM AX LIMITE"))
    ⟨("SUM", [.registro, .registro]), by decide, [ascii "AX", ascii "LIMITE"], by decide,
      .cons ⟨.AX, rfl⟩ (.cons ⟨.LIMITE, rfl⟩ .nil)⟩).mpr (by decide)

/-- `THREAD_CREATE hilo AX` is well formed, and its log follows the `NULL` that the parser
leaves in `registro2`. -/
theorem not_executeInstruccion_bienFormada :
    BienFormada (CString.ofBytes (ascii "THREAD_CREATE hilo AX")) ∧
      executeInstruccion (fun _ => 0) 0
        (decodeInstruccion (CString.ofBytes (ascii "THREAD_CREATE hilo AX"))) 3 1
        ⟨0, 0, 0, 0, 0, 0, 0, 0, 0, 0, 0⟩ (bufferCreate (fun _ => 0) 0) = none := by
  refine ⟨⟨("THREAD_CREATE", [.nombre, .registro]), by decide, [ascii "hilo", ascii "AX"],
    by decide, .cons ?_ (.cons ⟨.AX, rfl⟩ .nil)⟩, ?_⟩
  · show ascii "hilo" ≠ []
    decide
  · have hnone : ∀ o : Option Ejecucion, o.isSome = false → o = none := by simp
    exact hnone _ (by decide)

/-! ## Malformed instructions -/

/-- The text does no harm: its execution follows no `NULL` pointer and changes no
register. -/
def Inocua (g : Mem) (respuesta PID TID : UInt32) (registros : Registros) (bufferRetorno : TBuffer)
    (texto : CString) : Prop :=
  ∃ e, executeInstruccion g respuesta (decodeInstruccion texto) PID TID registros bufferRetorno =
    some e ∧ e.registros = registros

/-- Where that is so: there is a mnemonic, the operands that its execution needs are there,
and it writes what the register holds. -/
def Inofensiva (respuesta : UInt32) (registros : Registros) : List CString → Prop
  | [] => False
  | token :: operandos =>
    Completa (obtenerInstruccion token) operandos ∧
      Conserva respuesta registros (obtenerInstruccion token) operandos

/-- **Exactly which texts do no harm**: for every text, malformed or not, and every register
file. -/
theorem inocua_iff (g : Mem) (respuesta PID TID : UInt32) (registros : Registros)
    (bufferRetorno : TBuffer) (texto : CString) :
    Inocua g respuesta PID TID registros bufferRetorno texto ↔
      Inofensiva respuesta registros (strtok texto) := by
  unfold Inocua
  cases hstrtok : strtok texto with
  | nil =>
    -- no token is a `SET` without a register
    rw [decodeInstruccion_nil hstrtok]
    constructor
    · rintro ⟨e, he, -⟩
      have hcompleta := (executeInstruccion_isSome_iff g respuesta PID TID registros
        bufferRetorno .set []).mp (by rw [he]; rfl)
      cases hcompleta
    · exact False.elim
  | cons token ops =>
    rw [decodeInstruccion_eq hstrtok]
    constructor
    · rintro ⟨e, he, hregistros⟩
      refine ⟨(executeInstruccion_isSome_iff g respuesta PID TID registros bufferRetorno _
        ops).mp (by rw [he]; rfl), ?_⟩
      exact (executeInstruccion_conserva_iff g respuesta PID TID registros bufferRetorno _ ops
        he).mp hregistros
    · rintro ⟨hcompleta, hconserva⟩
      obtain ⟨e, he⟩ := Option.isSome_iff_exists.mp ((executeInstruccion_isSome_iff g respuesta
        PID TID registros bufferRetorno _ ops).mpr hcompleta)
      exact ⟨e, he, (executeInstruccion_conserva_iff g respuesta PID TID registros
        bufferRetorno _ ops he).mpr hconserva⟩

theorem inofensiva_desconocida {respuesta : UInt32} {registros : Registros} {token : CString}
    {ops : List CString} (h : obtenerInstruccion token = .invalidInstruction) :
    Inofensiva respuesta registros (token :: ops) := by
  show Completa (obtenerInstruccion token) ops ∧
    Conserva respuesta registros (obtenerInstruccion token) ops
  rw [h]
  exact ⟨trivial, trivial⟩

/-- A text of two spaces is a `SET` through `NULL`. `SET AX`, without a number, writes
zero. -/
theorem not_inocua_espacios :
    (¬ BienFormada (CString.ofBytes (ascii "  ")) ∧
      ¬ Inocua (fun _ => 0) 0 3 1 ⟨0, 5, 0, 0, 0, 0, 0, 0, 0, 0, 0⟩ (bufferCreate (fun _ => 0) 0)
        (CString.ofBytes (ascii "  "))) ∧
      ¬ BienFormada (CString.ofBytes (ascii "SET AX")) ∧
      ¬ Inocua (fun _ => 0) 0 3 1 ⟨0, 5, 0, 0, 0, 0, 0, 0, 0, 0, 0⟩ (bufferCreate (fun _ => 0) 0)
        (CString.ofBytes (ascii "SET AX")) := by
  refine ⟨⟨?_, ?_⟩, ?_, ?_⟩
  · rintro ⟨firma, -, ops, htokens, -⟩
    have hnil : tokens 32 (CString.ofBytes (ascii "  ")).bytes = [] := by decide
    cases hnil.symm.trans htokens
  · rintro ⟨e, he, -⟩
    have hnone : (executeInstruccion (fun _ => 0) 0
        (decodeInstruccion (CString.ofBytes (ascii "  "))) 3 1 ⟨0, 5, 0, 0, 0, 0, 0, 0, 0, 0, 0⟩
        (bufferCreate (fun _ => 0) 0)).isSome = false := by decide
    rw [he] at hnone
    cases hnone
  · rintro ⟨firma, hfirma, ops, htokens, hops⟩
    have hdos : tokens 32 (CString.ofBytes (ascii "SET AX")).bytes = [ascii "SET", ascii "AX"] := by
      decide
    obtain ⟨hset, rfl⟩ := List.cons.inj (hdos.symm.trans htokens)
    have hclases : ∀ firma ∈ firmas, ascii "SET" = ascii firma.1 → firma.2.length = 2 := by
      decide
    have hlength := hops.length_eq
    rw [hclases firma hfirma hset] at hlength
    cases hlength
  · rintro ⟨e, he, hregistros⟩
    have hcero : (executeInstruccion (fun _ => 0) 0
        (decodeInstruccion (CString.ofBytes (ascii "SET AX"))) 3 1
        ⟨0, 5, 0, 0, 0, 0, 0, 0, 0, 0, 0⟩ (bufferCreate (fun _ => 0) 0)).map
        Ejecucion.registros = some ⟨0, 0, 0, 0, 0, 0, 0, 0, 0, 0, 0⟩ := by decide
    rw [he, Option.map_some, hregistros] at hcero
    exact absurd hcero (by decide)

end SoTp.Cpu
