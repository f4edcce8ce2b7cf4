import SoTp.Cpu.Decode
import SoTp.Lib.Tokens

/-!
# The text of an instruction

An instruction as a program writes it: a mnemonic and its operands, separated by
spaces. `decodeInstruccion` (`cpu/src/cpu.c`, lines 180–355) reads it back.

* `atoi_numeral`: the number that `atoi` reads in a decimal numeral.
* `decodeInstruccion_texto`: **every instruction is read back from every one of its
  texts**.
-/

namespace SoTp.Cpu

open SoTp.Lib SoTp.Utils

/-! ## Operands -/

/-- The number that decimal digits stand for, the last of them for units. -/
def numero (cifras : List UInt8) : ℕ :=
  Nat.ofDigits 10 (cifras.reverse.map fun b => b.toNat - 48)

/-- A decimal numeral of a number below 2^31; zeros may lead. -/
structure Numeral where
  cifras : List UInt8
  ne_nil : cifras ≠ []
  isdigit : ∀ b ∈ cifras, isdigit b
  menor : numero cifras < 2 ^ 31

/-- A name of a file or a resource. -/
structure Nombre where
  texto : CString
  ne_nil : texto.bytes ≠ []
  sinEspacio : (32 : UInt8) ∉ texto.bytes

/-- The value of a numeral. -/
def Numeral.valor (n : Numeral) : UInt32 := UInt32.ofNat (numero n.cifras)

/-- How a program writes a register. -/
def Registro.nombre : Registro → List UInt8
  | .PC => ascii "PC"
  | .AX => ascii "AX"
  | .BX => ascii "BX"
  | .CX => ascii "CX"
  | .DX => ascii "DX"
  | .EX => ascii "EX"
  | .FX => ascii "FX"
  | .GX => ascii "GX"
  | .HX => ascii "HX"
  | .BASE => ascii "BASE"
  | .LIMITE => ascii "LIMITE"

/-! ## Instructions -/

/-- The instruction set, with operands. -/
inductive Renglon where
  | set (r : Registro) (v : Numeral)
  | jnz (r : Registro) (v : Numeral)
  | readMem (r₁ r₂ : Registro)
  | writeMem (r₁ r₂ : Registro)
  | sum (r₁ r₂ : Registro)
  | sub (r₁ r₂ : Registro)
  | log (n : Numeral)
  | io (n : Numeral)
  | threadJoin (n : Numeral)
  | threadCancel (n : Numeral)
  | processCreate (f : Nombre) (r₁ r₂ : Registro)
  | threadCreate (f : Nombre) (r : Registro)
  | mutexCreate (s : Nombre)
  | mutexLock (s : Nombre)
  | mutexUnlock (s : Nombre)
  | dumpMemory
  | threadExit
  | processExit

/-- The mnemonic. -/
def Renglon.mnemonico : Renglon → List UInt8
  | .set _ _ => ascii "SET"
  | .jnz _ _ => ascii "JNZ"
  | .readMem _ _ => ascii "READ_MEM"
  | .writeMem _ _ => ascii "WRITE_MEM"
  | .sum _ _ => ascii "SUM"
  | .sub _ _ => ascii "SUB"
  | .log _ => ascii "LOG"
  | .io _ => ascii "IO"
  | .threadJoin _ => ascii "THREAD_JOIN"
  | .threadCancel _ => ascii "THREAD_CANCEL"
  | .processCreate _ _ _ => ascii "PROCESS_CREATE"
  | .threadCreate _ _ => ascii "THREAD_CREATE"
  | .mutexCreate _ => ascii "MUTEX_CREATE"
  | .mutexLock _ => ascii "MUTEX_LOCK"
  | .mutexUnlock _ => ascii "MUTEX_UNLOCK"
  | .dumpMemory => ascii "DUMP_MEMORY"
  | .threadExit => ascii "THREAD_EXIT"
  | .processExit => ascii "PROCESS_EXIT"

/-- The operands behind the mnemonic. -/
def Renglon.argumentos : Renglon → List (List UInt8)
  | .set r v => [r.nombre, v.cifras]
  | .jnz r v => [r.nombre, v.cifras]
  | .readMem r₁ r₂ => [r₁.nombre, r₂.nombre]
  | .writeMem r₁ r₂ => [r₁.nombre, r₂.nombre]
  | .sum r₁ r₂ => [r₁.nombre, r₂.nombre]
  | .sub r₁ r₂ => [r₁.nombre, r₂.nombre]
  | .log n => [n.cifras]
  | .io n => [n.cifras]
  | .threadJoin n => [n.cifras]
  | .threadCancel n => [n.cifras]
  | .processCreate f r₁ r₂ => [f.texto.bytes, r₁.nombre, r₂.nombre]
  | .threadCreate f r => [f.texto.bytes, r.nombre]
  | .mutexCreate s => [s.texto.bytes]
  | .mutexLock s => [s.texto.bytes]
  | .mutexUnlock s => [s.texto.bytes]
  | .dumpMemory => []
  | .threadExit => []
  | .processExit => []

/-- What an instruction is when it has been read. -/
def Renglon.decodificada : Renglon → TInstruccion
  | .set r v =>
    { inicializarInstruccion with instruccion := .set, registro1 := some r, valor := v.valor }
  | .jnz r v =>
    { inicializarInstruccion with
      instruccion := .jnz, registro1 := some r, registro2 := some .PC, valor := v.valor }
  | .readMem r₁ r₂ =>
    { inicializarInstruccion with
      instruccion := .readMem, registro1 := some r₁, registro2 := some r₂ }
  | .writeMem r₁ r₂ =>
    { inicializarInstruccion with
      instruccion := .writeMem, registro1 := some r₁, registro2 := some r₂ }
  | .sum r₁ r₂ =>
    { inicializarInstruccion with
      instruccion := .sum, registro1 := some r₁, registro2 := some r₂ }
  | .sub r₁ r₂ =>
    { inicializarInstruccion with
      instruccion := .sub, registro1 := some r₁, registro2 := some r₂ }
  | .log n => { inicializarInstruccion with instruccion := .log, valor := n.valor }
  | .io n => { inicializarInstruccion with instruccion := .io, valor := n.valor }
  | .threadJoin n => { inicializarInstruccion with instruccion := .threadJoin, valor := n.valor }
  | .threadCancel n =>
    { inicializarInstruccion with instruccion := .threadCancel, valor := n.valor }
  | .processCreate f r₁ r₂ =>
    { inicializarInstruccion with
      instruccion := .processCreate
      registro1 := some r₁
      registro2 := some r₂
      archivo := some f.texto }
  | .threadCreate f r =>
    { inicializarInstruccion with
      instruccion := .threadCreate, registro1 := some r, archivo := some f.texto }
  | .mutexCreate s =>
    { inicializarInstruccion with instruccion := .mutexCreate, recurso := some s.texto }
  | .mutexLock s =>
    { inicializarInstruccion with instruccion := .mutexLock, recurso := some s.texto }
  | .mutexUnlock s =>
    { inicializarInstruccion with instruccion := .mutexUnlock, recurso := some s.texto }
  | .dumpMemory => { inicializarInstruccion with instruccion := .dumpMemory }
  | .threadExit => { inicializarInstruccion with instruccion := .threadExit }
  | .processExit => { inicializarInstruccion with instruccion := .processExit }

/-- A text of an instruction: spaces in front, between and behind. -/
def Texto (renglon : Renglon) (texto : CString) : Prop :=
  Spaced 32 renglon.mnemonico renglon.argumentos texto.bytes

/-! ## Reading operands -/

theorem toNat_of_isdigit {b : UInt8} (h : isdigit b) : 48 ≤ b.toNat ∧ b.toNat ≤ 57 := by
  unfold isdigit at h
  rw [Bool.and_eq_true_iff] at h
  exact ⟨UInt8.le_iff_toNat_le.mp (of_decide_eq_true h.1),
    UInt8.le_iff_toNat_le.mp (of_decide_eq_true h.2)⟩

theorem foldl_numero (cifras : List UInt8) :
    cifras.foldl (fun n b => 10 * n + (b.toNat - 48)) 0 = numero cifras := by
  unfold numero
  rw [Nat.ofDigits_eq_foldr, List.foldr_map, List.foldr_reverse]
  congr 1
  funext n b
  show 10 * n + (b.toNat - 48) = (b.toNat - 48) + 10 * n
  exact Nat.add_comm _ _

theorem notMem_of_isdigit {cifras : List UInt8} (h : ∀ b ∈ cifras, isdigit b) {c : UInt8}
    (hc : c.toNat < 48) : c ∉ cifras := by
  intro hmem
  have hle := (toNat_of_isdigit (h c hmem)).1
  omega

/-- On digits `atoi` skips no blank and reads no sign. -/
theorem atoi_of_isdigit {token : CString} (hne : token.bytes ≠ [])
    (h : ∀ b ∈ token.bytes, isdigit b) :
    atoi token = Int32.ofInt (min (2 ^ 63 - 1) (numero token.bytes)) := by
  obtain ⟨b, bs, hbytes⟩ := List.exists_cons_of_ne_nil hne
  have hdigit : isdigit b := h b (hbytes ▸ List.mem_cons_self)
  obtain ⟨hmin, hmax⟩ := toNat_of_isdigit hdigit
  have hspace : isspace b = false := by
    unfold isspace
    have hne32 : b ≠ 32 := fun heq => by rw [heq] at hmin; exact absurd hmin (by decide)
    have hlt : ¬ b ≤ 13 := fun hle => by
      have := UInt8.le_iff_toNat_le.mp hle
      exact absurd (le_trans hmin this) (by decide)
    simp [hne32, hlt]
  have hdrop : token.bytes.dropWhile isspace = b :: bs := by
    rw [hbytes, List.dropWhile_cons_of_neg (by simp [hspace])]
  have htake : (b :: bs).takeWhile isdigit = token.bytes := by
    rw [← hbytes]
    exact List.takeWhile_eq_self_iff.mpr h
  unfold atoi
  dsimp only
  rw [hdrop]
  -- neither `-` nor `+` is a digit
  split
  · rename_i heq
    rw [(List.cons.inj heq).1] at hmin
    exact absurd hmin (by decide)
  · rename_i heq
    rw [(List.cons.inj heq).1] at hmin
    exact absurd hmin (by decide)
  · rw [htake, foldl_numero, if_neg Bool.false_ne_true]

/-- `atoi` of a numeral. -/
theorem atoi_numeral (n : Numeral) :
    (atoi (CString.ofBytes n.cifras)).toUInt32 = n.valor := by
  have hbytes : (CString.ofBytes n.cifras).bytes = n.cifras :=
    CString.bytes_ofBytes (notMem_of_isdigit n.isdigit (by decide))
  have hmenor := n.menor
  have hne : (CString.ofBytes n.cifras).bytes ≠ [] := by
    rw [hbytes]
    exact n.ne_nil
  have hdigits : ∀ b ∈ (CString.ofBytes n.cifras).bytes, isdigit b := by
    rw [hbytes]
    exact n.isdigit
  rw [atoi_of_isdigit hne hdigits, hbytes, min_eq_right (by omega)]
  rw [Int32.ofInt_eq_ofNat]
  exact Int32.toUInt32_ofNat'

theorem obtenerRegistro_nombre (r : Registro) :
    obtenerRegistro (CString.ofBytes r.nombre) = some r := by
  cases r <;> decide

/-! ## Reading tokens -/

theorem isToken_nombre (r : Registro) : IsToken 32 r.nombre := by
  cases r <;> exact ⟨by decide, by decide⟩

theorem isToken_mnemonico (renglon : Renglon) : IsToken 32 renglon.mnemonico := by
  cases renglon <;> simp only [Renglon.mnemonico] <;> exact ⟨by decide, by decide⟩

theorem Numeral.isToken (n : Numeral) : IsToken 32 n.cifras :=
  ⟨n.ne_nil, notMem_of_isdigit n.isdigit (by decide)⟩

theorem Nombre.isToken (f : Nombre) : IsToken 32 f.texto.bytes := ⟨f.ne_nil, f.sinEspacio⟩

theorem isToken_argumentos (renglon : Renglon) :
    ∀ t ∈ renglon.argumentos, IsToken 32 t := by
  cases renglon <;>
    simp [Renglon.argumentos, isToken_nombre, Numeral.isToken, Nombre.isToken]

theorem strtok_texto {renglon : Renglon} {texto : CString} (h : Texto renglon texto) :
    strtok texto = (renglon.mnemonico :: renglon.argumentos).map CString.ofBytes :=
  congrArg (List.map CString.ofBytes)
    (tokens_of_spaced h (isToken_mnemonico renglon) (isToken_argumentos renglon))

theorem obtenerInstruccion_mnemonico (renglon : Renglon) :
    obtenerInstruccion (CString.ofBytes renglon.mnemonico) =
      renglon.decodificada.instruccion := by
  cases renglon <;> simp only [Renglon.mnemonico, Renglon.decodificada] <;> decide

/-! ## The instruction set -/

/-- **Decoding undoes writing.** For every instruction, and every text of it, the
decoder returns its code and its operands, and zero or `NULL` in every other
field. -/
theorem decodeInstruccion_texto (renglon : Renglon) (texto : CString)
    (h : Texto renglon texto) : decodeInstruccion texto = renglon.decodificada := by
  have hstrtok := strtok_texto h
  rw [List.map_cons] at hstrtok
  rw [decodeInstruccion_eq hstrtok, obtenerInstruccion_mnemonico]
  -- the operands of each instruction, one by one
  cases renglon <;>
    simp [Renglon.decodificada, Renglon.argumentos, leida, registroEn, numeroEn,
      obtenerRegistro_nombre, atoi_numeral]

/-- Spaces in front, two in the middle, one behind, and zeros in front of a number. -/
theorem decodeInstruccion_texto_set :
    decodeInstruccion (CString.ofBytes (ascii " SET  AX 007 ")) =
      { inicializarInstruccion with instruccion := .set, registro1 := some .AX, valor := 7 } :=
  decodeInstruccion_texto (.set .AX ⟨ascii "007", by decide, by decide +kernel, by decide⟩) _
    ⟨1, _, .token 1 (ascii "AX") (.token 0 (ascii "007") (.fin 1)), rfl⟩

end SoTp.Cpu
