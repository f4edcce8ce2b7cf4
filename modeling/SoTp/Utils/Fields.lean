import SoTp.Utils.Buffer

/-!
# Sequences of wire fields

Every message body is a sequence of typed fields written in order with
`buffer_add_*` and read back in the same order with `buffer_read_*`
(`utils/src/commons.c`, lines 91–205).

* `addFields_written`: writing a sequence that fits appends its encoding.
* `readFields_unread`: reading the types of an encoded sequence returns it and
  leaves what follows it unread.
* `isPrefix_payload_iff`: what is sent contains the fields whole when they fit the
  size of the buffer, and only then.
* `readFields_addFields`: **the round trip**, for a buffer created with exactly
  the encoded length.
-/

namespace SoTp.Utils

open SoTp.Lib

/-- One field of a message, with the type its accessors have. -/
inductive Field
  | int (data : Int32)
  | uint32 (data : UInt32)
  | uint8 (data : UInt8)
  | string (data : CString)
deriving DecidableEq

/-- Which accessor reads a field. -/
inductive FieldType
  | int
  | uint32
  | uint8
  | string
deriving DecidableEq

namespace Field

/-- The accessor that reads the field back. -/
def type : Field → FieldType
  | int _ => .int
  | uint32 _ => .uint32
  | uint8 _ => .uint8
  | string _ => .string

/-- The encoded length: 4, 4, 1 and `4 + strlen`. -/
def width : Field → ℕ
  | int _ => 4
  | uint32 _ => 4
  | uint8 _ => 1
  | string s => 4 + s.length

/-- The encoding. -/
def bytes : Field → List UInt8
  | int data => bytesInt data
  | uint32 data => bytesUint32 data
  | uint8 data => [data]
  | string s => bytesInt (Int32.ofNat s.length) ++ s.bytes

@[simp] theorem length_bytes (f : Field) : f.bytes.length = f.width := by
  cases f <;> simp [bytes, width, CString.length]

end Field

/-- The encoded length of a sequence of fields. -/
def totalWidth (fields : List Field) : ℕ := (fields.map Field.width).sum

@[simp] theorem length_flatMap_bytes (fields : List Field) :
    (fields.flatMap Field.bytes).length = totalWidth fields := by
  simp [List.length_flatMap, totalWidth]

/-- `buffer_add_*` for the type of the field. -/
def addField (buffer : TBuffer) : Field → TBuffer
  | .int data => bufferAddInt buffer data
  | .uint32 data => bufferAddUint32 buffer data
  | .uint8 data => bufferAddUint8 buffer data
  | .string data => bufferAddString buffer data

/-- `buffer_read_*` for a type. -/
def readField (buffer : TBuffer) : FieldType → Field × TBuffer
  | .int => (bufferReadInt buffer).map Field.int id
  | .uint32 => (bufferReadUint32 buffer).map Field.uint32 id
  | .uint8 => (bufferReadUint8 buffer).map Field.uint8 id
  | .string => (bufferReadString buffer).map Field.string id

/-- A run of `buffer_add_*` calls. -/
def addFields (buffer : TBuffer) (fields : List Field) : TBuffer := fields.foldl addField buffer

/-- A run of `buffer_read_*` calls. -/
def readFields (buffer : TBuffer) : List FieldType → List Field × TBuffer
  | [] => ([], buffer)
  | t :: ts =>
    let (field, buffer) := readField buffer t
    let (fields, buffer) := readFields buffer ts
    (field :: fields, buffer)

/-! ## Writing -/

@[simp] theorem addField_size (buffer : TBuffer) (f : Field) :
    (addField buffer f).size = buffer.size := by
  cases f <;> simp [addField, bufferAddUint8]

@[simp] theorem addField_cap (buffer : TBuffer) (f : Field) :
    (addField buffer f).stream.cap = buffer.stream.cap := by
  cases f with
  | string s =>
    unfold addField bufferAddString
    dsimp only
    split_ifs <;> rfl
  | _ => rfl

@[simp] theorem addFields_size (buffer : TBuffer) (fields : List Field) :
    (addFields buffer fields).size = buffer.size := by
  induction fields generalizing buffer with
  | nil => rfl
  | cons f fields ih => exact (ih (addField buffer f)).trans (addField_size buffer f)

@[simp] theorem addFields_cap (buffer : TBuffer) (fields : List Field) :
    (addFields buffer fields).stream.cap = buffer.stream.cap := by
  induction fields generalizing buffer with
  | nil => rfl
  | cons f fields ih => exact (ih (addField buffer f)).trans (addField_cap buffer f)

theorem addFields_append (buffer : TBuffer) (fields fields' : List Field) :
    addFields buffer (fields ++ fields') = addFields (addFields buffer fields) fields' :=
  List.foldl_append

/-- One field that fits is appended to what is written. -/
theorem addField_written {buffer : TBuffer} {bs : List UInt8} (h : Written buffer bs) (f : Field)
    (hcap : bs.length + f.width ≤ buffer.stream.cap) (hlt : buffer.stream.cap < 2 ^ 31) :
    Written (addField buffer f) (bs ++ f.bytes) := by
  have hlt' : buffer.stream.cap < 2 ^ 32 := by omega
  cases f with
  | int data => exact h.write _ (by simpa [Field.width] using hcap) hlt'
  | uint32 data => exact h.write _ (by simpa [Field.width] using hcap) hlt'
  | uint8 data => exact h.write _ (by simpa [Field.width] using hcap) hlt'
  | string s =>
    have hs : s.length = s.bytes.length := rfl
    simp only [Field.width] at hcap
    -- the length prefix first, then the characters
    have h₁ := h.write (bytesInt (Int32.ofNat s.length))
      (by rw [length_bytesInt]; omega) hlt'
    have h₂ := h₁.write s.bytes
      (by
        show _ ≤ buffer.stream.cap
        rw [List.length_append, length_bytesInt]
        omega) hlt'
    rw [addField, bufferAddString_eq buffer (by omega), Field.bytes, ← List.append_assoc]
    exact h₂

theorem addFields_written (fields : List Field) :
    ∀ {buffer : TBuffer} {bs : List UInt8}, Written buffer bs →
      bs.length + totalWidth fields ≤ buffer.stream.cap → buffer.stream.cap < 2 ^ 31 →
      Written (addFields buffer fields) (bs ++ fields.flatMap Field.bytes) := by
  induction fields with
  | nil => intro buffer bs h _ _; simpa [addFields] using h
  | cons f fields ih =>
    intro buffer bs h hcap hlt
    have hsum : totalWidth (f :: fields) = f.width + totalWidth fields := by simp [totalWidth]
    have h₁ := addField_written h f (by omega) hlt
    have h₂ := ih h₁ (by rw [addField_cap, List.length_append, Field.length_bytes]; omega)
      (by rwa [addField_cap])
    rw [List.flatMap_cons, ← List.append_assoc]
    exact h₂

/-- The bytes sent of a buffer that is created with some size and filled with fields
start with their encoding exactly when the fields fit that size. -/
theorem isPrefix_payload_iff (g : Mem) {size : Int32} (hsize : 0 ≤ size) (fields : List Field) :
    fields.flatMap Field.bytes <+: (addFields (bufferCreate g size) fields).payload ↔
      totalWidth fields ≤ size.toInt.toNat := by
  have hsz : (addFields (bufferCreate g size) fields).size.toNat = size.toInt.toNat := by
    rw [addFields_size]
    exact Int32.toNat_toUInt32_of_le hsize
  constructor
  · intro h
    have hlen := h.length_le
    rw [length_flatMap_bytes, TBuffer.length_payload, hsz] at hlen
    exact hlen
  · intro hfit
    have hlt : size.toInt.toNat < 2 ^ 31 := by
      have := size.toInt_lt
      omega
    have hw := addFields_written fields (bufferCreate_written g size)
      (by rw [List.length_nil, Nat.zero_add]; exact hfit) hlt
    have hcontents := hw.contents
    rw [List.nil_append] at hcontents
    unfold TBuffer.payload
    rw [← hcontents, length_flatMap_bytes, hsz, ← Mem.take_read _ _ hfit]
    exact List.take_prefix _ _

/-! ## Reading -/

theorem readField_unread {buffer : TBuffer} {f : Field} {cs : List UInt8}
    (hwidth : f.width < 2 ^ 31) (h : Unread buffer (f.bytes ++ cs)) :
    (readField buffer f.type).1 = f ∧ Unread (readField buffer f.type).2 cs := by
  cases f with
  | int data =>
    obtain ⟨hdata, hcs⟩ := bufferReadInt_unread h
    exact ⟨congrArg Field.int hdata, hcs⟩
  | uint32 data =>
    obtain ⟨hdata, hcs⟩ := bufferReadUint32_unread h
    exact ⟨congrArg Field.uint32 hdata, hcs⟩
  | uint8 data =>
    obtain ⟨hdata, hcs⟩ := bufferReadUint8_unread h
    exact ⟨congrArg Field.uint8 hdata, hcs⟩
  | string s =>
    rw [Field.bytes, List.append_assoc] at h
    obtain ⟨hdata, hcs⟩ := bufferReadString_unread (by simp only [Field.width] at hwidth; omega) h
    exact ⟨congrArg Field.string hdata, hcs⟩

@[simp] theorem readField_size (buffer : TBuffer) (t : FieldType) :
    (readField buffer t).2.size = buffer.size := by
  cases t <;> rfl

@[simp] theorem readFields_size (buffer : TBuffer) (ts : List FieldType) :
    (readFields buffer ts).2.size = buffer.size := by
  induction ts generalizing buffer with
  | nil => rfl
  | cons t ts ih => exact (ih (readField buffer t).2).trans (readField_size buffer t)

theorem readFields_unread (fields : List Field) :
    ∀ {buffer : TBuffer} {cs : List UInt8}, totalWidth fields < 2 ^ 31 →
      Unread buffer (fields.flatMap Field.bytes ++ cs) →
      (readFields buffer (fields.map Field.type)).1 = fields ∧
        Unread (readFields buffer (fields.map Field.type)).2 cs := by
  induction fields with
  | nil => intro buffer cs _ h; exact ⟨rfl, h⟩
  | cons f fields ih =>
    intro buffer cs hlt h
    have hsum : totalWidth (f :: fields) = f.width + totalWidth fields := by simp [totalWidth]
    rw [List.flatMap_cons, List.append_assoc] at h
    obtain ⟨hf, h₁⟩ := readField_unread (by omega) h
    obtain ⟨hfs, h₂⟩ := ih (by omega) h₁
    exact ⟨List.cons_eq_cons.mpr ⟨hf, hfs⟩, h₂⟩

/-! ## Round trip -/

/-- **Round trip of a field sequence.** A buffer created with exactly the
encoded length of the fields, filled with `buffer_add_*` and read back from
offset 0 with the matching `buffer_read_*`, returns the fields; the offset ends
at `size`, and no access has left the `size` bytes of the buffer. -/
theorem readFields_addFields (fields : List Field) (g : Mem) (size : Int32)
    (hsize : size.toInt = totalWidth fields) :
    let buffer := addFields (bufferCreate g size) fields
    let result := readFields buffer.rewind (fields.map Field.type)
    buffer.stream.cap = buffer.size.toNat ∧ buffer.size.toNat = totalWidth fields ∧
      buffer.overrun = false ∧ result.1 = fields ∧ result.2.offset = buffer.size ∧
      result.2.overrun = false := by
  intro buffer result
  have hnonneg : 0 ≤ size := by rw [Int32.le_iff_toInt_le, hsize]; simp
  have hlt : totalWidth fields < 2 ^ 31 := by
    have := size.toInt_lt
    omega
  have hcap₀ : (bufferCreate g size).stream.cap = totalWidth fields := by
    show size.toInt.toNat = _
    omega
  have hsize₀ : (bufferCreate g size).size.toNat = totalWidth fields := by
    show size.toUInt32.toNat = _
    rw [Int32.toNat_toUInt32_of_le hnonneg, ← hcap₀]
    rfl
  have hcap : buffer.stream.cap = totalWidth fields := (addFields_cap _ _).trans hcap₀
  have hsz : buffer.size.toNat = totalWidth fields := by rw [addFields_size, hsize₀]
  have hw : Written buffer (fields.flatMap Field.bytes) :=
    addFields_written fields (bufferCreate_written g size) (by rw [hcap₀]; simp) (by omega)
  have hu : Unread buffer.rewind (fields.flatMap Field.bytes ++ []) := by
    rw [List.append_nil]
    exact hw.unread (by rw [length_flatMap_bytes, hsz]) (by rw [hcap, hsz])
  obtain ⟨hfields, hend⟩ := readFields_unread fields hlt hu
  exact ⟨by rw [hcap, hsz], hsz, hw.inside, hfields,
    hend.offset_eq.trans (readFields_size buffer.rewind _), hend.inside⟩

/-- A buffer of 15 bytes for an `int`, a `uint8_t` and a string of 6 characters. -/
theorem readFields_addFields_fifteen :
    let fields : List Field := [.int (-6), .uint8 7, .string (CString.ofBytes (ascii "script"))]
    let buffer := addFields (bufferCreate (fun _ => 0) 15) fields
    let result := readFields buffer.rewind (fields.map Field.type)
    buffer.stream.cap = buffer.size.toNat ∧ buffer.size.toNat = totalWidth fields ∧
      buffer.overrun = false ∧ result.1 = fields ∧ result.2.offset = buffer.size ∧
      result.2.overrun = false :=
  readFields_addFields _ (fun _ => 0) 15 (by decide)

end SoTp.Utils
