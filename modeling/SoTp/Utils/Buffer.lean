import SoTp.Lib.CString
import SoTp.Lib.LittleEndian
import SoTp.Lib.Memory

/-!
# `t_buffer` and its accessors

Models of `utils/src/commons.c`, lines 91–234: the buffers in which every
message of the four modules is built and taken apart.

* C `int` is `Int32`, `uint32_t` is `UInt32`; both are four bytes, least
  significant first.
* `malloc` does not fail, and leaves the bytes it found: every allocation takes
  the previous contents of the heap as an argument.
* The offset moves by C `uint32_t` arithmetic, so it wraps at `2^32`.

`Written b bs` says that the bytes before the offset of `b` are `bs`,
`Unread b bs` that those from the offset on are `bs`. Each `buffer_add_*`
appends the encoding of its argument to what is written (`*_written`), each
`buffer_read_*` takes it off what is unread and returns it (`*_unread`).
-/

namespace SoTp.Utils

open SoTp.Lib

/-! ## Words -/

/-- The four bytes of a `uint32_t`. -/
def bytesUint32 (data : UInt32) : List UInt8 := leBytes 4 data.toNat

/-- The four bytes of an `int`. -/
def bytesInt (data : Int32) : List UInt8 := bytesUint32 data.toUInt32

/-- The `uint32_t` stored in four bytes. -/
def uint32OfBytes (bs : List UInt8) : UInt32 := UInt32.ofNat (leVal bs)

@[simp] theorem length_bytesUint32 (data : UInt32) : (bytesUint32 data).length = 4 :=
  length_leBytes 4 _

@[simp] theorem length_bytesInt (data : Int32) : (bytesInt data).length = 4 :=
  length_bytesUint32 _

@[simp] theorem uint32OfBytes_bytesUint32 (data : UInt32) :
    uint32OfBytes (bytesUint32 data) = data := by
  have hlt : data.toNat < 256 ^ 4 := data.toNat_lt
  rw [uint32OfBytes, bytesUint32, leVal_leBytes_of_lt hlt]
  exact UInt32.ofNat_toNat

@[simp] theorem toInt32_uint32OfBytes_bytesInt (data : Int32) :
    (uint32OfBytes (bytesInt data)).toInt32 = data := by
  rw [bytesInt, uint32OfBytes_bytesUint32]
  exact Int32.toInt32_toUInt32 data

theorem toInt32_uint32OfBytes_inj {bs cs : List UInt8} (hbs : bs.length = 4) (hcs : cs.length = 4)
    (h : (uint32OfBytes bs).toInt32 = (uint32OfBytes cs).toInt32) : bs = cs := by
  have hword : uint32OfBytes bs = uint32OfBytes cs := by
    rw [← UInt32.toUInt32_toInt32 (uint32OfBytes bs), h, UInt32.toUInt32_toInt32]
  have hval : ∀ ds : List UInt8, ds.length = 4 → (uint32OfBytes ds).toNat = leVal ds := by
    intro ds hds
    have hlt := leVal_lt ds
    rw [hds] at hlt
    exact UInt32.toNat_ofNat_of_lt' hlt
  apply leVal_inj (hbs.trans hcs.symm)
  rw [← hval bs hbs, hword, hval cs hcs]

theorem toInt_toInt32_of_lt {n : UInt32} (h : n.toNat < 2 ^ 31) : n.toInt32.toInt = n.toNat := by
  show n.toInt32.toBitVec.toInt = _
  exact BitVec.toInt_eq_toNat_of_lt (by show 2 * n.toNat < 2 ^ 32; omega)

theorem toNat_toInt_toInt32_of_le {n : UInt32} (h : 2 ^ 31 ≤ n.toNat) :
    n.toInt32.toInt.toNat = 0 := by
  have hlt := n.toNat_lt
  have hint : n.toInt32.toInt = (n.toNat : ℤ) - 2 ^ 32 := by
    show n.toBitVec.toInt = _
    rw [BitVec.toInt_eq_toNat_cond, if_neg (by show ¬ 2 * n.toNat < 2 ^ 32; omega)]
    rfl
  omega

/-! ## The structure -/

/-- `t_buffer` (`commons.h`, lines 133–138). `stream` is the block the pointer
refers to; a `NULL` stream is a block of capacity 0. -/
structure TBuffer where
  size : UInt32
  offset : UInt32
  stream : Block

/-- The first `size` bytes of the stream: what `EnviarBuffer` sends. -/
def TBuffer.payload (buffer : TBuffer) : List UInt8 :=
  buffer.stream.mem.read 0 buffer.size.toNat

/-- Some access so far has left the allocation of the stream. -/
def TBuffer.overrun (buffer : TBuffer) : Bool := buffer.stream.overrun

/-- The buffer with its offset back at 0. -/
def TBuffer.rewind (buffer : TBuffer) : TBuffer := { buffer with offset := 0 }

@[simp] theorem TBuffer.length_payload (buffer : TBuffer) :
    buffer.payload.length = buffer.size.toNat := Mem.length_read _ _ _

theorem TBuffer.length_payload_lt (buffer : TBuffer) : buffer.payload.length < 2 ^ 32 := by
  rw [TBuffer.length_payload]
  exact UInt32.toNat_lt _

/-- `buffer_create(size)` (lines 198–205). A negative `size` asks `malloc` for
more than there is and leaves `stream` at `NULL`. -/
def bufferCreate (g : Mem) (size : Int32) : TBuffer where
  size := size.toUInt32
  offset := 0
  stream := Block.alloc g size.toInt.toNat

theorem bufferCreate_of_lt (g : Mem) {n : UInt32} (h : n.toNat < 2 ^ 31) :
    bufferCreate g n.toInt32 = ⟨n, 0, Block.alloc g n.toNat⟩ := by
  unfold bufferCreate
  rw [UInt32.toUInt32_toInt32, toInt_toInt32_of_lt h]
  rfl

/-- `buffer_write(buffer, value, size)` (lines 230–234): `memcpy` of the bytes
`bs` at the offset, which then moves past them. -/
def bufferWrite (buffer : TBuffer) (bs : List UInt8) : TBuffer :=
  { buffer with
    stream := buffer.stream.store buffer.offset.toNat bs
    offset := buffer.offset + UInt32.ofNat bs.length }

/-- `buffer_read(buffer, size)` (lines 214–220): the next `n` bytes. -/
def bufferRead (buffer : TBuffer) (n : ℕ) : List UInt8 × TBuffer :=
  (buffer.stream.mem.read buffer.offset.toNat n,
    { buffer with
      stream := buffer.stream.touch buffer.offset.toNat n
      offset := buffer.offset + UInt32.ofNat n })

/-- `buffer_add_int` (lines 91–95). -/
def bufferAddInt (buffer : TBuffer) (data : Int32) : TBuffer := bufferWrite buffer (bytesInt data)

/-- `buffer_add_uint32` (lines 97–101). -/
def bufferAddUint32 (buffer : TBuffer) (data : UInt32) : TBuffer :=
  bufferWrite buffer (bytesUint32 data)

theorem bufferAddUint32_eq (buffer : TBuffer) (data : UInt32) :
    bufferAddUint32 buffer data = bufferAddInt buffer data.toInt32 := by
  unfold bufferAddUint32 bufferAddInt bytesInt
  rw [UInt32.toUInt32_toInt32]

/-- `buffer_add_uint8` (lines 104–108). -/
def bufferAddUint8 (buffer : TBuffer) (data : UInt8) : TBuffer := bufferWrite buffer [data]

/-- `buffer_add_string` (lines 111–118): the length as an `int`, then the bytes
without the terminator. A string of `2^31` bytes or more has a negative
`length`, which `memcpy` takes for a huge size: that is an overrun. -/
def bufferAddString (buffer : TBuffer) (string : CString) : TBuffer :=
  let length : Int32 := Int32.ofNat string.length
  let buffer := bufferWrite buffer (bytesInt length)
  let buffer := bufferWrite buffer (string.bytes.take length.toInt.toNat)
  if length < 0 then { buffer with stream := { buffer.stream with overrun := true } } else buffer

/-- `buffer_read_uint32` (lines 183–188). -/
def bufferReadUint32 (buffer : TBuffer) : UInt32 × TBuffer :=
  let (bs, buffer) := bufferRead buffer 4
  (uint32OfBytes bs, buffer)

/-- `buffer_read_int` (lines 175–180). -/
def bufferReadInt (buffer : TBuffer) : Int32 × TBuffer :=
  let (i, buffer) := bufferReadUint32 buffer
  (i.toInt32, buffer)

/-- `buffer_read_uint8` (lines 190–195). -/
def bufferReadUint8 (buffer : TBuffer) : UInt8 × TBuffer :=
  let (bs, buffer) := bufferRead buffer 1
  (bs.headD 0, buffer)

/-- `buffer_read_string` (lines 161–173). The copy is `length + 1` bytes long
and gets its terminator at `string[length]`: a negative length and one whose
successor is not an `int` write outside of it. -/
def bufferReadString (buffer : TBuffer) : CString × TBuffer :=
  let (length, buffer) := bufferReadInt buffer
  let n := length.toInt.toNat
  let stream := buffer.stream.touch buffer.offset.toNat n
  let bad := decide (length < 0) || decide (length = Int32.maxValue)
  (CString.ofBytes (buffer.stream.mem.read buffer.offset.toNat n),
    { buffer with
      stream := { stream with overrun := stream.overrun || bad }
      offset := buffer.offset + length.toUInt32 })

@[simp] theorem bufferWrite_size (buffer : TBuffer) (bs : List UInt8) :
    (bufferWrite buffer bs).size = buffer.size := rfl

@[simp] theorem bufferAddInt_size (buffer : TBuffer) (data : Int32) :
    (bufferAddInt buffer data).size = buffer.size := rfl

@[simp] theorem bufferAddUint32_size (buffer : TBuffer) (data : UInt32) :
    (bufferAddUint32 buffer data).size = buffer.size := rfl

@[simp] theorem bufferAddString_size (buffer : TBuffer) (string : CString) :
    (bufferAddString buffer string).size = buffer.size := by
  unfold bufferAddString
  dsimp only
  split_ifs <;> rfl

/-! ## Writing -/

theorem bufferWrite_read_of_le {buffer : TBuffer} {n : ℕ} (h : n ≤ buffer.offset.toNat)
    (bs : List UInt8) :
    (bufferWrite buffer bs).stream.mem.read 0 n = buffer.stream.mem.read 0 n :=
  Mem.read_write_of_le bs (by omega)

theorem bufferWrite_offset {buffer : TBuffer} {bs : List UInt8}
    (h : buffer.offset.toNat + bs.length < 2 ^ 32) :
    (bufferWrite buffer bs).offset.toNat = buffer.offset.toNat + bs.length := by
  have hn : (UInt32.ofNat bs.length).toNat = bs.length :=
    UInt32.toNat_ofNat_of_lt' (by rw [UInt32.size]; omega)
  simp only [bufferWrite, UInt32.toNat_add, hn]
  omega

/-- The bytes before the offset are `bs`, all written inside the allocation. -/
structure Written (buffer : TBuffer) (bs : List UInt8) : Prop where
  offset_eq : buffer.offset.toNat = bs.length
  contents : buffer.stream.mem.read 0 bs.length = bs
  inside : buffer.overrun = false

theorem bufferCreate_written (g : Mem) (size : Int32) : Written (bufferCreate g size) [] :=
  ⟨rfl, rfl, rfl⟩

/-- Writing inside the allocation appends. -/
theorem Written.write {buffer : TBuffer} {bs : List UInt8} (h : Written buffer bs)
    (cs : List UInt8) (hcap : bs.length + cs.length ≤ buffer.stream.cap)
    (hlt : buffer.stream.cap < 2 ^ 32) :
    Written (bufferWrite buffer cs) (bs ++ cs) where
  offset_eq := by
    rw [bufferWrite_offset (by rw [h.offset_eq]; omega), h.offset_eq, List.length_append]
  contents := by
    simp only [bufferWrite, Block.store_mem, h.offset_eq, List.length_append]
    exact Mem.read_write_append _ _ _ h.contents
  inside := by
    have hin : buffer.offset.toNat + cs.length ≤ buffer.stream.cap := by
      rw [h.offset_eq]
      exact hcap
    have := Block.touch_overrun_of_le hin
    simp only [TBuffer.overrun, bufferWrite, Block.store_overrun, this]
    exact h.inside

theorem bufferAddString_eq (buffer : TBuffer) {string : CString} (h : string.length < 2 ^ 31) :
    bufferAddString buffer string =
      bufferWrite (bufferWrite buffer (bytesInt (Int32.ofNat string.length))) string.bytes := by
  have hlen : (Int32.ofNat string.length).toInt = string.length := Int32.toInt_ofNat_of_lt h
  have hneg : ¬ Int32.ofNat string.length < 0 := by
    rw [Int32.lt_iff_toInt_lt, hlen]
    simp
  have htake : string.bytes.take (Int32.ofNat string.length).toInt.toNat = string.bytes := by
    rw [hlen]
    exact List.take_of_length_le (by simp [CString.length])
  simp only [bufferAddString, hneg, ite_false, htake]

/-! ## Reading -/

/-- The bytes from the offset to the end of the buffer are `bs`, the allocation
is the buffer's `size`, and no access has left it so far. -/
structure Unread (buffer : TBuffer) (bs : List UInt8) : Prop where
  contents : buffer.stream.mem.read buffer.offset.toNat bs.length = bs
  bound : buffer.offset.toNat + bs.length = buffer.size.toNat
  cap_eq : buffer.stream.cap = buffer.size.toNat
  inside : buffer.overrun = false

theorem Written.unread {buffer : TBuffer} {bs : List UInt8} (h : Written buffer bs)
    (hlen : bs.length = buffer.size.toNat) (hcap : buffer.stream.cap = buffer.size.toNat) :
    Unread buffer.rewind bs where
  contents := h.contents
  bound := by simpa [TBuffer.rewind] using hlen
  cap_eq := hcap
  inside := h.inside

theorem Unread.offset_eq {buffer : TBuffer} (h : Unread buffer []) : buffer.offset = buffer.size :=
  UInt32.toNat_inj.mp (by simpa using h.bound)

/-- Reading takes the bytes off what is unread. -/
theorem Unread.read {buffer : TBuffer} {bs cs : List UInt8} (h : Unread buffer (bs ++ cs)) :
    (bufferRead buffer bs.length).1 = bs ∧ Unread (bufferRead buffer bs.length).2 cs := by
  obtain ⟨hcontents, hbound, hcap, hinside⟩ := h
  obtain ⟨hbs, hcs⟩ := Mem.read_of_read_append hcontents
  rw [List.length_append] at hbound
  have hsize := buffer.size.toNat_lt
  have hn : (UInt32.ofNat bs.length).toNat = bs.length :=
    UInt32.toNat_ofNat_of_lt' (by rw [UInt32.size]; omega)
  have hoff : (buffer.offset + UInt32.ofNat bs.length).toNat =
      buffer.offset.toNat + bs.length := by
    rw [UInt32.toNat_add, hn]
    omega
  refine ⟨hbs, ?_, ?_, hcap, ?_⟩
  · simp only [bufferRead, Block.touch_mem, hoff]
    exact hcs
  · simp only [bufferRead, hoff]
    omega
  · simp only [TBuffer.overrun, bufferRead]
    rw [Block.touch_overrun_of_le (by omega)]
    exact hinside

theorem bufferReadUint32_unread {buffer : TBuffer} {data : UInt32} {cs : List UInt8}
    (h : Unread buffer (bytesUint32 data ++ cs)) :
    (bufferReadUint32 buffer).1 = data ∧ Unread (bufferReadUint32 buffer).2 cs := by
  obtain ⟨hbs, hcs⟩ := h.read
  rw [length_bytesUint32] at hbs hcs
  refine ⟨?_, hcs⟩
  show uint32OfBytes (bufferRead buffer 4).1 = data
  rw [hbs, uint32OfBytes_bytesUint32]

theorem bufferReadInt_unread {buffer : TBuffer} {data : Int32} {cs : List UInt8}
    (h : Unread buffer (bytesInt data ++ cs)) :
    (bufferReadInt buffer).1 = data ∧ Unread (bufferReadInt buffer).2 cs := by
  obtain ⟨hdata, hcs⟩ := bufferReadUint32_unread h
  refine ⟨?_, hcs⟩
  show (bufferReadUint32 buffer).1.toInt32 = data
  rw [hdata, Int32.toInt32_toUInt32]

theorem bufferReadUint8_unread {buffer : TBuffer} {data : UInt8} {cs : List UInt8}
    (h : Unread buffer ([data] ++ cs)) :
    (bufferReadUint8 buffer).1 = data ∧ Unread (bufferReadUint8 buffer).2 cs := by
  obtain ⟨hbs, hcs⟩ := h.read
  rw [List.length_singleton] at hbs hcs
  refine ⟨?_, hcs⟩
  show (bufferRead buffer 1).1.headD 0 = data
  rw [hbs, List.headD_cons]

theorem bufferReadString_unread {buffer : TBuffer} {string : CString} {cs : List UInt8}
    (hlen : string.length + 1 < 2 ^ 31)
    (h : Unread buffer (bytesInt (Int32.ofNat string.length) ++ (string.bytes ++ cs))) :
    (bufferReadString buffer).1 = string ∧ Unread (bufferReadString buffer).2 cs := by
  obtain ⟨hread, h₁⟩ := bufferReadInt_unread h
  obtain ⟨hbs, hcs⟩ := h₁.read
  have hint : (Int32.ofNat string.length).toInt = string.length :=
    Int32.toInt_ofNat_of_lt (by omega)
  have hnat : (Int32.ofNat string.length).toInt.toNat = string.bytes.length := by
    rw [hint]; rfl
  have hneg : ¬ Int32.ofNat string.length < 0 := by
    rw [Int32.lt_iff_toInt_lt, hint]; simp
  have hmax : ¬ Int32.ofNat string.length = Int32.maxValue := by
    intro heq
    have := congrArg Int32.toInt heq
    rw [hint, Int32.toInt_maxValue] at this
    omega
  have hstring : (bufferReadString buffer).1 =
      CString.ofBytes (bufferRead (bufferReadInt buffer).2 string.bytes.length).1 := by
    rw [← hnat, ← hread]
    rfl
  have hrest : (bufferReadString buffer).2 =
      (bufferRead (bufferReadInt buffer).2 string.bytes.length).2 := by
    simp only [bufferReadString, hread, hnat, hneg, hmax, decide_false, Bool.or_self, Bool.or_false]
    rfl
  refine ⟨?_, ?_⟩
  · rw [hstring, hbs, CString.ofBytes_bytes]
  · rw [hrest]
    exact hcs

end SoTp.Utils
