import SoTp.Utils.Buffer
import SoTp.Utils.Tipos

/-!
# Structures on the wire

Models of the serialisers of `utils/src/commons.c`: `DeserializarTCB` and
`SerializarTCB` (lines 243–278), `DeserializarRegistros` (lines 362–378), `SerializarPIDTID` (lines
419–463), `buffer_add_contexto` and `buffer_read_contexto` (lines 119–159).

* `serializarPIDTID_payload`: the payload is the nine registers, the PID and the
  TID, in this order.
* `bufferReadContexto_pc`: where `buffer_read_contexto` takes the program counter from.
* `not_codecContextoFiel`: **no context is read back as it was written.**
-/

namespace SoTp.Utils

open SoTp.Lib

/-! ## Threads and registers -/

/-- `DeserializarTCB` (lines 243–253). -/
def deserializarTCB (buffer : TBuffer) : TCB × TBuffer :=
  let (PID, buffer) := bufferReadUint32 buffer
  let (TID, buffer) := bufferReadUint32 buffer
  let (prioridad, buffer) := bufferReadUint32 buffer
  let (estado, buffer) := bufferReadInt buffer
  (⟨PID, TID, prioridad, estado⟩, buffer)

/-- `DeserializarRegistros` (lines 362–378). -/
def deserializarRegistros (buffer : TBuffer) : Registros × TBuffer :=
  let (PC, buffer) := bufferReadUint32 buffer
  let (AX, buffer) := bufferReadUint32 buffer
  let (BX, buffer) := bufferReadUint32 buffer
  let (CX, buffer) := bufferReadUint32 buffer
  let (DX, buffer) := bufferReadUint32 buffer
  let (EX, buffer) := bufferReadUint32 buffer
  let (FX, buffer) := bufferReadUint32 buffer
  let (GX, buffer) := bufferReadUint32 buffer
  let (HX, buffer) := bufferReadUint32 buffer
  let (BASE, buffer) := bufferReadUint32 buffer
  let (LIMITE, buffer) := bufferReadUint32 buffer
  (⟨PC, AX, BX, CX, DX, EX, FX, GX, HX, BASE, LIMITE⟩, buffer)

/-- Consecutive `uint32_t` stored from `offset` on. -/
def escribirCampos (stream : Block) (offset : ℕ) : List UInt32 → Block
  | [] => stream
  | campo :: campos => escribirCampos (stream.store offset (bytesUint32 campo)) (offset + 4) campos

/-- `SerializarPIDTID(registros, PID, TID)` (lines 419–463). The `offset` of the
structure is never set: it is what the heap held. -/
def serializarPIDTID (g : Mem) (offset : UInt32) (registros : Registros) (PID TID : UInt32) :
    TBuffer where
  size := 44
  offset := offset
  stream := escribirCampos (Block.alloc g 44) 0
    [registros.PC, registros.AX, registros.BX, registros.CX, registros.DX, registros.EX,
      registros.FX, registros.GX, registros.HX, PID, TID]

theorem read_escribirCampos (stream : Block) {P : List UInt8}
    (hP : stream.mem.read 0 P.length = P) (campos : List UInt32) :
    (escribirCampos stream P.length campos).mem.read 0 (P.length + 4 * campos.length) =
      P ++ campos.flatMap bytesUint32 := by
  induction campos generalizing stream P with
  | nil =>
    rw [List.flatMap_nil, List.append_nil]
    exact hP
  | cons campo campos ih =>
    have hstep : (stream.store P.length (bytesUint32 campo)).mem.read 0
        (P ++ bytesUint32 campo).length = P ++ bytesUint32 campo := by
      rw [Block.store_mem, List.length_append]
      exact Mem.read_write_append _ _ _ hP
    have hlen : (P ++ bytesUint32 campo).length = P.length + 4 := by
      rw [List.length_append, length_bytesUint32]
    have h := ih (stream.store P.length (bytesUint32 campo)) hstep
    rw [hlen] at h
    unfold escribirCampos
    rw [List.length_cons, List.flatMap_cons, ← List.append_assoc, ← h]
    congr 1
    omega

/-- `SerializarTCB(p)` (lines 255–278). The `size` of the structure is never set: it is
what the heap held. -/
def serializarTCB (g : Mem) (size : UInt32) (p : TCB) : TBuffer where
  size := size
  offset := 16
  stream := escribirCampos (Block.alloc g 16) 0 [p.PID, p.TID, p.prioridad, p.estado.toUInt32]

/-- The four fields of a thread stand at the start of what is sent, as far as it
reaches. -/
theorem take_payload_serializarTCB (g : Mem) {size : UInt32} (hsize : 16 ≤ size.toNat) (p : TCB) :
    (serializarTCB g size p).payload.take 16 =
      [p.PID, p.TID, p.prioridad, p.estado.toUInt32].flatMap bytesUint32 := by
  unfold TBuffer.payload
  rw [show (serializarTCB g size p).size = size from rfl, Mem.take_read _ _ hsize]
  exact read_escribirCampos (Block.alloc g 16) (P := []) rfl _

theorem serializarPIDTID_payload (g : Mem) (offset : UInt32) (registros : Registros)
    (PID TID : UInt32) :
    (serializarPIDTID g offset registros PID TID).payload =
      [registros.PC, registros.AX, registros.BX, registros.CX, registros.DX, registros.EX,
        registros.FX, registros.GX, registros.HX, PID, TID].flatMap bytesUint32 :=
  read_escribirCampos (Block.alloc g 44) (P := []) rfl _

/-! ## The context of memoria -/

/-- The bytes of a `t_registros_hilo`. -/
def bytesRegistrosHilo (registros : TRegistrosHilo) : List UInt8 :=
  [registros.ax, registros.bx, registros.cx, registros.dx, registros.ex, registros.fx,
    registros.gx, registros.hx, registros.pc].flatMap bytesInt

/-- `buffer_add_contexto` (lines 119–137). The base goes in as `buffer_add_string`
writes a string: its length and its bytes. -/
def bufferAddContexto (buffer : TBuffer) (contexto : TContextoCpu) : TBuffer :=
  let buffer := bufferAddString buffer contexto.contexto.base
  let buffer := bufferWrite buffer (bytesInt contexto.contexto.limite)
  bufferWrite buffer (bytesRegistrosHilo contexto.registros)

/-- The `memcpy` of a `t_registros_hilo` out of a buffer. -/
def bufferReadRegistrosHilo (buffer : TBuffer) : TRegistrosHilo × TBuffer :=
  let (ax, buffer) := bufferReadInt buffer
  let (bx, buffer) := bufferReadInt buffer
  let (cx, buffer) := bufferReadInt buffer
  let (dx, buffer) := bufferReadInt buffer
  let (ex, buffer) := bufferReadInt buffer
  let (fx, buffer) := bufferReadInt buffer
  let (gx, buffer) := bufferReadInt buffer
  let (hx, buffer) := bufferReadInt buffer
  let (pc, buffer) := bufferReadInt buffer
  (⟨ax, bx, cx, dx, ex, fx, gx, hx, pc⟩, buffer)

/-- `buffer_read_contexto` (lines 140–159), with the structure that it fills in
taken as allocated. The base is read up to its terminator, which `strlen` finds
among the `alcance` bytes from the offset on that can be read at all. A `size_base` that is
negative as an `int` asks `malloc` for more than there is, and the copy to `NULL` does not
return. -/
def bufferReadContexto (alcance : ℕ) (buffer : TBuffer) : Option (TContextoCpu × TBuffer) :=
  (buffer.stream.mem.strlen buffer.offset.toNat alcance).bind fun n =>
    let sizeBase : Int32 := Int32.ofNat (n + 1)
    if sizeBase < 0 then none
    else
      let (base, buffer) := bufferRead buffer sizeBase.toInt.toNat
      let (limite, buffer) := bufferReadInt buffer
      let (registros, buffer) := bufferReadRegistrosHilo buffer
      some (⟨⟨CString.ofBytes base, limite⟩, registros⟩, buffer)

theorem bufferReadRegistrosHilo_pc {buffer : TBuffer} (h : buffer.offset.toNat + 36 < 2 ^ 32) :
    (bufferReadRegistrosHilo buffer).1.pc =
      (uint32OfBytes (buffer.stream.mem.read (buffer.offset.toNat + 32) 4)).toInt32 := by
  have hoffset : (buffer.offset + UInt32.ofNat 4 + UInt32.ofNat 4 + UInt32.ofNat 4 +
      UInt32.ofNat 4 + UInt32.ofNat 4 + UInt32.ofNat 4 + UInt32.ofNat 4 + UInt32.ofNat 4).toNat =
      buffer.offset.toNat + 32 := by
    simp only [UInt32.toNat_add, UInt32.reduceOfNat, UInt32.reduceToNat]
    omega
  rw [← hoffset]
  rfl

/-- A base of `n` bytes, with an `int` for its size. -/
theorem bufferReadContexto_of_lt {alcance n : ℕ} {buffer : TBuffer}
    (hbase : buffer.stream.mem.strlen buffer.offset.toNat alcance = some n) (hn : n + 1 < 2 ^ 31) :
    bufferReadContexto alcance buffer =
      some (⟨⟨CString.ofBytes (bufferRead buffer (n + 1)).1,
          (bufferReadInt (bufferRead buffer (n + 1)).2).1⟩,
          (bufferReadRegistrosHilo (bufferReadInt (bufferRead buffer (n + 1)).2).2).1⟩,
        (bufferReadRegistrosHilo (bufferReadInt (bufferRead buffer (n + 1)).2).2).2) := by
  have hint : (Int32.ofNat (n + 1)).toInt = (n + 1 : ℕ) := Int32.toInt_ofNat_of_lt hn
  have hneg : ¬ Int32.ofNat (n + 1) < 0 := by
    rw [Int32.lt_iff_toInt_lt, hint, Int32.toInt_zero]
    omega
  rw [bufferReadContexto, hbase, Option.bind_some]
  dsimp only
  rw [if_neg hneg, hint, Int.toNat_natCast]

/-- The program counter that `buffer_read_contexto` returns comes from behind the
base of `n` bytes, its terminator, the limit and the eight other registers. -/
theorem bufferReadContexto_pc {alcance n : ℕ} {buffer : TBuffer}
    (hbase : buffer.stream.mem.strlen buffer.offset.toNat alcance = some n) (hsize : n + 1 < 2 ^ 31)
    (h : buffer.offset.toNat + n + 41 < 2 ^ 32) :
    ∃ r, bufferReadContexto alcance buffer = some r ∧ r.1.registros.pc =
      (uint32OfBytes (buffer.stream.mem.read (buffer.offset.toNat + n + 37) 4)).toInt32 := by
  refine ⟨_, bufferReadContexto_of_lt hbase hsize, ?_⟩
  have hn : (UInt32.ofNat (n + 1)).toNat = n + 1 :=
    UInt32.toNat_ofNat_of_lt' (by rw [UInt32.size]; omega)
  have hoffset : (buffer.offset + UInt32.ofNat (n + 1) + UInt32.ofNat 4).toNat =
      buffer.offset.toNat + n + 5 := by
    simp only [UInt32.toNat_add, hn, UInt32.reduceOfNat, UInt32.reduceToNat]
    omega
  have hlt : (bufferReadInt (bufferRead buffer (n + 1)).2).2.offset.toNat + 36 < 2 ^ 32 := by
    show (buffer.offset + UInt32.ofNat (n + 1) + UInt32.ofNat 4).toNat + 36 < 2 ^ 32
    omega
  refine (bufferReadRegistrosHilo_pc hlt).trans ?_
  show (uint32OfBytes (buffer.stream.mem.read
    ((buffer.offset + UInt32.ofNat (n + 1) + UInt32.ofNat 4).toNat + 32) 4)).toInt32 = _
  rw [hoffset]

/-! ## A context read back -/

/-- `k` bytes of memory with no NUL among them, but perhaps for the last one, read as a
string of `k` bytes or one less. -/
theorem length_ofBytes_read {m : Mem} {off n k : ℕ} (hn : ∀ i < n, m (off + i) ≠ 0)
    (hk : k ≤ n + 1) :
    (CString.ofBytes (m.read off k)).length ≤ k ∧
      k ≤ (CString.ofBytes (m.read off k)).length + 1 := by
  show ((m.read off k).takeWhile (· ≠ 0)).length ≤ k ∧
    k ≤ ((m.read off k).takeWhile (· ≠ 0)).length + 1
  refine ⟨?_, ?_⟩
  · refine (List.takeWhile_sublist _).length_le.trans ?_
    rw [Mem.length_read]
  · cases k with
    | zero => exact Nat.zero_le _
    | succ k =>
      have hpos : ∀ b ∈ m.read off k, decide (b ≠ 0) = true := by
        intro b hb
        obtain ⟨i, hi, rfl⟩ := List.mem_map.mp hb
        exact decide_eq_true (hn i (by rw [List.mem_range] at hi; omega))
      rw [Mem.read_add, List.takeWhile_append_of_pos hpos, List.length_append, Mem.length_read]
      omega

/-- Where the base ends decides where everything behind it is read: the copy has at most
one byte more than the string at the offset, and the offset moves past 40 others. -/
theorem bufferReadContexto_eq_some {alcance : ℕ} {buffer : TBuffer} {r : TContextoCpu × TBuffer}
    (h : bufferReadContexto alcance buffer = some r) :
    ∃ n m, (∀ i < n, buffer.stream.mem (buffer.offset.toNat + i) ≠ 0) ∧ m ≤ n + 1 ∧ m < 2 ^ 31 ∧
      r.1.contexto.base = CString.ofBytes (buffer.stream.mem.read buffer.offset.toNat m) ∧
      r.2.offset = buffer.offset + UInt32.ofNat m + 40 := by
  obtain ⟨n, hstrlen, hr⟩ := Option.bind_eq_some_iff.mp h
  dsimp only at hr
  split_ifs at hr with hneg
  cases hr
  refine ⟨n, (Int32.ofNat (n + 1)).toInt.toNat, (Mem.strlen_eq_some_iff.mp hstrlen).2.1, ?_, ?_,
    rfl, ?_⟩
  · rw [Int32.toInt_ofNat', Int.bmod_def]
    simp only [Int32.size]
    split_ifs <;> omega
  · have := (Int32.ofNat (n + 1)).toInt_lt
    omega
  · show buffer.offset + UInt32.ofNat _ + 4 + 4 + 4 + 4 + 4 + 4 + 4 + 4 + 4 + 4 = _
    simp only [UInt32.add_assoc]
    rfl

theorem bufferAddContexto_offset (buffer : TBuffer) {contexto : TContextoCpu}
    (h : contexto.contexto.base.length < 2 ^ 31) :
    (bufferAddContexto buffer contexto).offset =
      buffer.offset + UInt32.ofNat contexto.contexto.base.length + 44 := by
  unfold bufferAddContexto
  rw [bufferAddString_eq buffer h]
  show buffer.offset + UInt32.ofNat 4 + UInt32.ofNat contexto.contexto.base.length +
    UInt32.ofNat 4 + UInt32.ofNat 36 = _
  rw [UInt32.add_assoc buffer.offset, UInt32.add_comm (UInt32.ofNat 4)]
  simp only [UInt32.add_assoc]
  rfl

/-- What `buffer_read_contexto` returns from where `buffer_add_contexto` wrote is what was
written, and both move the offset alike. -/
def CodecContextoFiel (alcance : ℕ) (buffer : TBuffer) (contexto : TContextoCpu) : Prop :=
  ∃ buffer', bufferReadContexto alcance
      { bufferAddContexto buffer contexto with offset := buffer.offset } =
        some (contexto, buffer') ∧
    buffer'.offset = (bufferAddContexto buffer contexto).offset

/-- The writer puts four bytes in front of the base and none behind it, the reader takes
none in front of it and one behind. With the same base they cannot move the offset alike. -/
theorem not_codecContextoFiel (alcance : ℕ) (buffer : TBuffer) (contexto : TContextoCpu) :
    ¬ CodecContextoFiel alcance buffer contexto := by
  rintro ⟨buffer', hread, hoffset⟩
  obtain ⟨n, m, hn, hm, hlt, hbase, hoffset'⟩ := bufferReadContexto_eq_some hread
  have hlen := length_ofBytes_read hn hm
  rw [← hbase] at hlen
  dsimp only at hlen hoffset'
  rw [hoffset', bufferAddContexto_offset buffer (by omega)] at hoffset
  have hnat := congrArg UInt32.toNat hoffset
  simp only [UInt32.toNat_add, UInt32.toNat_ofNat', UInt32.reduceToNat] at hnat
  omega

/-- The base `"ab"`, written at offset 0 of a buffer of the 46 bytes that it takes: it is
read back as the one byte of its length, and the offset stops at 42. -/
theorem not_codecContextoFiel_ab :
    let contexto : TContextoCpu := ⟨⟨CString.ofBytes [97, 98], 12⟩, ⟨7, 7, 7, 7, 7, 7, 7, 7, 7⟩⟩
    let buffer := bufferCreate (fun _ => 0) 46
    ¬ CodecContextoFiel 46 buffer contexto ∧
      (bufferAddContexto buffer contexto).offset = 46 ∧
      (bufferReadContexto 46 (bufferAddContexto buffer contexto).rewind).map
        (fun r => (r.1.contexto.base.bytes, r.2.offset)) = some ([2], 42) := by
  have hread : (bufferReadContexto 46 (bufferAddContexto (bufferCreate (fun _ => 0) 46)
      ⟨⟨CString.ofBytes [97, 98], 12⟩, ⟨7, 7, 7, 7, 7, 7, 7, 7, 7⟩⟩).rewind).map
        (fun r => (r.1.contexto.base.bytes, r.2.offset)) = some ([2], 42) := by decide
  refine ⟨?_, by decide, hread⟩
  rintro ⟨buffer', hfiel, -⟩
  have hbase := congrArg (Option.map fun r => (r.1.contexto.base.bytes, r.2.offset)) hfiel
  obtain ⟨hbytes, -⟩ := Prod.mk.inj (Option.some.inj (hread.symm.trans hbase))
  exact absurd hbytes (by decide : [2] ≠ (CString.ofBytes [97, 98]).bytes)

end SoTp.Utils
