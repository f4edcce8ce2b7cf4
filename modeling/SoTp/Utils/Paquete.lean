import SoTp.Utils.Socket

/-!
# `recibir_paquete` against `EnviarOperacion`

`recibir_paquete` (`utils/src/server/utils.c`, lines 130–142) is how both
servers of memoria receive; everything they receive was sent with
`EnviarOperacion`. The sender writes the operation code as a four-byte `int`,
the receiver reads it into the `uint8_t` of `t_paquete` and takes one byte for
it. The three bytes left over become the low bytes of the size.

* `recibirPaquete_enviarOperacion`: the size received is `(size mod 256) · 2^24`,
  and the payload starts three bytes too early.
* `not_paqueteFiel`: **no message is received as it was sent.**
-/

namespace SoTp.Utils

open SoTp.Lib

/-! ## Model -/

/-- `t_paquete` (`commons.h`, lines 183–187). -/
structure TPaquete where
  opCode : UInt8
  buffer : TBuffer

/-- `recibir_paquete(socket_cliente)` when `s` is in flight. The buffer comes
from `malloc` and its `offset` is never set: `offset` is what the heap held. -/
def recibirPaquete (g : Mem) (offset : UInt32) (s : List UInt8) :
    Option (TPaquete × List UInt8) := do
  let (opCode, s) ← recv 1 s
  let (size, s) ← recv 4 s
  let size := uint32OfBytes size
  let (stream, s) ← recv size.toNat s
  some (⟨opCode.headD 0, ⟨size, offset, (Block.alloc g size.toNat).store 0 stream⟩⟩, s)

/-! ## What is received -/

theorem bytesInt_ofNat_of_lt {n : ℕ} (h : n < 256) :
    bytesInt (Int32.ofNat n) = [UInt8.ofNat n, 0, 0, 0] := by
  have hn : (Int32.ofNat n).toUInt32.toNat = n :=
    UInt32.toNat_ofNat_of_lt' (by rw [UInt32.size]; omega)
  have h1 : n / 256 = 0 := by omega
  rw [bytesInt, bytesUint32, hn]
  simp [leBytes, h1]

theorem bytesUint32_eq (n : UInt32) :
    bytesUint32 n = [UInt8.ofNat n.toNat, UInt8.ofNat (n.toNat / 256),
      UInt8.ofNat (n.toNat / 256 / 256), UInt8.ofNat (n.toNat / 256 / 256 / 256)] := rfl

/-- The size that `recibir_paquete` reads off a message of `n` bytes: the three
high bytes of the operation code and the low byte of `n`. -/
def sizeRecibido (n : UInt32) : UInt32 := uint32OfBytes [0, 0, 0, UInt8.ofNat n.toNat]

theorem toNat_sizeRecibido (n : UInt32) : (sizeRecibido n).toNat = n.toNat % 256 * 2 ^ 24 := by
  have hb : (UInt8.ofNat n.toNat).toNat = n.toNat % 256 := UInt8.toNat_ofNat'
  have hval : leVal [0, 0, 0, UInt8.ofNat n.toNat] = n.toNat % 256 * 2 ^ 24 := by
    simp only [leVal, hb, UInt8.toNat_zero]
    omega
  rw [sizeRecibido, uint32OfBytes, hval, UInt32.toNat_ofNat_of_lt']
  rw [UInt32.size]
  omega

/-- What `recibir_paquete` makes of a message: the right operation code, the
size `sizeRecibido`, and as payload that many bytes from the second byte of the
size on. -/
theorem recibirPaquete_enviarOperacion (g : Mem) (offset : UInt32) {op : ℕ} (hop : op < 256)
    (buffer : TBuffer) (s : List UInt8) :
    recibirPaquete g offset (enviarOperacion (Int32.ofNat op) buffer ++ s) =
      (recv (sizeRecibido buffer.size).toNat
        ((bytesUint32 buffer.size).tail ++ (buffer.payload ++ s))).map fun r =>
          (⟨UInt8.ofNat op, ⟨sizeRecibido buffer.size, offset,
            (Block.alloc g (sizeRecibido buffer.size).toNat).store 0 r.1⟩⟩, r.2) := by
  have hstream : enviarOperacion (Int32.ofNat op) buffer ++ s =
      [UInt8.ofNat op] ++ ([0, 0, 0, UInt8.ofNat buffer.size.toNat] ++
        ((bytesUint32 buffer.size).tail ++ (buffer.payload ++ s))) := by
    rw [enviarOperacion, enviarBuffer, bytesInt_ofNat_of_lt hop, bytesUint32_eq]
    simp
  have h₁ : recv 1 ([UInt8.ofNat op] ++ ([0, 0, 0, UInt8.ofNat buffer.size.toNat] ++
      ((bytesUint32 buffer.size).tail ++ (buffer.payload ++ s)))) =
        some ([UInt8.ofNat op], _) := recv_append [UInt8.ofNat op] _
  have h₂ : recv 4 ([0, 0, 0, UInt8.ofNat buffer.size.toNat] ++
      ((bytesUint32 buffer.size).tail ++ (buffer.payload ++ s))) =
        some ([0, 0, 0, UInt8.ofNat buffer.size.toNat], _) :=
    recv_append [0, 0, 0, UInt8.ofNat buffer.size.toNat] _
  have hsize : uint32OfBytes [0, 0, 0, UInt8.ofNat buffer.size.toNat] = sizeRecibido buffer.size :=
    rfl
  rw [hstream]
  simp only [recibirPaquete, h₁, h₂, hsize, Option.bind_eq_bind, Option.bind_some, List.headD_cons]
  cases recv (sizeRecibido buffer.size).toNat
    ((bytesUint32 buffer.size).tail ++ (buffer.payload ++ s)) <;> rfl

/-! ## Fidelity -/

/-- `recibir_paquete` undoes `EnviarOperacion(op, buffer)` in front of `s`: the
same operation code, a buffer with the same size and bytes positioned at offset
0, and the stream left right after the message. -/
def PaqueteFiel (g : Mem) (offset : UInt32) (op : UInt8) (buffer : TBuffer) (s : List UInt8) :
    Prop :=
  ∃ paquete, recibirPaquete g offset (enviarOperacion (Int32.ofNat op.toNat) buffer ++ s) =
      some (paquete, s) ∧
    paquete.opCode = op ∧ paquete.buffer.size = buffer.size ∧
    paquete.buffer.payload = buffer.payload ∧ paquete.buffer.offset = 0

/-- **No message is received as it was sent**, whatever its operation code, its
payload, what follows it and what the heap holds. -/
theorem not_paqueteFiel (g : Mem) (offset : UInt32) (op : UInt8) (buffer : TBuffer)
    (s : List UInt8) : ¬ PaqueteFiel g offset op buffer s := by
  rintro ⟨paquete, hrecv, -, hsize, -, -⟩
  rw [recibirPaquete_enviarOperacion g offset op.toNat_lt buffer s, Option.map_eq_some_iff] at hrecv
  obtain ⟨⟨stream, resto⟩, hstream, heq⟩ := hrecv
  obtain ⟨rfl, rfl⟩ := Prod.mk.inj heq
  -- the only size that survives is 0
  have hzero : (sizeRecibido buffer.size).toNat = 0 := by
    have h := toNat_sizeRecibido buffer.size
    have hlt := buffer.size.toNat_lt
    simp only at hsize
    rw [hsize] at h ⊢
    omega
  -- and then the last three bytes of the size are still in flight
  rw [hzero] at hstream
  simp only [recv, Nat.zero_le, ite_true, List.drop_zero, Option.some.injEq,
    Prod.mk.injEq] at hstream
  have hlen := congrArg List.length hstream.2
  simp only [List.length_append, List.length_tail, length_bytesUint32] at hlen
  omega

/-- A request of 8 bytes (a PID and a TID) with operation code 0: memoria reads
a size of `8 · 2^24` and waits for that many bytes. -/
theorem not_paqueteFiel_obtenerContexto :
    ¬ PaqueteFiel (fun _ => 0) 0 0 ⟨8, 8, Block.alloc (fun _ => 1) 8⟩ [] ∧
      (sizeRecibido 8).toNat = 134217728 := by
  refine ⟨?_, by decide⟩
  rintro ⟨paquete, hrecv, -⟩
  have hnone : (recibirPaquete (fun _ => 0) 0
      (enviarOperacion 0 ⟨8, 8, Block.alloc (fun _ => 1) 8⟩)).isSome = false := by decide
  rw [show enviarOperacion (Int32.ofNat (0 : UInt8).toNat)
      ⟨8, 8, Block.alloc (fun _ => 1) 8⟩ ++ [] =
    enviarOperacion 0 ⟨8, 8, Block.alloc (fun _ => 1) 8⟩ from List.append_nil _] at hrecv
  rw [hrecv] at hnone
  simp at hnone

end SoTp.Utils
