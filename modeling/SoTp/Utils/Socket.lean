import SoTp.Utils.Buffer

/-!
# Messages on a socket

Models of `EnviarOperacion`, `EnviarBuffer`, `RecibirBuffer`
(`utils/src/commons.c`, lines 475–494) and `recibir_operacion`
(`utils/src/server/utils.c`, lines 6–16) on a reliable byte stream.

A connection is the list of the bytes sent and not yet received. `send` appends
to it; a `recv` of `n` bytes takes the first `n` and waits (`none`) while there
are fewer.

* `recibirBuffer_enviarBuffer`: `RecibirBuffer` takes off the stream exactly
  what one `EnviarBuffer` put there, and leaves a buffer ready to be read.
* `recibirMensajes_enviarOperacion`: the receiving loop of `ServerCPU` returns
  the messages written back to back, in order, and nothing else.
-/

namespace SoTp.Utils

open SoTp.Lib

/-! ## Model -/

/-- `recv` of `n` bytes when `s` is in flight. -/
def recv (n : ℕ) (s : List UInt8) : Option (List UInt8 × List UInt8) :=
  if n ≤ s.length then some (s.take n, s.drop n) else none

/-- The bytes `EnviarBuffer(socket, buffer)` sends (`commons.c`, lines 481–485). -/
def enviarBuffer (buffer : TBuffer) : List UInt8 := bytesUint32 buffer.size ++ buffer.payload

/-- The bytes `EnviarOperacion(socket, op_code, buffer)` sends (lines 475–479). -/
def enviarOperacion (opCode : Int32) (buffer : TBuffer) : List UInt8 :=
  bytesInt opCode ++ enviarBuffer buffer

/-- `RecibirBuffer(socket)` (lines 487–494); `g` is what `malloc` finds. -/
def recibirBuffer (g : Mem) (s : List UInt8) : Option (TBuffer × List UInt8) := do
  let (size, s) ← recv 4 s
  let buffer := bufferCreate g (uint32OfBytes size).toInt32
  let (stream, s) ← recv buffer.size.toNat s
  some ({ buffer with stream := buffer.stream.store 0 stream }, s)

/-- `recibir_operacion(socket_cliente)` (`server/utils.c`, lines 6–16). With
nothing in flight the client has closed the connection, `recv` returns 0 and
the result is -1. -/
def recibirOperacion (s : List UInt8) : Option (Int32 × List UInt8) := do
  if s = [] then some (-1, [])
  else
    let (codOp, s) ← recv 4 s
    some ((uint32OfBytes codOp).toInt32, s)

/-- The receiving side of `ServerCPU` (`cpu/src/main.c`, lines 86–150): while
`recibir_operacion` is not negative, `RecibirBuffer`. At most one message is
received for each heap in `gs`. -/
def recibirMensajes : List Mem → List UInt8 → Option (List (Int32 × TBuffer) × List UInt8)
  | [], s => some ([], s)
  | g :: gs, s => do
    let (opcode, s) ← recibirOperacion s
    if opcode < 0 then some ([], s)
    else
      let (buffer, s) ← recibirBuffer g s
      let (mensajes, s) ← recibirMensajes gs s
      some ((opcode, buffer) :: mensajes, s)

/-! ## One message -/

theorem recv_append (bs s : List UInt8) : recv bs.length (bs ++ s) = some (bs, s) := by
  simp [recv]

theorem recv_append_of_length {n : ℕ} {bs : List UInt8} (h : bs.length = n) (s : List UInt8) :
    recv n (bs ++ s) = some (bs, s) := h ▸ recv_append bs s

/-- A buffer as `RecibirBuffer` leaves it: nothing read yet, and its contents
are `bs`. -/
structure Received (buffer : TBuffer) (bs : List UInt8) : Prop where
  unread : Unread buffer bs
  offset_eq : buffer.offset = 0

theorem Received.payload_eq {buffer : TBuffer} {bs : List UInt8} (h : Received buffer bs) :
    buffer.payload = bs := by
  have hlen : bs.length = buffer.size.toNat := by simpa [h.offset_eq] using h.unread.bound
  have := h.unread.contents
  rw [h.offset_eq, hlen] at this
  exact this

theorem received_store (g : Mem) {n : UInt32} {bs : List UInt8} (hbs : bs.length = n.toNat) :
    Received ⟨n, 0, (Block.alloc g n.toNat).store 0 bs⟩ bs where
  unread :=
    { contents := Mem.read_write_self g 0 bs
      bound := by rw [hbs]; exact Nat.zero_add _
      cap_eq := rfl
      inside := by
        have hle : 0 + bs.length ≤ (Block.alloc g n.toNat).cap := by simp [hbs]
        exact Block.touch_overrun_of_le hle }
  offset_eq := rfl

theorem recibirBuffer_enviarBuffer_eq (g : Mem) (buffer : TBuffer) (s : List UInt8) :
    recibirBuffer g (enviarBuffer buffer ++ s) =
      some (⟨buffer.size, 0,
        (Block.alloc g buffer.size.toInt32.toInt.toNat).store 0 buffer.payload⟩, s) := by
  have h₁ : recv 4 (enviarBuffer buffer ++ s) =
      some (bytesUint32 buffer.size, buffer.payload ++ s) := by
    rw [enviarBuffer, List.append_assoc]
    exact recv_append_of_length (length_bytesUint32 _) _
  have h₂ : recv buffer.size.toNat (buffer.payload ++ s) = some (buffer.payload, s) :=
    recv_append_of_length buffer.length_payload s
  simp only [recibirBuffer, h₁, Option.bind_eq_bind, Option.bind_some, uint32OfBytes_bytesUint32,
    bufferCreate, UInt32.toUInt32_toInt32, h₂]

theorem recibirBuffer_enviarBuffer (g : Mem) (buffer : TBuffer) (hsize : buffer.size.toNat < 2 ^ 31)
    (s : List UInt8) :
    ∃ buffer', recibirBuffer g (enviarBuffer buffer ++ s) = some (buffer', s) ∧
      Received buffer' buffer.payload := by
  refine ⟨_, recibirBuffer_enviarBuffer_eq g buffer s, ?_⟩
  rw [toInt_toInt32_of_lt hsize]
  exact received_store g buffer.length_payload

theorem recibirOperacion_bytesInt (opCode : Int32) (s : List UInt8) :
    recibirOperacion (bytesInt opCode ++ s) = some (opCode, s) := by
  have hne : bytesInt opCode ++ s ≠ [] := by
    intro h
    have := congrArg List.length h
    simp at this
  have h₁ : recv 4 (bytesInt opCode ++ s) = some (bytesInt opCode, s) :=
    recv_append_of_length (length_bytesInt _) _
  simp only [recibirOperacion, hne, ite_false, h₁, Option.bind_eq_bind, Option.bind_some,
    toInt32_uint32OfBytes_bytesInt]

/-! ## A sequence of messages -/

/-- **Framing.** The loop of `ServerCPU`, reading messages written back to back
with `EnviarOperacion`, returns exactly their codes and payloads in order and
leaves what follows the last one. -/
theorem recibirMensajes_enviarOperacion (mensajes : List (Int32 × TBuffer)) (gs : List Mem)
    (hgs : gs.length = mensajes.length) (hop : ∀ m ∈ mensajes, 0 ≤ m.1)
    (hsize : ∀ m ∈ mensajes, m.2.size.toNat < 2 ^ 31) (s : List UInt8) :
    ∃ recibidos, recibirMensajes gs
        (mensajes.flatMap (fun m => enviarOperacion m.1 m.2) ++ s) = some (recibidos, s) ∧
      recibidos.map (fun r => (r.1, r.2.payload)) =
        mensajes.map (fun m => (m.1, m.2.payload)) := by
  induction mensajes generalizing gs with
  | nil =>
    obtain rfl : gs = [] := List.length_eq_zero_iff.mp hgs
    exact ⟨[], rfl, rfl⟩
  | cons m mensajes ih =>
    obtain ⟨g, gs, rfl⟩ : ∃ g gs', gs = g :: gs' := by
      cases gs with
      | nil => simp at hgs
      | cons g gs => exact ⟨g, gs, rfl⟩
    obtain ⟨recibidos, hrest, hmap⟩ := ih gs (by simpa using hgs)
      (fun m hm => hop m (List.mem_cons_of_mem _ hm))
      (fun m hm => hsize m (List.mem_cons_of_mem _ hm))
    obtain ⟨buffer, hbuffer, hreceived⟩ := recibirBuffer_enviarBuffer g m.2
      (hsize m List.mem_cons_self)
      (mensajes.flatMap (fun m => enviarOperacion m.1 m.2) ++ s)
    have hneg : ¬ m.1 < 0 := by
      have h0 := hop m List.mem_cons_self
      rw [Int32.le_iff_toInt_le] at h0
      rw [Int32.lt_iff_toInt_lt]
      omega
    refine ⟨(m.1, buffer) :: recibidos, ?_, ?_⟩
    · simp only [List.flatMap_cons, enviarOperacion, List.append_assoc, recibirMensajes,
        recibirOperacion_bytesInt, Option.bind_eq_bind, Option.bind_some, hneg, ite_false]
      simp only [enviarOperacion] at hbuffer hrest
      simp only [hbuffer, hrest, Option.bind_some]
    · rw [List.map_cons, List.map_cons, hmap, hreceived.payload_eq]

/-- An empty message and one of three bytes, in front of the byte 7. -/
theorem recibirMensajes_enviarOperacion_dos :
    ∃ recibidos, recibirMensajes [fun _ => 9, fun _ => 9]
        ([(4, ⟨0, 0, Block.alloc (fun _ => 1) 0⟩), (0, ⟨3, 3, Block.alloc (fun _ => 1) 3⟩)].flatMap
          (fun m => enviarOperacion m.1 m.2) ++ [7]) = some (recibidos, [7]) ∧
      recibidos.map (fun r => (r.1, r.2.payload)) = [(4, []), (0, [1, 1, 1])] :=
  recibirMensajes_enviarOperacion
    [(4, ⟨0, 0, Block.alloc (fun _ => 1) 0⟩), (0, ⟨3, 3, Block.alloc (fun _ => 1) 3⟩)]
    [fun _ => 9, fun _ => 9] rfl (by simp) (by simp) [7]

end SoTp.Utils
