import SoTp.Utils.Serializacion
import SoTp.Utils.Socket

/-!
# The dispatch message

The message with which `enviarTCBCPU` (`kernel/src/main.c`, lines 190–198) hands the
chosen thread to the case `CONTEXTO` of `ServerCPU` (`cpu/src/main.c`, lines 95–99).

`SerializarTCB` moves the offset of the buffer and never sets its `size`, and
`EnviarOperacion` sends the first `size` bytes of the stream: how much of the 16 bytes
of a thread arrives depends on what `malloc` left in that field.

* `despachoFiel_iff`: **the thread arrives if and only if** the heap held a size of at
  least 16 that is positive as an `int`.
-/

namespace SoTp.Kernel

open SoTp.Lib SoTp.Utils

/-! ## Model -/

/-- `CONTEXTO` (`cpu/utils_C/main.h`, line 26). -/
def opContexto : Int32 := 1

/-- The bytes `enviarTCBCPU(tcb)` sends; `g` and `size` are what `malloc` leaves in the
stream and in the size of the buffer. -/
def enviarTCBCPU (g : Mem) (size : UInt32) (tcb : TCB) : List UInt8 :=
  enviarOperacion 1 (serializarTCB g size tcb)

/-- What `ServerCPU` receives of a dispatch when `s` is in flight: the operation code,
the thread, the buffer it was read from, and what is left in flight. -/
def recibirContexto (g : Mem) (s : List UInt8) :
    Option (Int32 × TCB × TBuffer × List UInt8) := do
  let (opcode, s) ← recibirOperacion s
  let (buffer, s) ← recibirBuffer g s
  let (tcb, buffer) := deserializarTCB buffer
  some (opcode, tcb, buffer, s)

/-- The CPU runs the thread that was sent: it takes the message off the stream, reads
the four fields inside its buffer, and they are those of the thread. -/
def DespachoFiel (size : UInt32) (tcb : TCB) : Prop :=
  ∀ (g g' : Mem) (s : List UInt8), ∃ buffer,
    recibirContexto g' (enviarTCBCPU g size tcb ++ s) = some (opContexto, tcb, buffer, s) ∧
      buffer.overrun = false

/-! ## What arrives -/

theorem recibirContexto_enviarTCBCPU (g g' : Mem) (size : UInt32) (tcb : TCB) (s : List UInt8) :
    recibirContexto g' (enviarTCBCPU g size tcb ++ s) =
      let buffer : TBuffer := ⟨size, 0, (Block.alloc g' size.toInt32.toInt.toNat).store 0
        (serializarTCB g size tcb).payload⟩
      some (opContexto, (deserializarTCB buffer).1, (deserializarTCB buffer).2, s) := by
  have hbuffer := recibirBuffer_enviarBuffer_eq g' (serializarTCB g size tcb) s
  unfold recibirContexto enviarTCBCPU enviarOperacion
  rw [List.append_assoc]
  simp only [recibirOperacion_bytesInt, Option.bind_eq_bind, Option.bind_some, hbuffer]
  rfl

/-- A thread is read back from its four fields. -/
theorem deserializarTCB_unread {buffer : TBuffer} {tcb : TCB} {cs : List UInt8}
    (h : Unread buffer
      ([tcb.PID, tcb.TID, tcb.prioridad, tcb.estado.toUInt32].flatMap bytesUint32 ++ cs)) :
    (deserializarTCB buffer).1 = tcb ∧ Unread (deserializarTCB buffer).2 cs := by
  simp only [List.flatMap_cons, List.flatMap_nil, List.append_nil, List.append_assoc] at h
  obtain ⟨hPID, h⟩ := bufferReadUint32_unread h
  obtain ⟨hTID, h⟩ := bufferReadUint32_unread h
  obtain ⟨hprioridad, h⟩ := bufferReadUint32_unread h
  obtain ⟨hestado, h⟩ := bufferReadInt_unread h
  refine ⟨?_, h⟩
  have htcb : (deserializarTCB buffer).1 =
      ⟨(bufferReadUint32 buffer).1, (bufferReadUint32 (bufferReadUint32 buffer).2).1,
        (bufferReadUint32 (bufferReadUint32 (bufferReadUint32 buffer).2).2).1,
        (bufferReadInt (bufferReadUint32 (bufferReadUint32 (bufferReadUint32 buffer).2).2).2).1⟩ :=
    rfl
  rw [htcb, hPID, hTID, hprioridad, hestado]

theorem overrun_of_deserializarTCB {buffer : TBuffer}
    (h : (deserializarTCB buffer).2.overrun = false) : buffer.overrun = false := by
  have hor : (deserializarTCB buffer).2.overrun =
      ((((buffer.overrun || _) || _) || _) || _) := rfl
  rw [hor] at h
  simp only [Bool.or_eq_false_iff] at h
  exact h.1.1.1.1

/-- With fewer than 16 bytes the end of the last field is what the heap of the CPU
held. -/
theorem not_despachoFiel_of_lt {size : UInt32} (tcb : TCB) (h : size.toNat < 16) :
    ¬ DespachoFiel size tcb := by
  intro hfiel
  have hestado : ∀ g' : Mem, (uint32OfBytes ((g'.write 0
      (serializarTCB (fun _ => 0) size tcb).payload).read 12 4)).toInt32 = tcb.estado := by
    intro g'
    obtain ⟨buffer, hrecibir, -⟩ := hfiel (fun _ => 0) g' []
    rw [recibirContexto_enviarTCBCPU] at hrecibir
    have htcb := congrArg (fun r => r.2.1.estado) (Option.some.inj hrecibir)
    exact htcb
  have hlen : (serializarTCB (fun _ => 0) size tcb).payload.length < 16 := by
    rw [TBuffer.length_payload]
    exact h
  generalize (serializarTCB (fun _ => 0) size tcb).payload = bs at *
  have hlast : ∀ b : UInt8, ((Mem.write (fun _ => b) 0 bs).read 12 4)[3]? = some b := by
    intro b
    rw [List.getElem?_eq_getElem (by rw [Mem.length_read]; omega), Mem.getElem_read]
    exact congrArg some (Mem.write_apply_of_le (by omega))
  have hread := toInt32_uint32OfBytes_inj (Mem.length_read _ _ _) (Mem.length_read _ _ _)
    ((hestado fun _ => 0).trans (hestado fun _ => 1).symm)
  have hbytes := (hlast 0).symm.trans ((congrArg (fun l => l[3]?) hread).trans (hlast 1))
  exact absurd hbytes (by decide)

/-- A size that is negative as an `int` leaves the CPU without a stream. -/
theorem not_despachoFiel_of_le {size : UInt32} (tcb : TCB) (h : 2 ^ 31 ≤ size.toNat) :
    ¬ DespachoFiel size tcb := by
  intro hfiel
  obtain ⟨buffer, hrecibir, hinside⟩ := hfiel (fun _ => 0) (fun _ => 0) []
  rw [recibirContexto_enviarTCBCPU] at hrecibir
  have hbuffer := congrArg (fun r => r.2.2.1) (Option.some.inj hrecibir)
  dsimp only at hbuffer
  rw [← hbuffer] at hinside
  have hoverrun := overrun_of_deserializarTCB hinside
  -- the block has no bytes, and `size` bytes were stored in it
  rw [toNat_toInt_toInt32_of_le h] at hoverrun
  have hlen := (serializarTCB (fun _ => 0) size tcb).length_payload
  have hsize : (serializarTCB (fun _ => 0) size tcb).size = size := rfl
  rw [hsize] at hlen
  have htouch : (false || !((serializarTCB (fun _ => 0) size tcb).payload.length == 0 ||
      decide (0 + (serializarTCB (fun _ => 0) size tcb).payload.length ≤ 0))) = false := hoverrun
  rw [hlen] at htouch
  simp only [Bool.false_or, Bool.not_eq_false', Bool.or_eq_true, beq_iff_eq,
    decide_eq_true_eq] at htouch
  omega

/-- **The thread arrives if and only if** the size that `malloc` left is at least 16 and
positive as an `int`. -/
theorem despachoFiel_iff (size : UInt32) (tcb : TCB) :
    DespachoFiel size tcb ↔ 16 ≤ size.toNat ∧ size.toNat < 2 ^ 31 := by
  constructor
  · intro hfiel
    constructor
    · by_contra hlt
      exact not_despachoFiel_of_lt tcb (by omega) hfiel
    · by_contra hle
      exact not_despachoFiel_of_le tcb (by omega) hfiel
  · rintro ⟨h16, hlt⟩ g g' s
    have hlen : (serializarTCB g size tcb).payload.length = size.toNat :=
      (serializarTCB g size tcb).length_payload
    obtain ⟨cs, hcs⟩ : ∃ cs, (serializarTCB g size tcb).payload =
        [tcb.PID, tcb.TID, tcb.prioridad, tcb.estado.toUInt32].flatMap bytesUint32 ++ cs := by
      refine ⟨(serializarTCB g size tcb).payload.drop 16, ?_⟩
      rw [← take_payload_serializarTCB g h16 tcb, List.take_append_drop]
    have hbuffer := recibirContexto_enviarTCBCPU g g' size tcb s
    rw [hcs] at hlen
    rw [hcs, toInt_toInt32_of_lt hlt, Int.toNat_natCast] at hbuffer
    obtain ⟨htcb, hrest⟩ := deserializarTCB_unread (received_store g' hlen).unread
    dsimp only at hbuffer
    rw [htcb] at hbuffer
    exact ⟨_, hbuffer, hrest.inside⟩

/-- Thread 2 of process 1 with nothing in the size: the CPU reads what its heap held,
here a 7 in every byte. -/
theorem not_despachoFiel_cero :
    ¬ DespachoFiel 0 ⟨1, 2, 3, 1⟩ ∧
      (recibirContexto (fun _ => 7) (enviarTCBCPU (fun _ => 0) 0 ⟨1, 2, 3, 1⟩)).map
        (fun r => (r.2.1.PID, r.2.1.TID)) = some (0x07070707, 0x07070707) :=
  ⟨not_despachoFiel_of_lt _ (by decide), by decide⟩

end SoTp.Kernel
