import SoTp.Utils.Fields
import SoTp.Utils.Serializacion
import SoTp.Utils.Socket

/-!
# Saving and restoring a context

The two conversations about the registers of a thread, with the frames arriving
intact:

* on eviction `ServerCPU` sends `SerializarPIDTID` and memoria reads it in its
  `MEMORIA_CPU_ACTUALIZAR_CONTEXTO` case (`memoria/src/manejar_cpu.c`, lines
  82–94);
* on dispatch memoria sends `enviar_contexto` (lines 155–166) and the CPU reads
  it with `DeserializarRegistros` (`cpu/src/conexion_memoria.c`, lines 42–55).

Each pair disagrees on the order of the fields and on the base, which one side
writes as a string and the other does not write at all. What memoria stores as
the program counter lies past the 44 bytes it was sent.

* `leerActualizarContexto_ids`: memoria takes `PC` for the PID and `AX` for the TID.
* `deserializarRegistros_PC`: the CPU takes the length of the base for `PC`.
* `not_contextoFiel`: **no context is saved and restored**, in the sense of
  `ContextoFiel`.
-/

namespace SoTp.Memoria

open SoTp.Lib SoTp.Utils

/-! ## Model -/

/-- The buffer of a frame whose payload `bs` has arrived intact, before anything
is read from it. -/
def bufferIntacto (g : Mem) (bs : List UInt8) : TBuffer :=
  ⟨UInt32.ofNat bs.length, 0, (Block.alloc g bs.length).store 0 bs⟩

/-- What the case `MEMORIA_CPU_ACTUALIZAR_CONTEXTO` reads: the PID, the TID and the
context. -/
def leerActualizarContexto (alcance : ℕ) (buffer : TBuffer) :
    Option (Int32 × Int32 × TContextoCpu) :=
  let (pid, buffer) := bufferReadInt buffer
  let (tid, buffer) := bufferReadInt buffer
  (bufferReadContexto alcance buffer).map fun r => (pid, tid, r.1)

/-- The buffer that `enviar_contexto` sends; `sizeof(t_contexto_cpu)` is 56. -/
def bufferEnviarContexto (g : Mem) (contexto : TContextoCpu) : TBuffer :=
  bufferAddContexto (bufferCreate g 56) contexto

/-- The registers of the CPU as memoria keeps them for a thread. -/
def registrosHilo (registros : Registros) : TRegistrosHilo where
  ax := registros.AX.toInt32
  bx := registros.BX.toInt32
  cx := registros.CX.toInt32
  dx := registros.DX.toInt32
  ex := registros.EX.toInt32
  fx := registros.FX.toInt32
  gx := registros.GX.toInt32
  hx := registros.HX.toInt32
  pc := registros.PC.toInt32

/-- Whatever memoria reads of an evicted thread is its PID, its TID and its
registers. -/
def GuardadoFiel (registros : Registros) (PID TID : UInt32) : Prop :=
  ∀ (g g' : Mem) (offset : UInt32) (alcance : ℕ) (leido : Int32 × Int32 × TContextoCpu),
    leerActualizarContexto alcance
        (bufferIntacto g' (serializarPIDTID g offset registros PID TID).payload) = some leido →
      leido.1 = PID.toInt32 ∧ leido.2.1 = TID.toInt32 ∧
        leido.2.2.registros = registrosHilo registros

/-- The CPU reads the registers of a thread, with the base and the limit of its
process. -/
def RestauracionFiel (comun : TContextoComun) (base : UInt32) (registros : Registros) : Prop :=
  ∀ g g' : Mem,
    (deserializarRegistros (bufferIntacto g'
        (bufferEnviarContexto g ⟨comun, registrosHilo registros⟩).payload)).1 =
      { registros with BASE := base, LIMITE := comun.limite.toUInt32 }

/-- A thread that is evicted and dispatched again resumes with the registers it
had: it is saved and restored. -/
def ContextoFiel (comun : TContextoComun) (base : UInt32) (registros : Registros)
    (PID TID : UInt32) : Prop :=
  GuardadoFiel registros PID TID ∧ RestauracionFiel comun base registros

/-! ## The fields that change places -/

theorem bufferIntacto_unread (g : Mem) {bs : List UInt8} (hlen : bs.length < 2 ^ 32) :
    Unread (bufferIntacto g bs) bs := by
  have hn : bs.length = (UInt32.ofNat bs.length).toNat :=
    (UInt32.toNat_ofNat_of_lt' (by rw [UInt32.size]; omega)).symm
  have h := (received_store g hn).unread
  rw [← hn] at h
  exact h

theorem readFields_bufferIntacto (g : Mem) {fields : List Field} {bs : List UInt8}
    (hwidth : totalWidth fields < 2 ^ 31) (hlen : bs.length < 2 ^ 32)
    (h : fields.flatMap Field.bytes <+: bs) :
    (readFields (bufferIntacto g bs) (fields.map Field.type)).1 = fields := by
  obtain ⟨cs, rfl⟩ := h
  exact (readFields_unread fields hwidth (bufferIntacto_unread g hlen)).1

theorem length_payload_serializarPIDTID (g : Mem) (offset : UInt32) (registros : Registros)
    (PID TID : UInt32) : (serializarPIDTID g offset registros PID TID).payload.length = 44 := by
  rw [TBuffer.length_payload]
  rfl

/-- Memoria takes the program counter for the PID and `AX` for the TID. -/
theorem leerActualizarContexto_ids {g g' : Mem} {offset : UInt32} {alcance : ℕ}
    {registros : Registros} {PID TID : UInt32} {leido : Int32 × Int32 × TContextoCpu}
    (h : leerActualizarContexto alcance
      (bufferIntacto g' (serializarPIDTID g offset registros PID TID).payload) = some leido) :
    leido.1 = registros.PC.toInt32 ∧ leido.2.1 = registros.AX.toInt32 := by
  have hlen := length_payload_serializarPIDTID g offset registros PID TID
  have hunread := bufferIntacto_unread g' (hlen.trans_lt (by omega))
  unfold leerActualizarContexto at h
  generalize bufferIntacto g' (serializarPIDTID g offset registros PID TID).payload = buffer at *
  rw [serializarPIDTID_payload, List.flatMap_cons, List.flatMap_cons,
    ← UInt32.toUInt32_toInt32 registros.PC, ← UInt32.toUInt32_toInt32 registros.AX] at hunread
  obtain ⟨hPC, hunread⟩ := bufferReadInt_unread hunread
  obtain ⟨hAX, -⟩ := bufferReadInt_unread hunread
  obtain ⟨r, -, rfl⟩ := Option.map_eq_some_iff.mp h
  exact ⟨hPC, hAX⟩

/-- The message of `enviar_contexto` starts with the length of the base. -/
theorem take_payload_enviarContexto (g : Mem) {contexto : TContextoCpu}
    (hbase : contexto.contexto.base.length < 2 ^ 31) :
    (bufferEnviarContexto g contexto).payload.take 4 =
      bytesInt (Int32.ofNat contexto.contexto.base.length) := by
  have hlen := length_bytesInt (Int32.ofNat contexto.contexto.base.length)
  have hlim := length_bytesInt contexto.contexto.limite
  have hbytes : contexto.contexto.base.bytes.length = contexto.contexto.base.length := rfl
  unfold bufferEnviarContexto bufferAddContexto
  rw [bufferAddString_eq _ hbase]
  generalize bytesInt (Int32.ofNat contexto.contexto.base.length) = largo at *
  -- the length stands at the start, and every later write begins behind it
  have ho : (bufferCreate g 56).offset.toNat = 0 := rfl
  have hself : (bufferWrite (bufferCreate g 56) largo).stream.mem.read 0 4 = largo := by
    rw [← hlen]
    exact Mem.read_write_self g 0 largo
  have hsize : (bufferWrite (bufferCreate g 56) largo).size.toNat = 56 := rfl
  have h₁ : (bufferWrite (bufferCreate g 56) largo).offset.toNat = 4 := by
    rw [bufferWrite_offset (by omega)]
    omega
  generalize bufferWrite (bufferCreate g 56) largo = buffer at *
  have h₂ : (bufferWrite buffer contexto.contexto.base.bytes).offset.toNat =
      4 + contexto.contexto.base.length := by
    rw [bufferWrite_offset (by omega)]
    omega
  have h₃ : 4 ≤ (bufferWrite (bufferWrite buffer contexto.contexto.base.bytes)
      (bytesInt contexto.contexto.limite)).offset.toNat := by
    rw [bufferWrite_offset (by omega)]
    omega
  calc (Mem.read _ 0 buffer.size.toNat).take 4 = Mem.read _ 0 4 := Mem.take_read _ _ (by omega)
    _ = _ := bufferWrite_read_of_le h₃ _
    _ = _ := bufferWrite_read_of_le (by omega) _
    _ = _ := bufferWrite_read_of_le (by omega) _
    _ = largo := hself

theorem deserializarRegistros_PC (g g' : Mem) {contexto : TContextoCpu}
    (hbase : contexto.contexto.base.length < 2 ^ 31) :
    (deserializarRegistros (bufferIntacto g' (bufferEnviarContexto g contexto).payload)).1.PC =
      UInt32.ofNat contexto.contexto.base.length := by
  have hlen := TBuffer.length_payload_lt (bufferEnviarContexto g contexto)
  have hunread := bufferIntacto_unread g' hlen
  generalize bufferIntacto g' (bufferEnviarContexto g contexto).payload = buffer at *
  rw [← List.take_append_drop 4 (bufferEnviarContexto g contexto).payload,
    take_payload_enviarContexto g hbase] at hunread
  exact (bufferReadUint32_unread hunread).1

/-! ## The stored program counter -/

/-- The heap in which the block of the message is followed by a NUL and then by
bytes `b`. -/
def heapTras (b : UInt8) : Mem := fun i => if i = 44 then 0 else b

/-- Behind the 44 bytes of a message memoria reads what the heap held there, and
takes it for the program counter. -/
theorem leerActualizarContexto_heapTras (b : UInt8) {bs : List UInt8} (hbs : bs.length = 44) :
    ∃ leido, leerActualizarContexto 64 (bufferIntacto (heapTras b) bs) = some leido ∧
      leido.2.2.registros.pc = (uint32OfBytes [b, b, b, b]).toInt32 := by
  have hmem : ∀ i, 44 ≤ i → (heapTras b).write 0 bs i = heapTras b i := fun i hi =>
    Mem.write_apply_of_le (by omega)
  -- the base starts at offset 8 and ends at 44 or before
  have hnul : (heapTras b).write 0 bs (8 + 36) = 0 := by
    rw [hmem _ (by omega)]
    rfl
  obtain ⟨n, hn, hstrlen⟩ := Mem.exists_strlen (show 36 < 64 by omega) hnul
  have hlt : (bufferReadInt (bufferReadInt (bufferIntacto (heapTras b) bs)).2).2.offset.toNat + n +
      41 < 2 ^ 32 := by
    show 8 + n + 41 < 2 ^ 32
    omega
  obtain ⟨r, hr, hpc⟩ := bufferReadContexto_pc hstrlen (by omega) hlt
  refine ⟨_, congrArg (Option.map _) hr, hpc.trans ?_⟩
  -- so the program counter lies behind it
  have hread : ((heapTras b).write 0 bs).read (8 + n + 37) 4 = [b, b, b, b] := by
    have happly : ∀ i, 44 < i → (heapTras b).write 0 bs i = b := by
      intro i hi
      rw [hmem i (by omega)]
      exact if_neg (by omega)
    show [_, _, _, _] = [b, b, b, b]
    dsimp only
    rw [happly _ (by omega), happly _ (by omega), happly _ (by omega), happly _ (by omega)]
  exact congrArg (fun bytes => (uint32OfBytes bytes).toInt32) hread

theorem not_guardadoFiel (registros : Registros) (PID TID : UInt32) :
    ¬ GuardadoFiel registros PID TID := by
  intro h
  have hpc : ∀ b : UInt8, (uint32OfBytes [b, b, b, b]).toInt32 = registros.PC.toInt32 := by
    intro b
    obtain ⟨leido, hleido, hb⟩ := leerActualizarContexto_heapTras b
      (length_payload_serializarPIDTID (fun _ => 0) 0 registros PID TID)
    obtain ⟨-, -, hregistros⟩ := h _ _ _ _ leido hleido
    rw [← hb, hregistros]
    rfl
  exact absurd ((hpc 0).trans (hpc 1).symm) (by decide)

/-- **No context is saved and restored**, whatever the registers, the PID, the TID
and the process. -/
theorem not_contextoFiel (comun : TContextoComun) (base : UInt32) (registros : Registros)
    (PID TID : UInt32) : ¬ ContextoFiel comun base registros PID TID :=
  fun h => not_guardadoFiel registros PID TID h.1

/-- Thread 2 of process 1, evicted at instruction 5 with 7 in `AX`, is stored as
thread 7 of process 5. -/
theorem not_contextoFiel_desalojo :
    ¬ ContextoFiel ⟨CString.ofBytes [], 64⟩ 0 ⟨5, 7, 0, 0, 0, 0, 0, 0, 0, 0, 64⟩ 1 2 := by
  rintro ⟨hguardado, -⟩
  have hleido : (leerActualizarContexto 64 (bufferIntacto (fun _ => 0)
      (serializarPIDTID (fun _ => 0) 0 ⟨5, 7, 0, 0, 0, 0, 0, 0, 0, 0, 64⟩ 1 2).payload)).map
        (fun leido => (leido.1, leido.2.1)) = some (5, 7) := by decide
  obtain ⟨leido, hsome, hpair⟩ := Option.map_eq_some_iff.mp hleido
  obtain ⟨hpid, -, -⟩ := hguardado _ _ _ _ leido hsome
  rw [(Prod.mk.inj hpair).1] at hpid
  exact absurd hpid (by decide)

end SoTp.Memoria
