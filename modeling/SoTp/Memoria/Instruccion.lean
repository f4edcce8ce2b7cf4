import SoTp.Memoria.Almacen
import SoTp.Memoria.Contexto

/-!
# Fetching an instruction

The exchange between `solicitar_instruccion` and `fetchInstruccion` of the CPU
(`cpu/src/conexion_memoria.c`, lines 27–38; `cpu/src/cpu.c`, lines 41–62) and the case
`MEMORIA_CPU_OBTENER_INSTRUCCION` of memoria (`memoria/src/manejar_cpu.c`, lines
96–110 and 200–218), with the frames arriving intact.

Both messages declare fewer bytes than are written to them: the request 8 for three
`uint32_t`, the reply `strlen` bytes for the length of the text and the text.

* `leerObtenerInstruccion_solicitar`: memoria takes the program counter from its heap.
* `not_textoFiel`: no text arrives as it was sent.
* `not_fetchFiel`: **no fetch is faithful**, whatever the thread, the program counter
  and the stored text.
-/

namespace SoTp.Cpu

open SoTp.Lib SoTp.Utils

/-! ## The CPU -/

/-- The buffer that `solicitar_instruccion(pid, tid, pc)` sends. -/
def bufferSolicitarInstruccion (g : Mem) (pid tid : UInt32) (pc : Int32) : TBuffer :=
  let buffer := bufferCreate g 8
  let buffer := bufferAddUint32 buffer pid
  let buffer := bufferAddUint32 buffer tid
  bufferAddUint32 buffer pc.toUInt32

/-- What `fetchInstruccion` returns of the reply; `stream` is `NULL` when its size was
negative as an `int`. -/
def leerInstruccion (bufferInstruccion : TBuffer) : Option CString :=
  if bufferInstruccion.size.toInt32 < 0 then none else some (bufferReadString bufferInstruccion).1

end SoTp.Cpu

namespace SoTp.Memoria

open SoTp.Lib SoTp.Utils SoTp.Cpu

/-! ## Memoria -/

/-- What the case `MEMORIA_CPU_OBTENER_INSTRUCCION` reads: the PID, the TID and the
program counter. -/
def leerObtenerInstruccion (buffer : TBuffer) : Int32 × Int32 × Int32 :=
  let (pid, buffer) := bufferReadInt buffer
  let (tid, buffer) := bufferReadInt buffer
  let (pc, _) := bufferReadInt buffer
  (pid, tid, pc)

/-- The buffer that `enviar_instruccion` sends of a text. -/
def bufferInstruccion (g : Mem) (instruccion : CString) : TBuffer :=
  let lenInstruccion : Int32 := Int32.ofNat instruccion.length
  bufferAddString (bufferCreate g lenInstruccion) instruccion

/-- `enviar_instruccion(fd_cliente, instruccion)`: `strlen` follows the pointer, be it
`NULL`. -/
def enviarInstruccion (g : Mem) (instruccion : Option CString) : Option (List UInt8) :=
  instruccion.map fun instruccion => enviarBuffer (bufferInstruccion g instruccion)

/-! ## What a fetch should do -/

/-- Memoria reads the ids and the program counter of the request. -/
def PedidoFiel (pid tid : UInt32) (pc : Int32) : Prop :=
  ∀ g g' : Mem,
    leerObtenerInstruccion (bufferIntacto g' (bufferSolicitarInstruccion g pid tid pc).payload) =
      (pid.toInt32, tid.toInt32, pc)

/-- The CPU reads the text that memoria sends. -/
def TextoFiel (texto : CString) : Prop :=
  ∀ g g' : Mem, leerInstruccion (bufferIntacto g' (bufferInstruccion g texto).payload) = some texto

/-- The whole exchange: memoria looks up what it reads of the request, and the CPU
reads the reply. -/
def fetch (g g' g'' g''' : Mem) (m : Almacen) (pid tid : UInt32) (pc : Int32) :
    Option (Option CString) := do
  let (pid, tid, pc) := leerObtenerInstruccion
    (bufferIntacto g' (bufferSolicitarInstruccion g pid tid pc).payload)
  let instruccion ← (← obtenerInstruccionNumero m pid tid pc)
  some (leerInstruccion (bufferIntacto g''' (bufferInstruccion g'' instruccion).payload))

/-- A fetch of the thread `tid` of `pid` at `pc`, where memoria has `texto`: the request
is read as it was meant, and the CPU gets the text. -/
def FetchFiel (m : Almacen) (pid tid : UInt32) (pc : Int32) (texto : CString) : Prop :=
  PedidoFiel pid tid pc ∧
    ∀ g g' g'' g''' : Mem, fetch g g' g'' g''' m pid tid pc = some (some texto)

/-! ## The request -/

/-- The bytes sent are those of the two ids. -/
theorem payload_solicitarInstruccion (g : Mem) (pid tid : UInt32) (pc : Int32) :
    (bufferSolicitarInstruccion g pid tid pc).payload =
      bytesInt pid.toInt32 ++ bytesInt tid.toInt32 := by
  have hw : Written (bufferAddInt (bufferAddInt (bufferCreate g 8) pid.toInt32) tid.toInt32)
      (bytesInt pid.toInt32 ++ bytesInt tid.toInt32) := by
    have h := addFields_written [.int pid.toInt32, .int tid.toInt32] (bufferCreate_written g 8)
      (show 8 ≤ 8 from le_refl 8) (show 8 < 2 ^ 31 by omega)
    simpa [addFields, addField, Field.bytes] using h
  unfold bufferSolicitarInstruccion
  simp only [bufferAddUint32_eq]
  have hsize : (bufferAddInt (bufferAddInt (bufferCreate g 8) pid.toInt32) tid.toInt32).size = 8 :=
    rfl
  generalize bufferAddInt (bufferAddInt (bufferCreate g 8) pid.toInt32) tid.toInt32 = buffer at *
  have hlen : (bytesInt pid.toInt32 ++ bytesInt tid.toInt32).length = 8 := by
    rw [List.length_append, length_bytesInt, length_bytesInt]
  -- the program counter goes behind the bytes that are sent
  have hbefore : (bufferWrite buffer (bytesInt pc.toUInt32.toInt32)).stream.mem.read 0 8 =
      buffer.stream.mem.read 0 8 := bufferWrite_read_of_le (by rw [hw.offset_eq, hlen]) _
  have hcontents := hw.contents
  rw [hlen] at hcontents
  show Mem.read _ 0 buffer.size.toNat = _
  rw [hsize]
  exact hbefore.trans hcontents

/-- **Memoria takes the program counter from its heap**, behind the ids. -/
theorem leerObtenerInstruccion_solicitar (g g' : Mem) (pid tid : UInt32) (pc : Int32) :
    leerObtenerInstruccion (bufferIntacto g' (bufferSolicitarInstruccion g pid tid pc).payload) =
      (pid.toInt32, tid.toInt32, (uint32OfBytes (g'.read 8 4)).toInt32) := by
  rw [payload_solicitarInstruccion]
  have hlen : (bytesInt pid.toInt32 ++ bytesInt tid.toInt32).length = 8 := by
    rw [List.length_append, length_bytesInt, length_bytesInt]
  have hlt : (bytesInt pid.toInt32 ++ bytesInt tid.toInt32).length < 2 ^ 32 := by
    rw [hlen]
    omega
  have hunread := bufferIntacto_unread g' hlt
  have hmem :
      (bufferIntacto g' (bytesInt pid.toInt32 ++ bytesInt tid.toInt32)).stream.mem.read 8 4 =
        g'.read 8 4 := by
    apply Mem.read_congr
    intro i _
    show g'.write 0 _ (8 + i) = g' (8 + i)
    exact Mem.write_apply_of_le (by omega)
  have hoffset : (bufferIntacto g' (bytesInt pid.toInt32 ++ bytesInt tid.toInt32)).offset = 0 := rfl
  generalize bufferIntacto g' (bytesInt pid.toInt32 ++ bytesInt tid.toInt32) = buffer at *
  obtain ⟨hpid, hunread⟩ := bufferReadInt_unread hunread
  rw [← List.append_nil (bytesInt tid.toInt32)] at hunread
  obtain ⟨htid, -⟩ := bufferReadInt_unread hunread
  have hpc : (bufferReadInt (bufferReadInt (bufferReadInt buffer).2).2).1 =
      (uint32OfBytes (buffer.stream.mem.read 8 4)).toInt32 := by
    show (uint32OfBytes (buffer.stream.mem.read
      (buffer.offset + UInt32.ofNat 4 + UInt32.ofNat 4).toNat 4)).toInt32 = _
    rw [hoffset]
    rfl
  rw [hmem] at hpc
  exact Prod.ext hpid (Prod.ext htid hpc)

theorem not_pedidoFiel (pid tid : UInt32) (pc : Int32) : ¬ PedidoFiel pid tid pc := by
  intro h
  have hpc : ∀ g' : Mem, (uint32OfBytes (g'.read 8 4)).toInt32 = pc := by
    intro g'
    have hread := (leerObtenerInstruccion_solicitar (fun _ => 0) g' pid tid pc).symm.trans (h _ g')
    exact congrArg (fun r => r.2.2) hread
  exact absurd ((hpc fun _ => 0).trans (hpc fun _ => 1).symm) (by decide)

/-! ## The reply -/

theorem length_payload_bufferInstruccion (g : Mem) (texto : CString) :
    (bufferInstruccion g texto).payload.length ≤ texto.length := by
  rw [TBuffer.length_payload]
  have hsize : (bufferInstruccion g texto).size = (Int32.ofNat texto.length).toUInt32 :=
    bufferAddString_size _ _
  rw [hsize]
  show (UInt32.ofNat texto.length).toNat ≤ texto.length
  rw [UInt32.toNat_ofNat']
  exact Nat.mod_le _ _

theorem bufferReadString_bufferIntacto (g : Mem) (bs : List UInt8) :
    (bufferReadString (bufferIntacto g bs)).1 = CString.ofBytes ((g.write 0 bs).read 4
      (uint32OfBytes ((g.write 0 bs).read 0 4)).toInt32.toInt.toNat) := rfl

/-- From a heap of zeros the text comes back at least a byte too short. -/
theorem length_bufferReadString_lt (g : Mem) {texto : CString} (h : 0 < texto.length) :
    (bufferReadString (bufferIntacto (fun _ => 0) (bufferInstruccion g texto).payload)).1.length <
      texto.length := by
  have hlen := length_payload_bufferInstruccion g texto
  generalize (bufferInstruccion g texto).payload = bs at *
  rw [bufferReadString_bufferIntacto]
  have hcero : Mem.write (fun _ => 0) 0 bs (4 + (bs.length - 4)) = 0 :=
    Mem.write_apply_of_le (by omega)
  generalize (uint32OfBytes (Mem.read _ 0 4)).toInt32.toInt.toNat = n
  have hle : (CString.ofBytes (Mem.read (Mem.write (fun _ => 0) 0 bs) 4 n)).length ≤
      bs.length - 4 := by
    apply CString.length_ofBytes_le
    by_cases hn : bs.length - 4 < n
    · rw [List.getD_eq_getElem _ _ (by rwa [Mem.length_read]), Mem.getElem_read]
      exact hcero
    · exact List.getD_eq_default _ _ (by rw [Mem.length_read]; omega)
  omega

theorem length_bufferReadString_pos :
    0 < (bufferReadString (bufferIntacto (fun _ => 1) [])).1.length := by
  rw [bufferReadString_bufferIntacto]
  have hmem : Mem.write (fun _ => 1) 0 [] = fun _ => 1 := by
    funext i
    exact Mem.write_apply_of_le (Nat.zero_le i)
  have hn : (uint32OfBytes (Mem.read (fun _ => 1) 0 4)).toInt32.toInt.toNat = 1 + 16843008 := by
    decide
  have hread : Mem.read (fun _ => 1) 4 1 = [1] := rfl
  rw [hmem, hn, Mem.read_add, hread, List.singleton_append]
  exact CString.length_ofBytes_pos (by decide) _

/-- **No text arrives as it was sent.** -/
theorem not_textoFiel (texto : CString) : ¬ TextoFiel texto := by
  intro h
  have hread : ∀ g g' : Mem,
      (bufferReadString (bufferIntacto g' (bufferInstruccion g texto).payload)).1 = texto := by
    intro g g'
    have hleido := h g g'
    unfold leerInstruccion at hleido
    split at hleido
    · cases hleido
    · exact Option.some.inj hleido
  by_cases hpos : 0 < texto.length
  · have hlt := length_bufferReadString_lt (fun _ => 0) hpos
    rw [hread] at hlt
    exact Nat.lt_irrefl _ hlt
  · have hpayload : (bufferInstruccion (fun _ => 0) texto).payload = [] := by
      have hlen := length_payload_bufferInstruccion (fun _ => 0) texto
      exact List.length_eq_zero_iff.mp (by omega)
    have hlt := length_bufferReadString_pos
    rw [← hpayload, hread] at hlt
    exact hpos hlt

/-! ## The exchange -/

/-- **No fetch is faithful**, whatever the thread, the program counter and the text
that memoria has there. -/
theorem not_fetchFiel (m : Almacen) (pid tid : UInt32) (pc : Int32) (texto : CString) :
    ¬ FetchFiel m pid tid pc texto := fun h => not_pedidoFiel pid tid pc h.1

/-- Thread 2 of process 1 fetches its second instruction, `LOG AX`. Between heaps of
zeros it gets the first four characters of the first one, `SET AX 1`. -/
theorem not_fetchFiel_log :
    ∃ m, crearHilo (fun _ => some (ascii "SET AX 1\nLOG AX\nEXIT"))
        (insertarProceso ⟨∅, []⟩ 1 (CString.ofBytes (ascii "proc")) 64 4096) 1 2
        (CString.ofBytes (ascii "proc")) 0 = some (true, m) ∧
      obtenerInstruccionNumero m 1 2 1 = some (some (CString.ofBytes (ascii "LOG AX"))) ∧
      ¬ FetchFiel m 1 2 1 (CString.ofBytes (ascii "LOG AX")) ∧
      fetch (fun _ => 0) (fun _ => 0) (fun _ => 0) (fun _ => 0) m 1 2 1 =
        some (some (CString.ofBytes (ascii "SET "))) := by
  refine ⟨_, rfl, by decide, ?_, by decide⟩
  intro h
  exact not_pedidoFiel 1 2 1 h.1

end SoTp.Memoria
