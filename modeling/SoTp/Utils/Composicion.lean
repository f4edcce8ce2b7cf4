import SoTp.Utils.Fields
import SoTp.Utils.Serializacion
import SoTp.Utils.Socket

/-!
# Buffers made of buffers

Models of `buffer_add_buffer` (`utils/src/commons.c`, lines 76–89), `buffer_get_sobrante`
(lines 222–228), `SerializarString` and `DeserializarString` (lines 236–241, 468–473) and
`SerializarRegistros` (lines 380–417): how a message is put together from parts that were
built on their own, and what is left of it when the first parts have been read.

`Contiene b bs` says that `bs` fill the block of `b`. Adding a buffer appends what it
contains (`bufferAddBuffer_contiene`), and the sobrante of a buffer contains what is unread
in it (`bufferGetSobrante_received`).

* `leerPartes_armar`: **a message of any parts is read part by part.**
* `registrosEnviados_iff`: **`SerializarRegistros` makes room in the block and not in the
  size**, so the registers are sent exactly when the buffer was created with their 44 bytes.
-/

namespace SoTp.Utils

open SoTp.Lib

/-! ## Model -/

/-- `buffer_add_buffer(buffer1, buffer2)` (lines 76–89); `g` is what `realloc` finds behind
the contents of the first one. The bytes of the second one go where the old size, as an
`int`, says: a negative one is in front of the block. What has happened to the block of the
second one, which is read here, is recorded with the result. -/
def bufferAddBuffer (g : Mem) (buffer1 buffer2 : TBuffer) : TBuffer :=
  let offset := buffer1.size.toInt32
  let size := buffer1.size + buffer2.size
  let stream := buffer1.stream.realloc g size.toNat
  let leido := buffer2.stream.touch 0 buffer2.size.toNat
  if offset < 0 then { buffer1 with size := size, stream := { stream with overrun := true } }
  else
    let stream := stream.store offset.toInt.toNat buffer2.payload
    { buffer1 with
      size := size
      stream := { stream with overrun := stream.overrun || leido.overrun } }

/-- `buffer_get_sobrante(buffer)` (lines 222–228): a new buffer with the bytes from the offset
on. With the offset behind the end `sobrante` is negative, and `memcpy` takes it for a huge
size. What has happened to the block that is read is recorded with the new one. -/
def bufferGetSobrante (g : Mem) (buffer : TBuffer) : TBuffer :=
  let sobrante := (buffer.size - buffer.offset).toInt32
  let n := sobrante.toInt.toNat
  let leido := buffer.stream.touch buffer.offset.toNat n
  let bufferNuevo := bufferCreate g sobrante
  let stream := bufferNuevo.stream.store 0 (buffer.stream.mem.read buffer.offset.toNat n)
  { bufferNuevo with
    stream := { stream with
      overrun := stream.overrun || leido.overrun || decide (sobrante < 0) } }

/-- `SerializarString(mensaje)` (lines 236–241). -/
def serializarString (g : Mem) (mensaje : CString) : TBuffer :=
  bufferAddString (bufferCreate g (Int32.ofNat (mensaje.length + 4))) mensaje

/-- `DeserializarString(buffer)` (lines 468–473). -/
def deserializarString (buffer : TBuffer) : CString × TBuffer := bufferReadString buffer

/-- The fields of `SerializarRegistros`, in the order of its assignments. -/
def camposRegistros (registros : Registros) : List Field :=
  [.uint32 registros.PC, .uint32 registros.AX, .uint32 registros.BX, .uint32 registros.CX,
    .uint32 registros.DX, .uint32 registros.EX, .uint32 registros.FX, .uint32 registros.GX,
    .uint32 registros.HX, .uint32 registros.BASE, .uint32 registros.LIMITE]

/-- `SerializarRegistros(buffer, registros)` (lines 380–417): the block gets 44 bytes behind
the offset, which the registers fill. `g` is what `realloc` finds there. -/
def serializarRegistros (g : Mem) (buffer : TBuffer) (registros : Registros) : TBuffer :=
  addFields { buffer with stream := buffer.stream.realloc g (buffer.offset.toNat + 44) }
    (camposRegistros registros)

/-! ## What a buffer contains -/

/-- The block of the buffer is as long as its `size`, its bytes are `bs`, and no access has
left it so far. -/
structure Contiene (buffer : TBuffer) (bs : List UInt8) : Prop where
  payload_eq : buffer.payload = bs
  cap_eq : buffer.stream.cap = buffer.size.toNat
  inside : buffer.overrun = false

theorem Contiene.size_eq {buffer : TBuffer} {bs : List UInt8} (h : Contiene buffer bs) :
    buffer.size.toNat = bs.length := by
  rw [← h.payload_eq, TBuffer.length_payload]

/-- A buffer created with the length of the fields and filled with them. -/
theorem addFields_contiene (g : Mem) {fields : List Field} (h : totalWidth fields < 2 ^ 31) :
    Contiene (addFields (bufferCreate g (Int32.ofNat (totalWidth fields))) fields)
      (fields.flatMap Field.bytes) := by
  have hint : (Int32.ofNat (totalWidth fields)).toInt = totalWidth fields :=
    Int32.toInt_ofNat_of_lt h
  have hnonneg : (0 : Int32) ≤ Int32.ofNat (totalWidth fields) := by
    rw [Int32.le_iff_toInt_le, hint]
    simp
  have hcap : (bufferCreate g (Int32.ofNat (totalWidth fields))).stream.cap =
      totalWidth fields := by
    show (Int32.ofNat (totalWidth fields)).toInt.toNat = _
    omega
  have hsize : (bufferCreate g (Int32.ofNat (totalWidth fields))).size.toNat =
      totalWidth fields := by
    show (Int32.ofNat (totalWidth fields)).toUInt32.toNat = _
    rw [Int32.toNat_toUInt32_of_le hnonneg]
    exact hcap
  have hw := addFields_written fields (bufferCreate_written g (Int32.ofNat (totalWidth fields)))
    (by rw [hcap, List.length_nil, Nat.zero_add]) (by rw [hcap]; exact h)
  rw [List.nil_append] at hw
  refine ⟨?_, ?_, hw.inside⟩
  · have hcontents := hw.contents
    rw [length_flatMap_bytes] at hcontents
    rw [TBuffer.payload, addFields_size, hsize]
    exact hcontents
  · rw [addFields_cap, addFields_size, hcap, hsize]

/-- **Adding a buffer appends what it contains.** -/
theorem bufferAddBuffer_contiene (g : Mem) {buffer1 buffer2 : TBuffer} {bs cs : List UInt8}
    (h1 : Contiene buffer1 bs) (h2 : Contiene buffer2 cs) (hlt : bs.length + cs.length < 2 ^ 31) :
    Contiene (bufferAddBuffer g buffer1 buffer2) (bs ++ cs) := by
  have hsize : (buffer1.size + buffer2.size).toNat = bs.length + cs.length := by
    rw [UInt32.toNat_add, h1.size_eq, h2.size_eq]
    omega
  have hoffset : buffer1.size.toInt32.toInt = bs.length := by
    rw [toInt_toInt32_of_lt (by rw [h1.size_eq]; omega), h1.size_eq]
  have hneg : ¬ buffer1.size.toInt32 < 0 := by
    rw [Int32.lt_iff_toInt_lt, hoffset, Int32.toInt_zero]
    omega
  have hold : (buffer1.stream.realloc g (buffer1.size + buffer2.size).toNat).mem.read 0
      bs.length = bs := by
    rw [Block.read_realloc g (by rw [h1.cap_eq, h1.size_eq]) (by omega), ← h1.size_eq]
    exact h1.payload_eq
  have hleido : (buffer2.stream.touch 0 buffer2.size.toNat).overrun = false := by
    rw [Block.touch_overrun_of_le (by rw [h2.cap_eq, Nat.zero_add])]
    exact h2.inside
  unfold bufferAddBuffer
  dsimp only
  rw [if_neg hneg, hoffset, Int.toNat_natCast, h2.payload_eq, hleido, Bool.or_false]
  refine ⟨?_, rfl, ?_⟩
  · show Mem.read (Mem.write _ _ _) 0 (buffer1.size + buffer2.size).toNat = _
    rw [hsize]
    exact Mem.read_write_append _ bs cs (by rw [← hsize]; exact hold)
  · show (Block.touch _ _ _).overrun = false
    rw [Block.touch_overrun_of_le (by rw [Block.realloc_cap, hsize])]
    exact h1.inside

/-- **The sobrante contains what is unread.** -/
theorem bufferGetSobrante_received (g : Mem) {buffer : TBuffer} {bs : List UInt8}
    (h : Unread buffer bs) (hlt : bs.length < 2 ^ 31) :
    Received (bufferGetSobrante g buffer) bs := by
  have hsize : (buffer.size - buffer.offset).toNat = bs.length := by
    have hle : buffer.offset ≤ buffer.size := by
      rw [UInt32.le_iff_toNat_le, ← h.bound]
      exact Nat.le_add_right _ _
    rw [UInt32.toNat_sub_of_le _ _ hle, ← h.bound]
    omega
  have hint : (buffer.size - buffer.offset).toInt32.toInt = bs.length := by
    rw [toInt_toInt32_of_lt (by rw [hsize]; exact hlt), hsize]
  have hneg : ¬ (buffer.size - buffer.offset).toInt32 < 0 := by
    rw [Int32.lt_iff_toInt_lt, hint, Int32.toInt_zero]
    omega
  have hleido : (buffer.stream.touch buffer.offset.toNat bs.length).overrun = false := by
    rw [Block.touch_overrun_of_le (by rw [h.cap_eq, h.bound])]
    exact h.inside
  unfold bufferGetSobrante
  dsimp only
  rw [hint, Int.toNat_natCast, h.contents, hleido, decide_eq_false hneg, Bool.or_false,
    Bool.or_false, bufferCreate_of_lt g (by rw [hsize]; exact hlt)]
  exact received_store g hsize.symm

/-! ## A message in parts -/

/-- A part of a message: its fields, and what `buffer_create`, `realloc` and the
`buffer_create` of `buffer_get_sobrante` find on the heap for it. -/
structure Parte where
  fields : List Field
  creado : Mem
  agregado : Mem
  sobrante : Mem

/-- The encoding of the part. -/
def Parte.bytes (parte : Parte) : List UInt8 := parte.fields.flatMap Field.bytes

/-- The part in a buffer of its own. -/
def Parte.buffer (parte : Parte) : TBuffer :=
  addFields (bufferCreate parte.creado (Int32.ofNat (totalWidth parte.fields))) parte.fields

/-- The parts, one added behind the other to a buffer. -/
def armar (buffer : TBuffer) (partes : List Parte) : TBuffer :=
  partes.foldl (fun buffer parte => bufferAddBuffer parte.agregado buffer parte.buffer) buffer

/-- The reader of a message in parts: the fields of the first one, and then those of the
others in the sobrante. The last sobrante is returned. -/
def leerPartes (buffer : TBuffer) : List Parte → List (List Field) × TBuffer
  | [] => ([], buffer)
  | parte :: partes =>
    let (fields, buffer) := readFields buffer (parte.fields.map Field.type)
    let (leidas, sobrante) := leerPartes (bufferGetSobrante parte.sobrante buffer) partes
    (fields :: leidas, sobrante)

/-- Each part is appended to what the buffer contains. -/
theorem armar_contiene (partes : List Parte) {buffer : TBuffer} {bs : List UInt8}
    (h : Contiene buffer bs) (hlt : (bs ++ partes.flatMap Parte.bytes).length < 2 ^ 31) :
    Contiene (armar buffer partes) (bs ++ partes.flatMap Parte.bytes) := by
  induction partes generalizing buffer bs with
  | nil =>
    rw [List.flatMap_nil, List.append_nil]
    exact h
  | cons parte partes ih =>
    rw [List.flatMap_cons, ← List.append_assoc] at hlt ⊢
    have hparte : bs.length + parte.bytes.length < 2 ^ 31 := by
      rw [List.length_append, List.length_append] at hlt
      omega
    have hlen : parte.bytes.length = totalWidth parte.fields := length_flatMap_bytes _
    have hbuffer : Contiene parte.buffer parte.bytes :=
      addFields_contiene parte.creado (by omega)
    exact ih (bufferAddBuffer_contiene parte.agregado h hbuffer hparte) hlt

/-- Each part is taken off what the buffer has unread. -/
theorem leerPartes_received (partes : List Parte) {buffer : TBuffer}
    (h : Received buffer (partes.flatMap Parte.bytes))
    (hlt : (partes.flatMap Parte.bytes).length < 2 ^ 31) :
    (leerPartes buffer partes).1 = partes.map Parte.fields ∧
      Received (leerPartes buffer partes).2 [] := by
  induction partes generalizing buffer with
  | nil => exact ⟨rfl, h⟩
  | cons parte partes ih =>
    rw [List.flatMap_cons, List.length_append] at hlt
    have hlen : parte.bytes.length = totalWidth parte.fields := length_flatMap_bytes _
    have hunread := h.unread
    rw [List.flatMap_cons] at hunread
    obtain ⟨hfields, hresto⟩ := readFields_unread parte.fields (by omega) hunread
    obtain ⟨hleidas, hfin⟩ :=
      ih (bufferGetSobrante_received parte.sobrante hresto (by omega)) (by omega)
    exact ⟨List.cons_eq_cons.mpr ⟨hfields, hleidas⟩, hfin⟩

theorem contiene_vacio (g : Mem) : Contiene (bufferCreate g 0) [] := ⟨rfl, rfl, rfl⟩

/-- **A message in parts.** Any lists of fields, each written in a buffer of its own of exactly
their length, added one behind the other to an empty buffer, sent in front of anything and
received: reading each part from the sobrante of the one before returns all of them in order,
nothing is left over, and no access has left its block on either side. -/
theorem leerPartes_armar (g g' : Mem) (partes : List Parte) (s : List UInt8)
    (hlt : (partes.map fun parte => totalWidth parte.fields).sum < 2 ^ 31) :
    (armar (bufferCreate g 0) partes).stream.cap =
        (armar (bufferCreate g 0) partes).size.toNat ∧
      (armar (bufferCreate g 0) partes).overrun = false ∧
      ∃ buffer, recibirBuffer g' (enviarBuffer (armar (bufferCreate g 0) partes) ++ s) =
          some (buffer, s) ∧
        (leerPartes buffer partes).1 = partes.map Parte.fields ∧
        (leerPartes buffer partes).2.size = 0 ∧
        (leerPartes buffer partes).2.overrun = false := by
  have hlen : (partes.flatMap Parte.bytes).length =
      (partes.map fun parte => totalWidth parte.fields).sum := by
    rw [List.length_flatMap]
    exact congrArg List.sum (List.map_congr_left fun parte _ => length_flatMap_bytes _)
  rw [← hlen] at hlt
  have harmar := armar_contiene partes (contiene_vacio g) hlt
  rw [List.nil_append] at harmar
  obtain ⟨buffer, hbuffer, hreceived⟩ := recibirBuffer_enviarBuffer g'
    (armar (bufferCreate g 0) partes) (by rw [harmar.size_eq]; exact hlt) s
  rw [harmar.payload_eq] at hreceived
  obtain ⟨hleidas, hfin⟩ := leerPartes_received partes hreceived hlt
  refine ⟨harmar.cap_eq, harmar.inside, buffer, hbuffer, hleidas, ?_, hfin.unread.inside⟩
  rw [← hfin.unread.offset_eq]
  exact hfin.offset_eq

/-- Two parts: a number and a text, and then a byte. -/
theorem leerPartes_armar_dos :
    let partes : List Parte :=
      [⟨[.int (-6), .string (CString.ofBytes (ascii "script"))], fun _ => 1, fun _ => 2,
          fun _ => 3⟩,
        ⟨[.uint8 7], fun _ => 4, fun _ => 5, fun _ => 6⟩]
    let buffer := armar (bufferCreate (fun _ => 0) 0) partes
    buffer.stream.cap = buffer.size.toNat ∧ buffer.overrun = false ∧
      ∃ recibido, recibirBuffer (fun _ => 9) (enviarBuffer buffer ++ [8]) =
          some (recibido, [8]) ∧
        (leerPartes recibido partes).1 = partes.map Parte.fields ∧
        (leerPartes recibido partes).2.size = 0 ∧
        (leerPartes recibido partes).2.overrun = false :=
  leerPartes_armar (fun _ => 0) (fun _ => 9) _ [8] (by decide)

/-- A text sent on its own comes back. -/
theorem deserializarString_serializarString (g g' : Mem) (mensaje : CString) (s : List UInt8)
    (hlt : mensaje.length + 4 < 2 ^ 31) :
    ∃ buffer, recibirBuffer g' (enviarBuffer (serializarString g mensaje) ++ s) =
        some (buffer, s) ∧ (deserializarString buffer).1 = mensaje ∧
      Unread (deserializarString buffer).2 [] := by
  have hwidth : totalWidth [.string mensaje] = mensaje.length + 4 := by
    rw [totalWidth, List.map_singleton, List.sum_singleton, Field.width, Nat.add_comm]
  have hcontiene := addFields_contiene g (hwidth.trans_lt hlt)
  rw [hwidth] at hcontiene
  obtain ⟨buffer, hbuffer, hreceived⟩ := recibirBuffer_enviarBuffer g'
    (serializarString g mensaje)
    (hcontiene.size_eq.trans_lt (by rw [length_flatMap_bytes, hwidth]; exact hlt)) s
  have hpayload : (serializarString g mensaje).payload = _ := hcontiene.payload_eq
  rw [hpayload, ← List.append_nil (List.flatMap _ _)] at hreceived
  obtain ⟨hfields, hfin⟩ := readFields_unread [.string mensaje] (hwidth.trans_lt hlt)
    hreceived.unread
  exact ⟨buffer, hbuffer, Field.string.inj (List.cons_eq_cons.mp hfields).1, hfin⟩

/-! ## Registers behind a message -/

theorem totalWidth_camposRegistros (registros : Registros) :
    totalWidth (camposRegistros registros) = 44 := rfl

theorem readFields_camposRegistros (buffer : TBuffer) (registros : Registros) :
    readFields buffer ((camposRegistros registros).map Field.type) =
      (camposRegistros (deserializarRegistros buffer).1, (deserializarRegistros buffer).2) := rfl

theorem camposRegistros_inj {registros registros' : Registros}
    (h : camposRegistros registros = camposRegistros registros') : registros = registros' := by
  cases registros
  cases registros'
  simpa [camposRegistros] using h

theorem serializarRegistros_size (g : Mem) (buffer : TBuffer) (registros : Registros) :
    (serializarRegistros g buffer registros).size = buffer.size := addFields_size _ _

theorem serializarRegistros_cap (g : Mem) (buffer : TBuffer) (registros : Registros) :
    (serializarRegistros g buffer registros).stream.cap = buffer.offset.toNat + 44 :=
  addFields_cap _ _

/-- The registers are appended to what is written, whatever room there was. -/
theorem serializarRegistros_written (g : Mem) {buffer : TBuffer} {bs : List UInt8}
    (h : Written buffer bs) (hcap : bs.length ≤ buffer.stream.cap) (registros : Registros)
    (hlt : bs.length + 44 < 2 ^ 31) :
    Written (serializarRegistros g buffer registros)
      (bs ++ (camposRegistros registros).flatMap Field.bytes) := by
  have hnuevo : (buffer.stream.realloc g (buffer.offset.toNat + 44)).cap = bs.length + 44 := by
    rw [Block.realloc_cap, h.offset_eq]
  have hw : Written
      { buffer with stream := buffer.stream.realloc g (buffer.offset.toNat + 44) } bs := by
    refine ⟨h.offset_eq, ?_, h.inside⟩
    exact (Block.read_realloc g hcap (by rw [h.offset_eq]; omega)).trans h.contents
  refine addFields_written (camposRegistros registros) hw ?_ ?_
  · rw [totalWidth_camposRegistros]
    exact hnuevo.ge
  · exact hnuevo.trans_lt hlt

/-- `n` words further in a buffer. -/
theorem bufferReadUint32_iterate (buffer : TBuffer) (n : ℕ)
    (hlt : buffer.offset.toNat + 4 * n < 2 ^ 32) :
    ((fun b => (bufferReadUint32 b).2)^[n] buffer).offset.toNat = buffer.offset.toNat + 4 * n ∧
      ((fun b => (bufferReadUint32 b).2)^[n] buffer).stream.cap = buffer.stream.cap := by
  induction n with
  | zero => exact ⟨rfl, rfl⟩
  | succ n ih =>
    obtain ⟨hoffset, hcap⟩ := ih (by omega)
    rw [Function.iterate_succ_apply']
    refine ⟨?_, hcap⟩
    have hcuatro : (UInt32.ofNat 4).toNat = 4 := rfl
    show (TBuffer.offset _ + UInt32.ofNat 4).toNat = _
    rw [UInt32.toNat_add, hoffset, hcuatro]
    omega

theorem bufferReadUint32_inside {buffer : TBuffer}
    (h : (bufferReadUint32 buffer).2.overrun = false) :
    buffer.offset.toNat + 4 ≤ buffer.stream.cap := by
  have hinside : buffer.stream.inside buffer.offset.toNat 4 = true :=
    Bool.not_inj (y := true) (Bool.or_eq_false_iff.mp h).2
  simpa [Block.inside] using hinside

theorem deserializarRegistros_inside {buffer : TBuffer}
    (hlt : buffer.offset.toNat + 44 < 2 ^ 32)
    (h : (deserializarRegistros buffer).2.overrun = false) :
    buffer.offset.toNat + 44 ≤ buffer.stream.cap := by
  have honce : (deserializarRegistros buffer).2 =
      (fun b => (bufferReadUint32 b).2)^[10 + 1] buffer := rfl
  rw [honce, Function.iterate_succ_apply'] at h
  have hlast := bufferReadUint32_inside h
  obtain ⟨hoffset, hcap⟩ := bufferReadUint32_iterate buffer 10 (by omega)
  omega

/-- A message of fields, in a buffer created with some size, with the registers behind it. -/
def mensajeRegistros (g g' : Mem) (size : Int32) (fields : List Field) (registros : Registros) :
    TBuffer :=
  serializarRegistros g' (addFields (bufferCreate g size) fields) registros

section

variable {g g' : Mem} {size : Int32} {fields : List Field} {registros : Registros}

theorem mensajeRegistros_cap (hfit : (totalWidth fields : ℤ) ≤ size.toInt) :
    (mensajeRegistros g g' size fields registros).stream.cap = totalWidth fields + 44 ∧
      (mensajeRegistros g g' size fields registros).size.toNat = size.toInt.toNat := by
  have hlt := size.toInt_lt
  have hw := addFields_written fields (bufferCreate_written g size)
    (by show 0 + totalWidth fields ≤ size.toInt.toNat; omega)
    (by show size.toInt.toNat < 2 ^ 31; omega)
  constructor
  · rw [mensajeRegistros, serializarRegistros_cap, hw.offset_eq, List.nil_append,
      length_flatMap_bytes]
  · have hnonneg : 0 ≤ size := by
      rw [Int32.le_iff_toInt_le, Int32.toInt_zero]
      omega
    rw [mensajeRegistros, serializarRegistros_size, addFields_size]
    exact Int32.toNat_toUInt32_of_le hnonneg

/-- What is sent, when it lies inside the block: the fields, and of the registers the bytes for
which the size has room. -/
theorem mensajeRegistros_payload (hfit : (totalWidth fields : ℤ) ≤ size.toInt)
    (hlt : totalWidth fields + 44 < 2 ^ 31) (hsize : size.toInt ≤ totalWidth fields + 44) :
    (mensajeRegistros g g' size fields registros).payload = fields.flatMap Field.bytes ++
      ((camposRegistros registros).flatMap Field.bytes).take
        (size.toInt.toNat - totalWidth fields) := by
  have hlt' := size.toInt_lt
  have hw := addFields_written fields (bufferCreate_written g size)
    (by show 0 + totalWidth fields ≤ size.toInt.toNat; omega)
    (by show size.toInt.toNat < 2 ^ 31; omega)
  rw [List.nil_append] at hw
  have hmensaje := serializarRegistros_written g' hw
    (by
      rw [length_flatMap_bytes, addFields_cap]
      show totalWidth fields ≤ size.toInt.toNat
      omega) registros (by rw [length_flatMap_bytes]; exact hlt)
  have hcontents := hmensaje.contents
  rw [List.length_append, length_flatMap_bytes, length_flatMap_bytes,
    totalWidth_camposRegistros] at hcontents
  rw [TBuffer.payload, (mensajeRegistros_cap hfit).2,
    ← Mem.take_read _ _ (show size.toInt.toNat ≤ totalWidth fields + 44 by omega)]
  show List.take size.toInt.toNat (Mem.read (serializarRegistros _ _ _).stream.mem 0 _) = _
  rw [hcontents, List.take_append, length_flatMap_bytes, List.take_of_length_le]
  rw [length_flatMap_bytes]
  omega

end

/-- **The registers are sent exactly when the size has room for them.** The block always has,
but not the size: `SerializarRegistros` leaves it as it is. For fields that fit the size the
buffer was created with: the bytes sent lie inside the block, the receiver gets the fields and
the registers, and it stays inside what it has received, if and only if that size was the
length of the fields and 44 bytes more. -/
theorem registrosEnviados_iff (g g' g'' : Mem) (size : Int32) (fields : List Field)
    (registros : Registros) (s : List UInt8) (hfit : (totalWidth fields : ℤ) ≤ size.toInt)
    (hlt : totalWidth fields + 44 < 2 ^ 31) :
    ((mensajeRegistros g g' size fields registros).size.toNat ≤
        (mensajeRegistros g g' size fields registros).stream.cap ∧
      ∃ buffer, recibirBuffer g'' (enviarBuffer (mensajeRegistros g g' size fields registros) ++
          s) = some (buffer, s) ∧
        (readFields buffer (fields.map Field.type)).1 = fields ∧
        (deserializarRegistros (readFields buffer (fields.map Field.type)).2).1 = registros ∧
        (deserializarRegistros (readFields buffer (fields.map Field.type)).2).2.overrun = false) ↔
      size.toInt = totalWidth fields + 44 := by
  have hcap : (mensajeRegistros g g' size fields registros).stream.cap =
      totalWidth fields + 44 := (mensajeRegistros_cap hfit).1
  have hsize : (mensajeRegistros g g' size fields registros).size.toNat = size.toInt.toNat :=
    (mensajeRegistros_cap hfit).2
  have hmax := size.toInt_lt
  obtain ⟨buffer, hbuffer, hreceived⟩ := recibirBuffer_enviarBuffer g''
    (mensajeRegistros g g' size fields registros) (by rw [hsize]; omega) s
  have hunread := hreceived.unread
  have hrecibido : buffer.size.toNat = size.toInt.toNat := by
    rw [← hunread.bound, hreceived.offset_eq, TBuffer.length_payload, hsize]
    exact Nat.zero_add _
  rw [hcap, hsize]
  constructor
  · rintro ⟨hle, buffer', hbuffer', -, -, hoverrun⟩
    obtain ⟨rfl, -⟩ := Prod.mk.inj (Option.some.inj (hbuffer.symm.trans hbuffer'))
    rw [mensajeRegistros_payload hfit hlt (by omega)] at hunread
    obtain ⟨-, hresto⟩ := readFields_unread fields (by omega) hunread
    have hbound := hresto.bound
    have hbloque := hresto.cap_eq
    rw [readFields_size, hrecibido] at hbound hbloque
    rw [List.length_take, length_flatMap_bytes, totalWidth_camposRegistros] at hbound
    -- the registers begin behind the fields, and the block ends with what was received
    have hinside := deserializarRegistros_inside (by omega) hoverrun
    omega
  · intro h
    rw [mensajeRegistros_payload hfit hlt h.le, List.take_of_length_le (by
      rw [length_flatMap_bytes, totalWidth_camposRegistros]
      omega), ← List.append_nil (List.flatMap _ (camposRegistros registros))] at hunread
    obtain ⟨hfields, hresto⟩ := readFields_unread fields (by omega) hunread
    obtain ⟨hregistros, hfin⟩ := readFields_unread (camposRegistros registros)
      (by rw [totalWidth_camposRegistros]; norm_num) hresto
    rw [readFields_camposRegistros] at hregistros hfin
    exact ⟨by omega, buffer, hbuffer, hfields, camposRegistros_inj hregistros, hfin.inside⟩

/-- A byte, and the registers behind it. -/
theorem registrosEnviados_iff_uint8 :
    ((mensajeRegistros (fun _ => 1) (fun _ => 2) 45 [.uint8 7]
          ⟨1, 2, 3, 4, 5, 6, 7, 8, 9, 10, 11⟩).size.toNat ≤
        (mensajeRegistros (fun _ => 1) (fun _ => 2) 45 [.uint8 7]
          ⟨1, 2, 3, 4, 5, 6, 7, 8, 9, 10, 11⟩).stream.cap ∧
      ∃ buffer, recibirBuffer (fun _ => 3) (enviarBuffer (mensajeRegistros (fun _ => 1)
          (fun _ => 2) 45 [.uint8 7] ⟨1, 2, 3, 4, 5, 6, 7, 8, 9, 10, 11⟩) ++ []) =
            some (buffer, []) ∧
        (readFields buffer [.uint8]).1 = [.uint8 7] ∧
        (deserializarRegistros (readFields buffer [.uint8]).2).1 =
          ⟨1, 2, 3, 4, 5, 6, 7, 8, 9, 10, 11⟩ ∧
        (deserializarRegistros (readFields buffer [.uint8]).2).2.overrun = false) :=
  (registrosEnviados_iff (fun _ => 1) (fun _ => 2) (fun _ => 3) 45 [.uint8 7]
    ⟨1, 2, 3, 4, 5, 6, 7, 8, 9, 10, 11⟩ [] (by decide) (by decide)).mpr rfl

end SoTp.Utils
