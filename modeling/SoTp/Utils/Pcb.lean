import SoTp.Utils.Serializacion

/-!
# Processes on the wire

Models of `SerializarPCB` and `DeserializarPCB` (`utils/src/commons.c`, lines 281–359).
The writer keeps its place in `size` and fills 1024 bytes; the reader keeps its own
place in `offset`, and takes the two counts from what it reads.

Specification: a process is laid out as words, `camposPCB`: the PID, and each of the two
lists behind its length. `leidos` are the bytes that the reader has taken.

* `serializarPCB_eq`: the writer writes these words one behind the other.
* `leerElementos_porLeer`: what a loop of the reader makes of them.
* `deserializarPCB_serializarPCB`: **a process comes back** with its lists in order, and
  the bytes that are read are those that were written.
-/

namespace SoTp.Utils

open SoTp.Lib

/-! ## Model -/

/-- `PCB` (`commons.h`, lines 111–117). What a `t_list` holds is a `void *`. -/
structure PCB where
  PID : UInt32
  estado : Int32
  TIDs : List UInt64
  mutex : List UInt64
  deriving DecidableEq, Repr

/-- `memcpy(buffer->stream + buffer->size, &data, sizeof(uint32_t))` and the addition
behind it. -/
def agregarUint32 (buffer : TBuffer) (data : UInt32) : TBuffer :=
  { buffer with
    stream := buffer.stream.store buffer.size.toNat (bytesUint32 data)
    size := buffer.size + 4 }

/-- The length of a list and its elements, each as a `uint32_t` (lines 292–302 and
304–314). `list_size` is an `int`: there are less than `2^31` of them. -/
def agregarLista (buffer : TBuffer) (lista : List UInt64) : TBuffer :=
  let buffer := agregarUint32 buffer (UInt32.ofNat lista.length)
  lista.foldl (fun buffer x => agregarUint32 buffer x.toUInt32) buffer

/-- `SerializarPCB(pcb)` (lines 281–317). The `offset` of the structure is never set: it is
what the heap held. -/
def serializarPCB (g : Mem) (offset : UInt32) (pcb : PCB) : TBuffer :=
  let buffer : TBuffer := ⟨0, offset, Block.alloc g 1024⟩
  let buffer := agregarUint32 buffer pcb.PID
  let buffer := agregarLista buffer pcb.TIDs
  agregarLista buffer pcb.mutex

/-- Where `DeserializarPCB` stands in a stream, and the bytes that it has read. -/
structure Lector where
  stream : Block
  offset : ℕ
  leidos : List ℕ

/-- `memcpy(&data, buffer->stream + offset, sizeof(uint32_t))` and the addition behind it. -/
def leerUint32 (lector : Lector) : UInt32 × Lector :=
  (uint32OfBytes (lector.stream.mem.read lector.offset 4),
    { stream := lector.stream.touch lector.offset 4
      offset := lector.offset + 4
      leidos := lector.leidos ++ List.range' lector.offset 4 })

/-- The loops of lines 336–341 and 350–355: `n` elements, each a `uint32_t` as a
`void *`. -/
def leerElementos : ℕ → Lector → List UInt64 × Lector
  | 0, lector => ([], lector)
  | n + 1, lector =>
    let (x, lector) := leerUint32 lector
    let (lista, lector) := leerElementos n lector
    (x.toUInt64 :: lista, lector)

/-- A length and as many elements (lines 330–341 and 344–355). -/
def leerLista (lector : Lector) : List UInt64 × Lector :=
  let (count, lector) := leerUint32 lector
  leerElementos count.toNat lector

/-- `DeserializarPCB(buffer)` (lines 320–359). The `estado` of the structure is never set:
it is what the heap held. -/
def deserializarPCB (estado : Int32) (buffer : TBuffer) : PCB × Lector :=
  let lector : Lector := ⟨buffer.stream, 0, []⟩
  let (PID, lector) := leerUint32 lector
  let (TIDs, lector) := leerLista lector
  let (mutex, lector) := leerLista lector
  (⟨PID, estado, TIDs, mutex⟩, lector)

/-! ## The words of a process -/

/-- A list behind its length. -/
def camposLista (lista : List UInt64) : List UInt32 :=
  UInt32.ofNat lista.length :: lista.map UInt64.toUInt32

/-- The words of a process. -/
def camposPCB (pcb : PCB) : List UInt32 :=
  pcb.PID :: camposLista pcb.TIDs ++ camposLista pcb.mutex

theorem length_camposLista (lista : List UInt64) :
    (camposLista lista).length = lista.length + 1 := by
  rw [camposLista, List.length_cons, List.length_map]

theorem length_camposPCB (pcb : PCB) :
    (camposPCB pcb).length = 3 + pcb.TIDs.length + pcb.mutex.length := by
  rw [camposPCB, List.length_append, List.length_cons, length_camposLista, length_camposLista]
  omega

theorem length_flatMap_bytesUint32 (campos : List UInt32) :
    (campos.flatMap bytesUint32).length = 4 * campos.length := by
  induction campos with
  | nil => rfl
  | cons campo campos ih =>
    rw [List.flatMap_cons, List.length_append, length_bytesUint32, ih, List.length_cons]
    omega

/-! ## Writing -/

theorem agregarLista_eq (buffer : TBuffer) (lista : List UInt64) :
    agregarLista buffer lista = (camposLista lista).foldl agregarUint32 buffer := by
  rw [agregarLista, camposLista, List.foldl_cons, List.foldl_map]

theorem serializarPCB_eq (g : Mem) (offset : UInt32) (pcb : PCB) :
    serializarPCB g offset pcb =
      (camposPCB pcb).foldl agregarUint32 ⟨0, offset, Block.alloc g 1024⟩ := by
  rw [serializarPCB, agregarLista_eq, agregarLista_eq, camposPCB, List.cons_append,
    List.foldl_cons, List.foldl_append]

theorem agregarUint32_size {buffer : TBuffer} (data : UInt32)
    (h : buffer.size.toNat + 4 < 2 ^ 32) :
    (agregarUint32 buffer data).size.toNat = buffer.size.toNat + 4 := by
  show (buffer.size + 4).toNat = _
  rw [UInt32.toNat_add]
  exact Nat.mod_eq_of_lt h

/-- Words added to a buffer stand one behind the other from its `size` on. -/
theorem foldl_agregarUint32 (campos : List UInt32) (buffer : TBuffer)
    (h : buffer.size.toNat + 4 * campos.length < 2 ^ 32) :
    (campos.foldl agregarUint32 buffer).size.toNat = buffer.size.toNat + 4 * campos.length ∧
      (campos.foldl agregarUint32 buffer).stream =
        escribirCampos buffer.stream buffer.size.toNat campos := by
  induction campos generalizing buffer with
  | nil => exact ⟨rfl, rfl⟩
  | cons campo campos ih =>
    rw [List.length_cons] at h
    have hsize := agregarUint32_size campo (show buffer.size.toNat + 4 < 2 ^ 32 by omega)
    obtain ⟨hsize', hstream⟩ := ih (agregarUint32 buffer campo) (by rw [hsize]; omega)
    rw [hsize] at hsize' hstream
    refine ⟨?_, hstream⟩
    rw [List.foldl_cons, hsize', List.length_cons]
    omega

/-- Words that fit do not leave the block. -/
theorem escribirCampos_bounds (stream : Block) {offset : ℕ} {campos : List UInt32}
    (h : offset + 4 * campos.length ≤ stream.cap) :
    (escribirCampos stream offset campos).cap = stream.cap ∧
      (escribirCampos stream offset campos).overrun = stream.overrun := by
  induction campos generalizing stream offset with
  | nil => exact ⟨rfl, rfl⟩
  | cons campo campos ih =>
    rw [List.length_cons] at h
    have hstore : (stream.store offset (bytesUint32 campo)).overrun = stream.overrun := by
      rw [Block.store_overrun]
      exact Block.touch_overrun_of_le (by rw [length_bytesUint32]; omega)
    obtain ⟨hcap, hover⟩ := ih (stream.store offset (bytesUint32 campo))
      (show offset + 4 + 4 * campos.length ≤ _ by rw [Block.store_cap]; omega)
    exact ⟨hcap, hover.trans hstore⟩

/-! ## Reading -/

/-- The words from the offset to byte `n` are `campos`, inside the allocation, and the bytes
read are those in front of them. -/
structure PorLeer (n : ℕ) (lector : Lector) (campos : List UInt32) : Prop where
  contents : lector.stream.mem.read lector.offset (4 * campos.length) = campos.flatMap bytesUint32
  fin : lector.offset + 4 * campos.length = n
  cabe : n ≤ lector.stream.cap
  inside : lector.stream.overrun = false
  leidos : lector.leidos = List.range lector.offset

section

variable {n : ℕ} {lector : Lector} {campos : List UInt32}

theorem leerUint32_porLeer {campo : UInt32} (h : PorLeer n lector (campo :: campos)) :
    ∃ lector', leerUint32 lector = (campo, lector') ∧ PorLeer n lector' campos := by
  obtain ⟨hcontents, hfin, hcabe, hinside, hleidos⟩ := h
  rw [List.length_cons] at hfin
  rw [← length_flatMap_bytesUint32, List.flatMap_cons] at hcontents
  obtain ⟨hcampo, hcampos⟩ := Mem.read_of_read_append hcontents
  rw [length_bytesUint32] at hcampo hcampos
  rw [length_flatMap_bytesUint32] at hcampos
  refine ⟨(leerUint32 lector).2, ?_, ⟨hcampos, ?_, hcabe, ?_, ?_⟩⟩
  · unfold leerUint32
    rw [hcampo, uint32OfBytes_bytesUint32]
  · show lector.offset + 4 + 4 * campos.length = n
    omega
  · show (lector.stream.touch lector.offset 4).overrun = false
    rw [Block.touch_overrun_of_le (by omega)]
    exact hinside
  · show lector.leidos ++ List.range' lector.offset 4 = List.range (lector.offset + 4)
    rw [hleidos, List.range_eq_range', List.range_eq_range', ← List.range'_append_1, Nat.zero_add]

theorem leerElementos_porLeer {lista : List UInt32} (h : PorLeer n lector (lista ++ campos)) :
    ∃ lector', leerElementos lista.length lector = (lista.map UInt32.toUInt64, lector') ∧
      PorLeer n lector' campos := by
  induction lista generalizing lector with
  | nil => exact ⟨lector, rfl, h⟩
  | cons x lista ih =>
    obtain ⟨lector₁, hx, hresto⟩ := leerUint32_porLeer h
    obtain ⟨lector₂, hlista, hcampos⟩ := ih hresto
    refine ⟨lector₂, ?_, hcampos⟩
    rw [List.length_cons, List.map_cons, leerElementos, hx]
    dsimp only
    rw [hlista]

/-- A list that was written behind its length is read behind it. -/
theorem leerLista_porLeer {lista : List UInt64} (hlen : lista.length < 2 ^ 32)
    (h : PorLeer n lector (camposLista lista ++ campos)) :
    ∃ lector', leerLista lector = (lista.map fun x => x.toUInt32.toUInt64, lector') ∧
      PorLeer n lector' campos := by
  obtain ⟨lector₁, hcount, hresto⟩ := leerUint32_porLeer h
  obtain ⟨lector₂, hlista, hcampos⟩ := leerElementos_porLeer hresto
  refine ⟨lector₂, ?_, hcampos⟩
  have hn : (UInt32.ofNat lista.length).toNat = lista.length := UInt32.toNat_ofNat_of_lt' hlen
  rw [List.length_map, List.map_map] at hlista
  rw [leerLista, hcount]
  dsimp only
  rw [hn]
  exact hlista

theorem deserializarPCB_of_porLeer {buffer : TBuffer} {pcb : PCB} (estado : Int32)
    (hTIDs : pcb.TIDs.length < 2 ^ 32) (hmutex : pcb.mutex.length < 2 ^ 32)
    (h : PorLeer n ⟨buffer.stream, 0, []⟩ (camposPCB pcb)) :
    ∃ lector, PorLeer n lector [] ∧ deserializarPCB estado buffer =
      (⟨pcb.PID, estado, pcb.TIDs.map fun x => x.toUInt32.toUInt64,
        pcb.mutex.map fun x => x.toUInt32.toUInt64⟩, lector) := by
  obtain ⟨lector₁, hPID, h₁⟩ := leerUint32_porLeer h
  obtain ⟨lector₂, hlistaTIDs, h₂⟩ := leerLista_porLeer hTIDs h₁
  rw [← List.append_nil (camposLista pcb.mutex)] at h₂
  obtain ⟨lector₃, hlistaMutex, h₃⟩ := leerLista_porLeer hmutex h₂
  refine ⟨lector₃, h₃, ?_⟩
  simp only [deserializarPCB, hPID, hlistaTIDs, hlistaMutex]

end

/-- What the writer leaves for the reader. -/
theorem serializarPCB_porLeer (g : Mem) (offset : UInt32) {pcb : PCB}
    (hcabe : 4 * (camposPCB pcb).length ≤ 1024) :
    (serializarPCB g offset pcb).size.toNat = 4 * (camposPCB pcb).length ∧
      PorLeer (4 * (camposPCB pcb).length) ⟨(serializarPCB g offset pcb).stream, 0, []⟩
        (camposPCB pcb) := by
  obtain ⟨hsize, hstream⟩ := foldl_agregarUint32 (camposPCB pcb) ⟨0, offset, Block.alloc g 1024⟩
    (show 0 + 4 * (camposPCB pcb).length < 2 ^ 32 by omega)
  rw [← serializarPCB_eq] at hsize hstream
  obtain ⟨hcap, hover⟩ := escribirCampos_bounds (Block.alloc g 1024)
    (show 0 + 4 * (camposPCB pcb).length ≤ (Block.alloc g 1024).cap by
      rw [Nat.zero_add]; exact hcabe)
  have hread := read_escribirCampos (Block.alloc g 1024) (P := []) rfl (camposPCB pcb)
  rw [List.length_nil, Nat.zero_add, List.nil_append] at hread
  have hstream' : (serializarPCB g offset pcb).stream =
      escribirCampos (Block.alloc g 1024) 0 (camposPCB pcb) := hstream
  refine ⟨hsize.trans (Nat.zero_add _), ?_, Nat.zero_add _, ?_, ?_, rfl⟩
  · rw [hstream']
    exact hread
  · rw [hstream', hcap]
    exact hcabe
  · rw [hstream', hover]
    rfl

/-- **A process comes back.** When its encoding fits the 1024 bytes, the writer stays
inside them and `size` is the length of the encoding; the reader returns the PID and the
two lists in order, each element as a number of 32 bits, and the bytes it reads are the
first `size`. -/
theorem deserializarPCB_serializarPCB (g : Mem) (offset : UInt32) (estado : Int32) (pcb : PCB)
    (hcabe : 4 * (3 + pcb.TIDs.length + pcb.mutex.length) ≤ 1024) :
    let buffer := serializarPCB g offset pcb
    let resultado := deserializarPCB estado buffer
    buffer.overrun = false ∧
      buffer.size.toNat = 4 * (3 + pcb.TIDs.length + pcb.mutex.length) ∧
      resultado.1 = ⟨pcb.PID, estado, pcb.TIDs.map fun x => x.toUInt32.toUInt64,
        pcb.mutex.map fun x => x.toUInt32.toUInt64⟩ ∧
      resultado.2.leidos = List.range buffer.size.toNat ∧
      resultado.2.stream.overrun = false := by
  intro buffer resultado
  rw [← length_camposPCB] at hcabe ⊢
  obtain ⟨hsize, hporLeer⟩ := serializarPCB_porLeer g offset hcabe
  obtain ⟨lector, hlector, hresultado⟩ := deserializarPCB_of_porLeer estado
    (show pcb.TIDs.length < 2 ^ 32 by rw [length_camposPCB] at hcabe; omega)
    (show pcb.mutex.length < 2 ^ 32 by rw [length_camposPCB] at hcabe; omega) hporLeer
  have hleidos : lector.leidos = List.range buffer.size.toNat := by
    rw [hlector.leidos, hsize]
    exact congrArg List.range hlector.fin
  have heq : resultado = _ := hresultado
  rw [heq]
  exact ⟨hporLeer.inside, hsize, rfl, hleidos, hlector.inside⟩

/-- A process with two threads and a mutex whose address loses its high half. -/
theorem deserializarPCB_serializarPCB_dos :
    (deserializarPCB 0 (serializarPCB (fun _ => 9) 3 ⟨5, 1, [0, 1], [0x100000007]⟩)).1 =
      ⟨5, 0, [0, 1], [7]⟩ := by
  obtain ⟨-, -, h, -⟩ := deserializarPCB_serializarPCB (fun _ => 9) 3 0
    ⟨5, 1, [0, 1], [0x100000007]⟩ (by decide)
  rw [h]
  rfl

end SoTp.Utils
