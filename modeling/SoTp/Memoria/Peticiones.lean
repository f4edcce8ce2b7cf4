import SoTp.Kernel.Memoria
import SoTp.Memoria.Almacen
import SoTp.Memoria.Contexto
import SoTp.Utils.Paquete

/-!
# The requests of the kernel, as memoria reads them

Model of `manejar_peticion` (`memoria/src/manejar_kernel.c`, lines 45–137) behind the
requests that `crearProcesoMemoria` and `crearHiloMemoria` build
(`kernel/src/main.c`, lines 494–562), with the frames arriving intact.

Both requests reserve `sizeof(String)`, the 8 bytes of a pointer, for the name of the
pseudocode file. `buffer_add_string` writes 4 bytes of length and the characters, so
5 characters or more push the last field out of the bytes that are sent.

* `creacionFiel_iff`: **both requests arrive if and only if the name has at most 4
  characters.**
* `manejarPeticion_crearHilo`: a request for a thread that arrives is a call of
  `crear_hilo` with its values.
-/

namespace SoTp.Kernel

open SoTp.Lib SoTp.Utils SoTp.Memoria

/-! ## The messages -/

/-- The buffer that `crearProcesoMemoria` sends. -/
def bufferCrearProceso (g : Mem) (PID : UInt32) (archivo : CString) (tamanio : UInt32) : TBuffer :=
  let buffer := bufferCreate g 16
  let buffer := bufferAddUint32 buffer PID
  let buffer := bufferAddString buffer archivo
  bufferAddUint32 buffer tamanio

/-- The buffer that `crearHiloMemoria` sends. -/
def bufferCrearHilo (g : Mem) (hilo : TCB) (archivo : CString) : TBuffer :=
  let buffer := bufferCreate g 20
  let buffer := bufferAddUint32 buffer hilo.PID
  let buffer := bufferAddUint32 buffer hilo.TID
  let buffer := bufferAddString buffer archivo
  bufferAddUint32 buffer hilo.prioridad

theorem crearProcesoMemoria_peticion (g g' : Mem) (PID : UInt32) (archivo : CString)
    (tamanio : UInt32) (s : List UInt8) :
    (crearProcesoMemoria g g' PID archivo tamanio s).1 =
      enviarOperacion MemoriaOperacion.kernelCrearProceso.codigo
        (bufferCrearProceso g PID archivo tamanio) := rfl

theorem crearHiloMemoria_peticion (g g' : Mem) (hilo : TCB) (archivo : CString)
    (s : List UInt8) :
    (crearHiloMemoria g g' hilo archivo s).1 =
      enviarOperacion MemoriaOperacion.kernelCrearHilo.codigo (bufferCrearHilo g hilo archivo) :=
  rfl

/-- The fields of a request for a process, as memoria reads them. -/
def camposProceso (PID : UInt32) (archivo : CString) (tamanio : UInt32) : List Field :=
  [.int PID.toInt32, .string archivo, .int tamanio.toInt32]

/-- The fields of a request for a thread, as memoria reads them. -/
def camposHilo (hilo : TCB) (archivo : CString) : List Field :=
  [.int hilo.PID.toInt32, .int hilo.TID.toInt32, .string archivo, .int hilo.prioridad.toInt32]

theorem bufferCrearProceso_eq (g : Mem) (PID : UInt32) (archivo : CString) (tamanio : UInt32) :
    bufferCrearProceso g PID archivo tamanio =
      addFields (bufferCreate g 16) (camposProceso PID archivo tamanio) := by
  unfold bufferCrearProceso
  simp only [bufferAddUint32_eq]
  rfl

theorem bufferCrearHilo_eq (g : Mem) (hilo : TCB) (archivo : CString) :
    bufferCrearHilo g hilo archivo = addFields (bufferCreate g 20) (camposHilo hilo archivo) := by
  unfold bufferCrearHilo
  simp only [bufferAddUint32_eq]
  rfl

theorem totalWidth_camposProceso (PID : UInt32) (archivo : CString) (tamanio : UInt32) :
    totalWidth (camposProceso PID archivo tamanio) = archivo.length + 12 := by
  simp only [camposProceso, totalWidth, Field.width, List.map_cons, List.map_nil, List.sum_cons,
    List.sum_nil]
  omega

theorem totalWidth_camposHilo (hilo : TCB) (archivo : CString) :
    totalWidth (camposHilo hilo archivo) = archivo.length + 16 := by
  simp only [camposHilo, totalWidth, Field.width, List.map_cons, List.map_nil, List.sum_cons,
    List.sum_nil]
  omega

end SoTp.Kernel

namespace SoTp.Memoria

open SoTp.Lib SoTp.Utils SoTp.Kernel

/-! ## Model -/

/-- What the case `MEMORIA_KERNEL_CREAR_PROCESO` reads (lines 64–68). -/
def leerCrearProceso (buffer : TBuffer) : Int32 × CString × Int32 :=
  let (pid, buffer) := bufferReadInt buffer
  let (archivoPseudocodigo, buffer) := bufferReadString buffer
  let (tamProceso, _) := bufferReadInt buffer
  (pid, archivoPseudocodigo, tamProceso)

/-- What the case `MEMORIA_KERNEL_CREAR_HILO` reads (lines 78–84). -/
def leerCrearHilo (buffer : TBuffer) : Int32 × Int32 × CString × Int32 :=
  let (pid, buffer) := bufferReadInt buffer
  let (tid, buffer) := bufferReadInt buffer
  let (archivoPseudocodigo, buffer) := bufferReadString buffer
  let (prioridad, _) := bufferReadInt buffer
  (pid, tid, archivoPseudocodigo, prioridad)

/-- `memory_dump(pid, tid)` (lines 496–501). -/
def memoryDump (_pid _tid : Int32) : Bool := true

/-- The `int` that a `bool` is converted to. -/
def intOfBool (b : Bool) : Int32 := if b then 1 else 0

/-- `manejar_peticion(arg)` once `recibir_paquete` has returned: the bytes of the
answer and the store, or `none` when a request does not come back. -/
def manejarPeticion (archivos : CString → Option (List UInt8)) (freeReturns : ℤ → Bool) (g : Mem)
    (m : Almacen) (paquete : TPaquete) : Option (List UInt8 × Almacen) :=
  let responder (operacion : MemoriaOperacion) (r : Bool × Almacen) : List UInt8 × Almacen :=
    (enviarEstado g (intOfBool r.1) operacion, r.2)
  match paquete.opCode.toNat with
  | 5 =>
    let (pid, archivoPseudocodigo, tamProceso) := leerCrearProceso paquete.buffer
    some (responder .kernelCrearProceso (crearProceso m pid archivoPseudocodigo tamProceso))
  | 6 =>
    let (pid, tid, archivoPseudocodigo, prioridad) := leerCrearHilo paquete.buffer
    (crearHilo archivos m pid tid archivoPseudocodigo prioridad).map (responder .kernelCrearHilo)
  | 7 =>
    let (pid, _) := bufferReadInt paquete.buffer
    (finalizarProceso freeReturns m pid).map (responder .kernelFinalizarProceso)
  | 8 =>
    let (pid, buffer) := bufferReadInt paquete.buffer
    let (tid, _) := bufferReadInt buffer
    (finalizarHilo m pid tid).map (responder .kernelFinalizarHilo)
  | 9 =>
    let (pid, buffer) := bufferReadInt paquete.buffer
    let (tid, _) := bufferReadInt buffer
    some (responder .kernelMemoryDump (memoryDump pid tid, m))
  | _ => some ([], m)

/-! ## What arrives -/

/-- The bytes sent for a process contain its fields whole, and memoria reads them. -/
def CreacionProcesoFiel (PID : UInt32) (archivo : CString) (tamanio : UInt32) : Prop :=
  ∀ g g' : Mem,
    (camposProceso PID archivo tamanio).flatMap Field.bytes <+:
        (bufferCrearProceso g PID archivo tamanio).payload ∧
      leerCrearProceso (bufferIntacto g' (bufferCrearProceso g PID archivo tamanio).payload) =
        (PID.toInt32, archivo, tamanio.toInt32)

/-- The bytes sent for a thread contain its fields whole, and memoria reads them. -/
def CreacionHiloFiel (hilo : TCB) (archivo : CString) : Prop :=
  ∀ g g' : Mem,
    (camposHilo hilo archivo).flatMap Field.bytes <+: (bufferCrearHilo g hilo archivo).payload ∧
      leerCrearHilo (bufferIntacto g' (bufferCrearHilo g hilo archivo).payload) =
        (hilo.PID.toInt32, hilo.TID.toInt32, archivo, hilo.prioridad.toInt32)

theorem leerCrearProceso_of_isPrefix (g : Mem) {PID tamanio : UInt32} {archivo : CString}
    {bs : List UInt8} (hwidth : archivo.length + 12 < 2 ^ 31) (hlen : bs.length < 2 ^ 32)
    (h : (camposProceso PID archivo tamanio).flatMap Field.bytes <+: bs) :
    leerCrearProceso (bufferIntacto g bs) = (PID.toInt32, archivo, tamanio.toInt32) := by
  have hread := readFields_bufferIntacto g (by rwa [totalWidth_camposProceso]) hlen h
  generalize bufferIntacto g bs = buffer at *
  have hfields : (readFields buffer [.int, .string, .int]).1 =
      [.int (leerCrearProceso buffer).1, .string (leerCrearProceso buffer).2.1,
        .int (leerCrearProceso buffer).2.2] := rfl
  have heq := hfields.symm.trans hread
  simp only [camposProceso, List.cons.injEq, Field.int.injEq, Field.string.injEq] at heq
  obtain ⟨hpid, harchivo, htam, -⟩ := heq
  exact Prod.ext hpid (Prod.ext harchivo htam)

theorem leerCrearHilo_of_isPrefix (g : Mem) {hilo : TCB} {archivo : CString}
    {bs : List UInt8} (hwidth : archivo.length + 16 < 2 ^ 31) (hlen : bs.length < 2 ^ 32)
    (h : (camposHilo hilo archivo).flatMap Field.bytes <+: bs) :
    leerCrearHilo (bufferIntacto g bs) =
      (hilo.PID.toInt32, hilo.TID.toInt32, archivo, hilo.prioridad.toInt32) := by
  have hread := readFields_bufferIntacto g (by rwa [totalWidth_camposHilo]) hlen h
  generalize bufferIntacto g bs = buffer at *
  have hfields : (readFields buffer [.int, .int, .string, .int]).1 =
      [.int (leerCrearHilo buffer).1, .int (leerCrearHilo buffer).2.1,
        .string (leerCrearHilo buffer).2.2.1, .int (leerCrearHilo buffer).2.2.2] := rfl
  have heq := hfields.symm.trans hread
  simp only [camposHilo, List.cons.injEq, Field.int.injEq, Field.string.injEq] at heq
  obtain ⟨hpid, htid, harchivo, hprioridad, -⟩ := heq
  exact Prod.ext hpid (Prod.ext htid (Prod.ext harchivo hprioridad))

theorem isPrefix_bufferCrearProceso_iff (g : Mem) (PID : UInt32) (archivo : CString)
    (tamanio : UInt32) :
    (camposProceso PID archivo tamanio).flatMap Field.bytes <+:
      (bufferCrearProceso g PID archivo tamanio).payload ↔ archivo.length ≤ 4 := by
  rw [bufferCrearProceso_eq, isPrefix_payload_iff g (by decide), totalWidth_camposProceso]
  show archivo.length + 12 ≤ 16 ↔ _
  omega

theorem isPrefix_bufferCrearHilo_iff (g : Mem) (hilo : TCB) (archivo : CString) :
    (camposHilo hilo archivo).flatMap Field.bytes <+: (bufferCrearHilo g hilo archivo).payload ↔
      archivo.length ≤ 4 := by
  rw [bufferCrearHilo_eq, isPrefix_payload_iff g (by decide), totalWidth_camposHilo]
  show archivo.length + 16 ≤ 20 ↔ _
  omega

theorem leerCrearHilo_bufferCrearHilo (g g' : Mem) (hilo : TCB) {archivo : CString}
    (h : archivo.length ≤ 4) :
    leerCrearHilo (bufferIntacto g' (bufferCrearHilo g hilo archivo).payload) =
      (hilo.PID.toInt32, hilo.TID.toInt32, archivo, hilo.prioridad.toInt32) := by
  have hbytes := (isPrefix_bufferCrearHilo_iff g hilo archivo).mpr h
  exact leerCrearHilo_of_isPrefix g' (by omega) (TBuffer.length_payload_lt _) hbytes

theorem creacionProcesoFiel_iff (PID : UInt32) (archivo : CString) (tamanio : UInt32) :
    CreacionProcesoFiel PID archivo tamanio ↔ archivo.length ≤ 4 := by
  constructor
  · intro h
    exact (isPrefix_bufferCrearProceso_iff _ _ _ _).mp (h (fun _ => 0) (fun _ => 0)).1
  · intro h g g'
    have hbytes := (isPrefix_bufferCrearProceso_iff g PID archivo tamanio).mpr h
    exact ⟨hbytes, leerCrearProceso_of_isPrefix g' (by omega) (TBuffer.length_payload_lt _) hbytes⟩

theorem creacionHiloFiel_iff (hilo : TCB) (archivo : CString) :
    CreacionHiloFiel hilo archivo ↔ archivo.length ≤ 4 := by
  constructor
  · intro h
    exact (isPrefix_bufferCrearHilo_iff _ _ _).mp (h (fun _ => 0) (fun _ => 0)).1
  · intro h g g'
    exact ⟨(isPrefix_bufferCrearHilo_iff _ _ _).mpr h, leerCrearHilo_bufferCrearHilo g g' hilo h⟩

theorem manejarPeticion_crearHilo (archivos : CString → Option (List UInt8))
    (freeReturns : ℤ → Bool) (g g' g'' : Mem) (m : Almacen) (hilo : TCB) {archivo : CString}
    (h : archivo.length ≤ 4) :
    manejarPeticion archivos freeReturns g'' m
        ⟨6, bufferIntacto g' (bufferCrearHilo g hilo archivo).payload⟩ =
      (crearHilo archivos m hilo.PID.toInt32 hilo.TID.toInt32 archivo hilo.prioridad.toInt32).map
        fun r => (enviarEstado g'' (intOfBool r.1) .kernelCrearHilo, r.2) := by
  have hread := leerCrearHilo_bufferCrearHilo g g' hilo h
  simp only [manejarPeticion, UInt8.reduceToNat, hread]

/-- **Both requests arrive if and only if the name of the file has at most four
characters**: for every process, thread, size and name. -/
theorem creacionFiel_iff (PID : UInt32) (hilo : TCB) (archivo : CString) (tamanio : UInt32) :
    (CreacionProcesoFiel PID archivo tamanio ↔ archivo.length ≤ 4) ∧
      (CreacionHiloFiel hilo archivo ↔ archivo.length ≤ 4) :=
  ⟨creacionProcesoFiel_iff PID archivo tamanio, creacionHiloFiel_iff hilo archivo⟩

/-- With the file `proc1.txt` a size of 64 is read as 0, and a priority of 3 too, when
the heap of memoria holds zeros. -/
theorem not_creacionFiel_proc1 :
    ¬ CreacionProcesoFiel 1 (CString.ofBytes (ascii "proc1.txt")) 64 ∧
      ¬ CreacionHiloFiel ⟨1, 2, 3, 0⟩ (CString.ofBytes (ascii "proc1.txt")) ∧
      (leerCrearProceso (bufferIntacto (fun _ => 0) (bufferCrearProceso (fun _ => 0) 1
        (CString.ofBytes (ascii "proc1.txt")) 64).payload)).2.2 = 0 ∧
      (leerCrearHilo (bufferIntacto (fun _ => 0) (bufferCrearHilo (fun _ => 0) ⟨1, 2, 3, 0⟩
        (CString.ofBytes (ascii "proc1.txt"))).payload)).2.2.2 = 0 := by
  have hlen : ¬ (CString.ofBytes (ascii "proc1.txt")).length ≤ 4 := by decide
  refine ⟨?_, ?_, by decide, by decide⟩
  · rw [creacionProcesoFiel_iff]
    exact hlen
  · rw [creacionHiloFiel_iff]
    exact hlen

end SoTp.Memoria
