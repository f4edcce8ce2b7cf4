import SoTp.Utils.Socket
import SoTp.Utils.Tipos

/-!
# The requests of the kernel to memoria

Models of `crearProcesoMemoria`, `finalizarProcesoMemoria`,
`finalizarHiloMemoria` and `crearHiloMemoria` (`kernel/src/main.c`, lines
494–564) and of the `enviar_estado` that answers them (`memoria/src/main.c`,
lines 340–347).

Memoria answers with an operation code, a size and the status; the kernel reads a
size and a buffer. So it takes the operation code for the size and the size, 4,
for the status.

* `respuesta_enviarEstado`: the kernel always reads 4.
* `respuestaFiel_iff`: **a status arrives unchanged if and only if it is 4.**
-/

namespace SoTp.Memoria

open SoTp.Lib SoTp.Utils

/-- The bytes `enviar_estado(estado, fd_cliente, operacion)` sends. -/
def enviarEstado (g : Mem) (estado : Int32) (operacion : MemoriaOperacion) : List UInt8 :=
  enviarOperacion operacion.codigo (bufferAddInt (bufferCreate g 4) estado)

end SoTp.Memoria

namespace SoTp.Kernel

open SoTp.Lib SoTp.Utils SoTp.Memoria

/-! ## Model -/

/-- A request on a new connection: the bytes sent, and the `int` read from the
answer when `s` arrives. -/
def consultarMemoria (g : Mem) (operacion : MemoriaOperacion) (buffer : TBuffer)
    (s : List UInt8) : List UInt8 × Option Int32 :=
  (enviarOperacion operacion.codigo buffer,
    (recibirBuffer g s).map fun r => (bufferReadInt r.1).1)

/-- `crearProcesoMemoria(proceso, archivo, tamanio)` (lines 494–510); `g` and
`g'` are what `malloc` finds for the request and for the answer. -/
def crearProcesoMemoria (g g' : Mem) (PID : UInt32) (archivo : CString) (tamanio : UInt32)
    (s : List UInt8) : List UInt8 × Option Int32 :=
  let buffer := bufferCreate g 16
  let buffer := bufferAddUint32 buffer PID
  let buffer := bufferAddString buffer archivo
  let buffer := bufferAddUint32 buffer tamanio
  consultarMemoria g' .kernelCrearProceso buffer s

/-- `finalizarProcesoMemoria(pcb)` (lines 512–522). -/
def finalizarProcesoMemoria (g g' : Mem) (PID : UInt32) (s : List UInt8) :
    List UInt8 × Option Int32 :=
  let buffer := bufferAddUint32 (bufferCreate g 4) PID
  consultarMemoria g' .kernelFinalizarProceso buffer s

/-- `finalizarHiloMemoria(hilo)` (lines 524–544); the `int` is returned as a `bool`. -/
def finalizarHiloMemoria (g g' : Mem) (hilo : TCB) (s : List UInt8) : List UInt8 × Option Bool :=
  let buffer := bufferCreate g 8
  let buffer := bufferAddUint32 buffer hilo.PID
  let buffer := bufferAddUint32 buffer hilo.TID
  let r := consultarMemoria g' .kernelFinalizarHilo buffer s
  (r.1, r.2.map fun respuesta => decide (respuesta ≠ 0))

/-- `crearHiloMemoria(hilo, archivo)` (lines 546–564). -/
def crearHiloMemoria (g g' : Mem) (hilo : TCB) (archivo : CString) (s : List UInt8) :
    List UInt8 × Option Bool :=
  let buffer := bufferCreate g 20
  let buffer := bufferAddUint32 buffer hilo.PID
  let buffer := bufferAddUint32 buffer hilo.TID
  let buffer := bufferAddString buffer archivo
  let buffer := bufferAddUint32 buffer hilo.prioridad
  let r := consultarMemoria g' .kernelCrearHilo buffer s
  (r.1, r.2.map fun respuesta => decide (respuesta ≠ 0))

/-- The four requests. -/
inductive Consulta where
  | crearProceso
  | crearHilo
  | finalizarProceso
  | finalizarHilo
  deriving DecidableEq, Repr

/-- The operation a request sends, and memoria answers with. -/
def Consulta.operacion : Consulta → MemoriaOperacion
  | crearProceso => .kernelCrearProceso
  | crearHilo => .kernelCrearHilo
  | finalizarProceso => .kernelFinalizarProceso
  | finalizarHilo => .kernelFinalizarHilo

/-- The status that the function of a request reads from its answer. -/
def Consulta.respuesta (c : Consulta) (g : Mem) (s : List UInt8) : Option Int32 :=
  (consultarMemoria g c.operacion (bufferCreate g 0) s).2

/-- The caller takes its success branch: `crearProceso` and `finalizarProceso`
compare with 1 (`k_largo_plazo.c`, lines 60 and 93), the functions for threads
return a `bool` (lines 135 and 182). -/
def Consulta.exito : Consulta → Int32 → Bool
  | crearProceso, respuesta => decide (respuesta = 1)
  | finalizarProceso, respuesta => decide (respuesta = 1)
  | crearHilo, respuesta => decide (respuesta ≠ 0)
  | finalizarHilo, respuesta => decide (respuesta ≠ 0)

/-! ## What the functions read -/

theorem crearProcesoMemoria_respuesta (g g' : Mem) (PID : UInt32) (archivo : CString)
    (tamanio : UInt32) (s : List UInt8) :
    (crearProcesoMemoria g g' PID archivo tamanio s).2 = Consulta.crearProceso.respuesta g' s := rfl

theorem finalizarProcesoMemoria_respuesta (g g' : Mem) (PID : UInt32) (s : List UInt8) :
    (finalizarProcesoMemoria g g' PID s).2 = Consulta.finalizarProceso.respuesta g' s := rfl

theorem finalizarHiloMemoria_respuesta (g g' : Mem) (hilo : TCB) (s : List UInt8) :
    (finalizarHiloMemoria g g' hilo s).2 =
      (Consulta.finalizarHilo.respuesta g' s).map (Consulta.finalizarHilo.exito ·) := rfl

theorem crearHiloMemoria_respuesta (g g' : Mem) (hilo : TCB) (archivo : CString)
    (s : List UInt8) :
    (crearHiloMemoria g g' hilo archivo s).2 =
      (Consulta.crearHilo.respuesta g' s).map (Consulta.crearHilo.exito ·) := rfl

/-! ## The status -/

theorem enviarEstado_eq (g : Mem) (estado : Int32) (operacion : MemoriaOperacion) :
    enviarEstado g estado operacion =
      bytesInt operacion.codigo ++ (bytesInt 4 ++ bytesInt estado) := by
  have hpayload : (bufferAddInt (bufferCreate g 4) estado).payload = bytesInt estado := by
    have h := (bufferCreate_written g 4).write (bytesInt estado) (by rw [length_bytesInt]; rfl)
      (by show (4 : ℕ) < 2 ^ 32; omega)
    have hcontents := h.contents
    rw [List.nil_append, length_bytesInt] at hcontents
    exact hcontents
  unfold enviarEstado enviarOperacion enviarBuffer
  rw [hpayload]
  rfl

/-- `RecibirBuffer` takes a code between 4 and 8 for the size, and the `int` read
is the 4 that follows it. -/
theorem bufferReadInt_recibirBuffer (g : Mem) {n : ℕ} (h4 : 4 ≤ n) (h8 : n ≤ 8) (estado : Int32) :
    (recibirBuffer g (bytesUint32 (UInt32.ofNat n) ++ (bytesInt 4 ++ bytesInt estado))).map
      (fun r => (bufferReadInt r.1).1) = some 4 := by
  have hn : (UInt32.ofNat n).toNat = n := UInt32.toNat_ofNat_of_lt' (by rw [UInt32.size]; omega)
  have h₁ : recv 4 (bytesUint32 (UInt32.ofNat n) ++ (bytesInt 4 ++ bytesInt estado)) =
      some (bytesUint32 (UInt32.ofNat n), bytesInt 4 ++ bytesInt estado) :=
    recv_append_of_length (length_bytesUint32 _) _
  have hlen : (bytesInt 4 ++ (bytesInt estado).take (n - 4)).length = n := by
    simp only [List.length_append, length_bytesInt, List.length_take]
    omega
  have h₂ : recv n (bytesInt 4 ++ bytesInt estado) =
      some (bytesInt 4 ++ (bytesInt estado).take (n - 4), (bytesInt estado).drop (n - 4)) := by
    have happ := recv_append_of_length hlen ((bytesInt estado).drop (n - 4))
    rwa [List.append_assoc, List.take_append_drop] at happ
  have hread := bufferReadInt_unread
    (received_store g (n := UInt32.ofNat n) (hlen.trans hn.symm)).unread
  simp only [recibirBuffer, h₁, Option.bind_eq_bind, Option.bind_some, uint32OfBytes_bytesUint32,
    bufferCreate_of_lt g (n := UInt32.ofNat n) (by omega), hn, h₂, Option.map_some]
  rw [hn] at hread
  exact congrArg some hread.1

theorem respuesta_enviarEstado (c : Consulta) (g g' : Mem) (estado : Int32) :
    c.respuesta g' (enviarEstado g estado c.operacion) = some 4 := by
  unfold Consulta.respuesta consultarMemoria
  rw [enviarEstado_eq]
  cases c with
  | crearProceso => exact bufferReadInt_recibirBuffer g' (n := 5) (by omega) (by omega) estado
  | crearHilo => exact bufferReadInt_recibirBuffer g' (n := 6) (by omega) (by omega) estado
  | finalizarProceso => exact bufferReadInt_recibirBuffer g' (n := 7) (by omega) (by omega) estado
  | finalizarHilo => exact bufferReadInt_recibirBuffer g' (n := 8) (by omega) (by omega) estado

/-- The answer `estado` to a request is read as `estado`, and so the caller takes
the branch that belongs to it. -/
def RespuestaFiel (c : Consulta) (estado : Int32) : Prop :=
  ∀ g g' : Mem, ∃ respuesta, c.respuesta g' (enviarEstado g estado c.operacion) = some respuesta ∧
    respuesta = estado ∧ c.exito respuesta = c.exito estado

/-- **A status arrives unchanged if and only if it is 4**, the length of the
payload, which the kernel takes for the status. -/
theorem respuestaFiel_iff (c : Consulta) (estado : Int32) :
    RespuestaFiel c estado ↔ estado = 4 := by
  constructor
  · intro h
    obtain ⟨respuesta, hrespuesta, heq, -⟩ := h (fun _ => 0) (fun _ => 0)
    rw [respuesta_enviarEstado] at hrespuesta
    exact heq.symm.trans (Option.some.inj hrespuesta).symm
  · rintro rfl g g'
    exact ⟨4, respuesta_enviarEstado c g g' 4, rfl, rfl⟩

/-- Memoria creates the process and answers 1: the kernel reads 4 and takes the
branch of a refusal. When memoria refuses a thread with 0, the kernel takes the
branch of success. -/
theorem not_respuestaFiel_crearProceso :
    ¬ RespuestaFiel .crearProceso 1 ∧ Consulta.crearProceso.exito 4 = false ∧
      ¬ RespuestaFiel .crearHilo 0 ∧ Consulta.crearHilo.exito 4 = true := by
  refine ⟨?_, by decide, ?_, by decide⟩
  · intro h
    obtain ⟨respuesta, hrespuesta, rfl, -⟩ := h (fun _ => 0) (fun _ => 0)
    rw [respuesta_enviarEstado] at hrespuesta
    exact absurd hrespuesta (by decide)
  · intro h
    obtain ⟨respuesta, hrespuesta, rfl, -⟩ := h (fun _ => 0) (fun _ => 0)
    rw [respuesta_enviarEstado] at hrespuesta
    exact absurd hrespuesta (by decide)

end SoTp.Kernel
