import SoTp.Utils.Socket

/-!
# The handshake

Models of `handshake_Client` and `conectar` (`utils/src/client/utils.c`, lines 33–61)
and of `handshake_Server` (`utils/src/server/utils.c`, lines 85–128) as its two
callers use it: the CPU thread of memoria (`memoria/src/manejar_cpu.c`, lines 29–35)
and `ServerCPU` (`cpu/src/main.c`, lines 85–93).

The client writes the operation code `HANDSHAKE` and its module. `ServerCPU` takes the
operation code off before it calls `handshake_Server`; memoria does not, and reads the
operation code, 0, as the module `KERNEL`.

* `atenderHandshake_memoriaCpu`: memoria accepts every client and leaves the module
  unread.
* `atenderHandshake_serverCPU`: `ServerCPU` answers for the module and reads no more.
* `handshakeFiel_iff`: **the handshake agrees with `ServerCPU` and with no other
  server**, for every module number.
-/

namespace SoTp.Utils

open SoTp.Lib

/-! ## Model -/

/-- `modulos` (`commons.h`, lines 56–62). -/
inductive Modulo where
  | kernel
  | memoria
  | filesystem
  | cpu
  deriving DecidableEq, Repr

/-- The value of a module. -/
def Modulo.codigo : Modulo → Int32
  | kernel => 0
  | memoria => 1
  | filesystem => 2
  | cpu => 3

/-- `HANDSHAKE` (`cpu/utils_C/main.h`, line 25). -/
def opHandshake : Int32 := 0

/-- What `handshake_Client(socket_server, modulo)` sends. -/
def handshakeClient (modulo : Int32) : List UInt8 := bytesInt 0 ++ bytesInt modulo

/-- What `handshake_Client` returns when `s` arrives. -/
def respuestaHandshake (s : List UInt8) : Option Int32 :=
  (recv 4 s).map fun r => (uint32OfBytes r.1).toInt32

/-- `conectar(ip, puerto, modulo)` on the socket `conexion`, when `s` arrives. -/
def conectar (conexion : Int32) (s : List UInt8) : Option Int32 :=
  if conexion > 0 then
    (respuestaHandshake s).map fun err => if err = 0 then conexion else -1
  else some conexion

/-- The verdict of `handshake_Server` called for `modulo` on a client `moduloCliente`. -/
def veredicto (modulo moduloCliente : Int32) : Int32 :=
  if modulo = Modulo.memoria.codigo then
    if moduloCliente = Modulo.kernel.codigo ∨ moduloCliente = Modulo.cpu.codigo then 0 else -1
  else if modulo = Modulo.cpu.codigo then
    if moduloCliente = Modulo.kernel.codigo then 0 else -1
  else -1

/-- `handshake_Server(socket_cliente, modulo)` when `s` is in flight: what it returns,
what it sends and what it leaves in flight. -/
def handshakeServer (modulo : Int32) (s : List UInt8) :
    Option (Int32 × List UInt8 × List UInt8) := do
  let (moduloCliente, s) ← recv 4 s
  let err := veredicto modulo (uint32OfBytes moduloCliente).toInt32
  some (err, bytesInt err, s)

/-- The two servers. -/
inductive Servidor where
  | memoriaCpu
  | serverCPU
  deriving DecidableEq, Repr

/-- A server up to the end of the handshake. `ServerCPU` gets to it by the operation
code `HANDSHAKE`, and goes on whatever `handshake_Server` returns. -/
def Servidor.atenderHandshake : Servidor → List UInt8 → Option (Int32 × List UInt8 × List UInt8)
  | memoriaCpu, s => handshakeServer Modulo.memoria.codigo s
  | serverCPU, s => do
    let (opcode, s) ← recibirOperacion s
    if opcode = opHandshake then handshakeServer Modulo.cpu.codigo s else none

/-! ## Specification -/

/-- The modules that a server is meant to serve. -/
def Servidor.Admite : Servidor → Int32 → Prop
  | memoriaCpu, m => m = Modulo.kernel.codigo ∨ m = Modulo.cpu.codigo
  | serverCPU, m => m = Modulo.kernel.codigo

/-- A client announces the module `m`: the server accepts it exactly when it is meant
to, the client reads the verdict, and the server goes on at the first byte that the
client sends next. -/
def HandshakeFiel (servidor : Servidor) (m : Int32) : Prop :=
  ∀ siguiente : List UInt8, ∃ err enviado,
    servidor.atenderHandshake (handshakeClient m ++ siguiente) = some (err, enviado, siguiente) ∧
      (err = 0 ↔ servidor.Admite m) ∧ respuestaHandshake enviado = some err

/-! ## Results -/

theorem handshakeServer_bytesInt (modulo moduloCliente : Int32) (s : List UInt8) :
    handshakeServer modulo (bytesInt moduloCliente ++ s) =
      some (veredicto modulo moduloCliente, bytesInt (veredicto modulo moduloCliente), s) := by
  have hrecv : recv 4 (bytesInt moduloCliente ++ s) = some (bytesInt moduloCliente, s) :=
    recv_append_of_length (length_bytesInt _) s
  unfold handshakeServer
  simp only [hrecv, Option.bind_eq_bind, Option.bind_some, toInt32_uint32OfBytes_bytesInt]

theorem atenderHandshake_memoriaCpu (m : Int32) (s : List UInt8) :
    Servidor.memoriaCpu.atenderHandshake (handshakeClient m ++ s) =
      some (0, bytesInt 0, bytesInt m ++ s) := by
  unfold handshakeClient
  rw [List.append_assoc]
  exact handshakeServer_bytesInt Modulo.memoria.codigo 0 (bytesInt m ++ s)

theorem atenderHandshake_serverCPU (m : Int32) (s : List UInt8) :
    Servidor.serverCPU.atenderHandshake (handshakeClient m ++ s) =
      some (veredicto Modulo.cpu.codigo m, bytesInt (veredicto Modulo.cpu.codigo m), s) := by
  unfold handshakeClient Servidor.atenderHandshake
  rw [List.append_assoc]
  simp only [recibirOperacion_bytesInt, Option.bind_eq_bind, Option.bind_some]
  rw [if_pos (show (0 : Int32) = opHandshake from rfl)]
  exact handshakeServer_bytesInt Modulo.cpu.codigo m s

theorem respuestaHandshake_bytesInt (err : Int32) :
    respuestaHandshake (bytesInt err) = some err := by
  have hrecv : recv 4 (bytesInt err ++ []) = some (bytesInt err, []) :=
    recv_append_of_length (length_bytesInt _) []
  rw [List.append_nil] at hrecv
  unfold respuestaHandshake
  rw [hrecv, Option.map_some, toInt32_uint32OfBytes_bytesInt]

theorem conectar_bytesInt {conexion : Int32} (h : conexion > 0) (err : Int32) :
    conectar conexion (bytesInt err) = some (if err = 0 then conexion else -1) := by
  unfold conectar
  rw [if_pos h, respuestaHandshake_bytesInt, Option.map_some]

theorem veredicto_cpu_eq_zero_iff (m : Int32) :
    veredicto Modulo.cpu.codigo m = 0 ↔ m = Modulo.kernel.codigo := by
  unfold veredicto
  rw [if_neg (by decide), if_pos rfl]
  by_cases hm : m = Modulo.kernel.codigo
  · rw [if_pos hm]
    exact iff_of_true rfl hm
  · rw [if_neg hm]
    exact iff_of_false (by decide) hm

/-- **The handshake agrees with `ServerCPU` and with no other server**, whatever the
module that the client announces. -/
theorem handshakeFiel_iff (servidor : Servidor) (m : Int32) :
    HandshakeFiel servidor m ↔ servidor = .serverCPU := by
  cases servidor with
  | memoriaCpu =>
    -- the four bytes of the module are still there
    refine iff_of_false ?_ Servidor.noConfusion
    intro h
    obtain ⟨err, enviado, hatender, -, -⟩ := h []
    rw [atenderHandshake_memoriaCpu] at hatender
    have hresto : bytesInt m ++ [] = [] := congrArg (fun r => r.2.2) (Option.some.inj hatender)
    have hlen := congrArg List.length hresto
    rw [List.append_nil, length_bytesInt] at hlen
    exact absurd hlen (by decide)
  | serverCPU =>
    refine iff_of_true ?_ rfl
    intro siguiente
    exact ⟨_, _, atenderHandshake_serverCPU m siguiente, veredicto_cpu_eq_zero_iff m,
      respuestaHandshake_bytesInt _⟩

/-- The file system announces itself to memoria, and memoria accepts it and takes its
module number for the start of its first message. -/
theorem not_handshakeFiel_filesystem :
    ¬ HandshakeFiel .memoriaCpu Modulo.filesystem.codigo ∧
      Servidor.memoriaCpu.atenderHandshake (handshakeClient Modulo.filesystem.codigo ++ [5]) =
        some (0, [0, 0, 0, 0], [2, 0, 0, 0, 5]) := by
  refine ⟨?_, by decide⟩
  intro h
  obtain ⟨err, enviado, hatender, -, -⟩ := h []
  rw [atenderHandshake_memoriaCpu] at hatender
  have hresto : bytesInt 2 ++ [] = [] := congrArg (fun r => r.2.2) (Option.some.inj hatender)
  exact absurd hresto (by decide)

end SoTp.Utils
