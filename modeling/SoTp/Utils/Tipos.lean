import SoTp.Lib.CString

/-!
# Shared types

The structures and enumerations of `utils/src/commons.h` that the modules
exchange. `int` fields are `Int32`, `uint32_t` fields `UInt32`.
-/

namespace SoTp.Utils

open SoTp.Lib

/-- `Registros` (lines 97–100). -/
structure Registros where
  PC : UInt32
  AX : UInt32
  BX : UInt32
  CX : UInt32
  DX : UInt32
  EX : UInt32
  FX : UInt32
  GX : UInt32
  HX : UInt32
  BASE : UInt32
  LIMITE : UInt32
  deriving DecidableEq, Repr

/-- `TCB` (lines 119–125); `estado` is an `estados_proceso`. -/
structure TCB where
  PID : UInt32
  TID : UInt32
  prioridad : UInt32
  estado : Int32
  deriving DecidableEq, Repr

/-- `t_registros_hilo` (lines 24–28). -/
structure TRegistrosHilo where
  ax : Int32
  bx : Int32
  cx : Int32
  dx : Int32
  ex : Int32
  fx : Int32
  gx : Int32
  hx : Int32
  pc : Int32
  deriving DecidableEq, Repr

/-- `t_contexto_comun` (lines 17–22). -/
structure TContextoComun where
  base : CString
  limite : Int32

/-- `t_contexto_cpu` (lines 49–54). -/
structure TContextoCpu where
  contexto : TContextoComun
  registros : TRegistrosHilo

/-- `Memoria_operaciones_t` (lines 202–215). -/
inductive MemoriaOperacion where
  | cpuObtenerContexto
  | cpuActualizarContexto
  | cpuObtenerInstruccion
  | cpuReadMem
  | cpuWriteMem
  | kernelCrearProceso
  | kernelCrearHilo
  | kernelFinalizarProceso
  | kernelFinalizarHilo
  | kernelMemoryDump
  | cpuObtenerDireccion
  deriving DecidableEq, Repr

/-- The value of an operation. -/
def MemoriaOperacion.codigo : MemoriaOperacion → Int32
  | cpuObtenerContexto => 0
  | cpuActualizarContexto => 1
  | cpuObtenerInstruccion => 2
  | cpuReadMem => 3
  | cpuWriteMem => 4
  | kernelCrearProceso => 5
  | kernelCrearHilo => 6
  | kernelFinalizarProceso => 7
  | kernelFinalizarHilo => 8
  | kernelMemoryDump => 9
  | cpuObtenerDireccion => 10

/-- `instruccion` (lines 140–170). -/
inductive Instruccion where
  | set
  | readMem
  | writeMem
  | sum
  | sub
  | jnz
  | log
  | dumpMemory
  | io
  | processCreate
  | threadCreate
  | threadJoin
  | threadCancel
  | mutexCreate
  | mutexLock
  | mutexUnlock
  | threadExit
  | processExit
  | resize
  | copyString
  | wait
  | signal
  | instExit
  | invalidInstruction
  deriving DecidableEq, Repr

/-- The value of an instruction. -/
def Instruccion.codigo : Instruccion → Int32
  | set => 0
  | readMem => 1
  | writeMem => 2
  | sum => 3
  | sub => 4
  | jnz => 5
  | log => 6
  | dumpMemory => 7
  | io => 8
  | processCreate => 9
  | threadCreate => 10
  | threadJoin => 11
  | threadCancel => 12
  | mutexCreate => 13
  | mutexLock => 14
  | mutexUnlock => 15
  | threadExit => 16
  | processExit => 17
  | resize => 18
  | copyString => 19
  | wait => 20
  | signal => 21
  | instExit => 22
  | invalidInstruction => 23

/-- `OP_OUT_OF_MEMORY` (line 130). -/
def opOutOfMemory : Int32 := 2

end SoTp.Utils
