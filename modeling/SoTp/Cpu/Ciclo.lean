import SoTp.Cpu.Execute
import SoTp.Lib.Run

/-!
# The instruction cycle

Model of `EjecutarProceso` (`cpu/src/cpu.c`, lines 5–38) inside the case
`CONTEXTO` of `ServerCPU` (`cpu/src/main.c`, lines 95–128), as a machine whose
steps lie between two readings of the flag `interrupcionRecibida`. Another thread
sets the flag, so it may become true before any step: that is an event of its
own.

* `cabeza`: at the test of the `while`.
* `prueba`: an instruction has been executed, at the test before `PC++`.
* `fin`: the function has returned. The registers are saved; the next step is the
  dispatch of the same thread with the saved registers.

`avanzar_paso` says everything a step can do.
-/

namespace SoTp.Cpu

open SoTp.Lib SoTp.Utils

/-! ## Model -/

/-- The text that memoria holds at `pc`: `list_get` takes it as an `int`, and outside
of the list there is no answer. -/
def fetchInstruccion (programa : List CString) (pc : UInt32) : Option CString :=
  if pc.toInt32 < 0 then none else programa[pc.toNat]?

/-- The points of `EjecutarProceso` between the readings of the flag. -/
inductive Punto where
  | cabeza
  | prueba
  | fin
  deriving DecidableEq, Repr

/-- A thread on the CPU. `traza` holds the program counter and the text of every
instruction executed since the first dispatch, `respuestas` the answer of memoria
to each. -/
structure Ciclo where
  punto : Punto
  registros : Registros
  bufferRetorno : TBuffer
  interrupcionInterna : Bool
  interrupcionRecibida : Bool
  traza : List (UInt32 × CString)
  respuestas : List UInt32

/-- What happens: the flag becomes true, or the thread takes a step, with the heap
`g` and with `respuesta` should it ask memoria for something. -/
inductive Evento where
  | interrupcion
  | paso (g : Mem) (respuesta : UInt32)

/-- The first dispatch. -/
def despacho (g : Mem) (registros : Registros) : Ciclo where
  punto := .cabeza
  registros := registros
  bufferRetorno := bufferCreate g 0
  interrupcionInterna := false
  interrupcionRecibida := false
  traza := []
  respuestas := []

/-- One event. -/
def avanzar (programa : List CString) (PID TID : UInt32) (s : Ciclo) : Evento → Option Ciclo
  | .interrupcion => some { s with interrupcionRecibida := true }
  | .paso g respuesta =>
    match s.punto with
    | .cabeza =>
      if s.interrupcionInterna || s.interrupcionRecibida then some { s with punto := .fin }
      else do
        let inst ← fetchInstruccion programa s.registros.PC
        let e ← executeInstruccion g respuesta (decodeInstruccion inst) PID TID s.registros
          s.bufferRetorno
        some
          { s with
            punto := .prueba
            registros := e.registros
            bufferRetorno := e.bufferRetorno
            interrupcionInterna := e.interrupcionInterna
            traza := s.traza ++ [(s.registros.PC, inst)]
            respuestas := s.respuestas ++ [respuesta] }
    | .prueba =>
      some
        { s with
          punto := .cabeza
          registros :=
            if s.interrupcionInterna || s.interrupcionRecibida then s.registros
            else { s.registros with PC := s.registros.PC + 1 } }
    | .fin =>
      some
        { s with
          punto := .cabeza
          bufferRetorno := bufferCreate g 0
          interrupcionInterna := false
          interrupcionRecibida := false }

/-! ## What a step does -/

/-- The states that a step can lead to. -/
inductive Paso (programa : List CString) (PID TID : UInt32) (g : Mem) (respuesta : UInt32)
    (s : Ciclo) : Ciclo → Prop where
  /-- The `while` ends. -/
  | sale (hpunto : s.punto = .cabeza)
      (hflag : (s.interrupcionInterna || s.interrupcionRecibida) = true) :
      Paso programa PID TID g respuesta s { s with punto := .fin }
  /-- An instruction is executed. -/
  | ejecuta (hpunto : s.punto = .cabeza)
      (hflag : (s.interrupcionInterna || s.interrupcionRecibida) = false)
      (inst : CString) (hinst : fetchInstruccion programa s.registros.PC = some inst)
      (e : Ejecucion) (he : executeInstruccion g respuesta (decodeInstruccion inst) PID TID
        s.registros s.bufferRetorno = some e) :
      Paso programa PID TID g respuesta s
        { s with
          punto := .prueba
          registros := e.registros
          bufferRetorno := e.bufferRetorno
          interrupcionInterna := e.interrupcionInterna
          traza := s.traza ++ [(s.registros.PC, inst)]
          respuestas := s.respuestas ++ [respuesta] }
  /-- The program counter advances, unless a flag is set. -/
  | avanza (hpunto : s.punto = .prueba) :
      Paso programa PID TID g respuesta s
        { s with
          punto := .cabeza
          registros :=
            if s.interrupcionInterna || s.interrupcionRecibida then s.registros
            else { s.registros with PC := s.registros.PC + 1 } }
  /-- The thread is dispatched again. -/
  | reanuda (hpunto : s.punto = .fin) :
      Paso programa PID TID g respuesta s
        { s with
          punto := .cabeza
          bufferRetorno := bufferCreate g 0
          interrupcionInterna := false
          interrupcionRecibida := false }

/-- Everything a step can do. -/
theorem avanzar_paso {programa : List CString} {PID TID : UInt32} {g : Mem} {respuesta : UInt32}
    {s s' : Ciclo} (h : avanzar programa PID TID s (.paso g respuesta) = some s') :
    Paso programa PID TID g respuesta s s' := by
  simp only [avanzar] at h
  split at h
  case h_1 hpunto =>
    split at h
    · rename_i hflag
      obtain rfl := Option.some.inj h
      exact .sale hpunto hflag
    · rename_i hflag
      obtain ⟨inst, hinst, h⟩ := Option.bind_eq_some_iff.mp h
      obtain ⟨e, he, h⟩ := Option.bind_eq_some_iff.mp h
      obtain rfl := Option.some.inj h
      exact .ejecuta hpunto (Bool.eq_false_iff.mpr hflag) inst hinst e he
  case h_2 hpunto =>
    obtain rfl := Option.some.inj h
    exact .avanza hpunto
  case h_3 hpunto =>
    obtain rfl := Option.some.inj h
    exact .reanuda hpunto

/-- The buffer of the reply is created with size 0 and never becomes longer. -/
theorem avanzar_size {programa : List CString} {PID TID : UInt32} {s s' : Ciclo} {evento : Evento}
    (hsize : s.bufferRetorno.size = 0) (h : avanzar programa PID TID s evento = some s') :
    s'.bufferRetorno.size = 0 := by
  cases evento with
  | interrupcion =>
    obtain rfl := Option.some.inj h
    exact hsize
  | paso g respuesta =>
    cases avanzar_paso h with
    | sale => exact hsize
    | ejecuta hpunto hflag inst hinst e he => exact (executeInstruccion_spec he).2.trans hsize
    | avanza => exact hsize
    | reanuda => rfl

end SoTp.Cpu
