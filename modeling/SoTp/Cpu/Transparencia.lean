import SoTp.Cpu.Ciclo

/-!
# Interrupted and uninterrupted runs

`secuencial` executes a program without interruptions, every instruction once and
in program order. `Transparente` compares a thread with it: the instructions
executed since the first dispatch are those of `secuencial` with the same answers
of memoria, and so are the registers wherever no instruction is halfway.

A thread falls behind in two ways. When the flag becomes true while an instruction
executes (at `prueba`), `PC++` is skipped and the instruction is executed again
after the next dispatch. When the instruction itself evicts the thread, the same
happens.

* `avanzar_sincronizado`: no other step falls behind.
* `run_transparente`: **a run with neither of them is transparent**, in every
  state and over any number of dispatches.
* `not_run_transparente`: both ways, on the program `SUM AX BX` and on
  `DUMP_MEMORY`.
-/

namespace SoTp.Cpu

open SoTp.Lib SoTp.Utils

/-! ## Specification -/

/-- One instruction: it is executed and the program counter advances. -/
def ejecutarUna (programa : List CString) (PID TID : UInt32)
    (s : Registros × List (UInt32 × CString)) (respuesta : UInt32) :
    Option (Registros × List (UInt32 × CString)) := do
  let inst ← fetchInstruccion programa s.1.PC
  let registros ← (executeInstruccion (fun _ => 0) respuesta (decodeInstruccion inst) PID TID s.1
    (bufferCreate (fun _ => 0) 0)).map Ejecucion.registros
  some ({ registros with PC := registros.PC + 1 }, s.2 ++ [(s.1.PC, inst)])

/-- The registers and the instructions executed, after one instruction for each
answer of memoria. -/
def secuencial (programa : List CString) (PID TID : UInt32) (registros : Registros)
    (respuestas : List UInt32) : Option (Registros × List (UInt32 × CString)) :=
  run (ejecutarUna programa PID TID) (registros, []) respuestas

/-- The thread `s`, dispatched first with `registros`, has executed what
`secuencial` executes and has its registers; and where it is about to execute one
more instruction, it does so exactly when `secuencial` does. -/
def Transparente (programa : List CString) (PID TID : UInt32) (registros : Registros)
    (s : Ciclo) : Prop :=
  (∃ esperados, secuencial programa PID TID registros s.respuestas = some (esperados, s.traza) ∧
    (s.punto ≠ .prueba → s.registros = esperados)) ∧
  (s.punto = .cabeza → s.interrupcionRecibida = false → ∀ (g : Mem) (respuesta : UInt32),
    (avanzar programa PID TID s (.paso g respuesta)).isSome =
      (secuencial programa PID TID registros (s.respuestas ++ [respuesta])).isSome)

/-- The event does not come between an instruction and its `PC++`, and does not
execute an instruction that evicts the thread. -/
def Limpio (programa : List CString) (s : Ciclo) : Evento → Prop
  | .interrupcion => s.punto ≠ .prueba
  | .paso _ respuesta => s.punto = .cabeza → s.interrupcionRecibida = false →
      ∀ inst, fetchInstruccion programa s.registros.PC = some inst →
        desaloja respuesta (decodeInstruccion inst).instruccion = false

/-! ## Simulation -/

theorem cabeza_ne_prueba : Punto.cabeza ≠ .prueba := by decide

theorem fin_ne_prueba : Punto.fin ≠ .prueba := by decide

section

variable {programa : List CString} {PID TID : UInt32} {registros : Registros} {s s' : Ciclo}

/-- The registers once the instruction under way has been completed. -/
def registrosCompletos (s : Ciclo) : Registros :=
  if s.punto = .prueba then { s.registros with PC := s.registros.PC + 1 } else s.registros

/-- The relation with `secuencial` that clean events keep. -/
structure Sincronizado (programa : List CString) (PID TID : UInt32) (registros : Registros)
    (s : Ciclo) : Prop where
  secuencial : secuencial programa PID TID registros s.respuestas =
    some (registrosCompletos s, s.traza)
  interna : s.interrupcionInterna = false
  recibida : s.punto = .prueba → s.interrupcionRecibida = false

theorem secuencial_append {respuestas : List UInt32} {r : Registros}
    {traza : List (UInt32 × CString)}
    (h : secuencial programa PID TID registros respuestas = some (r, traza)) (respuesta : UInt32) :
    secuencial programa PID TID registros (respuestas ++ [respuesta]) =
      ejecutarUna programa PID TID (r, traza) respuesta := by
  unfold secuencial at h ⊢
  rw [run_append, h, Option.bind_some, run_singleton]

theorem ejecutarUna_eq_some {r : Registros} {traza : List (UInt32 × CString)} {respuesta : UInt32}
    {inst : CString} (hinst : fetchInstruccion programa r.PC = some inst) {g : Mem}
    {bufferRetorno : TBuffer} {e : Ejecucion}
    (he : executeInstruccion g respuesta (decodeInstruccion inst) PID TID r bufferRetorno =
      some e) :
    ejecutarUna programa PID TID (r, traza) respuesta =
      some ({ e.registros with PC := e.registros.PC + 1 }, traza ++ [(r.PC, inst)]) := by
  have hregistros : (executeInstruccion (fun _ => 0) respuesta (decodeInstruccion inst) PID TID r
      (bufferCreate (fun _ => 0) 0)).map Ejecucion.registros = some e.registros := by
    rw [executeInstruccion_registros (fun _ => 0) g _ bufferRetorno, he, Option.map_some]
  simp only [ejecutarUna, hinst, hregistros, Option.bind_eq_bind, Option.bind_some]

theorem isSome_bind_some {α β : Type*} (o : Option α) (f : α → β) :
    (o.bind fun a => some (f a)).isSome = o.isSome := by
  cases o <;> rfl

/-- A thread about to execute an instruction is stuck when `secuencial` is. -/
theorem isSome_avanzar (hpunto : s.punto = .cabeza)
    (hflag : (s.interrupcionInterna || s.interrupcionRecibida) = false) (g : Mem)
    (respuesta : UInt32) (traza : List (UInt32 × CString)) :
    (avanzar programa PID TID s (.paso g respuesta)).isSome =
      (ejecutarUna programa PID TID (s.registros, traza) respuesta).isSome := by
  simp only [avanzar, hpunto, hflag, Bool.false_eq_true, ite_false, ejecutarUna,
    Option.bind_eq_bind]
  cases fetchInstruccion programa s.registros.PC with
  | none => rfl
  | some inst =>
    have hsame : ((executeInstruccion g respuesta (decodeInstruccion inst) PID TID s.registros
        s.bufferRetorno).map Ejecucion.registros).isSome =
        ((executeInstruccion (fun _ => 0) respuesta (decodeInstruccion inst) PID TID s.registros
          (bufferCreate (fun _ => 0) 0)).map Ejecucion.registros).isSome := by
      rw [executeInstruccion_registros g (fun _ => 0)]
    rw [Option.isSome_map] at hsame
    rw [Option.bind_some, Option.bind_some, isSome_bind_some, isSome_bind_some, hsame]

/-- A clean event keeps the thread in step. -/
theorem avanzar_sincronizado {evento : Evento}
    (h : Sincronizado programa PID TID registros s) (hlimpio : Limpio programa s evento)
    (hs' : avanzar programa PID TID s evento = some s') :
    Sincronizado programa PID TID registros s' := by
  obtain ⟨hsecuencial, hinterna, hrecibida⟩ := h
  cases evento with
  | interrupcion =>
    obtain rfl := Option.some.inj hs'
    exact ⟨hsecuencial, hinterna, fun hpunto => absurd hpunto hlimpio⟩
  | paso g respuesta =>
    cases avanzar_paso hs' with
    | sale hpunto hflag =>
      rw [registrosCompletos, if_neg (by rw [hpunto]; decide)] at hsecuencial
      exact ⟨hsecuencial, hinterna, fun hfin => absurd hfin fin_ne_prueba⟩
    | ejecuta hpunto hflag inst hinst e he =>
      rw [registrosCompletos, if_neg (by rw [hpunto]; decide)] at hsecuencial
      rw [hinterna, Bool.false_or] at hflag
      refine ⟨?_, ?_, fun _ => hflag⟩
      · rw [secuencial_append hsecuencial, ejecutarUna_eq_some hinst he]
        rfl
      · exact (executeInstruccion_spec he).1.trans (hlimpio hpunto hflag inst hinst)
    | avanza hpunto =>
      rw [registrosCompletos, if_pos hpunto] at hsecuencial
      refine ⟨?_, hinterna, fun hcabeza => absurd hcabeza cabeza_ne_prueba⟩
      simp only [hinterna, hrecibida hpunto, Bool.or_self, Bool.false_eq_true, ite_false]
      exact hsecuencial
    | reanuda hpunto =>
      rw [registrosCompletos, if_neg (by rw [hpunto]; decide)] at hsecuencial
      exact ⟨hsecuencial, rfl, fun hcabeza => absurd hcabeza cabeza_ne_prueba⟩

theorem despacho_sincronizado (g : Mem) :
    Sincronizado programa PID TID registros (despacho g registros) :=
  ⟨rfl, rfl, fun hcabeza => absurd hcabeza cabeza_ne_prueba⟩

theorem Sincronizado.transparente (h : Sincronizado programa PID TID registros s) :
    Transparente programa PID TID registros s := by
  constructor
  · refine ⟨registrosCompletos s, h.secuencial, fun hpunto => ?_⟩
    rw [registrosCompletos, if_neg hpunto]
  · intro hpunto hrecibida g respuesta
    have hsecuencial := h.secuencial
    rw [registrosCompletos, if_neg (by rw [hpunto]; decide)] at hsecuencial
    rw [secuencial_append hsecuencial]
    exact isSome_avanzar hpunto (by rw [h.interna, hrecibida]; rfl) g respuesta s.traza

end

/-- **Transparency.** In every run without an interruption halfway through an
instruction and without an instruction that evicts the thread, cut and resumed any
number of times, every state has executed the instructions of the uninterrupted
execution, each once, and has its registers. -/
theorem run_transparente (programa : List CString) (PID TID : UInt32) (registros : Registros)
    (g : Mem) (eventos : List Evento) (s : Ciclo)
    (hlimpio : Along (avanzar programa PID TID) (Limpio programa) (despacho g registros) eventos)
    (hrun : run (avanzar programa PID TID) (despacho g registros) eventos = some s) :
    Transparente programa PID TID registros s :=
  (run_invariant (fun _ _ _ h hP hs => avanzar_sincronizado h hP hs)
    (despacho_sincronizado g) hlimpio hrun).transparente

/-- A program of one instruction, interrupted before it and resumed. -/
theorem run_transparente_log :
    ∃ s, run (avanzar [CString.ofBytes (ascii "LOG 0")] 1 0)
        (despacho (fun _ => 0) ⟨0, 5, 0, 0, 0, 0, 0, 0, 0, 0, 64⟩)
        [.interrupcion, .paso (fun _ => 0) 0, .paso (fun _ => 0) 0, .paso (fun _ => 0) 0] = some s ∧
      Transparente [CString.ofBytes (ascii "LOG 0")] 1 0 ⟨0, 5, 0, 0, 0, 0, 0, 0, 0, 0, 64⟩ s := by
  have hsome : (run (avanzar [CString.ofBytes (ascii "LOG 0")] 1 0)
      (despacho (fun _ => 0) ⟨0, 5, 0, 0, 0, 0, 0, 0, 0, 0, 64⟩)
      [.interrupcion, .paso (fun _ => 0) 0, .paso (fun _ => 0) 0,
        .paso (fun _ => 0) 0]).isSome := by decide
  obtain ⟨s, hs⟩ := Option.isSome_iff_exists.mp hsome
  refine ⟨s, hs, run_transparente _ 1 0 _ (fun _ => 0) _ s ?_ hs⟩
  refine along_cons rfl cabeza_ne_prueba
    (along_cons rfl ?_ (along_cons rfl ?_ ⟨?_, fun _ _ => trivial⟩))
  · intro _ hrecibida
    exact absurd hrecibida (by decide)
  · intro hcabeza
    exact absurd hcabeza (by decide)
  · intro _ _ inst hinst
    obtain rfl : CString.ofBytes (ascii "LOG 0") = inst := Option.some.inj hinst
    decide

theorem not_transparente_of_traza {programa : List CString} {PID TID : UInt32}
    {registros : Registros} {s : Ciclo} {traza : List (UInt32 × CString)}
    (h : (secuencial programa PID TID registros s.respuestas).map Prod.snd = some traza)
    (hne : s.traza ≠ traza) : ¬ Transparente programa PID TID registros s := by
  rintro ⟨⟨esperados, hsecuencial, -⟩, -⟩
  rw [hsecuencial, Option.map_some] at h
  exact hne (Option.some.inj h)

/-- The flag becomes true while `SUM AX BX` executes: after the next dispatch the
sum is made again. `DUMP_MEMORY` is executed again after the syscall. -/
theorem not_run_transparente :
    (∃ s, run (avanzar [CString.ofBytes (ascii "SUM AX BX"), CString.ofBytes (ascii "LOG 0")] 1 0)
        (despacho (fun _ => 0) ⟨0, 1, 2, 0, 0, 0, 0, 0, 0, 0, 64⟩)
        [.paso (fun _ => 0) 0, .interrupcion, .paso (fun _ => 0) 0, .paso (fun _ => 0) 0,
          .paso (fun _ => 0) 0, .paso (fun _ => 0) 0] = some s ∧
      s.registros.AX = 5 ∧
      ¬ Transparente [CString.ofBytes (ascii "SUM AX BX"), CString.ofBytes (ascii "LOG 0")] 1 0
        ⟨0, 1, 2, 0, 0, 0, 0, 0, 0, 0, 64⟩ s) ∧
    ∃ s, run (avanzar [CString.ofBytes (ascii "DUMP_MEMORY"), CString.ofBytes (ascii "LOG 0")] 1 0)
        (despacho (fun _ => 0) ⟨0, 1, 2, 0, 0, 0, 0, 0, 0, 0, 64⟩)
        [.paso (fun _ => 0) 0, .paso (fun _ => 0) 0, .paso (fun _ => 0) 0, .paso (fun _ => 0) 0,
          .paso (fun _ => 0) 0] = some s ∧
      ¬ Transparente [CString.ofBytes (ascii "DUMP_MEMORY"), CString.ofBytes (ascii "LOG 0")] 1 0
        ⟨0, 1, 2, 0, 0, 0, 0, 0, 0, 0, 64⟩ s := by
  constructor
  · have hrun : (run (avanzar
        [CString.ofBytes (ascii "SUM AX BX"), CString.ofBytes (ascii "LOG 0")] 1 0)
        (despacho (fun _ => 0) ⟨0, 1, 2, 0, 0, 0, 0, 0, 0, 0, 64⟩)
        [.paso (fun _ => 0) 0, .interrupcion, .paso (fun _ => 0) 0, .paso (fun _ => 0) 0,
          .paso (fun _ => 0) 0, .paso (fun _ => 0) 0]).map
        (fun s => (s.registros.AX, s.respuestas, s.traza.map Prod.fst)) =
          some (5, [0, 0], [0, 0]) := by decide
    obtain ⟨s, hs, hproj⟩ := Option.map_eq_some_iff.mp hrun
    obtain ⟨hAX, hproj⟩ := Prod.mk.inj hproj
    obtain ⟨hrespuestas, htraza⟩ := Prod.mk.inj hproj
    refine ⟨s, hs, hAX, not_transparente_of_traza (by rw [hrespuestas]; rfl) ?_⟩
    intro heq
    rw [heq] at htraza
    exact absurd htraza (by decide)
  · have hrun : (run (avanzar
        [CString.ofBytes (ascii "DUMP_MEMORY"), CString.ofBytes (ascii "LOG 0")] 1 0)
        (despacho (fun _ => 0) ⟨0, 1, 2, 0, 0, 0, 0, 0, 0, 0, 64⟩)
        [.paso (fun _ => 0) 0, .paso (fun _ => 0) 0, .paso (fun _ => 0) 0, .paso (fun _ => 0) 0,
          .paso (fun _ => 0) 0]).map
        (fun s => (s.respuestas, s.traza.map Prod.fst)) = some ([0, 0], [0, 0]) := by decide
    obtain ⟨s, hs, hproj⟩ := Option.map_eq_some_iff.mp hrun
    obtain ⟨hrespuestas, htraza⟩ := Prod.mk.inj hproj
    refine ⟨s, hs, not_transparente_of_traza (by rw [hrespuestas]; rfl) ?_⟩
    intro heq
    rw [heq] at htraza
    exact absurd htraza (by decide)

end SoTp.Cpu
