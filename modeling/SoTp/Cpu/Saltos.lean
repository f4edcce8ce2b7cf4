import SoTp.Cpu.Ciclo

/-!
# Where jumps land

`JNZ` writes its target into PC inside `executeInstruccion` (`cpu/src/cpu.c`, lines
440–454), and the loop of `EjecutarProceso` (lines 22–35) adds one to PC after every
instruction that does not evict the thread, jumps included.

* `sucede_iff`: the instruction after a fetched one is the right one unless that
  one is a jump that is taken.
* `huella_sucede_iff`: over a run, **every instruction is followed by the right one
  exactly when no jump is taken before the last fetch**.
-/

namespace SoTp.Cpu

open SoTp.Lib SoTp.Utils

/-! ## Fetches -/

/-- An instruction that is fetched: the registers at that moment, and its text. -/
structure Lectura where
  registros : Registros
  inst : CString
  deriving DecidableEq

/-- The fetch that a step starts with, if it starts with one. -/
def lectura (programa : List CString) (s : Ciclo) : Option Lectura :=
  if s.punto = .cabeza ∧ (s.interrupcionInterna || s.interrupcionRecibida) = false then
    (fetchInstruccion programa s.registros.PC).map fun inst => ⟨s.registros, inst⟩
  else none

section

variable {programa : List CString} {s : Ciclo}

theorem lectura_desalojada (hflag : (s.interrupcionInterna || s.interrupcionRecibida) = true) :
    lectura programa s = none :=
  if_neg fun h => Bool.false_ne_true (h.2.symm.trans hflag)

theorem lectura_fuera (hpunto : s.punto ≠ .cabeza) : lectura programa s = none :=
  if_neg fun h => hpunto h.1

theorem lectura_cabeza (hpunto : s.punto = .cabeza)
    (hflag : (s.interrupcionInterna || s.interrupcionRecibida) = false) :
    lectura programa s =
      (fetchInstruccion programa s.registros.PC).map fun inst => ⟨s.registros, inst⟩ :=
  if_pos ⟨hpunto, hflag⟩

end

/-- The fetches of a call of `EjecutarProceso` from `s` on, for as many steps as
there are heaps and replies, without an interruption. -/
def huella (programa : List CString) (PID TID : UInt32) :
    Ciclo → List (Mem × UInt32) → List Lectura
  | _, [] => []
  | s, (g, respuesta) :: pasos =>
    if s.punto = .fin then []
    else
      (lectura programa s).toList ++
        (avanzar programa PID TID s (.paso g respuesta)).elim [] fun s' =>
          huella programa PID TID s' pasos

/-- A `JNZ` whose register is not zero. -/
def saltoTomado (inst : TInstruccion) (registros : Registros) : Bool :=
  decide (inst.instruccion = .jnz) && inst.registro1.any fun r => valor registros r != 0

/-- An instruction other than a jump that writes PC. -/
def escribePC (inst : TInstruccion) : Bool :=
  match inst.instruccion with
  | .set | .readMem | .sum => decide (inst.registro1 = some .PC)
  | .sub => decide (inst.registro1 = some .PC) && inst.registro2.isSome
  | _ => false

/-- The syscalls. -/
def esSyscall : Instruccion → Bool
  | .dumpMemory | .io | .processCreate | .threadCreate | .threadJoin | .threadCancel
  | .mutexCreate | .mutexLock | .mutexUnlock | .threadExit | .processExit => true
  | _ => false

/-- The jump of this fetch is taken. -/
def Lectura.Salta (a : Lectura) : Prop :=
  saltoTomado (decodeInstruccion a.inst) a.registros = true

/-- `b` is the fetch that the program asks for after `a`: the target of a jump that is
taken, the next index after every other instruction that neither is a syscall nor writes
PC. -/
def Sucede (a b : Lectura) : Prop :=
  let inst := decodeInstruccion a.inst
  (a.Salta → b.registros.PC = inst.valor) ∧
    (¬ a.Salta → esSyscall inst.instruccion = false → escribePC inst = false →
      b.registros.PC.toNat = a.registros.PC.toNat + 1)

instance (a : Lectura) : Decidable a.Salta := inferInstanceAs (Decidable (_ = true))

instance (a b : Lectura) : Decidable (Sucede a b) := inferInstanceAs (Decidable (_ ∧ _))

/-! ## One instruction -/

theorem valor_PC (registros : Registros) : valor registros .PC = registros.PC := rfl

theorem asignar_PC (registros : Registros) (r : Registro) (v : UInt32) :
    (asignar registros r v).PC = if r = .PC then v else registros.PC := by
  rw [← valor_PC, valor_asignar, ← valor_PC]
  by_cases hr : r = .PC
  · rw [if_pos hr.symm, if_pos hr]
  · rw [if_neg fun h => hr h.symm, if_neg hr]

section

variable {g : Mem} {respuesta : UInt32} {inst : TInstruccion} {PID TID : UInt32}
  {registros : Registros} {bufferRetorno : TBuffer} {e : Ejecucion}

/-- A jump that is taken leaves its target in PC. -/
theorem executeInstruccion_salta
    (he : executeInstruccion g respuesta inst PID TID registros bufferRetorno = some e)
    (h : saltoTomado inst registros = true) : e.registros.PC = inst.valor := by
  unfold saltoTomado at h
  obtain ⟨hjnz, hany⟩ := Bool.and_eq_true_iff.mp h
  unfold executeInstruccion at he
  rw [of_decide_eq_true hjnz] at he
  obtain ⟨r, hr, he⟩ := Option.bind_eq_some_iff.mp he
  rw [hr] at hany
  have hne : valor registros r ≠ 0 := by simpa using hany
  obtain rfl := Option.some.inj he
  dsimp only
  rw [if_pos hne]

theorem executeInstruccion_PC
    (he : executeInstruccion g respuesta inst PID TID registros bufferRetorno = some e)
    (hsalta : ¬ saltoTomado inst registros = true) (hescribe : escribePC inst = false) :
    e.registros.PC = registros.PC := by
  unfold executeInstruccion at he
  unfold saltoTomado at hsalta
  unfold escribePC at hescribe
  split at he <;> rename_i hinst <;> rw [hinst] at hsalta hescribe <;>
    grind [Option.bind_eq_some_iff, asignar_PC]

/-- The fetch after an instruction, with one added to PC, is the one that the program
asks for exactly when the instruction is not a jump that is taken. -/
theorem sucede_iff {programa : List CString} {a b : Lectura}
    (hfetch : fetchInstruccion programa a.registros.PC = some a.inst)
    (he : executeInstruccion g respuesta (decodeInstruccion a.inst) PID TID a.registros
      bufferRetorno = some e)
    (hb : b.registros.PC = e.registros.PC + 1) : Sucede a b ↔ ¬ a.Salta := by
  constructor
  · rintro ⟨htarget, -⟩ hsalta
    have htarget := htarget hsalta
    rw [hb, executeInstruccion_salta he hsalta] at htarget
    -- the target is not its own successor
    exact absurd (add_eq_left.mp htarget) (by decide)
  · intro hsalta
    refine ⟨fun h => absurd h hsalta, fun _ _ hescribe => ?_⟩
    -- an index that is fetched is not the last one of 32 bits
    have hne : a.registros.PC.toNat ≠ 4294967295 := by
      intro hmax
      rw [show a.registros.PC = 4294967295 from UInt32.toNat_inj.mp hmax] at hfetch
      have hnone : fetchInstruccion programa 4294967295 = none := if_pos (by decide)
      rw [hnone] at hfetch
      simp at hfetch
    have hlt := a.registros.PC.toNat_lt
    rw [hb, executeInstruccion_PC he hsalta hescribe, UInt32.toNat_add]
    show (a.registros.PC.toNat + 1) % 2 ^ 32 = a.registros.PC.toNat + 1
    omega

end

/-! ## The fetches of a run -/

section

variable {programa : List CString} {PID TID : UInt32} {s : Ciclo}

/-- After an eviction nothing is fetched. -/
theorem huella_desalojada (pasos : List (Mem × UInt32))
    (hflag : (s.interrupcionInterna || s.interrupcionRecibida) = true) :
    huella programa PID TID s pasos = [] := by
  induction pasos generalizing s with
  | nil => rfl
  | cons paso pasos ih =>
    obtain ⟨g, respuesta⟩ := paso
    unfold huella
    split
    · rfl
    · rw [lectura_desalojada hflag]
      cases hs' : avanzar programa PID TID s (.paso g respuesta) with
      | none => rfl
      | some s' =>
        show huella programa PID TID s' pasos = []
        cases avanzar_paso hs' with
        | sale => exact ih hflag
        | ejecuta _ hno =>
          rw [hflag] at hno
          simp at hno
        | avanza => exact ih hflag
        | reanuda hpunto => contradiction

/-- At the head of the loop: a fetch, or none when memoria has no such instruction or the
instruction is not completed. -/
theorem huella_cabeza (hpunto : s.punto = .cabeza)
    (hflag : (s.interrupcionInterna || s.interrupcionRecibida) = false) (g : Mem)
    (respuesta : UInt32) (pasos : List (Mem × UInt32)) :
    huella programa PID TID s ((g, respuesta) :: pasos) =
      ((fetchInstruccion programa s.registros.PC).map fun inst =>
        (⟨s.registros, inst⟩ : Lectura)).toList ++
      (avanzar programa PID TID s (.paso g respuesta)).elim [] fun s' =>
        huella programa PID TID s' pasos := by
  conv_lhs => unfold huella
  rw [if_neg (by rw [hpunto]; decide), lectura_cabeza hpunto hflag]

/-- Before `PC++`, without an eviction. -/
theorem huella_prueba (hpunto : s.punto = .prueba)
    (hflag : (s.interrupcionInterna || s.interrupcionRecibida) = false) (g : Mem)
    (respuesta : UInt32) (pasos : List (Mem × UInt32)) :
    huella programa PID TID s ((g, respuesta) :: pasos) =
      huella programa PID TID { s with
        punto := .cabeza, registros := { s.registros with PC := s.registros.PC + 1 } } pasos := by
  conv_lhs => unfold huella
  have hlectura : lectura programa s = none := lectura_fuera (by rw [hpunto]; decide)
  have hs' : avanzar programa PID TID s (.paso g respuesta) = some { s with
      punto := .cabeza, registros := { s.registros with PC := s.registros.PC + 1 } } := by
    simp only [avanzar, hpunto, hflag, Bool.false_eq_true, if_false]
  rw [if_neg (by rw [hpunto]; decide), hlectura, hs']
  rfl

/-- The first fetch from the head of the loop is made with the registers as they are. -/
theorem huella_head_cabeza (hpunto : s.punto = .cabeza) {pasos : List (Mem × UInt32)}
    {b : Lectura} {l : List Lectura} (h : huella programa PID TID s pasos = b :: l) :
    b.registros = s.registros := by
  cases pasos with
  | nil => simp [huella] at h
  | cons paso pasos =>
    by_cases hflag : (s.interrupcionInterna || s.interrupcionRecibida) = true
    · rw [huella_desalojada _ hflag] at h
      simp at h
    · obtain ⟨g, respuesta⟩ := paso
      rw [huella_cabeza hpunto (Bool.eq_false_iff.mpr hflag)] at h
      cases hfetch : fetchInstruccion programa s.registros.PC with
      | some inst =>
        rw [hfetch] at h
        exact (congrArg Lectura.registros (List.cons.inj h).1).symm
      | none =>
        -- without an instruction the step does not complete
        have hs' : avanzar programa PID TID s (.paso g respuesta) = none := by
          simp [avanzar, hpunto, hflag, hfetch]
        rw [hfetch, hs'] at h
        simp at h

theorem huella_head_prueba (hpunto : s.punto = .prueba) {pasos : List (Mem × UInt32)}
    {b : Lectura} {l : List Lectura} (h : huella programa PID TID s pasos = b :: l) :
    b.registros.PC = s.registros.PC + 1 := by
  cases pasos with
  | nil => simp [huella] at h
  | cons paso pasos =>
    by_cases hflag : (s.interrupcionInterna || s.interrupcionRecibida) = true
    · rw [huella_desalojada _ hflag] at h
      simp at h
    · obtain ⟨g, respuesta⟩ := paso
      rw [huella_prueba hpunto (Bool.eq_false_iff.mpr hflag)] at h
      rw [huella_head_cabeza rfl h]

/-- From any state. -/
theorem huella_isChain_iff (pasos : List (Mem × UInt32)) :
    (huella programa PID TID s pasos).IsChain Sucede ↔
      ∀ a ∈ (huella programa PID TID s pasos).dropLast, ¬ a.Salta := by
  induction pasos generalizing s with
  | nil => simp [huella]
  | cons paso pasos ih =>
    obtain ⟨g, respuesta⟩ := paso
    by_cases hflag : (s.interrupcionInterna || s.interrupcionRecibida) = true
    · simp [huella_desalojada _ hflag]
    · have hflag' := Bool.eq_false_iff.mpr hflag
      cases hpunto : s.punto with
      | fin => simp [huella, hpunto]
      | prueba =>
        rw [huella_prueba hpunto hflag']
        exact ih
      | cabeza =>
        rw [huella_cabeza hpunto hflag']
        cases hs' : avanzar programa PID TID s (.paso g respuesta) with
        | none =>
          cases hfetch : fetchInstruccion programa s.registros.PC <;> simp
        | some s' =>
          cases avanzar_paso hs' with
          | sale _ hyes => exact absurd hyes hflag
          | avanza hno => simp [hpunto] at hno
          | reanuda hno => simp [hpunto] at hno
          | ejecuta _ _ inst hinst e he =>
            rw [hinst]
            show (_ :: huella programa PID TID _ pasos).IsChain Sucede ↔
              ∀ a ∈ (_ :: huella programa PID TID _ pasos).dropLast, ¬ a.Salta
            cases hrest : huella programa PID TID _ pasos with
            | nil => simp
            | cons b l =>
              have hb := huella_head_prueba rfl hrest
              rw [List.isChain_cons_cons, List.dropLast_cons_cons, List.forall_mem_cons, ← hrest]
              exact and_congr (sucede_iff (a := ⟨s.registros, inst⟩) hinst he hb) ih

end

end SoTp.Cpu
