import SoTp.Cpu.Execute
import SoTp.Lib.Run

/-!
# Interruptions

`ServerCPU` (`cpu/src/main.c`, lines 85–151) runs once for each connection, and all
the runs share the flag `interrupcionRecibida`. This is a machine whose steps are the
statements of `ServerCPU` and of the loop of `EjecutarProceso` (`cpu/src/cpu.c`, lines
22–35), taken by any number of connections in any order.

An interruption is pending for a connection from the statement that sets the flag
until `EjecutarProceso` returns, when the connection had received a `CONTEXTO`. Two
statements clear the flag: the one at the start of a connection (line 87) and the one
before `EjecutarProceso` (line 111).

* `paso_inv`: what a statement keeps.
* `run_atendida`: **no instruction begins and the thread returns after three
  statements at most**, in every run that clears the flag only when no interruption is
  pending.
* `not_run_atendida`: an interruption between the reception of the context and line
  111 is lost.
-/

namespace SoTp.Cpu

open SoTp.Lib SoTp.Utils

/-! ## Model -/

/-- A thread inside `EjecutarProceso`. -/
structure EnCurso where
  registros : Registros
  interrupcionInterna : Bool

/-- The next statement of a connection. -/
inductive Sentencia where
  /-- `opcode = recibir_operacion(socketCliente)`, line 86. -/
  | inicio
  /-- `interrupcionRecibida = false`, line 87. -/
  | arranque (opcode : Int32)
  /-- `handshake_Server`, line 92. -/
  | handshake
  /-- `RecibirBuffer` and `DeserializarTCB`, lines 96–99. -/
  | contexto
  /-- `solicitar_contexto`, line 106. -/
  | solicitar
  /-- `interrupcionRecibida = false`, line 111. -/
  | limpiar (registros : Registros)
  /-- The call of `EjecutarProceso`, line 115. -/
  | entrada (registros : Registros)
  /-- The test of the `while`. -/
  | cabeza (p : EnCurso)
  /-- The instruction: fetch, decode, execute. -/
  | cuerpo (p : EnCurso)
  /-- The test before `PC++`. -/
  | prueba (p : EnCurso)
  /-- `PC++`. -/
  | avanza (p : EnCurso)
  /-- `EjecutarProceso` has returned: lines 118–126. -/
  | retorno (p : EnCurso)
  /-- `RecibirBuffer`, lines 131–132. -/
  | interrupcion
  /-- `interrupcionRecibida = true`, line 137. -/
  | marcar
  /-- `opcode = recibir_operacion(socketCliente)`, line 149. -/
  | siguiente
  /-- The connection is closed. -/
  | terminado

/-- The `switch` of `ServerCPU`, with the test of its `while`. -/
def casoDe (opcode : Int32) : Sentencia :=
  if opcode < 0 then .terminado
  else if opcode = 0 then .handshake
  else if opcode = 1 then .contexto
  else if opcode = 2 then .interrupcion
  else .siguiente

/-- What a statement gets from outside: the operation code, the thread and the
registers received, the instruction fetched, the answer of memoria and the heap. -/
structure Dato where
  opcode : Int32
  tcb : TCB
  registros : Registros
  inst : CString
  respuesta : UInt32
  g : Mem

/-- Since an interruption: the instructions begun and the statements of the connection. -/
structure Pendiente where
  comenzadas : ℕ
  pasos : ℕ
  deriving DecidableEq

/-- The connections and what they share. `pendiente` records the interruptions. -/
structure ServidorCpu (ι : Type) where
  sentencia : ι → Sentencia
  interrupcionRecibida : Bool
  procesoEnEjecucion : UInt32
  threadEnEjecucion : UInt32
  bufferRetorno : TBuffer
  pendiente : ι → Option Pendiente

variable {ι : Type}

/-- The CPU before the first connection. -/
def servidorInicial : ServidorCpu ι where
  sentencia _ := .inicio
  interrupcionRecibida := false
  procesoEnEjecucion := 0
  threadEnEjecucion := 0
  bufferRetorno := ⟨0, 0, Block.alloc (fun _ => 0) 0⟩
  pendiente _ := none

/-- Between the reception of `CONTEXTO` and the return of `EjecutarProceso`. -/
def Sentencia.enContexto : Sentencia → Bool
  | contexto | solicitar | limpiar _ | entrada _ | cabeza _ | cuerpo _ | prueba _ | avanza _ => true
  | _ => false

/-- The flag is set: the interruption is pending for every connection that has received
a context, if none was. -/
def ServidorCpu.interrumpir (s : ServidorCpu ι) : ServidorCpu ι :=
  { s with
    interrupcionRecibida := true
    pendiente := fun c =>
      if (s.sentencia c).enContexto then some ((s.pendiente c).getD ⟨0, 0⟩) else s.pendiente c }

section

variable [DecidableEq ι]

/-- A connection goes on to a statement, and its record becomes `pendiente`. -/
def ServidorCpu.mover (s : ServidorCpu ι) (c : ι) (sentencia : Sentencia)
    (pendiente : Option Pendiente) : ServidorCpu ι :=
  { s with
    sentencia := Function.update s.sentencia c sentencia
    pendiente := Function.update s.pendiente c pendiente }

/-- A connection goes on to a statement. -/
def ServidorCpu.ir (s : ServidorCpu ι) (c : ι) (sentencia : Sentencia) : ServidorCpu ι :=
  s.mover c sentencia ((s.pendiente c).map fun p => { p with pasos := p.pasos + 1 })

/-- A connection begins an instruction. -/
def ServidorCpu.comenzar (s : ServidorCpu ι) (c : ι) (p : EnCurso) : ServidorCpu ι :=
  s.mover c (.cuerpo p) ((s.pendiente c).map fun p => ⟨p.comenzadas + 1, p.pasos + 1⟩)

/-- `EjecutarProceso` returns. -/
def ServidorCpu.retornar (s : ServidorCpu ι) (c : ι) (p : EnCurso) : ServidorCpu ι :=
  s.mover c (.retorno p) none

/-- One statement of a connection. -/
def pasoServidor (s : ServidorCpu ι) (e : ι × Dato) : Option (ServidorCpu ι) :=
  let (c, d) := e
  match s.sentencia c with
  | .inicio => some (s.ir c (.arranque d.opcode))
  | .arranque opcode =>
    some { s.ir c (casoDe opcode) with interrupcionRecibida := false }
  | .handshake => some (s.ir c .siguiente)
  | .contexto =>
    some
      { s.ir c .solicitar with
        procesoEnEjecucion := d.tcb.PID
        threadEnEjecucion := d.tcb.TID }
  | .solicitar => some (s.ir c (.limpiar d.registros))
  | .limpiar registros =>
    some { s.ir c (.entrada registros) with interrupcionRecibida := false }
  | .entrada registros =>
    some { s.ir c (.cabeza ⟨registros, false⟩) with bufferRetorno := bufferCreate d.g 0 }
  | .cabeza p =>
    if p.interrupcionInterna || s.interrupcionRecibida then
      some (s.retornar c p)
    else some (s.comenzar c p)
  | .cuerpo p => do
    let e ← executeInstruccion d.g d.respuesta (decodeInstruccion d.inst) s.procesoEnEjecucion
      s.threadEnEjecucion p.registros s.bufferRetorno
    some
      { s.ir c (.prueba ⟨e.registros, e.interrupcionInterna⟩) with
        bufferRetorno := e.bufferRetorno }
  | .prueba p =>
    if p.interrupcionInterna || s.interrupcionRecibida then some (s.ir c (.cabeza p))
    else some (s.ir c (.avanza p))
  | .avanza p =>
    let registros := { p.registros with PC := p.registros.PC + 1 }
    some (s.ir c (.cabeza { p with registros := registros }))
  | .retorno _ => some (s.ir c .siguiente)
  | .interrupcion => some (s.ir c .marcar)
  | .marcar => some (s.interrumpir.ir c .siguiente)
  | .siguiente => some (s.ir c (casoDe d.opcode))
  | .terminado => none

end

/-! ## Specification -/

/-- No interruption is lost: since it was handled no instruction has begun, and the
connection is at most three statements away from it. -/
def Atendida (s : ServidorCpu ι) : Prop :=
  ∀ c p, s.pendiente c = some p → p.comenzadas = 0 ∧ p.pasos ≤ 3

/-- The statement clears the flag. -/
def Sentencia.limpia : Sentencia → Bool
  | arranque _ | limpiar _ => true
  | _ => false

/-- The condition on a step: the flag is cleared only when no interruption is pending. -/
def SinPerder (s : ServidorCpu ι) (e : ι × Dato) : Prop :=
  (s.sentencia e.1).limpia = true → ∀ c, s.pendiente c = none

/-! ## The invariant -/

/-- The statements left to the return of `EjecutarProceso` once the flag is set, and 4
where there is nothing to return from. -/
def restantes : Sentencia → ℕ
  | .contexto => 2
  | .solicitar => 1
  | .limpiar _ => 0
  | .entrada _ => 2
  | .cabeza _ => 1
  | .cuerpo _ => 3
  | .prueba _ => 2
  | .avanza _ => 2
  | _ => 4

/-- While an interruption is pending the flag is set, and the statements left are
bounded. -/
def Vigente (s : ServidorCpu ι) : Prop :=
  ∀ c p, s.pendiente c = some p →
    s.interrupcionRecibida = true ∧ p.comenzadas = 0 ∧ p.pasos + restantes (s.sentencia c) ≤ 3

theorem Vigente.atendida {s : ServidorCpu ι} (h : Vigente s) : Atendida s := by
  intro c p hp
  obtain ⟨-, hcomenzadas, hpasos⟩ := h c p hp
  exact ⟨hcomenzadas, by omega⟩

theorem vigente_inicial : Vigente (servidorInicial : ServidorCpu ι) := by
  intro c p hp
  cases hp

theorem vigente_of_forall_none {s : ServidorCpu ι} (h : ∀ c, s.pendiente c = none) :
    Vigente s := by
  intro c p hp
  rw [h c] at hp
  cases hp

/-- The flag is set. -/
theorem Vigente.interrumpir {s : ServidorCpu ι} (h : Vigente s) : Vigente s.interrumpir := by
  intro c p hp
  have hrango : (s.sentencia c).enContexto = true → restantes (s.sentencia c) ≤ 3 := by
    cases s.sentencia c <;> simp [Sentencia.enContexto, restantes]
  simp only [ServidorCpu.interrumpir] at hp ⊢
  refine ⟨trivial, ?_⟩
  cases hq : s.pendiente c with
  | some q =>
    rw [hq] at hp
    have hpq : p = q := by
      split at hp
      · exact (Option.some.inj hp).symm
      · exact (Option.some.inj hp).symm
    rw [hpq]
    exact (h c q hq).2
  | none =>
    rw [hq] at hp
    split at hp
    · rename_i hcontexto
      obtain rfl := Option.some.inj hp
      exact ⟨rfl, by simpa using hrango hcontexto⟩
    · cases hp

section

variable [DecidableEq ι]

theorem mover_pendiente_eq_none {s : ServidorCpu ι} (h : ∀ c, s.pendiente c = none) (c : ι)
    (sentencia : Sentencia) (f : Pendiente → Pendiente) (c' : ι) :
    (s.mover c sentencia ((s.pendiente c).map f)).pendiente c' = none := by
  show Function.update s.pendiente c ((s.pendiente c).map f) c' = none
  rw [h c, Option.map_none]
  by_cases heq : c' = c
  · rw [heq, Function.update_self]
  · rw [Function.update_of_ne heq]
    exact h c'

/-- A statement that leaves the flag as it was and brings the return closer. -/
theorem Vigente.ir {s s' : ServidorCpu ι} (h : Vigente s) {c : ι} {sentencia : Sentencia}
    (hsentencia : s'.sentencia = (s.ir c sentencia).sentencia)
    (hpendiente : s'.pendiente = (s.ir c sentencia).pendiente)
    (hflag : s'.interrupcionRecibida = s.interrupcionRecibida)
    (hrestantes : restantes (s.sentencia c) ≤ 3 → s.interrupcionRecibida = true →
      restantes sentencia + 1 ≤ restantes (s.sentencia c)) : Vigente s' := by
  intro c' p hp
  rw [hpendiente] at hp
  rw [hsentencia, hflag]
  simp only [ServidorCpu.ir, ServidorCpu.mover] at hp ⊢
  by_cases heq : c' = c
  · subst heq
    rw [Function.update_self] at hp ⊢
    obtain ⟨q, hq, rfl⟩ := Option.map_eq_some_iff.mp hp
    obtain ⟨hset, hcomenzadas, hpasos⟩ := h c' q hq
    have hmenos := hrestantes (by omega) hset
    refine ⟨hset, hcomenzadas, ?_⟩
    show q.pasos + 1 + restantes sentencia ≤ 3
    omega
  · rw [Function.update_of_ne heq] at hp ⊢
    exact h c' p hp

theorem Vigente.retornar {s : ServidorCpu ι} (h : Vigente s) (c : ι) (q : EnCurso) :
    Vigente (s.retornar c q) := by
  intro c' p hp
  simp only [ServidorCpu.retornar, ServidorCpu.mover] at hp ⊢
  by_cases heq : c' = c
  · rw [heq, Function.update_self] at hp
    cases hp
  · rw [Function.update_of_ne heq] at hp ⊢
    exact h c' p hp

theorem Vigente.comenzar {s : ServidorCpu ι} (h : Vigente s)
    (hflag : s.interrupcionRecibida = false) (c : ι) (q : EnCurso) : Vigente (s.comenzar c q) := by
  have hnone : ∀ c', s.pendiente c' = none := by
    intro c'
    cases hp : s.pendiente c' with
    | none => rfl
    | some p =>
      have hset := (h c' p hp).1
      rw [hflag] at hset
      cases hset
  apply vigente_of_forall_none
  exact mover_pendiente_eq_none hnone c (.cuerpo q) _

/-- What a statement can do. -/
inductive Movimiento (s : ServidorCpu ι) (c : ι) : ServidorCpu ι → Prop
  /-- It leaves the flag as it was and, should it be set, brings the return closer. -/
  | sigue (s' : ServidorCpu ι) (sentencia : Sentencia)
      (hsentencia : s'.sentencia = (s.ir c sentencia).sentencia)
      (hpendiente : s'.pendiente = (s.ir c sentencia).pendiente)
      (hflag : s'.interrupcionRecibida = s.interrupcionRecibida)
      (hrestantes : restantes (s.sentencia c) ≤ 3 → s.interrupcionRecibida = true →
        restantes sentencia + 1 ≤ restantes (s.sentencia c)) : Movimiento s c s'
  /-- It clears the flag. -/
  | limpia (s' : ServidorCpu ι) (sentencia : Sentencia)
      (hlimpia : (s.sentencia c).limpia = true)
      (hpendiente : s'.pendiente = (s.ir c sentencia).pendiente) : Movimiento s c s'
  /-- `EjecutarProceso` returns. -/
  | retorna (p : EnCurso) : Movimiento s c (s.retornar c p)
  /-- An instruction begins, with the flag clear. -/
  | comienza (p : EnCurso) (hflag : s.interrupcionRecibida = false) :
      Movimiento s c (s.comenzar c p)
  /-- It sets the flag. -/
  | marca (hmarcar : s.sentencia c = .marcar) : Movimiento s c (s.interrumpir.ir c .siguiente)

/-- Everything a statement can do. -/
theorem pasoServidor_movimiento {s s' : ServidorCpu ι} {c : ι} {d : Dato}
    (h : pasoServidor s (c, d) = some s') : Movimiento s c s' := by
  unfold pasoServidor at h
  dsimp only at h
  split at h <;> rename_i hc
  case h_2 opcode =>
    obtain rfl := Option.some.inj h
    exact .limpia _ (casoDe opcode) (by rw [hc]; rfl) rfl
  case h_6 registros =>
    obtain rfl := Option.some.inj h
    exact .limpia _ (.entrada registros) (by rw [hc]; rfl) rfl
  case h_8 p =>
    split at h
    · obtain rfl := Option.some.inj h
      exact .retorna p
    · rename_i hflag
      rw [Bool.not_eq_true, Bool.or_eq_false_iff] at hflag
      obtain rfl := Option.some.inj h
      exact .comienza p hflag.2
  case h_9 p =>
    obtain ⟨e, -, h⟩ := Option.bind_eq_some_iff.mp h
    obtain rfl := Option.some.inj h
    exact .sigue _ _ rfl rfl rfl (by rw [hc]; simp [restantes])
  case h_10 p =>
    split at h
    · obtain rfl := Option.some.inj h
      exact .sigue _ _ rfl rfl rfl (by rw [hc]; simp [restantes])
    · rename_i hflag
      rw [Bool.not_eq_true, Bool.or_eq_false_iff] at hflag
      obtain rfl := Option.some.inj h
      refine .sigue _ _ rfl rfl rfl ?_
      intro _ hset
      rw [hflag.2] at hset
      cases hset
  case h_14 =>
    obtain rfl := Option.some.inj h
    exact .marca hc
  case h_16 => cases h
  all_goals
    obtain rfl := Option.some.inj h
    exact .sigue _ _ rfl rfl rfl (by rw [hc]; simp [restantes])

/-- **One statement** taken under the condition keeps the invariant. -/
theorem paso_inv {s s' : ServidorCpu ι} {e : ι × Dato} (h : Vigente s) (hperder : SinPerder s e)
    (hpaso : pasoServidor s e = some s') : Vigente s' := by
  obtain ⟨c, d⟩ := e
  cases pasoServidor_movimiento hpaso with
  | sigue _ sentencia hsentencia hpendiente hflag hrestantes =>
    exact h.ir hsentencia hpendiente hflag hrestantes
  | limpia _ sentencia hlimpia hpendiente =>
    apply vigente_of_forall_none
    rw [hpendiente]
    exact mover_pendiente_eq_none (hperder hlimpia) c sentencia _
  | retorna p => exact h.retornar c p
  | comienza p hflag => exact h.comenzar hflag c p
  | marca hmarcar =>
    refine h.interrumpir.ir rfl rfl rfl ?_
    intro hle
    have hcuatro : restantes (s.interrumpir.sentencia c) = 4 := by
      show restantes (s.sentencia c) = 4
      rw [hmarcar]
      rfl
    omega

/-! ## Whole runs -/

/-- **No interruption is lost** in a run that clears the flag only when no interruption
is pending: since it was handled no instruction has begun, and the thread returns from
`EjecutarProceso` after three statements of its connection at most. -/
theorem run_atendida (eventos : List (ι × Dato)) (s : ServidorCpu ι)
    (hperder : Along pasoServidor SinPerder servidorInicial eventos)
    (hrun : run pasoServidor servidorInicial eventos = some s) : Atendida s := by
  apply Vigente.atendida
  exact run_invariant (fun _ _ _ hs hP hstep => paso_inv hs hP hstep) vigente_inicial hperder hrun

/-- Nothing but the instruction itself, which may wait for memoria, keeps a connection
from going on. -/
theorem pasoServidor_isSome {s : ServidorCpu ι} {c : ι} (d : Dato)
    (hcontexto : (s.sentencia c).enContexto = true) (hcuerpo : ∀ p, s.sentencia c ≠ .cuerpo p) :
    (pasoServidor s (c, d)).isSome := by
  unfold pasoServidor
  dsimp only
  split <;> rename_i hc
  case h_8 p => split <;> rfl
  case h_9 p => exact absurd hc (hcuerpo p)
  case h_10 p => split <;> rfl
  case h_16 =>
    rw [hc] at hcontexto
    cases hcontexto
  all_goals rfl

end

/-! ## The two connections of the kernel -/

/-- The connections to `PUERTO_ESCUCHA_DISPATCH` and `PUERTO_ESCUCHA_INTERRUPT`. -/
inductive Conexion where
  | dispatch
  | interrupt
  deriving DecidableEq

instance : Fintype Conexion := ⟨{.dispatch, .interrupt}, fun c => by cases c <;> decide⟩

instance (s : ServidorCpu Conexion) (e : Conexion × Dato) : Decidable (SinPerder s e) :=
  inferInstanceAs (Decidable ((s.sentencia e.1).limpia = true → ∀ c, s.pendiente c = none))

/-- What arrives with an operation code: thread 2 of process 1, which runs `LOG AX`. -/
def datoLog (opcode : Int32) : Dato where
  opcode := opcode
  tcb := ⟨1, 2, 0, 1⟩
  registros := ⟨0, 0, 0, 0, 0, 0, 0, 0, 0, 0, 0⟩
  inst := CString.ofBytes (ascii "LOG AX")
  respuesta := 0
  g := fun _ => 0

/-- An interruption during the instruction: two statements later the thread is at the
test of the `while`, which it will not pass. -/
theorem run_atendida_log :
    ∃ s : ServidorCpu Conexion, run pasoServidor servidorInicial
        (List.replicate 7 (.dispatch, datoLog 1) ++ List.replicate 4 (.interrupt, datoLog 2) ++
          List.replicate 2 (.dispatch, datoLog 1)) = some s ∧
      s.pendiente .dispatch = some ⟨0, 2⟩ ∧ Atendida s := by
  refine ⟨_, rfl, rfl, run_atendida (List.replicate 7 (.dispatch, datoLog 1) ++
    List.replicate 4 (.interrupt, datoLog 2) ++ List.replicate 2 (.dispatch, datoLog 1)) _ ?_ rfl⟩
  decide

/-- An interruption after the context has been received and before line 111 clears the
flag: the thread begins an instruction as if nothing had happened. -/
theorem not_run_atendida :
    ∃ s : ServidorCpu Conexion, run pasoServidor servidorInicial
        (List.replicate 2 (.dispatch, datoLog 1) ++ List.replicate 4 (.interrupt, datoLog 2) ++
          List.replicate 5 (.dispatch, datoLog 1)) = some s ∧
      s.pendiente .dispatch = some ⟨1, 5⟩ ∧ s.interrupcionRecibida = false ∧ ¬ Atendida s := by
  refine ⟨_, rfl, rfl, rfl, ?_⟩
  intro h
  exact absurd (h .dispatch ⟨1, 5⟩ rfl).1 (by decide)

end SoTp.Cpu
