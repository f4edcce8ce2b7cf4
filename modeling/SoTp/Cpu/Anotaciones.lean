import SoTp.Cpu.Ordenes
import SoTp.Cpu.Transparencia

/-!
# Assertions about programs

The thread of a program is interrupted at any time, evicted by its own instructions, dispatched
again with the registers that were saved, and memoria answers what it likes
(`cpu/src/cpu.c`, lines 22–35, `cpu/src/main.c`, lines 95–128). `Siguiente` is what all of that
comes to between two points where no instruction is halfway: an order is executed and the program
counter advances, or it does not advance and the order will be executed again.

* `alcanzable_iff`: **the register values that can be reached** are exactly those that `Siguiente`
  reaches.
* `anotada_iff`: an assertion at each address, with one condition for each order, **proves exactly
  what holds in every run**.
* `run_destino`: no run changes a register that no order of the program names as its target.
-/

namespace SoTp.Cpu

open SoTp.Lib SoTp.Utils Relation

/-! ## Turns -/

/-- From the values `R` at the head of the loop to those of the next time there. -/
inductive Siguiente (ordenes : List Orden) (R : Valores) : Valores → Prop where
  /-- An order that does not evict the thread, and `PC++`. -/
  | avanza {orden : Orden} {respuesta : UInt32} {R' : Valores}
      (horden : buscarOrden ordenes (R .PC) = some orden)
      (hejecutar : orden.ejecutar respuesta R = some (R', false)) :
      Siguiente ordenes R (incrementar R')
  /-- An order that evicts the thread, or during which the flag becomes true. -/
  | repite {orden : Orden} {respuesta : UInt32} {R' : Valores} {interna : Bool}
      (horden : buscarOrden ordenes (R .PC) = some orden)
      (hejecutar : orden.ejecutar respuesta R = some (R', interna)) : Siguiente ordenes R R'

section

variable {ordenes : List Orden} {R R' : Valores} {s s' : Maquina}

/-- The values are those of `Siguiente`, and halfway through an order they are what it leaves. -/
def EnTurno (ordenes : List Orden) (R : Valores) (s : Maquina) : Prop :=
  if s.punto = .prueba then
    ∃ R₁ orden respuesta, ReflTransGen (Siguiente ordenes) R R₁ ∧
      buscarOrden ordenes (R₁ .PC) = some orden ∧
      orden.ejecutar respuesta R₁ = some (s.valores, s.interna)
  else ReflTransGen (Siguiente ordenes) R s.valores

theorem EnTurno.of_ne (h : EnTurno ordenes R s) (hpunto : s.punto ≠ .prueba) :
    ReflTransGen (Siguiente ordenes) R s.valores := by
  unfold EnTurno at h
  rwa [if_neg hpunto] at h

theorem enTurno_of_ne (hpunto : s.punto ≠ .prueba)
    (h : ReflTransGen (Siguiente ordenes) R s.valores) : EnTurno ordenes R s := by
  unfold EnTurno
  rwa [if_neg hpunto]

/-- **One event.** -/
theorem Maquina.avanzar_enTurno {evento : EventoOrden} (h : EnTurno ordenes R s)
    (hs' : s.avanzar ordenes evento = some s') : EnTurno ordenes R s' := by
  cases evento with
  | interrupcion => exact Option.some.inj hs' ▸ h
  | paso respuesta =>
    unfold Maquina.avanzar at hs'
    dsimp only at hs'
    split at hs'
    case h_1 hpunto =>
      have hR := h.of_ne (hpunto ▸ cabeza_ne_prueba)
      split at hs'
      · obtain rfl := Option.some.inj hs'
        exact enTurno_of_ne fin_ne_prueba hR
      · obtain ⟨orden, horden, hs'⟩ := Option.bind_eq_some_iff.mp hs'
        obtain ⟨⟨R', interna⟩, hejecutar, hs'⟩ := Option.bind_eq_some_iff.mp hs'
        obtain rfl := Option.some.inj hs'
        exact ⟨s.valores, orden, respuesta, hR, horden, hejecutar⟩
    case h_2 hpunto =>
      obtain rfl := Option.some.inj hs'
      unfold EnTurno at h
      rw [if_pos hpunto] at h
      obtain ⟨R₁, orden, respuesta, hR, horden, hejecutar⟩ := h
      refine enTurno_of_ne cabeza_ne_prueba ?_
      dsimp only
      split
      · exact hR.tail (.repite horden hejecutar)
      · rename_i hflag
        have hinterna : s.interna = false :=
          (Bool.or_eq_false_iff.mp (Bool.eq_false_iff.mpr hflag)).1
        rw [hinterna] at hejecutar
        exact hR.tail (.avanza horden hejecutar)
    case h_3 hpunto =>
      obtain rfl := Option.some.inj hs'
      exact enTurno_of_ne cabeza_ne_prueba (h.of_ne (hpunto ▸ fin_ne_prueba))

/-- At the head of the loop without a flag. -/
structure EnCabeza (R : Valores) (s : Maquina) : Prop where
  punto : s.punto = .cabeza
  interna : s.interna = false
  recibida : s.recibida = false
  valores : s.valores = R

/-- Where no order is halfway, the thread gets to the head of the loop with its values: it leaves
the loop and is dispatched again. -/
theorem exists_enCabeza (hpunto : s.punto ≠ .prueba) :
    ∃ eventos s', run (Maquina.avanzar ordenes) s eventos = some s' ∧ EnCabeza s.valores s' := by
  cases hs : s.punto with
  | prueba => exact absurd hs hpunto
  | fin =>
    refine ⟨[.paso 0], ⟨.cabeza, s.valores, false, false, s.contadores⟩, ?_, ⟨rfl, rfl, rfl, rfl⟩⟩
    rw [run_singleton]
    simp only [Maquina.avanzar, hs]
  | cabeza =>
    cases hflag : s.interna || s.recibida with
    | false =>
      obtain ⟨hinterna, hrecibida⟩ := Bool.or_eq_false_iff.mp hflag
      exact ⟨[], s, rfl, hs, hinterna, hrecibida, rfl⟩
    | true =>
      refine ⟨[.paso 0, .paso 0], ⟨.cabeza, s.valores, false, false, s.contadores⟩, ?_,
        ⟨rfl, rfl, rfl, rfl⟩⟩
      simp [run, Maquina.avanzar, hs, hflag]

/-- A turn is a few events. -/
theorem EnCabeza.siguiente (hs : EnCabeza R s) (h : Siguiente ordenes R R') :
    ∃ eventos s', run (Maquina.avanzar ordenes) s eventos = some s' ∧ s'.punto ≠ .prueba ∧
      s'.valores = R' := by
  obtain ⟨hpunto, hinterna, hrecibida, rfl⟩ := hs
  cases h with
  | @avanza orden respuesta R' horden hejecutar =>
    refine ⟨[.paso respuesta, .paso 0], ⟨.cabeza, incrementar R', false, s.recibida,
      s.contadores ++ [s.valores .PC]⟩, ?_, cabeza_ne_prueba, rfl⟩
    simp only [run, Maquina.avanzar, hpunto, hinterna, hrecibida, horden, hejecutar,
      Bool.or_self, Bool.false_eq_true, if_false, Option.bind_eq_bind, Option.bind_some]
  | @repite orden respuesta R' interna horden hejecutar =>
    refine ⟨[.paso respuesta, .interrupcion, .paso 0], ⟨.cabeza, R', interna, true,
      s.contadores ++ [s.valores .PC]⟩, ?_, cabeza_ne_prueba, rfl⟩
    simp only [run, Maquina.avanzar, hpunto, hinterna, hrecibida, horden, hejecutar,
      Bool.or_self, Bool.or_true, Bool.false_eq_true, if_false, if_true, Option.bind_eq_bind,
      Option.bind_some]

theorem exists_run_of_siguiente (h : ReflTransGen (Siguiente ordenes) R R') :
    ∃ eventos s, run (Maquina.avanzar ordenes) (Maquina.inicial R) eventos = some s ∧
      s.punto ≠ .prueba ∧ s.valores = R' := by
  induction h with
  | refl => exact ⟨[], _, rfl, cabeza_ne_prueba, rfl⟩
  | tail _ hturno ih =>
    obtain ⟨eventos₁, s₁, hrun₁, hpunto₁, rfl⟩ := ih
    obtain ⟨eventos₂, s₂, hrun₂, hcabeza⟩ := @exists_enCabeza ordenes s₁ hpunto₁
    obtain ⟨eventos₃, s₃, hrun₃, hpunto₃, hvalores⟩ := hcabeza.siguiente hturno
    refine ⟨eventos₁ ++ (eventos₂ ++ eventos₃), s₃, ?_, hpunto₃, hvalores⟩
    rw [run_append, hrun₁, Option.bind_some, run_append, hrun₂, Option.bind_some, hrun₃]

end

/-! ## Assertions -/

/-- The condition of an order: whatever memoria answers, the assertion of the address to which the
order leads holds, with the program counter incremented or not. -/
def Orden.previa (A : UInt32 → Valores → Prop) (orden : Orden) (R : Valores) : Prop :=
  ∀ respuesta R' interna, orden.ejecutar respuesta R = some (R', interna) →
    A (R' .PC) R' ∧ (interna = false → A (incrementar R' .PC) (incrementar R'))

/-- An assertion at each address from which the condition of its order follows. -/
def Anotada (ordenes : List Orden) (A : UInt32 → Valores → Prop) : Prop :=
  ∀ R orden, buscarOrden ordenes (R .PC) = some orden → A (R .PC) R → orden.previa A R

theorem anotada_iff_asserted {ordenes : List Orden} {A : UInt32 → Valores → Prop} :
    Anotada ordenes A ↔ Asserted (Siguiente ordenes) (fun R : Valores => R .PC) A := by
  constructor
  · intro hA R R' hR hturno
    cases hturno with
    | @avanza orden respuesta R₁ horden hejecutar =>
      exact (hA R orden horden hR respuesta R₁ false hejecutar).2 rfl
    | @repite orden respuesta _ interna horden hejecutar =>
      exact (hA R orden horden hR respuesta R' interna hejecutar).1
  · intro hA R orden horden hR respuesta R' interna hejecutar
    refine ⟨hA R R' hR (.repite horden hejecutar), ?_⟩
    rintro rfl
    exact hA R (incrementar R') hR (.avanza horden hejecutar)

/-- The registers that hold given values. -/
def registrosDe (R : Valores) : Registros :=
  ⟨R .PC, R .AX, R .BX, R .CX, R .DX, R .EX, R .FX, R .GX, R .HX, R .BASE, R .LIMITE⟩

theorem valor_registrosDe (R : Valores) : valor (registrosDe R) = R := by
  funext r
  cases r <;> rfl

section

variable {ordenes : List Orden} {programa : List CString}
  (h : List.Forall₂ Orden.Escrita ordenes programa) (PID TID : UInt32)

include h

theorem run_siguiente {g : Mem} {registros : Registros} {eventos : List Evento} {s : Ciclo}
    (hrun : run (avanzar programa PID TID) (despacho g registros) eventos = some s)
    (hpunto : s.punto ≠ .prueba) :
    ReflTransGen (Siguiente ordenes) (valor registros) (valor s.registros) := by
  have hinicial : EnTurno ordenes (valor registros) (Maquina.inicial (valor registros)) :=
    ReflTransGen.refl
  have hturno : EnTurno ordenes (valor registros) s.abstraer :=
    run_invariant (fun _ _ _ hs _ hs' => Maquina.avanzar_enTurno hs hs') hinicial
      (along_true _ _) (run_map_of_some (avanzar_abstraer h PID TID) hrun)
  exact hturno.of_ne hpunto

theorem exists_run_of_turnos {registros : Registros} {R : Valores}
    (hturnos : ReflTransGen (Siguiente ordenes) (valor registros) R) :
    ∃ g eventos s, run (avanzar programa PID TID) (despacho g registros) eventos = some s ∧
      s.punto ≠ .prueba ∧ valor s.registros = R := by
  obtain ⟨eventos, s, hrun, hpunto, rfl⟩ := exists_run_of_siguiente hturnos
  obtain ⟨eventos', s', hrun', rfl⟩ := exists_run_of_map (avanzar_abstraer h PID TID)
    Evento.abstraer_surjective (s := despacho (fun _ => 0) registros) hrun
  exact ⟨fun _ => 0, eventos', s', hrun', hpunto, rfl⟩

end

/-- **What the registers can become.** The thread of a program, dispatched with some values, can
have the values `R` where no instruction is halfway exactly when turns of the loop lead there. -/
theorem alcanzable_iff (ordenes : List Orden) (programa : List CString)
    (h : List.Forall₂ Orden.Escrita ordenes programa) (PID TID : UInt32) (registros : Registros)
    (R : Valores) :
    (∃ g eventos s, run (avanzar programa PID TID) (despacho g registros) eventos = some s ∧
      s.punto ≠ .prueba ∧ valor s.registros = R) ↔
      ReflTransGen (Siguiente ordenes) (valor registros) R := by
  constructor
  · rintro ⟨g, eventos, s, hrun, hpunto, rfl⟩
    exact run_siguiente h PID TID hrun hpunto
  · exact exists_run_of_turnos h PID TID

/-- `SUM AX AX` doubles AX. -/
theorem alcanzable_sum : ∃ g eventos s,
    run (avanzar [CString.ofBytes (ascii "SUM AX AX")] 1 0)
        (despacho g ⟨0, 3, 0, 0, 0, 0, 0, 0, 0, 0, 64⟩) eventos = some s ∧
      s.punto ≠ .prueba ∧ valor s.registros = valor ⟨1, 6, 0, 0, 0, 0, 0, 0, 0, 0, 64⟩ := by
  refine (alcanzable_iff [.renglon (.sum .AX .AX)] [CString.ofBytes (ascii "SUM AX AX")]
    (.cons ⟨0, _, .token 0 (ascii "AX") (.token 0 (ascii "AX") (.fin 0)), rfl⟩ .nil) 1 0
    ⟨0, 3, 0, 0, 0, 0, 0, 0, 0, 0, 64⟩ _).mpr (.single ?_)
  have hturno := @Siguiente.avanza [.renglon (.sum .AX .AX)]
    (valor ⟨0, 3, 0, 0, 0, 0, 0, 0, 0, 0, 64⟩) (.renglon (.sum .AX .AX)) 0 _ rfl rfl
  convert hturno using 1
  funext r
  cases r <;> decide

/-- **Floyd's method for programs of the CPU.** `Q` holds wherever no instruction is halfway, in
every run from registers with `P`, with any answers of memoria and any interruptions, **exactly
when** some assertions at the addresses follow from `P` at the first one, keep to each order, and
imply `Q`. -/
theorem anotada_iff (ordenes : List Orden) (programa : List CString)
    (h : List.Forall₂ Orden.Escrita ordenes programa) (PID TID : UInt32) (P Q : Valores → Prop) :
    (∀ registros g eventos s, P (valor registros) →
      run (avanzar programa PID TID) (despacho g registros) eventos = some s →
      s.punto ≠ .prueba → Q (valor s.registros)) ↔
      ∃ A, (∀ R, P R → A (R .PC) R) ∧ Anotada ordenes A ∧ ∀ R, A (R .PC) R → Q R := by
  simp only [anotada_iff_asserted]
  rw [← always_iff_asserted P Q]
  constructor
  · intro hQ R R' hP hturnos
    rw [← valor_registrosDe R] at hP hturnos
    obtain ⟨g, eventos, s, hrun, hpunto, rfl⟩ := exists_run_of_turnos h PID TID hturnos
    exact hQ (registrosDe R) g eventos s hP hrun hpunto
  · intro hQ registros g eventos s hP hrun hpunto
    exact hQ _ _ hP (run_siguiente h PID TID hrun hpunto)

/-- In the program `SUM AX AX` the register AX stays even, which every address asserts: also when
the thread is interrupted and the sum is made again. -/
theorem anotada_sum : ∃ s,
    run (avanzar [CString.ofBytes (ascii "SUM AX AX")] 1 0)
        (despacho (fun _ => 0) ⟨0, 6, 0, 0, 0, 0, 0, 0, 0, 0, 64⟩)
        [.paso (fun _ => 0) 0, .interrupcion, .paso (fun _ => 0) 0] = some s ∧
      valor s.registros .AX % 2 = 0 := by
  have hsome : ((run (avanzar [CString.ofBytes (ascii "SUM AX AX")] 1 0)
      (despacho (fun _ => 0) ⟨0, 6, 0, 0, 0, 0, 0, 0, 0, 0, 64⟩)
      [.paso (fun _ => 0) 0, .interrupcion, .paso (fun _ => 0) 0]).map Ciclo.punto) =
      some .cabeza := by decide
  obtain ⟨s, hs, hpunto⟩ := Option.map_eq_some_iff.mp hsome
  refine ⟨s, hs, (anotada_iff [.renglon (.sum .AX .AX)] [CString.ofBytes (ascii "SUM AX AX")]
    (.cons ⟨0, _, .token 0 (ascii "AX") (.token 0 (ascii "AX") (.fin 0)), rfl⟩ .nil) 1 0
    (fun R => R .AX % 2 = 0) (fun R => R .AX % 2 = 0)).mpr
    ⟨fun _ R => R .AX % 2 = 0, fun _ => id, ?_, fun _ => id⟩ _ _ _ s (by decide) hs
    (hpunto ▸ cabeza_ne_prueba)⟩
  intro R orden horden hR respuesta R' interna hejecutar
  obtain rfl := List.mem_singleton.mp (buscarOrden_mem horden)
  obtain ⟨rfl, -⟩ := Prod.mk.inj (Option.some.inj hejecutar)
  have hAX : Function.update R Registro.AX (R .AX + R .AX) .AX % 2 = 0 := by
    rw [Function.update_self]
    apply UInt32.toNat_inj.mp
    simp only [UInt32.toNat_mod, UInt32.toNat_add, UInt32.reduceToNat]
    omega
  refine ⟨hAX, fun _ => ?_⟩
  show incrementar _ Registro.AX % 2 = 0
  rw [incrementar_of_ne _ (by decide)]
  exact hAX

/-! ## Registers that a program does not change -/

/-- The register that an order writes. -/
def Renglon.destino : Renglon → Option Registro
  | .set r _ | .readMem r _ | .sum r _ | .sub r _ => some r
  | .jnz _ _ => some .PC
  | _ => none

def Orden.destino : Orden → Option Registro
  | .renglon s => s.destino
  | .vieja _ _ => none

/-- The others stay. -/
theorem ejecutar_destino {orden : Orden} {respuesta : UInt32} {R R' : Valores} {interna : Bool}
    {r : Registro} (hejecutar : orden.ejecutar respuesta R = some (R', interna))
    (hr : orden.destino ≠ some r) : R' r = R r := by
  have hne {r' : Registro} {v : UInt32} (h : some r' ≠ some r) : Function.update R r' v r = R r :=
    Function.update_of_ne (fun heq => h (congrArg some heq.symm)) _ _
  cases orden with
  | vieja v operandos =>
    obtain ⟨rfl, -⟩ := Prod.mk.inj (Option.some.inj hejecutar)
    rfl
  | renglon s =>
    cases s with
    | threadCreate f r => cases hejecutar
    | set | readMem | sum | sub =>
      obtain ⟨rfl, -⟩ := Prod.mk.inj (Option.some.inj hejecutar)
      exact hne hr
    | jnz r' v =>
      obtain ⟨rfl, -⟩ := Prod.mk.inj (Option.some.inj hejecutar)
      show (if R r' ≠ 0 then Function.update R .PC v.valor else R) r = R r
      split
      · exact hne hr
      · rfl
    | _ =>
      obtain ⟨rfl, -⟩ := Prod.mk.inj (Option.some.inj hejecutar)
      rfl

/-- **A register that no order names as its target keeps its value** in every run, with any answers
and interruptions. So BASE and LIMITE, unless a program writes them. -/
theorem run_destino (ordenes : List Orden) (programa : List CString)
    (h : List.Forall₂ Orden.Escrita ordenes programa) (PID TID : UInt32) (r : Registro)
    (hPC : r ≠ .PC) (hr : ∀ orden ∈ ordenes, orden.destino ≠ some r) (g : Mem)
    (registros : Registros) (eventos : List Evento) (s : Ciclo)
    (hrun : run (avanzar programa PID TID) (despacho g registros) eventos = some s)
    (hpunto : s.punto ≠ .prueba) : valor s.registros r = valor registros r := by
  have hA : Anotada ordenes fun _ R => R r = valor registros r := by
    intro R orden horden hR respuesta R' interna hejecutar
    have hR' : R' r = valor registros r :=
      (ejecutar_destino hejecutar (hr orden (buscarOrden_mem horden))).trans hR
    exact ⟨hR', fun _ => (incrementar_of_ne R' hPC).trans hR'⟩
  exact (anotada_iff_asserted.mp hA).reach rfl (run_siguiente h PID TID hrun hpunto)

/-- `SET AX 5` does not change BX. -/
theorem run_destino_set : ∃ s,
    run (avanzar [CString.ofBytes (ascii "SET AX 5")] 1 0)
        (despacho (fun _ => 0) ⟨0, 1, 2, 0, 0, 0, 0, 0, 0, 0, 64⟩)
        [.paso (fun _ => 0) 0, .paso (fun _ => 0) 0] = some s ∧ s.registros.AX = 5 ∧
      valor s.registros .BX = 2 := by
  have hsome : ((run (avanzar [CString.ofBytes (ascii "SET AX 5")] 1 0)
      (despacho (fun _ => 0) ⟨0, 1, 2, 0, 0, 0, 0, 0, 0, 0, 64⟩)
      [.paso (fun _ => 0) 0, .paso (fun _ => 0) 0]).map fun s =>
        (s.registros.AX, s.punto)) = some (5, .cabeza) := by decide
  obtain ⟨s, hs, hproj⟩ := Option.map_eq_some_iff.mp hsome
  obtain ⟨hAX, hpunto⟩ := Prod.mk.inj hproj
  refine ⟨s, hs, hAX, run_destino
    [.renglon (.set .AX ⟨ascii "5", by decide, by decide +kernel, by decide⟩)]
    [CString.ofBytes (ascii "SET AX 5")]
    (.cons ⟨0, _, .token 0 (ascii "AX") (.token 0 (ascii "5") (.fin 0)), rfl⟩ .nil) 1 0 .BX
    (by decide) ?_ _ _ _ s hs (hpunto ▸ cabeza_ne_prueba)⟩
  intro orden hmem
  obtain rfl := List.mem_singleton.mp hmem
  decide

end SoTp.Cpu
