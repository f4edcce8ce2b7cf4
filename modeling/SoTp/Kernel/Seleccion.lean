import SoTp.Kernel.Marcha

/-!
# Choosing a thread by priority

`elegir_maxima_prioridad` (`kernel/src/k_corto_plazo.c`, lines 168–195), with a mark on its
local `elegido`: whether the function has assigned it, and whether it has been read before.
`inicio`, which guards the only assignment in front of the comparison, is never set.

* `seleccionar_eq`: without the marks the loop is `elegirMaximaPrioridad`.
* `rotada_of_run`: what any number of rounds reads, leaves in the queue and holds.
* `not_seleccionCorrecta`: **of two threads or more the right one is chosen never**: `elegido`
  is read unassigned in the first round, and whatever it holds, the queue does not lose the
  thread that is returned.
-/

namespace SoTp.Kernel

open SoTp.Lib SoTp.Utils

/-! ## Model -/

/-- The locals of `elegir_maxima_prioridad` and the queue. -/
structure Seleccion where
  cola : List Puntero
  elegido : Puntero
  inicio : Bool
  /-- `elegido` has been assigned. -/
  asignado : Bool
  /-- `elegido` has been read before it was assigned. -/
  leido : Bool
  deriving DecidableEq, Repr

/-- A read of `elegido`. -/
def Seleccion.leer (s : Seleccion) : Seleccion := { s with leido := s.leido || !s.asignado }

/-- `elegido = p`. -/
def Seleccion.asignar (s : Seleccion) (p : Puntero) : Seleccion :=
  { s with elegido := p, asignado := true }

/-- `queue_pop`; on an empty queue nothing. -/
def Seleccion.sacar (s : Seleccion) : Seleccion := { s with cola := s.cola.tail }

/-- `queue_push`. -/
def Seleccion.poner (s : Seleccion) (p : Puntero) : Seleccion := { s with cola := s.cola ++ [p] }

/-- A round of the loop (lines 174–191). -/
def Seleccion.ronda (tcbs : Puntero → Option TCB) (s : Seleccion) : Option Seleccion := do
  let tcbActual := s.cola.headD NULL
  let s := s.sacar
  let s := if s.inicio then (s.asignar (s.cola.headD NULL)).sacar else s
  let actual ← tcbs tcbActual
  let mejor ← tcbs s.elegido
  let s := s.leer
  if actual.prioridad < mejor.prioridad then some (s.poner tcbActual)
  else some ((s.poner s.elegido).asignar tcbActual)

/-- The locals before the loop; the unassigned `elegido` holds `basura`. -/
def seleccionInicial (basura : Puntero) (cola : List Puntero) : Seleccion where
  cola := cola
  elegido := basura
  inicio := false
  asignado := false
  leido := false

/-- The rounds of the loop as actions of a machine. -/
def pasoSeleccion (tcbs : Puntero → Option TCB) (s : Seleccion) (_ : Unit) : Option Seleccion :=
  s.ronda tcbs

/-- `elegir_maxima_prioridad(cola)` (lines 168–195), up to the `return`, which reads
`elegido`. -/
def seleccionar (tcbs : Puntero → Option TCB) (basura : Puntero) (cola : List Puntero) :
    Option Seleccion :=
  (run (pasoSeleccion tcbs) (seleccionInicial basura cola)
    (List.replicate (cola.length - 1) ())).map Seleccion.leer

/-! ## Specification -/

/-- No variable is read before it is assigned. -/
def LecturasAsignadas (tcbs : Puntero → Option TCB) (basura : Puntero) (cola : List Puntero) :
    Prop :=
  ∃ s, seleccionar tcbs basura cola = some s ∧ s.leido = false

/-- `p` loses against `elegido` under the comparison of the loop, or has its priority. -/
def NoSupera (tcbs : Puntero → Option TCB) (p elegido : Puntero) : Prop :=
  ∃ tcb mejor, tcbs p = some tcb ∧ tcbs elegido = some mejor ∧ tcb.prioridad ≤ mejor.prioridad

/-- The result is a thread of the queue that no other one beats, and the queue holds exactly
the others afterwards. -/
def MaximoSeparado (tcbs : Puntero → Option TCB) (basura : Puntero) (cola : List Puntero) :
    Prop :=
  ∃ s, seleccionar tcbs basura cola = some s ∧ s.elegido ∈ cola ∧
    (∀ p ∈ s.cola, NoSupera tcbs p s.elegido) ∧ (s.elegido :: s.cola).Perm cola

/-- What is asked of `elegir_maxima_prioridad`. -/
structure SeleccionCorrecta (tcbs : Puntero → Option TCB) (basura : Puntero)
    (cola : List Puntero) : Prop where
  lecturas : LecturasAsignadas tcbs basura cola
  maximo : MaximoSeparado tcbs basura cola

/-! ## One round -/

section

variable {tcbs : Puntero → Option TCB} {s s' : Seleccion}

/-- What a round does, as long as `inicio` is not set. -/
theorem Seleccion.ronda_cases (hinicio : s.inicio = false) (h : s.ronda tcbs = some s') :
    ∃ actual mejor, tcbs (s.cola.headD NULL) = some actual ∧ tcbs s.elegido = some mejor ∧
      (actual.prioridad < mejor.prioridad ∧
          s' = (s.sacar.leer).poner (s.cola.headD NULL) ∨
        ¬ actual.prioridad < mejor.prioridad ∧
          s' = ((s.sacar.leer).poner s.elegido).asignar (s.cola.headD NULL)) := by
  unfold Seleccion.ronda at h
  have hsacar : s.sacar.inicio = false := hinicio
  simp only [hsacar, Bool.false_eq_true, if_false] at h
  obtain ⟨actual, hactual, h⟩ := Option.bind_eq_some_iff.mp h
  obtain ⟨mejor, hmejor, h⟩ := Option.bind_eq_some_iff.mp h
  refine ⟨actual, mejor, hactual, hmejor, ?_⟩
  split at h
  · rename_i hlt
    exact Or.inl ⟨hlt, (Option.some.inj h).symm⟩
  · rename_i hge
    exact Or.inr ⟨hge, (Option.some.inj h).symm⟩

theorem NoSupera.trans {p q r : Puntero} (hpq : NoSupera tcbs p q) (hqr : NoSupera tcbs q r) :
    NoSupera tcbs p r := by
  obtain ⟨tcb, mejor, htcb, hmejor, hle⟩ := hpq
  obtain ⟨mejor', maximo, hmejor', hmaximo, hle'⟩ := hqr
  obtain rfl := Option.some.inj (hmejor.symm.trans hmejor')
  exact ⟨tcb, maximo, htcb, hmaximo, UInt32.le_trans hle hle'⟩

/-! ## Any number of rounds -/

/-- After `k` rounds on `cola`: the rest of the queue comes first, then the threads that have
lost, and with the one that has not lost they are `basura` and the first `k` of the queue. -/
structure Rotada (tcbs : Puntero → Option TCB) (basura : Puntero) (cola : List Puntero) (k : ℕ)
    (s : Seleccion) (perdedores : List Puntero) : Prop where
  inicio : s.inicio = false
  resto : s.cola = cola.drop k ++ perdedores
  perm : (s.elegido :: perdedores).Perm (basura :: cola.take k)
  mejor : ∀ p ∈ perdedores, NoSupera tcbs p s.elegido
  leido : 0 < k → s.leido = true

/-- One round more. -/
theorem Rotada.ronda {basura : Puntero} {cola perdedores : List Puntero} {k : ℕ}
    (hs : Rotada tcbs basura cola k s perdedores) (hk : k < cola.length)
    (hleido : s.asignado = false ∨ s.leido = true) (h : s.ronda tcbs = some s') :
    ∃ perdedores', Rotada tcbs basura cola (k + 1) s' perdedores' := by
  have hdrop : cola.drop k = cola[k] :: cola.drop (k + 1) := List.drop_eq_getElem_cons hk
  have hhead : s.cola.headD NULL = cola[k] := by
    rw [hs.resto, hdrop]
    rfl
  have htail : s.cola.tail = cola.drop (k + 1) ++ perdedores := by
    rw [hs.resto, hdrop]
    rfl
  have htake : cola.take (k + 1) = cola.take k ++ [cola[k]] := List.take_succ_eq_append_getElem hk
  have hperm : (cola[k] :: s.elegido :: perdedores).Perm (basura :: cola.take (k + 1)) := by
    rw [htake, ← List.cons_append]
    exact (hs.perm.cons cola[k]).trans (List.perm_append_singleton cola[k] _).symm
  have hleer : s.leer.leido = true := by
    unfold Seleccion.leer
    rcases hleido with h | h <;> simp [h]
  obtain ⟨actual, mejor, hactual, hmejor, ⟨hlt, rfl⟩ | ⟨hge, rfl⟩⟩ :=
    Seleccion.ronda_cases hs.inicio h
  · refine ⟨perdedores ++ [cola[k]], hs.inicio, ?_, ?_, ?_, fun _ => hleer⟩
    · show s.cola.tail ++ [s.cola.headD NULL] = _
      rw [hhead, htail, List.append_assoc]
    · refine List.Perm.trans ?_ hperm
      exact ((List.perm_append_singleton cola[k] perdedores).cons s.elegido).trans
        (List.Perm.swap cola[k] s.elegido perdedores)
    · intro p hp
      rcases List.mem_append.mp hp with hp | hp
      · exact hs.mejor p hp
      · rw [List.mem_singleton.mp hp, ← hhead]
        exact ⟨actual, mejor, hactual, hmejor, UInt32.le_of_lt hlt⟩
  · refine ⟨perdedores ++ [s.elegido], hs.inicio, ?_, ?_, ?_, fun _ => hleer⟩
    · show s.cola.tail ++ [s.elegido] = _
      rw [htail, List.append_assoc]
    · show (s.cola.headD NULL :: (perdedores ++ [s.elegido])).Perm _
      rw [hhead]
      exact ((List.perm_append_singleton s.elegido perdedores).cons cola[k]).trans hperm
    · have hsupera : NoSupera tcbs s.elegido (s.cola.headD NULL) :=
        ⟨mejor, actual, hmejor, hactual, UInt32.not_lt.mp hge⟩
      intro p hp
      rcases List.mem_append.mp hp with hp | hp
      · exact (hs.mejor p hp).trans hsupera
      · rw [List.mem_singleton.mp hp]
        exact hsupera

/-- Any number of rounds, up to the length of the queue. -/
theorem rotada_of_run (basura : Puntero) (cola : List Puntero) (k : ℕ) (hk : k ≤ cola.length)
    (h : run (pasoSeleccion tcbs) (seleccionInicial basura cola) (List.replicate k ()) = some s) :
    ∃ perdedores, Rotada tcbs basura cola k s perdedores := by
  induction k generalizing s with
  | zero =>
    obtain rfl := Option.some.inj h
    refine ⟨[], rfl, ?_, .refl _, fun p hp => absurd hp List.not_mem_nil, fun h => absurd h ?_⟩
    · rw [List.drop_zero, List.append_nil]
      rfl
    · exact lt_irrefl 0
  | succ k ih =>
    rw [List.replicate_succ', run_append] at h
    obtain ⟨t, ht, hronda⟩ := Option.bind_eq_some_iff.mp h
    rw [run_singleton] at hronda
    obtain ⟨perdedores, hrotada⟩ := ih (by omega) ht
    refine hrotada.ronda (by omega) ?_ hronda
    -- only the first round finds `elegido` unassigned
    rcases Nat.eq_zero_or_pos k with rfl | hpos
    · obtain rfl := Option.some.inj ht
      exact Or.inl rfl
    · exact Or.inr (hrotada.leido hpos)

/-- Without the marks the rounds are those of `elegirDesde`. -/
theorem run_pasoSeleccion_eq (n : ℕ) (s : Seleccion) (hinicio : s.inicio = false) :
    (run (pasoSeleccion tcbs) s (List.replicate n ())).map (fun t => (t.elegido, t.cola)) =
      elegirDesde tcbs n s.elegido s.cola := by
  induction n generalizing s with
  | zero => rfl
  | succ n ih =>
    rw [List.replicate_succ, run, elegirDesde, Option.map_bind]
    unfold pasoSeleccion Seleccion.ronda
    have hsacar : s.sacar.inicio = false := hinicio
    simp only [hsacar, Bool.false_eq_true, if_false]
    cases hactual : tcbs (s.cola.headD NULL) with
    | none => rfl
    | some actual =>
      cases hmejor : tcbs s.elegido with
      | none =>
        have hnone : tcbs s.sacar.elegido = none := hmejor
        simp [hnone]
      | some mejor =>
        have hsome : tcbs s.sacar.elegido = some mejor := hmejor
        simp only [hsome, Option.bind_eq_bind, Option.bind_some]
        by_cases hlt : actual.prioridad < mejor.prioridad
        · rw [if_pos hlt, if_pos hlt, Option.bind_some]
          exact ih _ hinicio
        · rw [if_neg hlt, if_neg hlt, Option.bind_some]
          exact ih _ hinicio

theorem seleccionar_eq (basura : Puntero) (cola : List Puntero) :
    (seleccionar tcbs basura cola).map (fun s => (s.elegido, s.cola)) =
      elegirMaximaPrioridad tcbs basura cola := by
  unfold seleccionar elegirMaximaPrioridad
  rw [Option.map_map]
  exact run_pasoSeleccion_eq (cola.length - 1) (seleccionInicial basura cola) rfl

end

/-- What comes out of a queue with two threads or more: `elegido` has been read unassigned, and
the result and the queue are the old queue and what `elegido` held. -/
theorem seleccionar_spec {tcbs : Puntero → Option TCB} {basura : Puntero} {cola : List Puntero}
    {s : Seleccion} (h2 : 2 ≤ cola.length) (h : seleccionar tcbs basura cola = some s) :
    s.leido = true ∧ (s.elegido :: s.cola).Perm (basura :: cola) := by
  obtain ⟨t, ht, rfl⟩ := Option.map_eq_some_iff.mp h
  obtain ⟨perdedores, hrotada⟩ := rotada_of_run basura cola (cola.length - 1) (by omega) ht
  have hleido : t.leido = true := hrotada.leido (by omega)
  refine ⟨?_, ?_⟩
  · show (t.leido || !t.asignado) = true
    rw [hleido, Bool.true_or]
  · show (t.elegido :: t.cola).Perm _
    have hsplit := List.take_append_drop (cola.length - 1) cola
    have hcola : (t.elegido :: t.cola).Perm
        (basura :: cola.take (cola.length - 1) ++ cola.drop (cola.length - 1)) := by
      rw [hrotada.resto]
      refine (List.perm_append_comm.cons t.elegido).trans ?_
      exact hrotada.perm.append_right (cola.drop (cola.length - 1))
    rwa [List.cons_append, hsplit] at hcola

/-- **Of two threads or more the right one is chosen never.** For every heap, every queue and
whatever the unassigned `elegido` holds: it is read before it is assigned, and the result is
not a thread of the queue that the queue has lost. -/
theorem not_seleccionCorrecta (tcbs : Puntero → Option TCB) (basura : Puntero)
    (cola : List Puntero) (h2 : 2 ≤ cola.length) :
    ¬ LecturasAsignadas tcbs basura cola ∧ ¬ MaximoSeparado tcbs basura cola ∧
      ¬ SeleccionCorrecta tcbs basura cola := by
  have hlecturas : ¬ LecturasAsignadas tcbs basura cola := by
    rintro ⟨s, hs, hleido⟩
    rw [(seleccionar_spec h2 hs).1] at hleido
    cases hleido
  refine ⟨hlecturas, ?_, fun h => hlecturas h.lecturas⟩
  rintro ⟨s, hs, -, -, hperm⟩
  have hlength := (hperm.symm.trans (seleccionar_spec h2 hs).2).length_eq
  rw [List.length_cons] at hlength
  omega

/-- The heap with two threads, at 1 and 2, of priorities 3 and 5. -/
def dosHilos (p : Puntero) : Option TCB :=
  if p = 1 then some ⟨0, 0, 3, 1⟩ else if p = 2 then some ⟨0, 1, 5, 1⟩ else none

/-- Two threads in a queue, none of which is taken. -/
theorem not_seleccionCorrecta_dosHilos :
    ¬ LecturasAsignadas dosHilos 1 [1, 2] ∧ ¬ MaximoSeparado dosHilos 1 [1, 2] ∧
      ¬ SeleccionCorrecta dosHilos 1 [1, 2] :=
  not_seleccionCorrecta dosHilos 1 [1, 2] (by decide)

/-- The thread of priority 3 is returned and is in the queue all the same; the one of priority
5 has not been compared with it. -/
theorem seleccionar_dosHilos :
    (seleccionar dosHilos 1 [1, 2]).map (fun s => (s.elegido, s.cola, s.leido)) =
        some (1, [2, 1], true) ∧
      ¬ SeleccionCorrecta dosHilos 1 [1, 2] := by
  refine ⟨by decide, fun h => ?_⟩
  obtain ⟨s, hs, hleido⟩ := h.lecturas
  have hmarca : (seleccionar dosHilos 1 [1, 2]).map Seleccion.leido = some true := by decide
  rw [hs] at hmarca
  rw [Option.map_some, hleido] at hmarca
  cases hmarca

end SoTp.Kernel
