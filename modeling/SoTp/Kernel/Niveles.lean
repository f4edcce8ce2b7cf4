import SoTp.Kernel.Ready
import SoTp.Lib.Run

/-!
# The multilevel ready queues over a history

`insertar_en_cola_ready_cmn` (`kernel/src/k_largo_plazo.c`, lines 148–171) pushes a thread
at the level of its priority, `get_next_thread` (`kernel/src/k_corto_plazo.c`, lines
157–166) takes the first one of a level. A history of such calls also notes what was
accepted and what was returned at each level.

* `operar_balanceados`: a call keeps the balance of every level.
* `historia_niveles`: **no history loses, repeats or reorders a thread**.
-/

namespace SoTp.Kernel

open SoTp.Lib SoTp.Utils

/-! ## Histories -/

/-- A call on the levels. -/
inductive OperacionNivel where
  | insertar (hilo : Puntero)
  | siguiente (nivel : ℕ)
  deriving DecidableEq, Repr

/-- A state with what the calls so far have done: the threads accepted with each priority
and the threads returned for each level, in order. -/
structure HistoriaNiveles where
  estado : EstadoKernel
  aceptados : ℕ → List Puntero
  devueltos : ℕ → List Puntero

/-- Before the first call. -/
def sinHistoria (s : EstadoKernel) : HistoriaNiveles := ⟨s, fun _ => [], fun _ => []⟩

/-- One call. -/
def operar (h : HistoriaNiveles) : OperacionNivel → Option HistoriaNiveles
  | .insertar hilo => do
    let tcb ← h.estado.tcbs hilo
    let (insertado, s) ← insertarEnColaReadyCmn hilo h.estado
    let i := tcb.prioridad.toNat
    some { h with
      estado := s
      aceptados :=
        if insertado then Function.update h.aceptados i (h.aceptados i ++ [hilo])
        else h.aceptados }
  | .siguiente nivel =>
    (getNextThread nivel h.estado).map fun (hilo, s) =>
      { h with
        estado := s
        devueltos :=
          if hilo = NULL then h.devueltos
          else Function.update h.devueltos nivel (h.devueltos nivel ++ [hilo]) }

/-- A thread is inserted through a pointer to its TCB, and a level is one of the array. -/
def OperacionNivel.Valida (s : EstadoKernel) : OperacionNivel → Prop
  | .insertar hilo => hilo ≠ NULL ∧ (s.tcbs hilo).isSome
  | .siguiente nivel => nivel < maxNivelesPrioridad

/-- What the levels owe after a history. -/
structure NivelesFieles (h : HistoriaNiveles) : Prop where
  /-- What was returned and, behind it, what is queued: that is what was accepted. -/
  colas : ∀ i < maxNivelesPrioridad, ∃ cola, h.estado.colasReadyCmn i = some cola ∧
    h.aceptados i = h.devueltos i ++ cola
  /-- An insertion is rejected, and changes nothing, by the bound on the priority only. -/
  insertar : ∀ hilo tcb, hilo ≠ NULL → h.estado.tcbs hilo = some tcb →
    ∃ insertado s, insertarEnColaReadyCmn hilo h.estado = some (insertado, s) ∧
      (insertado = false ↔ maxNivelesPrioridad ≤ tcb.prioridad.toNat) ∧
      (insertado = false → s = h.estado)
  /-- `NULL` means that everything accepted has been returned. -/
  siguiente : ∀ i < maxNivelesPrioridad, ∃ hilo s, getNextThread i h.estado = some (hilo, s) ∧
    (hilo = NULL ↔ h.aceptados i = h.devueltos i)

/-! ## One call -/

/-- The invariant of a history over the heap `tcbs`. -/
structure Balanceados (tcbs : Puntero → Option TCB) (h : HistoriaNiveles) : Prop where
  heap : h.estado.tcbs = tcbs
  creadas : ∀ i < maxNivelesPrioridad, (h.estado.colasReadyCmn i).isSome
  balance : Balanced maxNivelesPrioridad h.aceptados h.devueltos (niveles h.estado)
  sinNull : ∀ i < maxNivelesPrioridad, NULL ∉ niveles h.estado i

/-- An insertion that is accepted, and what is left of a rejected one. -/
theorem insertarEnColaReadyCmn_eq {hilo : Puntero} {tcb : TCB} {s : EstadoKernel}
    (hnull : hilo ≠ NULL) (htcb : s.tcbs hilo = some tcb)
    (hcreadas : ∀ i < maxNivelesPrioridad, (s.colasReadyCmn i).isSome) :
    insertarEnColaReadyCmn hilo s =
      if maxNivelesPrioridad ≤ tcb.prioridad.toNat then some (false, s)
      else some (true, { s with
        colasReadyCmn := Function.update s.colasReadyCmn tcb.prioridad.toNat
          (some (niveles s tcb.prioridad.toNat ++ [hilo])) }) := by
  unfold insertarEnColaReadyCmn
  rw [if_neg hnull, htcb]
  dsimp only [Option.bind_eq_bind, Option.bind_some]
  by_cases hprioridad : maxNivelesPrioridad ≤ tcb.prioridad.toNat
  · rw [if_pos hprioridad, if_pos hprioridad]
  · obtain ⟨cola, hcola⟩ := Option.isSome_iff_exists.mp (hcreadas _ (Nat.lt_of_not_le hprioridad))
    rw [if_neg hprioridad, if_neg hprioridad, hcola, niveles_of_some hcola]

theorem getNextThread_eq {i : ℕ} {s : EstadoKernel} (hcreada : (s.colasReadyCmn i).isSome) :
    getNextThread i s = some (match niveles s i with
      | [] => (NULL, s)
      | hilo :: cola =>
        (hilo, { s with colasReadyCmn := Function.update s.colasReadyCmn i (some cola) })) := by
  obtain ⟨cola, hcola⟩ := Option.isSome_iff_exists.mp hcreada
  unfold getNextThread
  rw [hcola, niveles_of_some hcola]
  rfl

theorem isSome_update {colas : ℕ → Option (List Puntero)} {j : ℕ} (cola : List Puntero)
    (h : ∀ i < maxNivelesPrioridad, (colas i).isSome) :
    ∀ i < maxNivelesPrioridad, (Function.update colas j (some cola) i).isSome := by
  intro i hi
  by_cases hij : i = j
  · rw [hij, Function.update_self]
    rfl
  · rw [Function.update_of_ne hij]
    exact h i hi

theorem null_notMem_update {q : ℕ → List Puntero} {j : ℕ} {cola : List Puntero}
    (h : ∀ i < maxNivelesPrioridad, NULL ∉ q i) (hcola : NULL ∉ cola) :
    ∀ i < maxNivelesPrioridad, NULL ∉ Function.update q j cola i := by
  intro i hi
  by_cases hij : i = j
  · rw [hij, Function.update_self]
    exact hcola
  · rw [Function.update_of_ne hij]
    exact h i hi

/-- A valid call completes and keeps the invariant. -/
theorem operar_balanceados {tcbs : Puntero → Option TCB} {h : HistoriaNiveles}
    {operacion : OperacionNivel} (hinv : Balanceados tcbs h)
    (hvalida : operacion.Valida h.estado) :
    ∃ h', operar h operacion = some h' ∧ Balanceados tcbs h' := by
  cases operacion with
  | insertar hilo =>
    obtain ⟨hnull, hsome⟩ := hvalida
    obtain ⟨tcb, htcb⟩ := Option.isSome_iff_exists.mp hsome
    simp only [operar]
    rw [insertarEnColaReadyCmn_eq hnull htcb hinv.creadas, htcb]
    by_cases hprioridad : maxNivelesPrioridad ≤ tcb.prioridad.toNat
    · rw [if_pos hprioridad]
      exact ⟨h, rfl, hinv⟩
    · rw [if_neg hprioridad]
      have hsin := hinv.sinNull _ (Nat.lt_of_not_le hprioridad)
      refine ⟨_, rfl, hinv.heap, isSome_update _ hinv.creadas, ?_, ?_⟩
      · show Balanced maxNivelesPrioridad (Function.update _ _ _) h.devueltos (niveles _)
        rw [niveles_update]
        exact hinv.balance.push tcb.prioridad.toNat hilo
      · rw [niveles_update]
        refine null_notMem_update hinv.sinNull fun hmem => ?_
        rcases List.mem_append.mp hmem with hmem | hmem
        · exact hsin hmem
        · exact hnull (List.mem_singleton.mp hmem).symm
  | siguiente nivel =>
    simp only [operar]
    rw [getNextThread_eq (hinv.creadas nivel hvalida)]
    have hsin := hinv.sinNull nivel hvalida
    cases hcola : niveles h.estado nivel with
    | nil => exact ⟨h, rfl, hinv⟩
    | cons hilo cola =>
      rw [hcola] at hsin
      have hnull : hilo ≠ NULL := fun heq => hsin (heq ▸ List.mem_cons_self)
      refine ⟨_, rfl, hinv.heap, isSome_update _ hinv.creadas, ?_, ?_⟩
      · show Balanced maxNivelesPrioridad h.aceptados (if hilo = NULL then _ else _) (niveles _)
        rw [if_neg hnull, niveles_update]
        exact hinv.balance.pop hcola
      · rw [niveles_update]
        exact null_notMem_update hinv.sinNull fun h => hsin (List.mem_cons_of_mem _ h)

/-! ## Any history -/

/-- A history of valid calls completes and keeps the invariant. -/
theorem run_balanceados {tcbs : Puntero → Option TCB} {h : HistoriaNiveles}
    (operaciones : List OperacionNivel) (hinv : Balanceados tcbs h)
    (hvalidas : ∀ operacion ∈ operaciones, operacion.Valida h.estado) :
    ∃ h', run operar h operaciones = some h' ∧ Balanceados tcbs h' := by
  induction operaciones generalizing h with
  | nil => exact ⟨h, rfl, hinv⟩
  | cons operacion operaciones ih =>
    obtain ⟨t, ht, hinvt⟩ := operar_balanceados hinv (hvalidas operacion List.mem_cons_self)
    have hvalidas' : ∀ operacion ∈ operaciones, operacion.Valida t.estado := by
      intro operacion hmem
      have hvalida := hvalidas operacion (List.mem_cons_of_mem _ hmem)
      cases operacion with
      | insertar hilo =>
        -- the heap is the same
        unfold OperacionNivel.Valida at hvalida ⊢
        rwa [hinvt.heap, ← hinv.heap]
      | siguiente nivel => exact hvalida
    obtain ⟨t', ht', hinv'⟩ := ih hinvt hvalidas'
    refine ⟨t', ?_, hinv'⟩
    rw [run, ht]
    exact ht'

/-- What the invariant says about the next call. -/
theorem Balanceados.fieles {tcbs : Puntero → Option TCB} {h : HistoriaNiveles}
    (hinv : Balanceados tcbs h) : NivelesFieles h where
  colas := by
    intro i hi
    obtain ⟨cola, hcola⟩ := Option.isSome_iff_exists.mp (hinv.creadas i hi)
    refine ⟨cola, hcola, ?_⟩
    rw [← niveles_of_some hcola]
    exact hinv.balance i hi
  insertar := by
    intro hilo tcb hnull htcb
    rw [insertarEnColaReadyCmn_eq hnull htcb hinv.creadas]
    by_cases hprioridad : maxNivelesPrioridad ≤ tcb.prioridad.toNat
    · rw [if_pos hprioridad]
      exact ⟨false, h.estado, rfl, ⟨fun _ => hprioridad, fun _ => rfl⟩, fun _ => rfl⟩
    · rw [if_neg hprioridad]
      refine ⟨true, _, rfl, ⟨fun hfalse => ?_, fun hle => absurd hle hprioridad⟩, fun hfalse => ?_⟩
      · simp at hfalse
      · simp at hfalse
  siguiente := by
    intro i hi
    rw [getNextThread_eq (hinv.creadas i hi), ← hinv.balance.eq_nil_iff hi]
    cases hcola : niveles h.estado i with
    | nil => exact ⟨NULL, h.estado, rfl, ⟨fun _ => rfl, fun _ => rfl⟩⟩
    | cons hilo cola =>
      have hmem : NULL ∉ hilo :: cola := hcola ▸ hinv.sinNull i hi
      refine ⟨hilo, _, rfl, ⟨fun hnull => ?_, fun hnil => ?_⟩⟩
      · exact absurd (hnull ▸ List.mem_cons_self) hmem
      · simp at hnil

/-- **The multilevel ready queues lose and reorder nothing.** From levels that are created
and empty, every history of valid calls completes; what it returned for a level is, in
order, the front of what it accepted with that priority, and the rest is what the level
holds. Then an insertion is rejected exactly by the bound on the priority, and `NULL`
means that nothing accepted is pending. -/
theorem historia_niveles (s : EstadoKernel) (operaciones : List OperacionNivel)
    (hvacias : ∀ i < maxNivelesPrioridad, s.colasReadyCmn i = some [])
    (hvalidas : ∀ operacion ∈ operaciones, operacion.Valida s) :
    ∃ h, run operar (sinHistoria s) operaciones = some h ∧ NivelesFieles h := by
  have hinv : Balanceados s.tcbs (sinHistoria s) := by
    refine ⟨rfl, fun i hi => ?_, balanced_of_empty fun i hi => ?_, fun i hi => ?_⟩
    · show (s.colasReadyCmn i).isSome
      rw [hvacias i hi]
      rfl
    · exact niveles_of_some (hvacias i hi)
    · show NULL ∉ niveles s i
      rw [niveles_of_some (hvacias i hi)]
      exact List.not_mem_nil
  obtain ⟨h, hrun, hinv'⟩ := run_balanceados operaciones hinv hvalidas
  exact ⟨h, hrun, hinv'.fieles⟩

/-- Threads with the priorities 1, 3 and 200, at the addresses 1, 2 and 3. -/
def tresHilos : EstadoKernel :=
  { kernelInicial .cmn with
    tcbs := fun p =>
      [none, some ⟨0, 0, 1, 1⟩, some ⟨0, 1, 3, 1⟩, some ⟨0, 2, 200, 1⟩].getD p none }

/-- The first thread is inserted twice, the third one is rejected, and level 3 is asked
once too often. -/
theorem historia_niveles_tres :
    ∃ h, run operar (sinHistoria tresHilos) [.insertar 1, .insertar 2, .insertar 3, .insertar 1,
      .siguiente 1, .siguiente 3, .siguiente 3] = some h ∧ NivelesFieles h := by
  refine historia_niveles tresHilos _ (fun _ _ => rfl) ?_
  intro operacion hmem
  fin_cases hmem
  · exact ⟨by decide, rfl⟩
  · exact ⟨by decide, rfl⟩
  · exact ⟨by decide, rfl⟩
  · exact ⟨by decide, rfl⟩
  all_goals
    unfold OperacionNivel.Valida
    decide

end SoTp.Kernel
