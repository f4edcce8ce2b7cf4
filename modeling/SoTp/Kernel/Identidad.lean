import SoTp.Kernel.Busqueda

/-!
# Threads by their identity

The kernel looks a thread up by its `PID` and `TID` (`kernel/src/main.c`, lines 648–677): it
follows the pointers of a list up to the first thread that has them. `EsHilo` says that a
pointer leads to such a thread, `EsOtro` that it leads to another one.

* `obtenerTCBPorPIDyTID_cases`, `quitarTCBDeLista_cases`: what a lookup finds and what a
  removal takes out, in terms of the threads in front.
* `obtenerPCBPorPID_length`: the PCB that is found is no longer in the queue.
* `buscarHilo_eq_null_iff`, `buscarHilo_esHilo`: when `buscarHilo` comes back with nothing, and
  what it comes back with otherwise.
-/

namespace SoTp.Kernel

open SoTp.Lib SoTp.Utils

/-! ## Threads -/

theorem ne_null_of_eq_some {α : Type*} {monton : Puntero → Option α} {p : Puntero} {a : α}
    (hnulo : monton NULL = none) (h : monton p = some a) : p ≠ NULL := by
  rintro rfl
  rw [hnulo] at h
  cases h

/-- `p` is a thread with that identity. -/
def EsHilo (tcbs : Puntero → Option TCB) (PID TID : UInt32) (p : Puntero) : Prop :=
  ∃ tcb, tcbs p = some tcb ∧ tcb.PID = PID ∧ tcb.TID = TID

/-- `p` is a thread with another identity. -/
def EsOtro (tcbs : Puntero → Option TCB) (PID TID : UInt32) (p : Puntero) : Prop :=
  ∃ tcb, tcbs p = some tcb ∧ ¬ (tcb.PID = PID ∧ tcb.TID = TID)

section

variable {tcbs : Puntero → Option TCB} {PID TID : UInt32} {p : Puntero}
  {lista lista' l₁ l₂ : List Puntero}

theorem EsOtro.not_esHilo (h : EsOtro tcbs PID TID p) : ¬ EsHilo tcbs PID TID p := by
  obtain ⟨tcb, htcb, hne⟩ := h
  rintro ⟨tcb', htcb', hid⟩
  obtain rfl := Option.some.inj (htcb.symm.trans htcb')
  exact hne hid

theorem esHilo_or_esOtro (PID TID : UInt32) {tcb : TCB} (htcb : tcbs p = some tcb) :
    EsHilo tcbs PID TID p ∨ EsOtro tcbs PID TID p := by
  by_cases hid : tcb.PID = PID ∧ tcb.TID = TID
  · exact Or.inl ⟨tcb, htcb, hid⟩
  · exact Or.inr ⟨tcb, htcb, hid⟩

/-- Among live threads there is a first one with the identity, or none. -/
theorem exists_esHilo_or_forall_esOtro (PID TID : UInt32)
    (hvivos : ∀ q ∈ lista, (tcbs q).isSome) :
    (∃ l₁ p l₂, lista = l₁ ++ p :: l₂ ∧ (∀ q ∈ l₁, EsOtro tcbs PID TID q) ∧
      EsHilo tcbs PID TID p) ∨ ∀ q ∈ lista, EsOtro tcbs PID TID q := by
  induction lista with
  | nil => exact Or.inr fun q hq => absurd hq List.not_mem_nil
  | cons q lista ih =>
    rw [List.forall_mem_cons] at hvivos
    obtain ⟨tcb, htcb⟩ := Option.isSome_iff_exists.mp hvivos.1
    rcases esHilo_or_esOtro PID TID htcb with hq | hq
    · exact Or.inl ⟨[], q, lista, rfl, fun r hr => absurd hr List.not_mem_nil, hq⟩
    · rcases ih hvivos.2 with ⟨l₁, p, l₂, rfl, hl₁, hp⟩ | hotros
      · exact Or.inl ⟨q :: l₁, p, l₂, rfl, List.forall_mem_cons.mpr ⟨hq, hl₁⟩, hp⟩
      · exact Or.inr (List.forall_mem_cons.mpr ⟨hq, hotros⟩)

theorem obtenerTCBPorPIDyTID_cons_of_esHilo (h : EsHilo tcbs PID TID p) :
    obtenerTCBPorPIDyTID tcbs PID TID (p :: lista) = some p := by
  obtain ⟨tcb, htcb, hid⟩ := h
  unfold obtenerTCBPorPIDyTID
  rw [htcb]
  exact if_pos hid

theorem obtenerTCBPorPIDyTID_cons_of_esOtro (h : EsOtro tcbs PID TID p) :
    obtenerTCBPorPIDyTID tcbs PID TID (p :: lista) = obtenerTCBPorPIDyTID tcbs PID TID lista := by
  obtain ⟨tcb, htcb, hne⟩ := h
  conv_lhs => unfold obtenerTCBPorPIDyTID
  rw [htcb]
  exact if_neg hne

theorem obtenerTCBPorPIDyTID_cons_of_none (h : tcbs p = none) :
    obtenerTCBPorPIDyTID tcbs PID TID (p :: lista) = none := by
  unfold obtenerTCBPorPIDyTID
  rw [h]
  rfl

theorem quitarTCBDeLista_cons_of_esHilo (h : EsHilo tcbs PID TID p) :
    quitarTCBDeLista tcbs PID TID (p :: lista) = some lista := by
  obtain ⟨tcb, htcb, hid⟩ := h
  unfold quitarTCBDeLista
  rw [htcb]
  exact if_pos hid

theorem quitarTCBDeLista_cons_of_esOtro (h : EsOtro tcbs PID TID p) :
    quitarTCBDeLista tcbs PID TID (p :: lista) =
      (quitarTCBDeLista tcbs PID TID lista).map (p :: ·) := by
  obtain ⟨tcb, htcb, hne⟩ := h
  conv_lhs => unfold quitarTCBDeLista
  rw [htcb]
  exact if_neg hne

theorem quitarTCBDeLista_cons_of_none (h : tcbs p = none) :
    quitarTCBDeLista tcbs PID TID (p :: lista) = none := by
  unfold quitarTCBDeLista
  rw [h]
  rfl

theorem obtenerTCBPorPIDyTID_append (hl₁ : ∀ q ∈ l₁, EsOtro tcbs PID TID q)
    (hp : EsHilo tcbs PID TID p) :
    obtenerTCBPorPIDyTID tcbs PID TID (l₁ ++ p :: l₂) = some p := by
  induction l₁ with
  | nil => exact obtenerTCBPorPIDyTID_cons_of_esHilo hp
  | cons q l₁ ih =>
    rw [List.forall_mem_cons] at hl₁
    rw [List.cons_append, obtenerTCBPorPIDyTID_cons_of_esOtro hl₁.1, ih hl₁.2]

theorem quitarTCBDeLista_append (hl₁ : ∀ q ∈ l₁, EsOtro tcbs PID TID q)
    (hp : EsHilo tcbs PID TID p) :
    quitarTCBDeLista tcbs PID TID (l₁ ++ p :: l₂) = some (l₁ ++ l₂) := by
  induction l₁ with
  | nil => exact quitarTCBDeLista_cons_of_esHilo hp
  | cons q l₁ ih =>
    rw [List.forall_mem_cons] at hl₁
    rw [List.cons_append, quitarTCBDeLista_cons_of_esOtro hl₁.1, ih hl₁.2]
    rfl

theorem obtenerTCBPorPIDyTID_otros (h : ∀ q ∈ lista, EsOtro tcbs PID TID q) :
    obtenerTCBPorPIDyTID tcbs PID TID lista = some NULL := by
  induction lista with
  | nil => rfl
  | cons q lista ih =>
    rw [List.forall_mem_cons] at h
    rw [obtenerTCBPorPIDyTID_cons_of_esOtro h.1, ih h.2]

theorem quitarTCBDeLista_otros (h : ∀ q ∈ lista, EsOtro tcbs PID TID q) :
    quitarTCBDeLista tcbs PID TID lista = some lista := by
  induction lista with
  | nil => rfl
  | cons q lista ih =>
    rw [List.forall_mem_cons] at h
    rw [quitarTCBDeLista_cons_of_esOtro h.1, ih h.2]
    rfl

/-- A lookup stops at the first thread with the identity, or finds none. -/
theorem obtenerTCBPorPIDyTID_cases (h : obtenerTCBPorPIDyTID tcbs PID TID lista = some p) :
    (∃ l₁ l₂, lista = l₁ ++ p :: l₂ ∧ (∀ q ∈ l₁, EsOtro tcbs PID TID q) ∧
        EsHilo tcbs PID TID p) ∨
      p = NULL ∧ ∀ q ∈ lista, EsOtro tcbs PID TID q := by
  induction lista with
  | nil => exact Or.inr ⟨(Option.some.inj h).symm, fun q hq => absurd hq List.not_mem_nil⟩
  | cons q lista ih =>
    cases htcb : tcbs q with
    | none =>
      rw [obtenerTCBPorPIDyTID_cons_of_none htcb] at h
      cases h
    | some tcb =>
      rcases esHilo_or_esOtro PID TID htcb with hq | hq
      · rw [obtenerTCBPorPIDyTID_cons_of_esHilo hq] at h
        obtain rfl := Option.some.inj h
        exact Or.inl ⟨[], lista, rfl, fun q hq => absurd hq List.not_mem_nil, hq⟩
      · rw [obtenerTCBPorPIDyTID_cons_of_esOtro hq] at h
        rcases ih h with ⟨l₁, l₂, rfl, hl₁, hp⟩ | ⟨rfl, hotros⟩
        · exact Or.inl ⟨q :: l₁, l₂, rfl, List.forall_mem_cons.mpr ⟨hq, hl₁⟩, hp⟩
        · exact Or.inr ⟨rfl, List.forall_mem_cons.mpr ⟨hq, hotros⟩⟩

/-- A removal takes out the first thread with the identity, or none. -/
theorem quitarTCBDeLista_cases (h : quitarTCBDeLista tcbs PID TID lista = some lista') :
    (∃ l₁ p l₂, lista = l₁ ++ p :: l₂ ∧ (∀ q ∈ l₁, EsOtro tcbs PID TID q) ∧
        EsHilo tcbs PID TID p ∧ lista' = l₁ ++ l₂) ∨
      lista' = lista ∧ ∀ q ∈ lista, EsOtro tcbs PID TID q := by
  induction lista generalizing lista' with
  | nil => exact Or.inr ⟨(Option.some.inj h).symm, fun q hq => absurd hq List.not_mem_nil⟩
  | cons q lista ih =>
    cases htcb : tcbs q with
    | none =>
      rw [quitarTCBDeLista_cons_of_none htcb] at h
      cases h
    | some tcb =>
      rcases esHilo_or_esOtro PID TID htcb with hq | hq
      · rw [quitarTCBDeLista_cons_of_esHilo hq] at h
        obtain rfl := Option.some.inj h
        exact Or.inl ⟨[], q, lista, rfl, fun q hq => absurd hq List.not_mem_nil, hq, rfl⟩
      · rw [quitarTCBDeLista_cons_of_esOtro hq] at h
        obtain ⟨lista'', hlista, rfl⟩ := Option.map_eq_some_iff.mp h
        rcases ih hlista with ⟨l₁, p, l₂, rfl, hl₁, hp, rfl⟩ | ⟨rfl, hotros⟩
        · exact Or.inl ⟨q :: l₁, p, l₂, rfl, List.forall_mem_cons.mpr ⟨hq, hl₁⟩, hp, rfl⟩
        · exact Or.inr ⟨rfl, List.forall_mem_cons.mpr ⟨hq, hotros⟩⟩

/-- A lookup depends on the identities of the threads only. -/
theorem obtenerTCBPorPIDyTID_congr {tcbs' : Puntero → Option TCB}
    (h : ∀ p, (tcbs' p).map (fun tcb => (tcb.PID, tcb.TID)) =
      (tcbs p).map fun tcb => (tcb.PID, tcb.TID)) (lista : List Puntero) :
    obtenerTCBPorPIDyTID tcbs' PID TID lista = obtenerTCBPorPIDyTID tcbs PID TID lista := by
  induction lista with
  | nil => rfl
  | cons p lista ih =>
    have hp := h p
    cases htcb : tcbs p with
    | none =>
      rw [htcb, Option.map_none, Option.map_eq_none_iff] at hp
      rw [obtenerTCBPorPIDyTID_cons_of_none htcb, obtenerTCBPorPIDyTID_cons_of_none hp]
    | some tcb =>
      rw [htcb] at hp
      obtain ⟨tcb', htcb', hid⟩ := Option.map_eq_some_iff.mp hp
      obtain ⟨hPID, hTID⟩ := Prod.mk.inj hid
      unfold obtenerTCBPorPIDyTID
      rw [htcb, htcb', Option.bind_eq_bind, Option.bind_some, Option.bind_some, hPID, hTID, ih]

/-- And so does a removal. -/
theorem quitarTCBDeLista_congr {tcbs' : Puntero → Option TCB}
    (h : ∀ p, (tcbs' p).map (fun tcb => (tcb.PID, tcb.TID)) =
      (tcbs p).map fun tcb => (tcb.PID, tcb.TID)) (lista : List Puntero) :
    quitarTCBDeLista tcbs' PID TID lista = quitarTCBDeLista tcbs PID TID lista := by
  induction lista with
  | nil => rfl
  | cons p lista ih =>
    have hp := h p
    cases htcb : tcbs p with
    | none =>
      rw [htcb, Option.map_none, Option.map_eq_none_iff] at hp
      rw [quitarTCBDeLista_cons_of_none htcb, quitarTCBDeLista_cons_of_none hp]
    | some tcb =>
      rw [htcb] at hp
      obtain ⟨tcb', htcb', hid⟩ := Option.map_eq_some_iff.mp hp
      obtain ⟨hPID, hTID⟩ := Prod.mk.inj hid
      unfold quitarTCBDeLista
      rw [htcb, htcb', Option.bind_eq_bind, Option.bind_some, Option.bind_some, hPID, hTID, ih]

/-- Where the threads have kept their identities, the one at `p` can be read, and a removal with
what is read is the same. -/
theorem EsHilo.quitar (hp : EsHilo tcbs PID TID p) {tcbs' : Puntero → Option TCB}
    (h : ∀ p, (tcbs' p).map (fun tcb => (tcb.PID, tcb.TID)) =
      (tcbs p).map fun tcb => (tcb.PID, tcb.TID)) :
    ∃ tcb, tcbs' p = some tcb ∧ ∀ lista,
      quitarTCBDeLista tcbs' tcb.PID tcb.TID lista = quitarTCBDeLista tcbs PID TID lista := by
  obtain ⟨tcb, htcb, rfl, rfl⟩ := hp
  have hp := h p
  rw [htcb] at hp
  obtain ⟨tcb', htcb', hid⟩ := Option.map_eq_some_iff.mp hp
  obtain ⟨hPID, hTID⟩ := Prod.mk.inj hid
  refine ⟨tcb', htcb', fun lista => ?_⟩
  rw [quitarTCBDeLista_congr h, hPID, hTID]

theorem obtenerTCBPorPIDyTID_ne_null (hp : p ≠ NULL)
    (h : obtenerTCBPorPIDyTID tcbs PID TID lista = some p) :
    p ∈ lista ∧ EsHilo tcbs PID TID p ∧
      ∃ l, quitarTCBDeLista tcbs PID TID lista = some l ∧ l.length + 1 = lista.length := by
  rcases obtenerTCBPorPIDyTID_cases h with ⟨l₁, l₂, rfl, hl₁, hid⟩ | ⟨hnull, -⟩
  · refine ⟨by simp, hid, l₁ ++ l₂, quitarTCBDeLista_append hl₁ hid, ?_⟩
    simp only [List.length_append, List.length_cons]
    omega
  · exact absurd hnull hp

end

/-! ## Processes -/

theorem rotarPCB_length {pcbs : Puntero → Option PCB} {PID : UInt32} {n : ℕ}
    {cola cola' : List Puntero} {p : Puntero} (hn : n ≤ cola.length) (hp : p ≠ NULL)
    (h : rotarPCB pcbs PID n cola = some (p, cola')) : cola'.length + 1 = cola.length := by
  induction n generalizing cola with
  | zero => exact absurd (Prod.mk.inj (Option.some.inj h)).1.symm hp
  | succ n ih =>
    obtain ⟨pcb, -, h⟩ := Option.bind_eq_some_iff.mp h
    have htail : cola.tail.length + 1 = cola.length := by
      rw [List.length_tail]
      omega
    split at h
    · obtain ⟨-, rfl⟩ := Prod.mk.inj (Option.some.inj h)
      exact htail
    · have hlength : (cola.tail ++ [cola.headD NULL]).length = cola.length := by
        rw [List.length_append, List.length_singleton, htail]
      rw [← hlength]
      exact ih (by omega) h

theorem obtenerPCBPorPID_length {pcbs : Puntero → Option PCB} {PID : UInt32}
    {cola cola' : List Puntero} {p : Puntero} (hp : p ≠ NULL)
    (h : obtenerPCBPorPID pcbs PID cola = some (p, cola')) : cola'.length + 1 = cola.length :=
  rotarPCB_length le_rfl hp h

/-! ## The search in all collections -/

section

variable {tcbs : Puntero → Option TCB} {PID TID : UInt32} {p : Puntero}

theorem vaciarCola_hallado (hp : p ≠ NULL) (auxiliar cola : List Puntero) :
    vaciarCola tcbs PID TID p auxiliar cola = some (p, auxiliar ++ cola) := by
  induction cola generalizing auxiliar with
  | nil => rw [vaciarCola, List.append_nil]
  | cons q cola ih =>
    rw [vaciarCola, if_neg hp, ih, List.append_assoc, List.singleton_append]

/-- Emptying the queue is looking the thread up in it. -/
theorem vaciarCola_eq (hnulo : tcbs NULL = none) (auxiliar cola : List Puntero) :
    vaciarCola tcbs PID TID NULL auxiliar cola =
      (obtenerTCBPorPIDyTID tcbs PID TID cola).map fun p => (p, auxiliar ++ cola) := by
  induction cola generalizing auxiliar with
  | nil =>
    rw [vaciarCola, List.append_nil]
    rfl
  | cons q cola ih =>
    rw [vaciarCola, if_pos rfl]
    cases htcb : tcbs q with
    | none =>
      rw [obtenerTCBPorPIDyTID_cons_of_none htcb]
      rfl
    | some tcb =>
      show vaciarCola tcbs PID TID (if tcb.PID = PID ∧ tcb.TID = TID then q else NULL)
        (auxiliar ++ [q]) cola = _
      by_cases hid : tcb.PID = PID ∧ tcb.TID = TID
      · have hq : q ≠ NULL := ne_null_of_eq_some hnulo htcb
        rw [if_pos hid, obtenerTCBPorPIDyTID_cons_of_esHilo ⟨tcb, htcb, hid⟩,
          vaciarCola_hallado hq, List.append_assoc, List.singleton_append]
        rfl
      · rw [if_neg hid, ih, obtenerTCBPorPIDyTID_cons_of_esOtro ⟨tcb, htcb, hid⟩,
          List.append_assoc, List.singleton_append]

theorem obtenerTCBPorPIDyTID_eq_null_iff (hnulo : tcbs NULL = none) {lista : List Puntero} :
    obtenerTCBPorPIDyTID tcbs PID TID lista = some NULL ↔
      ∀ q ∈ lista, EsOtro tcbs PID TID q := by
  constructor
  · intro h
    rcases obtenerTCBPorPIDyTID_cases h with ⟨l₁, l₂, -, -, tcb, htcb, -⟩ | ⟨-, hotros⟩
    · exact absurd rfl (ne_null_of_eq_some hnulo htcb)
    · exact hotros
  · exact obtenerTCBPorPIDyTID_otros

/-- The levels are created, and their first threads are others. -/
theorem buscarEnNiveles_eq_null_iff (hnulo : tcbs NULL = none)
    {colas : ℕ → Option (List Puntero)} {is : List ℕ} :
    buscarEnNiveles tcbs colas PID TID is = some NULL ↔
      ∀ i ∈ is, ∃ cola, colas i = some cola ∧ ∀ p ∈ cola.head?, EsOtro tcbs PID TID p := by
  induction is with
  | nil => exact iff_of_true rfl fun i hi => absurd hi List.not_mem_nil
  | cons i is ih =>
    rw [buscarEnNiveles, List.forall_mem_cons, ← ih]
    cases hcola : colas i with
    | none => simp
    | some cola =>
      cases cola with
      | nil => simp
      | cons p cola =>
        cases htcb : tcbs p with
        | none => simp [htcb, EsOtro]
        | some tcb =>
          by_cases hid : tcb.PID = PID ∧ tcb.TID = TID
          · have hp : p ≠ NULL := ne_null_of_eq_some hnulo htcb
            simp [htcb, hid, hp, EsOtro]
          · simp only [Option.bind_eq_bind, Option.bind_some, htcb, if_neg hid,
              Option.some.injEq, exists_eq_left', List.head?_cons, Option.mem_some_iff,
              forall_eq']
            exact (and_iff_right ⟨tcb, htcb, hid⟩).symm

/-- The thread that is found in a level is the first one of it. -/
theorem buscarEnNiveles_esHilo {colas : ℕ → Option (List Puntero)} {is : List ℕ}
    (hp : p ≠ NULL) (h : buscarEnNiveles tcbs colas PID TID is = some p) :
    EsHilo tcbs PID TID p ∧ ∃ i ∈ is, ∃ cola, colas i = some cola ∧ p ∈ cola := by
  induction is with
  | nil => exact absurd (Option.some.inj h).symm hp
  | cons i is ih =>
    have hresto (h : buscarEnNiveles tcbs colas PID TID is = some p) :
        EsHilo tcbs PID TID p ∧ ∃ j ∈ i :: is, ∃ cola, colas j = some cola ∧ p ∈ cola := by
      obtain ⟨hid, j, hj, hcola⟩ := ih h
      exact ⟨hid, j, List.mem_cons_of_mem i hj, hcola⟩
    obtain ⟨cola, hcola, h⟩ := Option.bind_eq_some_iff.mp h
    cases cola with
    | nil => exact hresto h
    | cons q cola =>
      obtain ⟨tcb, htcb, h⟩ := Option.bind_eq_some_iff.mp h
      split at h
      · rename_i hid
        obtain rfl := Option.some.inj h
        exact ⟨⟨tcb, htcb, hid⟩, i, List.mem_cons_self, q :: cola, hcola, List.mem_cons_self⟩
      · exact hresto h

/-- All that `buscarHilo` looks at is another thread. -/
structure NoHallado (PID TID : UInt32) (s : Nucleo) : Prop where
  exec : ∀ p ∈ s.listaExecHilo, EsOtro s.tcbs PID TID p
  bloq : ∀ p ∈ s.listaBloqHilo, EsOtro s.tcbs PID TID p
  ready : s.algoritmo = .fifo ∨ s.algoritmo = .prioridades →
    ∀ p ∈ s.colaReadyFifoPrioridades.getD [], EsOtro s.tcbs PID TID p
  niveles : s.algoritmo = .cmn → ∀ i < maxNivelesPrioridad, ∃ cola,
    s.colasReadyCmn i = some cola ∧ ∀ p ∈ cola.head?, EsOtro s.tcbs PID TID p

/-- The search in the ready collections. -/
def buscarEnReady (PID TID : UInt32) (s : Nucleo) : Option Puntero :=
  match s.algoritmo with
  | .fifo | .prioridades =>
    obtenerTCBPorPIDyTID s.tcbs PID TID (s.colaReadyFifoPrioridades.getD [])
  | .cmn => buscarTCBPorPIDyTID s.tcbs s.colasReadyCmn PID TID
  | .colasMultinivel | .desconocido => some NULL

/-- `buscarHilo` is a lookup in one collection after the other. -/
theorem buscarHilo_eq {s : Nucleo} (hnulo : s.tcbs NULL = none) :
    buscarHilo PID TID s =
      (obtenerTCBPorPIDyTID s.tcbs PID TID s.listaExecHilo).bind fun p =>
        if p ≠ NULL then some (p, s)
        else (obtenerTCBPorPIDyTID s.tcbs PID TID s.listaBloqHilo).bind fun p =>
          if p ≠ NULL then some (p, s) else (buscarEnReady PID TID s).map fun p => (p, s) := by
  have hcola : ((buscarTCBDeCola s.tcbs PID TID s.colaReadyFifoPrioridades).bind
        fun r => some (r.1, { s with colaReadyFifoPrioridades := r.2 })) =
      (obtenerTCBPorPIDyTID s.tcbs PID TID (s.colaReadyFifoPrioridades.getD [])).map
        fun p => (p, s) := by
    cases hready : s.colaReadyFifoPrioridades with
    | none =>
      show some (NULL, { s with colaReadyFifoPrioridades := none }) = some (NULL, s)
      rw [← hready]
    | some cola =>
      show ((vaciarCola s.tcbs PID TID NULL [] cola).map
        fun r => (r.1, some (restaurar [] r.2))).bind _ = _
      rw [vaciarCola_eq hnulo, List.nil_append, Option.getD_some]
      cases obtenerTCBPorPIDyTID s.tcbs PID TID cola with
      | none => rfl
      | some p =>
        show some (p, { s with colaReadyFifoPrioridades := some (restaurar [] cola) }) =
          some (p, s)
        rw [restaurar_eq, List.nil_append, ← hready]
  unfold buscarHilo
  refine Option.bind_congr fun p₁ _ => ?_
  by_cases hp₁ : p₁ ≠ NULL
  · rw [if_pos hp₁, if_pos hp₁]
  · rw [if_neg hp₁, if_neg hp₁]
    refine Option.bind_congr fun p₂ _ => ?_
    by_cases hp₂ : p₂ ≠ NULL
    · rw [if_pos hp₂, if_pos hp₂]
    · rw [if_neg hp₂, if_neg hp₂, not_not.mp hp₂]
      unfold buscarEnReady
      cases halgoritmo : s.algoritmo <;> simp only [halgoritmo] at hcola ⊢
      case fifo => exact hcola
      case prioridades => exact hcola
      all_goals rfl

variable {s s' : Nucleo}

theorem buscarEnReady_eq_null_iff (hnulo : s.tcbs NULL = none) :
    buscarEnReady PID TID s = some NULL ↔
      (s.algoritmo = .fifo ∨ s.algoritmo = .prioridades →
        ∀ p ∈ s.colaReadyFifoPrioridades.getD [], EsOtro s.tcbs PID TID p) ∧
      (s.algoritmo = .cmn → ∀ i < maxNivelesPrioridad, ∃ cola,
        s.colasReadyCmn i = some cola ∧ ∀ p ∈ cola.head?, EsOtro s.tcbs PID TID p) := by
  unfold buscarEnReady
  cases halgoritmo : s.algoritmo
  case fifo => simpa using obtenerTCBPorPIDyTID_eq_null_iff hnulo
  case prioridades => simpa using obtenerTCBPorPIDyTID_eq_null_iff hnulo
  case cmn =>
    have hniveles := @buscarEnNiveles_eq_null_iff s.tcbs PID TID hnulo s.colasReadyCmn
      (List.range maxNivelesPrioridad)
    simpa [buscarTCBPorPIDyTID] using hniveles
  all_goals simp

/-- **When `buscarHilo` finds nothing**: everything that it looks at is another thread. -/
theorem buscarHilo_eq_null_iff (hnulo : s.tcbs NULL = none) :
    buscarHilo PID TID s = some (NULL, s) ↔ NoHallado PID TID s := by
  have hready : (buscarEnReady PID TID s).map (fun p => (p, s)) = some (NULL, s) ↔
      buscarEnReady PID TID s = some NULL := by
    cases buscarEnReady PID TID s <;> simp
  constructor
  · intro h
    rw [buscarHilo_eq hnulo] at h
    obtain ⟨p, hexec, h⟩ := Option.bind_eq_some_iff.mp h
    by_cases hp : p = NULL
    · subst hp
      rw [if_neg (not_not.mpr rfl)] at h
      obtain ⟨q, hbloq, h⟩ := Option.bind_eq_some_iff.mp h
      by_cases hq : q = NULL
      · subst hq
        rw [if_neg (not_not.mpr rfl), hready, buscarEnReady_eq_null_iff hnulo] at h
        exact ⟨(obtenerTCBPorPIDyTID_eq_null_iff hnulo).mp hexec,
          (obtenerTCBPorPIDyTID_eq_null_iff hnulo).mp hbloq, h.1, h.2⟩
      · rw [if_pos hq] at h
        exact absurd (Prod.mk.inj (Option.some.inj h)).1 hq
    · rw [if_pos hp] at h
      exact absurd (Prod.mk.inj (Option.some.inj h)).1 hp
  · intro h
    rw [buscarHilo_eq hnulo, obtenerTCBPorPIDyTID_otros h.exec, Option.bind_some,
      if_neg (not_not.mpr rfl), obtenerTCBPorPIDyTID_otros h.bloq, Option.bind_some,
      if_neg (not_not.mpr rfl), hready, buscarEnReady_eq_null_iff hnulo]
    exact ⟨h.ready, h.niveles⟩

/-- What `buscarHilo` finds has the identity, and is in one of the collections. -/
theorem buscarHilo_esHilo (hnulo : s.tcbs NULL = none) (hp : p ≠ NULL)
    (h : buscarHilo PID TID s = some (p, s')) :
    EsHilo s.tcbs PID TID p ∧ (p ∈ s.listaExecHilo ∨ p ∈ s.listaBloqHilo ∨
      p ∈ s.colaReadyFifoPrioridades.getD [] ∨
      ∃ i < maxNivelesPrioridad, p ∈ niveles s.toEstadoKernel i) := by
  rw [buscarHilo_eq hnulo] at h
  obtain ⟨q, hexec, h⟩ := Option.bind_eq_some_iff.mp h
  split at h
  · rename_i hq
    obtain ⟨rfl, -⟩ := Prod.mk.inj (Option.some.inj h)
    obtain ⟨hmem, hid, -⟩ := obtenerTCBPorPIDyTID_ne_null hq hexec
    exact ⟨hid, Or.inl hmem⟩
  · obtain ⟨q, hbloq, h⟩ := Option.bind_eq_some_iff.mp h
    split at h
    · rename_i hq
      obtain ⟨rfl, -⟩ := Prod.mk.inj (Option.some.inj h)
      obtain ⟨hmem, hid, -⟩ := obtenerTCBPorPIDyTID_ne_null hq hbloq
      exact ⟨hid, Or.inr (Or.inl hmem)⟩
    · obtain ⟨q, hready, h⟩ := Option.map_eq_some_iff.mp h
      obtain ⟨rfl, -⟩ := Prod.mk.inj h
      have hcola (h : obtenerTCBPorPIDyTID s.tcbs PID TID
            (s.colaReadyFifoPrioridades.getD []) = some q) :
          EsHilo s.tcbs PID TID q ∧ q ∈ s.colaReadyFifoPrioridades.getD [] := by
        obtain ⟨hmem, hid, -⟩ := obtenerTCBPorPIDyTID_ne_null hp h
        exact ⟨hid, hmem⟩
      unfold buscarEnReady at hready
      split at hready
      · exact ⟨(hcola hready).1, Or.inr (Or.inr (Or.inl (hcola hready).2))⟩
      · exact ⟨(hcola hready).1, Or.inr (Or.inr (Or.inl (hcola hready).2))⟩
      · obtain ⟨hid, i, hi, cola, hnivel, hmem⟩ := buscarEnNiveles_esHilo hp hready
        refine ⟨hid, Or.inr (Or.inr (Or.inr ⟨i, List.mem_range.mp hi, ?_⟩))⟩
        rw [niveles_of_some hnivel]
        exact hmem
      · exact absurd (Option.some.inj hready).symm hp
      · exact absurd (Option.some.inj hready).symm hp

end

end SoTp.Kernel
