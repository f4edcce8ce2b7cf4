import SoTp.Kernel.Hallazgo
import SoTp.Lib.Edit

/-!
# Removing threads from a queue

`quitar_TCB_de_cola` (`kernel/src/main.c`, lines 681–711) takes one thread out of a queue,
`queue_remove` (`kernel/src/k_corto_plazo.c`, lines 198–226) all that are equal to a given one,
and frees them. Both empty the queue into another one, which leaves out what is removed, and
fill it again. A block that has been freed is `none`, and so is what is read from it.

* `quitarTCBDeCola_eq`: the first one is `List.eraseP`.
* `separarTCB_eq`, `separarTCB_distintos`: the second one is `List.filter` when it frees no block
  twice, and else it goes through a block that it has freed.
* `remocionFiel_iff`: both keep the order of the rest and agree where at most one thread is
  removed, **exactly when the threads to remove are different blocks**.
-/

namespace SoTp.Kernel

open SoTp.Lib SoTp.Utils

/-! ## Model -/

/-- `es_TCB_buscado(tcb, PID, TID)` (lines 681–683). -/
def esTCBBuscado (tcb : TCB) (PID TID : UInt32) : Bool := tcb.PID = PID ∧ tcb.TID = TID

/-- The first loop of `quitar_TCB_de_cola` (lines 694–702): threads are compared until one is
found, and all others move to `cola_auxiliar`. -/
def apartarTCB (tcbs : Puntero → Option TCB) (PID TID : UInt32) :
    Puntero → List Puntero → List Puntero → Option (Puntero × List Puntero)
  | encontrado, auxiliar, [] => some (encontrado, auxiliar)
  | encontrado, auxiliar, p :: cola =>
    if encontrado = NULL then do
      let tcb ← tcbs p
      if esTCBBuscado tcb PID TID then apartarTCB tcbs PID TID p auxiliar cola
      else apartarTCB tcbs PID TID encontrado (auxiliar ++ [p]) cola
    else apartarTCB tcbs PID TID encontrado (auxiliar ++ [p]) cola

/-- `quitar_TCB_de_cola(cola, PID, TID)` (lines 686–711), with the queue afterwards. -/
def quitarTCBDeCola (tcbs : Puntero → Option TCB) (PID TID : UInt32) :
    Option (List Puntero) → Option (Puntero × Option (List Puntero))
  | none => some (NULL, none)
  | some cola =>
    (apartarTCB tcbs PID TID NULL [] cola).map fun r => (r.1, some (restaurar [] r.2))

/-- `tcb_equals(tcb1, tcb2)` (lines 198–200). -/
def tcbEquals (tcb₁ tcb₂ : TCB) : Bool := tcb₁.PID = tcb₂.PID ∧ tcb₁.TID = tcb₂.TID

/-- The first loop of `queue_remove` (lines 211–218): the threads that stay move to `temp_queue`,
the blocks of the others are freed. With the heap afterwards. -/
def separarTCB (unTcb : TCB) :
    (Puntero → Option TCB) → List Puntero → List Puntero →
      Option (List Puntero × (Puntero → Option TCB))
  | tcbs, temp, [] => some (temp, tcbs)
  | tcbs, temp, p :: cola => do
    let tcb ← tcbs p
    if tcbEquals tcb unTcb then separarTCB unTcb (Function.update tcbs p none) temp cola
    else separarTCB unTcb tcbs (temp ++ [p]) cola

/-- `queue_remove(cola, un_tcb)` (lines 203–226), with the queue and the heap afterwards. What
`un_tcb` points to is read at the call. -/
def queueRemove (tcbs : Puntero → Option TCB) (unTcb : Puntero) :
    Option (List Puntero) → Option (Option (List Puntero) × (Puntero → Option TCB))
  | none => some (none, tcbs)
  | some cola =>
    if unTcb = NULL then some (some cola, tcbs)
    else do
      let tcb ← tcbs unTcb
      (separarTCB tcb tcbs [] cola).map fun r => (some (restaurar [] r.1), r.2)

/-! ## Specification -/

/-- `p` and `cola₁` are what `quitar_TCB_de_cola` owes to the queue, `cola₂` and `tcbs'` what
`queue_remove` owes to it for a thread with that identity: the first one is taken out, or all of
them are and are freed, the rest is in order, and where there is at most one to remove both leave
the same queue. -/
structure RemocionFiel (tcbs : Puntero → Option TCB) (PID TID : UInt32) (cola : List Puntero)
    (unTcb p : Puntero) (cola₁ cola₂ : List Puntero) (tcbs' : Puntero → Option TCB) : Prop where
  quita : quitarTCBDeCola tcbs PID TID (some cola) = some (p, some cola₁)
  primero : (∃ l₁ l₂, cola = l₁ ++ p :: l₂ ∧ EsHilo tcbs PID TID p ∧
      (∀ q ∈ l₁, ¬ EsHilo tcbs PID TID q) ∧ cola₁ = l₁ ++ l₂) ∨
    (p = NULL ∧ (∀ q ∈ cola, ¬ EsHilo tcbs PID TID q) ∧ cola₁ = cola)
  remueve : queueRemove tcbs unTcb (some cola) = some (some cola₂, tcbs')
  todos : cola₂ = cola.filter fun q => !compararPorPIDyTID tcbs PID TID q
  libera : ∀ q, tcbs' q =
    if q ∈ cola.filter (compararPorPIDyTID tcbs PID TID) then none else tcbs q
  orden : cola₁.Sublist cola ∧ cola₂.Sublist cola
  acuerdo : cola.countP (compararPorPIDyTID tcbs PID TID) ≤ 1 → cola₁ = cola₂

/-! ## The loops -/

section

variable {tcbs heap : Puntero → Option TCB} {PID TID : UInt32} {p : Puntero}
  {cola auxiliar temp : List Puntero}

theorem esTCBBuscado_eq {tcb : TCB} (htcb : tcbs p = some tcb) :
    esTCBBuscado tcb PID TID = compararPorPIDyTID tcbs PID TID p := by
  unfold compararPorPIDyTID
  rw [htcb]
  rfl

theorem tcbEquals_eq {tcb unTcb : TCB} (htcb : tcbs p = some tcb) :
    tcbEquals tcb unTcb = compararPorPIDyTID tcbs unTcb.PID unTcb.TID p := by
  unfold compararPorPIDyTID
  rw [htcb]
  rfl

theorem apartarTCB_hallado (hp : p ≠ NULL) :
    apartarTCB tcbs PID TID p auxiliar cola = some (p, auxiliar ++ cola) := by
  induction cola generalizing auxiliar with
  | nil => rw [apartarTCB, List.append_nil]
  | cons q cola ih =>
    rw [apartarTCB, if_neg hp, ih, List.append_assoc, List.singleton_append]

/-- What moves to `cola_auxiliar` is everything but the first one. -/
theorem apartarTCB_eq (hnulo : tcbs NULL = none) (hvivos : ∀ q ∈ cola, (tcbs q).isSome) :
    apartarTCB tcbs PID TID NULL auxiliar cola =
      some ((primerHilo tcbs PID TID cola).getD NULL,
        auxiliar ++ cola.eraseP (compararPorPIDyTID tcbs PID TID)) := by
  unfold primerHilo
  induction cola generalizing auxiliar with
  | nil => rw [apartarTCB, List.eraseP_nil, List.append_nil, List.find?_nil, Option.getD_none]
  | cons q cola ih =>
    rw [List.forall_mem_cons] at hvivos
    obtain ⟨tcb, htcb⟩ := Option.isSome_iff_exists.mp hvivos.1
    rw [apartarTCB, if_pos rfl, htcb]
    dsimp only [Option.bind_eq_bind, Option.bind_some]
    rw [esTCBBuscado_eq htcb]
    by_cases hq : compararPorPIDyTID tcbs PID TID q = true
    · rw [if_pos hq, apartarTCB_hallado (ne_null_of_eq_some hnulo htcb),
        List.find?_cons_of_pos hq, List.eraseP_cons_of_pos hq, Option.getD_some]
    · rw [if_neg hq, ih hvivos.2, List.find?_cons_of_neg hq, List.eraseP_cons_of_neg hq,
        List.append_assoc, List.singleton_append]

theorem mismos_update (hmismos : ∀ q ∈ p :: cola, heap q = tcbs q) (hp : p ∉ cola) :
    ∀ q ∈ cola, Function.update heap p none q = tcbs q := by
  intro q hq
  have hne : q ≠ p := by
    rintro rfl
    exact hp hq
  rw [Function.update_of_ne hne]
  exact hmismos q (List.mem_cons_of_mem p hq)

/-- What moves to `temp_queue` is everything that is not equal, and the rest is freed, when no
block is to be freed twice. The comparisons are those of the heap at the call. -/
theorem separarTCB_eq (unTcb : TCB) (temp : List Puntero) (hmismos : ∀ q ∈ cola, heap q = tcbs q)
    (hvivos : ∀ q ∈ cola, (tcbs q).isSome)
    (hdistintos : (cola.filter (compararPorPIDyTID tcbs unTcb.PID unTcb.TID)).Nodup) :
    ∃ heap', separarTCB unTcb heap temp cola =
        some (temp ++ cola.filter (fun q => !compararPorPIDyTID tcbs unTcb.PID unTcb.TID q),
          heap') ∧
      ∀ q, heap' q =
        if q ∈ cola.filter (compararPorPIDyTID tcbs unTcb.PID unTcb.TID) then none else heap q := by
  induction cola generalizing heap temp with
  | nil => exact ⟨heap, by rw [separarTCB, List.filter_nil, List.append_nil], fun q => by simp⟩
  | cons p cola ih =>
    have hvivos' : ∀ q ∈ cola, (tcbs q).isSome := fun q hq => hvivos q (List.mem_cons_of_mem p hq)
    obtain ⟨tcb, htcb⟩ := Option.isSome_iff_exists.mp (hvivos p List.mem_cons_self)
    rw [separarTCB, hmismos p List.mem_cons_self, htcb]
    dsimp only [Option.bind_eq_bind, Option.bind_some]
    rw [tcbEquals_eq htcb]
    by_cases hp : compararPorPIDyTID tcbs unTcb.PID unTcb.TID p = true
    · rw [List.filter_cons_of_pos hp, List.nodup_cons] at hdistintos
      have hfuera : p ∉ cola := fun hmem => hdistintos.1 (List.mem_filter.mpr ⟨hmem, hp⟩)
      obtain ⟨heap', hsepara, hheap⟩ := ih temp (mismos_update hmismos hfuera) hvivos'
        hdistintos.2
      refine ⟨heap', ?_, fun q => ?_⟩
      · rw [if_pos hp, hsepara, List.filter_cons_of_neg (by simp [hp])]
      · rw [hheap, List.filter_cons_of_pos hp]
        by_cases hq : q = p
        · subst hq
          rw [Function.update_self, ite_self, if_pos List.mem_cons_self]
        · rw [Function.update_of_ne hq]
          simp only [List.mem_cons, hq, false_or]
    · rw [List.filter_cons_of_neg hp] at hdistintos ⊢
      obtain ⟨heap', hsepara, hheap⟩ := ih (temp ++ [p])
        (fun q hq => hmismos q (List.mem_cons_of_mem p hq)) hvivos' hdistintos
      refine ⟨heap', ?_, hheap⟩
      rw [if_neg hp, hsepara, List.filter_cons_of_pos (by simp [hp]), List.append_assoc,
        List.singleton_append]

/-- The loop comes back only when every thread that it reads is there: what it has freed does not
come again. -/
theorem separarTCB_vivos {unTcb : TCB} {r : List Puntero × (Puntero → Option TCB)}
    (h : separarTCB unTcb heap temp cola = some r) : ∀ q ∈ cola, (heap q).isSome := by
  induction cola generalizing heap temp with
  | nil => exact fun q hq => absurd hq List.not_mem_nil
  | cons p cola ih =>
    rw [separarTCB] at h
    obtain ⟨tcb, htcb, h⟩ := Option.bind_eq_some_iff.mp h
    refine List.forall_mem_cons.mpr ⟨Option.isSome_iff_exists.mpr ⟨tcb, htcb⟩, fun q hq => ?_⟩
    split at h
    · have hq' := ih h q hq
      by_cases hne : q = p
      · subst hne
        rw [Function.update_self] at hq'
        cases hq'
      · rwa [Function.update_of_ne hne] at hq'
    · exact ih h q hq

/-- It frees no block twice. -/
theorem separarTCB_distintos {unTcb : TCB} {r : List Puntero × (Puntero → Option TCB)}
    (hmismos : ∀ q ∈ cola, heap q = tcbs q) (h : separarTCB unTcb heap temp cola = some r) :
    (cola.filter (compararPorPIDyTID tcbs unTcb.PID unTcb.TID)).Nodup := by
  induction cola generalizing heap temp with
  | nil => exact List.nodup_nil
  | cons p cola ih =>
    rw [separarTCB] at h
    obtain ⟨tcb, htcb, h⟩ := Option.bind_eq_some_iff.mp h
    rw [tcbEquals_eq ((hmismos p List.mem_cons_self).symm.trans htcb)] at h
    split at h
    case isTrue hp =>
      have hfuera : p ∉ cola := by
        intro hmem
        have hvivo := separarTCB_vivos h p hmem
        rw [Function.update_self] at hvivo
        cases hvivo
      rw [List.filter_cons_of_pos hp]
      exact List.nodup_cons.mpr ⟨fun hmem => hfuera (List.mem_filter.mp hmem).1,
        ih (mismos_update hmismos hfuera) h⟩
    case isFalse hp =>
      rw [List.filter_cons_of_neg hp]
      exact ih (fun q hq => hmismos q (List.mem_cons_of_mem p hq)) h

/-! ## The removers -/

theorem quitarTCBDeCola_eq (hnulo : tcbs NULL = none) (hvivos : ∀ q ∈ cola, (tcbs q).isSome) :
    quitarTCBDeCola tcbs PID TID (some cola) =
      some ((primerHilo tcbs PID TID cola).getD NULL,
        some (cola.eraseP (compararPorPIDyTID tcbs PID TID))) := by
  unfold quitarTCBDeCola
  dsimp only
  rw [apartarTCB_eq hnulo hvivos, Option.map_some, restaurar_eq, List.nil_append, List.nil_append]

/-- What is taken out is a thread with the identity that has none before it, or there is none. -/
theorem primerHilo_eraseP (hvivos : ∀ q ∈ cola, (tcbs q).isSome) :
    (∃ l₁ l₂, cola = l₁ ++ (primerHilo tcbs PID TID cola).getD NULL :: l₂ ∧
        EsHilo tcbs PID TID ((primerHilo tcbs PID TID cola).getD NULL) ∧
        (∀ q ∈ l₁, ¬ EsHilo tcbs PID TID q) ∧
        cola.eraseP (compararPorPIDyTID tcbs PID TID) = l₁ ++ l₂) ∨
      ((primerHilo tcbs PID TID cola).getD NULL = NULL ∧
        (∀ q ∈ cola, ¬ EsHilo tcbs PID TID q) ∧
        cola.eraseP (compararPorPIDyTID tcbs PID TID) = cola) := by
  rcases exists_esHilo_or_forall_esOtro PID TID hvivos with
    ⟨l₁, p, l₂, rfl, hl₁, hp⟩ | hotros
  · have hdistintos : ∀ q ∈ l₁, ¬ EsHilo tcbs PID TID q := fun q hq => (hl₁ q hq).not_esHilo
    rw [primerHilo_append hl₁ hp, Option.getD_some]
    refine Or.inl ⟨l₁, l₂, rfl, hp, hdistintos, ?_⟩
    rw [List.eraseP_append_right, List.eraseP_cons_of_pos (compararPorPIDyTID_iff.mpr hp)]
    intro q hq
    rw [compararPorPIDyTID_iff]
    exact hdistintos q hq
  · have hdistintos : ∀ q ∈ cola, ¬ EsHilo tcbs PID TID q :=
      fun q hq => (hotros q hq).not_esHilo
    refine Or.inr ⟨?_, hdistintos, List.eraseP_of_forall_not fun q hq => ?_⟩
    · rw [primerHilo_eq_none_iff.mpr hdistintos, Option.getD_none]
    · rw [compararPorPIDyTID_iff]
      exact hdistintos q hq

theorem queueRemove_eq {unTcb : Puntero} {tcb : TCB} (hnulo : tcbs NULL = none)
    (htcb : tcbs unTcb = some tcb) :
    queueRemove tcbs unTcb (some cola) =
      (separarTCB tcb tcbs [] cola).map fun r => (some r.1, r.2) := by
  unfold queueRemove
  simp only [if_neg (ne_null_of_eq_some hnulo htcb), htcb, Option.bind_eq_bind, Option.bind_some,
    restaurar_eq, List.nil_append]

end

/-- **When the two removers do what they owe**: exactly when the threads of the queue with the
identity are different blocks. Otherwise `queue_remove` reads, and frees, a block that it has
freed. For every queue of threads, and every thread with that identity. -/
theorem remocionFiel_iff (tcbs : Puntero → Option TCB) (PID TID : UInt32)
    (cola : List Puntero) (unTcb : Puntero) (hnulo : tcbs NULL = none)
    (hvivos : ∀ q ∈ cola, (tcbs q).isSome) (hunTcb : EsHilo tcbs PID TID unTcb) :
    (∃ p cola₁ cola₂ tcbs', RemocionFiel tcbs PID TID cola unTcb p cola₁ cola₂ tcbs') ↔
      (cola.filter (compararPorPIDyTID tcbs PID TID)).Nodup := by
  obtain ⟨tcb, htcb, rfl, rfl⟩ := hunTcb
  constructor
  · rintro ⟨p, cola₁, cola₂, tcbs', h⟩
    have hremueve := h.remueve
    rw [queueRemove_eq hnulo htcb] at hremueve
    obtain ⟨r, hsepara, -⟩ := Option.map_eq_some_iff.mp hremueve
    exact separarTCB_distintos (fun _ _ => rfl) hsepara
  · intro hdistintos
    obtain ⟨tcbs', hsepara, hlibera⟩ :=
      separarTCB_eq tcb [] (fun _ _ => rfl) hvivos hdistintos
    refine ⟨_, _, _, tcbs', quitarTCBDeCola_eq hnulo hvivos, primerHilo_eraseP hvivos, ?_, rfl,
      hlibera, ⟨List.eraseP_sublist, List.filter_sublist⟩, eraseP_eq_filter⟩
    rw [queueRemove_eq hnulo htcb, hsepara, List.nil_append, Option.map_some]

/-- Thread (0, 1) has two blocks, at the addresses 2 and 4. -/
def dosBloques : Puntero → Option TCB := fun p =>
  [none, some ⟨0, 0, 0, 1⟩, some ⟨0, 1, 0, 1⟩, some ⟨1, 1, 0, 1⟩, some ⟨0, 1, 3, 1⟩].getD p none

/-- Both are in the queue, once each. -/
theorem remocionFiel_dosBloques : ∃ p cola₁ cola₂ tcbs',
    RemocionFiel dosBloques 0 1 [1, 2, 3, 4] 4 p cola₁ cola₂ tcbs' :=
  (remocionFiel_iff dosBloques 0 1 [1, 2, 3, 4] 4 rfl (by decide) ⟨_, rfl, rfl, rfl⟩).mpr
    (by decide)

/-- The block at 2 is in the queue twice. It is freed the first time, and read again the second
time. -/
theorem not_remocionFiel_bloqueRepetido :
    queueRemove dosBloques 4 (some [2, 2]) = none ∧
      ¬ ∃ p cola₁ cola₂ tcbs', RemocionFiel dosBloques 0 1 [2, 2] 4 p cola₁ cola₂ tcbs' := by
  have hcae : queueRemove dosBloques 4 (some [2, 2]) = none := rfl
  refine ⟨hcae, ?_⟩
  rintro ⟨p, cola₁, cola₂, tcbs', h⟩
  exact absurd (hcae.symm.trans h.remueve) (Option.some_ne_none _).symm

end SoTp.Kernel
