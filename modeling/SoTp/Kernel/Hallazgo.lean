import SoTp.Kernel.Identidad

/-!
# What the lookups find

`buscarHilo` (`kernel/src/main.c`, lines 784–806) asks three collections, one after the
other; `buscarTCBPorPIDyTID` (lines 767–782) asks the levels, and `obtener_PCB_por_PID` (lines
624–646) a queue of processes. `primerHilo` is what each search is for: the first thread of a
list that has the identity.

* `buscarHilo_primero`: **the first thread of the first collection that has one**, and every
  collection as it was.
* `nivelesFieles_iff`: the levels are searched only at their first threads.
* `consultaFiel_iff`: a PCB that is found leaves the queue.
-/

namespace SoTp.Kernel

open SoTp.Lib SoTp.Utils

/-! ## The first thread of a list -/

/-- `comparar_por_PID_y_TID(elemento)` (lines 648–651). -/
def compararPorPIDyTID (tcbs : Puntero → Option TCB) (PID TID : UInt32) (p : Puntero) : Bool :=
  (tcbs p).any fun tcb => tcb.PID = PID ∧ tcb.TID = TID

/-- The first thread of the list with the identity. -/
def primerHilo (tcbs : Puntero → Option TCB) (PID TID : UInt32) (lista : List Puntero) :
    Option Puntero :=
  lista.find? (compararPorPIDyTID tcbs PID TID)

section

variable {tcbs : Puntero → Option TCB} {PID TID : UInt32} {p : Puntero} {lista : List Puntero}

theorem compararPorPIDyTID_iff :
    compararPorPIDyTID tcbs PID TID p = true ↔ EsHilo tcbs PID TID p := by
  unfold compararPorPIDyTID EsHilo
  cases tcbs p <;> simp

theorem primerHilo_eq_none_iff :
    primerHilo tcbs PID TID lista = none ↔ ∀ p ∈ lista, ¬ EsHilo tcbs PID TID p := by
  unfold primerHilo
  simp only [List.find?_eq_none, compararPorPIDyTID_iff]

theorem primerHilo_esHilo (h : primerHilo tcbs PID TID lista = some p) :
    EsHilo tcbs PID TID p :=
  compararPorPIDyTID_iff.mp (List.find?_some h)

theorem primerHilo_append {l₁ l₂ : List Puntero} (hl₁ : ∀ q ∈ l₁, EsOtro tcbs PID TID q)
    (hp : EsHilo tcbs PID TID p) : primerHilo tcbs PID TID (l₁ ++ p :: l₂) = some p := by
  have hnone : l₁.find? (compararPorPIDyTID tcbs PID TID) = none :=
    primerHilo_eq_none_iff.mpr fun q hq => (hl₁ q hq).not_esHilo
  unfold primerHilo
  rw [List.find?_append, hnone, Option.none_or,
    List.find?_cons_of_pos (compararPorPIDyTID_iff.mpr hp)]

theorem obtenerTCBPorPIDyTID_eq_primerHilo (hvivos : ∀ p ∈ lista, (tcbs p).isSome) :
    obtenerTCBPorPIDyTID tcbs PID TID lista =
      some ((primerHilo tcbs PID TID lista).getD NULL) := by
  rcases exists_esHilo_or_forall_esOtro PID TID hvivos with
    ⟨l₁, p, l₂, rfl, hl₁, hp⟩ | hotros
  · rw [obtenerTCBPorPIDyTID_append hl₁ hp, primerHilo_append hl₁ hp, Option.getD_some]
  · rw [obtenerTCBPorPIDyTID_otros hotros,
      primerHilo_eq_none_iff.mpr fun q hq => (hotros q hq).not_esHilo, Option.getD_none]

end

/-! ## One collection after the other -/

/-- The pointers in the collections that `buscarHilo` searches under `FIFO` and `PRIORIDADES`
lead to threads. -/
structure Buscables (s : Nucleo) : Prop where
  nulo : s.tcbs NULL = none
  exec : ∀ p ∈ s.listaExecHilo, (s.tcbs p).isSome
  bloq : ∀ p ∈ s.listaBloqHilo, (s.tcbs p).isSome
  ready : ∀ p ∈ s.colaReadyFifoPrioridades.getD [], (s.tcbs p).isSome

/-- The thread that a search in the three collections is for. -/
def hiloBuscado (PID TID : UInt32) (s : Nucleo) : Option Puntero :=
  ((primerHilo s.tcbs PID TID s.listaExecHilo).or
    (primerHilo s.tcbs PID TID s.listaBloqHilo)).or
    (primerHilo s.tcbs PID TID (s.colaReadyFifoPrioridades.getD []))

section

variable {PID TID : UInt32} {s : Nucleo}

theorem hiloBuscado_esHilo {p : Puntero} (h : hiloBuscado PID TID s = some p) :
    EsHilo s.tcbs PID TID p := by
  unfold hiloBuscado at h
  rw [Option.or_eq_some_iff, Option.or_eq_some_iff] at h
  rcases h with (h | ⟨-, h⟩) | ⟨-, h⟩
  · exact primerHilo_esHilo h
  · exact primerHilo_esHilo h
  · exact primerHilo_esHilo h

theorem hiloBuscado_eq_none_iff :
    hiloBuscado PID TID s = none ↔ ∀ p, p ∈ s.listaExecHilo ∨ p ∈ s.listaBloqHilo ∨
      p ∈ s.colaReadyFifoPrioridades.getD [] → ¬ EsHilo s.tcbs PID TID p := by
  unfold hiloBuscado
  rw [Option.or_eq_none_iff, Option.or_eq_none_iff, primerHilo_eq_none_iff,
    primerHilo_eq_none_iff, primerHilo_eq_none_iff]
  constructor
  · rintro ⟨⟨hexec, hbloq⟩, hready⟩ p (hp | hp | hp)
    · exact hexec p hp
    · exact hbloq p hp
    · exact hready p hp
  · intro h
    exact ⟨⟨fun p hp => h p (Or.inl hp), fun p hp => h p (Or.inr (Or.inl hp))⟩,
      fun p hp => h p (Or.inr (Or.inr hp))⟩

theorem getD_null_eq_null_iff {o : Option Puntero} (ho : ∀ p, o = some p → p ≠ NULL) :
    o.getD NULL = NULL ↔ o = none := by
  cases o with
  | none => exact iff_of_true rfl rfl
  | some p => exact iff_of_false (ho p rfl) (Option.some_ne_none p)

/-- **Where a thread is found.** Under `FIFO` and `PRIORIDADES`, for any contents of the three
collections, `buscarHilo` comes back with the first thread that has the identity in
`lista_exec_hilo`, else in `lista_bloq_hilo`, else in the ready queue. It is `NULL` exactly when
none of them has one, and everything is left as it was. -/
theorem buscarHilo_primero (PID TID : UInt32) (s : Nucleo) (hs : Buscables s)
    (halgoritmo : s.algoritmo = .fifo ∨ s.algoritmo = .prioridades) :
    ∃ p, buscarHilo PID TID s = some (p, s) ∧
      p = (((primerHilo s.tcbs PID TID s.listaExecHilo).or
        (primerHilo s.tcbs PID TID s.listaBloqHilo)).or
        (primerHilo s.tcbs PID TID (s.colaReadyFifoPrioridades.getD []))).getD NULL ∧
      (p = NULL ↔ ∀ q, q ∈ s.listaExecHilo ∨ q ∈ s.listaBloqHilo ∨
        q ∈ s.colaReadyFifoPrioridades.getD [] → ¬ EsHilo s.tcbs PID TID q) := by
  refine ⟨(hiloBuscado PID TID s).getD NULL, ?_, rfl, ?_⟩
  · have hready : buscarEnReady PID TID s =
        some ((primerHilo s.tcbs PID TID (s.colaReadyFifoPrioridades.getD [])).getD NULL) := by
      rw [← obtenerTCBPorPIDyTID_eq_primerHilo hs.ready]
      unfold buscarEnReady
      rcases halgoritmo with halgoritmo | halgoritmo
      · rw [halgoritmo]
      · rw [halgoritmo]
    rw [buscarHilo_eq hs.nulo, obtenerTCBPorPIDyTID_eq_primerHilo hs.exec, Option.bind_some,
      obtenerTCBPorPIDyTID_eq_primerHilo hs.bloq, Option.bind_some, hready, Option.map_some]
    unfold hiloBuscado
    cases hexec : primerHilo s.tcbs PID TID s.listaExecHilo with
    | some p =>
      obtain ⟨tcb, htcb, -⟩ := primerHilo_esHilo hexec
      rw [Option.getD_some, if_pos (ne_null_of_eq_some hs.nulo htcb)]
      rfl
    | none =>
      rw [Option.getD_none, if_neg (not_not.mpr rfl), Option.none_or]
      cases hbloq : primerHilo s.tcbs PID TID s.listaBloqHilo with
      | some p =>
        obtain ⟨tcb, htcb, -⟩ := primerHilo_esHilo hbloq
        rw [Option.getD_some, if_pos (ne_null_of_eq_some hs.nulo htcb)]
        rfl
      | none => rw [Option.getD_none, if_neg (not_not.mpr rfl), Option.none_or]
  · rw [← hiloBuscado_eq_none_iff]
    refine getD_null_eq_null_iff fun p hp => ?_
    obtain ⟨tcb, htcb, -⟩ := hiloBuscado_esHilo hp
    exact ne_null_of_eq_some hs.nulo htcb

end

/-- Thread 1 of process 0 is at the addresses 3 and 4 of the ready queue; threads 0 and 2 run
and wait. -/
def cuatroBuscados : Nucleo :=
  { nucleoInicial .prioridades with
    tcbs := fun p =>
      [none, some ⟨0, 0, 0, EstadoProceso.exec.codigo⟩, some ⟨0, 2, 0, EstadoProceso.blocked.codigo⟩,
        some ⟨0, 1, 5, EstadoProceso.ready.codigo⟩,
        some ⟨0, 1, 7, EstadoProceso.ready.codigo⟩].getD p none
    listaExecHilo := [1]
    listaBloqHilo := [2]
    colaReadyFifoPrioridades := some [3, 4] }

/-- The one in front is found, and the queue keeps its order. -/
theorem buscarHilo_primero_cuatro : ∃ p, buscarHilo 0 1 cuatroBuscados = some (p, cuatroBuscados) ∧
    p = (((primerHilo cuatroBuscados.tcbs 0 1 [1]).or
      (primerHilo cuatroBuscados.tcbs 0 1 [2])).or
      (primerHilo cuatroBuscados.tcbs 0 1 [3, 4])).getD NULL ∧
    (p = NULL ↔ ∀ q, q ∈ [1] ∨ q ∈ [2] ∨ q ∈ [3, 4] → ¬ EsHilo cuatroBuscados.tcbs 0 1 q) :=
  buscarHilo_primero 0 1 cuatroBuscados
    ⟨rfl, by decide, by decide, by decide⟩ (Or.inr rfl)

/-! ## The levels -/

/-- The search goes over the first threads of the levels. -/
theorem buscarEnNiveles_cases {tcbs : Puntero → Option TCB} (PID TID : UInt32)
    {colas : ℕ → Option (List Puntero)} {is : List ℕ}
    (hcreadas : ∀ i ∈ is, (colas i).isSome)
    (hvivos : ∀ i ∈ is, ∀ q ∈ (colas i).getD [], (tcbs q).isSome) :
    ∃ p, buscarEnNiveles tcbs colas PID TID is = some p ∧
      ((EsHilo tcbs PID TID p ∧ ∃ i ∈ is, p ∈ ((colas i).getD []).head?) ∨
        (p = NULL ∧ ∀ i ∈ is, ∀ q ∈ ((colas i).getD []).head?, EsOtro tcbs PID TID q)) := by
  induction is with
  | nil => exact ⟨NULL, rfl, Or.inr ⟨rfl, fun i hi => absurd hi List.not_mem_nil⟩⟩
  | cons i is ih =>
    rw [List.forall_mem_cons] at hcreadas hvivos
    obtain ⟨cola, hcola⟩ := Option.isSome_iff_exists.mp hcreadas.1
    have hvivos₀ := hvivos.1
    rw [hcola, Option.getD_some] at hvivos₀
    -- the rest of the levels decides
    have hresto (hi : ∀ q ∈ cola.head?, EsOtro tcbs PID TID q) :
        ∃ p, buscarEnNiveles tcbs colas PID TID is = some p ∧
          ((EsHilo tcbs PID TID p ∧ ∃ j ∈ i :: is, p ∈ ((colas j).getD []).head?) ∨
            (p = NULL ∧ ∀ j ∈ i :: is, ∀ q ∈ ((colas j).getD []).head?,
              EsOtro tcbs PID TID q)) := by
      obtain ⟨p, hp, ⟨hid, j, hj, hcabeza⟩ | ⟨hnull, hotros⟩⟩ := ih hcreadas.2 hvivos.2
      · exact ⟨p, hp, Or.inl ⟨hid, j, List.mem_cons_of_mem i hj, hcabeza⟩⟩
      · refine ⟨p, hp, Or.inr ⟨hnull, List.forall_mem_cons.mpr ⟨?_, hotros⟩⟩⟩
        rw [hcola, Option.getD_some]
        exact hi
    rw [buscarEnNiveles, hcola]
    cases cola with
    | nil => exact hresto fun q hq => absurd hq (Option.not_mem_none q)
    | cons q cola =>
      obtain ⟨tcb, htcb⟩ := Option.isSome_iff_exists.mp (hvivos₀ q List.mem_cons_self)
      dsimp only [Option.bind_eq_bind, Option.bind_some]
      rw [htcb, Option.bind_some]
      by_cases hid : tcb.PID = PID ∧ tcb.TID = TID
      · rw [if_pos hid]
        refine ⟨q, rfl, Or.inl ⟨⟨tcb, htcb, hid⟩, i, List.mem_cons_self, ?_⟩⟩
        rw [hcola]
        rfl
      · rw [if_neg hid]
        refine hresto fun r hr => ?_
        obtain rfl := Option.mem_some_iff.mp hr
        exact ⟨tcb, htcb, hid⟩

/-- The levels are searched as they should be: a thread that is in one of them is found, `NULL`
means that it is in none, and every level is as it was. -/
structure BusquedaFiel (PID TID : UInt32) (s : Nucleo) : Prop where
  hallado : (∃ i < maxNivelesPrioridad, ∃ q ∈ niveles s.toEstadoKernel i,
    EsHilo s.tcbs PID TID q) →
    ∃ p, buscarTCBPorPIDyTID s.tcbs s.colasReadyCmn PID TID = some p ∧ EsHilo s.tcbs PID TID p
  nulo : buscarTCBPorPIDyTID s.tcbs s.colasReadyCmn PID TID = some NULL ↔
    ∀ i < maxNivelesPrioridad, ∀ q ∈ niveles s.toEstadoKernel i, ¬ EsHilo s.tcbs PID TID q
  iguales : ∀ p s', buscarHilo PID TID s = some (p, s') → s'.colasReadyCmn = s.colasReadyCmn

/-- **Which threads of the levels are found.** For any contents of the levels, they are searched
as they should be exactly when a thread that is in one of them is also the first of one. -/
theorem busquedaFiel_iff (PID TID : UInt32) (s : Nucleo) (hnulo : s.tcbs NULL = none)
    (hcreadas : ∀ i < maxNivelesPrioridad, (s.colasReadyCmn i).isSome)
    (hvivos : ∀ i < maxNivelesPrioridad, ∀ q ∈ niveles s.toEstadoKernel i,
      (s.tcbs q).isSome) :
    BusquedaFiel PID TID s ↔
      ((∃ i < maxNivelesPrioridad, ∃ q ∈ niveles s.toEstadoKernel i, EsHilo s.tcbs PID TID q) →
        ∃ i < maxNivelesPrioridad, ∃ q ∈ (niveles s.toEstadoKernel i).head?,
          EsHilo s.tcbs PID TID q) := by
  obtain ⟨p, hp, hcases⟩ := buscarEnNiveles_cases PID TID
    (fun i hi => hcreadas i (List.mem_range.mp hi)) (fun i hi => hvivos i (List.mem_range.mp hi))
  have hbuscar : buscarTCBPorPIDyTID s.tcbs s.colasReadyCmn PID TID = some p := hp
  constructor
  · intro h hesta
    obtain ⟨q, hq, hid⟩ := h.hallado hesta
    obtain rfl := Option.some.inj (hbuscar.symm.trans hq)
    rcases hcases with ⟨-, i, hi, hcabeza⟩ | ⟨rfl, -⟩
    · exact ⟨i, List.mem_range.mp hi, p, hcabeza, hid⟩
    · obtain ⟨tcb, htcb, -⟩ := hid
      exact absurd rfl (ne_null_of_eq_some hnulo htcb)
  · intro hprimero
    rcases hcases with ⟨hid, i, hi, hcabeza⟩ | ⟨rfl, hotros⟩
    · obtain ⟨tcb, htcb, -⟩ := id hid
      refine ⟨fun _ => ⟨p, hbuscar, hid⟩, iff_of_false ?_ fun h => ?_, ?_⟩
      · rw [hbuscar]
        exact fun h => ne_null_of_eq_some hnulo htcb (Option.some.inj h)
      · exact h i (List.mem_range.mp hi) p (List.mem_of_mem_head? hcabeza) hid
      · intro q s' h
        rw [buscarHilo_eq_some h]
    · have hnadie : ¬ ∃ i < maxNivelesPrioridad, ∃ q ∈ niveles s.toEstadoKernel i,
          EsHilo s.tcbs PID TID q := by
        intro hesta
        obtain ⟨i, hi, q, hcabeza, hid⟩ := hprimero hesta
        exact (hotros i (List.mem_range.mpr hi) q hcabeza).not_esHilo hid
      refine ⟨fun hesta => absurd hesta hnadie, iff_of_true hbuscar ?_, ?_⟩
      · intro i hi q hq hid
        exact hnadie ⟨i, hi, q, hq, hid⟩
      · intro q s' h
        rw [buscarHilo_eq_some h]

/-- Level 0 holds thread 0 and, behind it, thread 1 of process 0. -/
def nivelDeDos : Nucleo :=
  { nucleoInicial .cmn with
    tcbs := fun p =>
      [none, some ⟨0, 0, 0, EstadoProceso.ready.codigo⟩,
        some ⟨0, 1, 0, EstadoProceso.ready.codigo⟩].getD p none
    colasReadyCmn := fun i => if i = 0 then some [1, 2] else some [] }

theorem creadas_nivelDeDos (i : ℕ) : (nivelDeDos.colasReadyCmn i).isSome := by
  unfold nivelDeDos
  dsimp only
  split <;> rfl

theorem niveles_nivelDeDos {i : ℕ} {q : Puntero} (h : q ∈ niveles nivelDeDos.toEstadoKernel i) :
    q = 1 ∨ q = 2 := by
  unfold niveles nivelDeDos at h
  dsimp only at h
  split at h
  · exact List.mem_pair.mp h
  · exact absurd h List.not_mem_nil

theorem vivos_nivelDeDos {i : ℕ} {q : Puntero} (h : q ∈ niveles nivelDeDos.toEstadoKernel i) :
    (nivelDeDos.tcbs q).isSome := by
  rcases niveles_nivelDeDos h with rfl | rfl
  · rfl
  · rfl

/-- Thread 0 is found. -/
theorem busquedaFiel_nivelDeDos : BusquedaFiel 0 0 nivelDeDos :=
  (busquedaFiel_iff 0 0 nivelDeDos rfl (fun i _ => creadas_nivelDeDos i)
    (fun _ _ _ h => vivos_nivelDeDos h)).mpr
    fun _ => ⟨0, by decide, 1, rfl, ⟨_, rfl, rfl, rfl⟩⟩

/-- Thread 1 is not: the first thread of the level is compared twice. -/
theorem not_busquedaFiel_nivelDeDos :
    niveles nivelDeDos.toEstadoKernel 0 = [1, 2] ∧ EsHilo nivelDeDos.tcbs 0 1 2 ∧
      buscarTCBPorPIDyTID nivelDeDos.tcbs nivelDeDos.colasReadyCmn 0 1 = some NULL ∧
      ¬ BusquedaFiel 0 1 nivelDeDos := by
  have hnull : buscarTCBPorPIDyTID nivelDeDos.tcbs nivelDeDos.colasReadyCmn 0 1 = some NULL := by
    decide
  refine ⟨rfl, ⟨_, rfl, rfl, rfl⟩, hnull, fun h => ?_⟩
  exact h.nulo.mp hnull 0 (by decide) 2 (List.mem_pair.mpr (Or.inr rfl)) ⟨_, rfl, rfl, rfl⟩

/-! ## A queue of processes -/

/-- `p` is a process with that `PID`. -/
def EsPcb (pcbs : Puntero → Option PCB) (PID : UInt32) (p : Puntero) : Prop :=
  ∃ pcb, pcbs p = some pcb ∧ pcb.PID = PID

/-- `p` is a process with another `PID`. -/
def EsOtroPcb (pcbs : Puntero → Option PCB) (PID : UInt32) (p : Puntero) : Prop :=
  ∃ pcb, pcbs p = some pcb ∧ pcb.PID ≠ PID

/-- `comparar_por_PID(elemento)` (lines 618–621). -/
def compararPorPID (pcbs : Puntero → Option PCB) (PID : UInt32) (p : Puntero) : Bool :=
  (pcbs p).any fun pcb => pcb.PID = PID

section

variable {pcbs : Puntero → Option PCB} {PID : UInt32} {p : Puntero} {l₁ l₂ cola : List Puntero}

theorem compararPorPID_iff : compararPorPID pcbs PID p = true ↔ EsPcb pcbs PID p := by
  unfold compararPorPID EsPcb
  cases pcbs p <;> simp

theorem EsOtroPcb.not_esPcb (h : EsOtroPcb pcbs PID p) : ¬ EsPcb pcbs PID p := by
  obtain ⟨pcb, hpcb, hne⟩ := h
  rintro ⟨pcb', hpcb', hPID⟩
  obtain rfl := Option.some.inj (hpcb.symm.trans hpcb')
  exact hne hPID

theorem rotarPCB_cons_of_esOtroPcb {n : ℕ} (h : EsOtroPcb pcbs PID p) :
    rotarPCB pcbs PID (n + 1) (p :: cola) = rotarPCB pcbs PID n (cola ++ [p]) := by
  obtain ⟨pcb, hpcb, hne⟩ := h
  rw [rotarPCB, List.headD_cons, hpcb]
  exact if_neg hne

theorem rotarPCB_cons_of_esPcb {n : ℕ} (h : EsPcb pcbs PID p) :
    rotarPCB pcbs PID (n + 1) (p :: cola) = some (p, cola) := by
  obtain ⟨pcb, hpcb, hPID⟩ := h
  rw [rotarPCB, List.headD_cons, hpcb]
  exact if_pos hPID

theorem rotarPCB_append (l₂ : List Puntero) (n : ℕ) (hl₁ : ∀ q ∈ l₁, EsOtroPcb pcbs PID q) :
    rotarPCB pcbs PID (l₁.length + n) (l₁ ++ l₂) = rotarPCB pcbs PID n (l₂ ++ l₁) := by
  induction l₁ generalizing l₂ with
  | nil => rw [List.length_nil, Nat.zero_add, List.nil_append, List.append_nil]
  | cons q l₁ ih =>
    rw [List.forall_mem_cons] at hl₁
    rw [List.length_cons, Nat.add_right_comm, List.cons_append,
      rotarPCB_cons_of_esOtroPcb hl₁.1, List.append_assoc, ih _ hl₁.2, List.append_assoc,
      List.singleton_append]

theorem obtenerPCBPorPID_otros (h : ∀ q ∈ cola, EsOtroPcb pcbs PID q) :
    obtenerPCBPorPID pcbs PID cola = some (NULL, cola) := by
  have hvuelta := rotarPCB_append [] 0 h
  rw [Nat.add_zero, List.append_nil, List.nil_append] at hvuelta
  exact hvuelta

theorem obtenerPCBPorPID_append (hl₁ : ∀ q ∈ l₁, EsOtroPcb pcbs PID q)
    (hp : EsPcb pcbs PID p) :
    obtenerPCBPorPID pcbs PID (l₁ ++ p :: l₂) = some (p, l₂ ++ l₁) := by
  unfold obtenerPCBPorPID
  rw [List.length_append, List.length_cons, rotarPCB_append _ _ hl₁, List.cons_append,
    rotarPCB_cons_of_esPcb hp]

/-- Among live processes there is a first one with the `PID`, or none. -/
theorem exists_esPcb_or_forall_esOtroPcb (PID : UInt32) (hvivos : ∀ q ∈ cola, (pcbs q).isSome) :
    (∃ l₁ p l₂, cola = l₁ ++ p :: l₂ ∧ (∀ q ∈ l₁, EsOtroPcb pcbs PID q) ∧ EsPcb pcbs PID p) ∨
      ∀ q ∈ cola, EsOtroPcb pcbs PID q := by
  induction cola with
  | nil => exact Or.inr fun q hq => absurd hq List.not_mem_nil
  | cons q cola ih =>
    rw [List.forall_mem_cons] at hvivos
    obtain ⟨pcb, hpcb⟩ := Option.isSome_iff_exists.mp hvivos.1
    by_cases hPID : pcb.PID = PID
    · exact Or.inl ⟨[], q, cola, rfl, fun r hr => absurd hr List.not_mem_nil, pcb, hpcb, hPID⟩
    · rcases ih hvivos.2 with ⟨l₁, p, l₂, rfl, hl₁, hp⟩ | hotros
      · exact Or.inl ⟨q :: l₁, p, l₂, rfl,
          List.forall_mem_cons.mpr ⟨⟨pcb, hpcb, hPID⟩, hl₁⟩, hp⟩
      · exact Or.inr (List.forall_mem_cons.mpr ⟨⟨pcb, hpcb, hPID⟩, hotros⟩)

/-- Looking up a process is looking at the queue: the first process with the `PID` is found,
`NULL` means that there is none, the queue stays as it is, and once more gives the same. -/
structure ConsultaFiel (pcbs : Puntero → Option PCB) (PID : UInt32) (cola : List Puntero) :
    Prop where
  primero : ∃ cola', obtenerPCBPorPID pcbs PID cola =
    some ((cola.find? (compararPorPID pcbs PID)).getD NULL, cola')
  nulo : (∃ cola', obtenerPCBPorPID pcbs PID cola = some (NULL, cola')) ↔
    ∀ q ∈ cola, ¬ EsPcb pcbs PID q
  igual : ∀ p cola', obtenerPCBPorPID pcbs PID cola = some (p, cola') → cola' = cola
  otraVez : ∀ p cola', obtenerPCBPorPID pcbs PID cola = some (p, cola') →
    ∃ cola'', obtenerPCBPorPID pcbs PID cola' = some (p, cola'')

/-- **When a lookup leaves the queue alone.** For any queue of processes and any `PID`:
exactly when none of them has it. -/
theorem consultaFiel_iff (pcbs : Puntero → Option PCB) (PID : UInt32) (cola : List Puntero)
    (hvivos : ∀ q ∈ cola, (pcbs q).isSome) :
    ConsultaFiel pcbs PID cola ↔ ∀ q ∈ cola, ¬ EsPcb pcbs PID q := by
  rcases exists_esPcb_or_forall_esOtroPcb PID hvivos with ⟨l₁, p, l₂, rfl, hl₁, hp⟩ | hotros
  · refine iff_of_false (fun h => ?_) fun h => h p (by simp) hp
    have hlength := congrArg List.length (h.igual _ _ (obtenerPCBPorPID_append hl₁ hp))
    simp only [List.length_append, List.length_cons] at hlength
    omega
  · have hninguno : ∀ q ∈ cola, ¬ EsPcb pcbs PID q := fun q hq => (hotros q hq).not_esPcb
    have hobtener := obtenerPCBPorPID_otros hotros
    refine iff_of_true ⟨?_, iff_of_true ⟨cola, hobtener⟩ hninguno, ?_, ?_⟩ hninguno
    · have hfind : cola.find? (compararPorPID pcbs PID) = none := by
        simpa only [List.find?_eq_none, compararPorPID_iff] using hninguno
      rw [hfind, Option.getD_none]
      exact ⟨cola, hobtener⟩
    · intro p cola' h
      exact (Prod.mk.inj (Option.some.inj (hobtener.symm.trans h))).2.symm
    · intro p cola' h
      obtain ⟨rfl, rfl⟩ := Prod.mk.inj (Option.some.inj (hobtener.symm.trans h))
      exact ⟨cola, hobtener⟩

end

/-- The processes 0, 1 and 2, at the addresses 1, 2 and 3. -/
def tresPcbs : Puntero → Option PCB := fun p =>
  [none, some ⟨0, .exec, [], []⟩, some ⟨1, .exec, [], []⟩, some ⟨2, .exec, [], []⟩].getD p none

/-- There is no process 7. -/
theorem consultaFiel_tresPcbs : ConsultaFiel tresPcbs 7 [1, 2, 3] := by
  refine (consultaFiel_iff tresPcbs 7 [1, 2, 3] (by decide)).mpr fun q hq => ?_
  rw [← compararPorPID_iff]
  fin_cases hq
  · decide
  · decide
  · decide

/-- Process 1 is found in the middle. It leaves the queue, the others change places, and a
second lookup comes back with nothing. -/
theorem not_consultaFiel_tresPcbs :
    obtenerPCBPorPID tresPcbs 1 [1, 2, 3] = some (2, [3, 1]) ∧
      obtenerPCBPorPID tresPcbs 1 [3, 1] = some (NULL, [3, 1]) ∧
      ¬ ConsultaFiel tresPcbs 1 [1, 2, 3] := by
  have hobtener : obtenerPCBPorPID tresPcbs 1 [1, 2, 3] = some (2, [3, 1]) := by decide
  exact ⟨hobtener, by decide, fun h => absurd (h.igual _ _ hobtener) (by decide)⟩

end SoTp.Kernel
