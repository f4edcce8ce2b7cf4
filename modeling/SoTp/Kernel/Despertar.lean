import SoTp.Kernel.Planificacion

/-!
# Waking threads

What `buscarDependiente` does with a thread that waited (`kernel/src/main.c`, lines 758–759):
it marks it as ready and calls `agregarHiloAReady` for it. That puts the thread in the queue
under `FIFO` and `PRIORIDADES`, in a level under `CMN` when it has one, and nowhere under the
other algorithms.

* `agregarHiloAReady_meter`: what the call does with a thread that nobody waits for.
* `despertar_cambia`: after any number of threads have been woken, those that could be put in
  a collection are in one, and no other thread has joined or left.
* `despertar_eq`: under `FIFO` and `PRIORIDADES` they are behind the queue, in order.
-/

namespace SoTp.Kernel

open SoTp.Lib SoTp.Utils

/-! ## Model -/

/-- The state with other dependencies. -/
def conDependencias (deps : List Dependencia) (s : EstadoKernel) : EstadoKernel :=
  { s with listaDependencias := deps }

/-- There is a level for the priority of the thread. -/
def Insertable (d : Puntero) (s : EstadoKernel) : Prop :=
  d ≠ NULL ∧ ∃ tcb cola, s.tcbs d = some tcb ∧ tcb.prioridad.toNat < maxNivelesPrioridad ∧
    s.colasReadyCmn tcb.prioridad.toNat = some cola

/-- `agregarHiloAReady` puts the thread in a collection. -/
def Entra (d : Puntero) (s : EstadoKernel) : Prop :=
  match s.algoritmo with
  | .fifo | .prioridades => True
  | .cmn => Insertable d s
  | .colasMultinivel | .desconocido => False

/-- What `agregarHiloAReady` does with a thread that nobody waits for. -/
def meter (d : Puntero) (s : EstadoKernel) : Option EstadoKernel :=
  match s.algoritmo with
  | .fifo | .prioridades => encolarReady d s
  | .cmn => (insertarEnColaReadyCmn d s).map Prod.snd
  | .colasMultinivel | .desconocido => some s

/-- A thread is marked as ready and put in a collection (lines 758–759). -/
def despertarUno (d : Puntero) (s : EstadoKernel) : Option EstadoKernel :=
  (ponerEstado d .ready s).bind (meter d)

/-- One thread after the other. -/
def despertar : List Puntero → EstadoKernel → Option EstadoKernel
  | [], s => some s
  | d :: ds, s => (despertarUno d s).bind (despertar ds)

/-- The threads that are in a ready collection. -/
def enReady (s : EstadoKernel) : List Puntero :=
  s.colaReadyFifoPrioridades.getD [] ++ waiting maxNivelesPrioridad (niveles s)

/-- What a thread is apart from its state. -/
def sinEstado (tcb : TCB) : UInt32 × UInt32 × UInt32 := (tcb.PID, tcb.TID, tcb.prioridad)

/-- Between `s` and `t` threads have been woken: only their states and the ready collections
have changed. -/
structure MismosHilos (s t : EstadoKernel) : Prop where
  algoritmo : t.algoritmo = s.algoritmo
  dependencias : t.listaDependencias = s.listaDependencias
  bloq : t.listaBloqHilo = s.listaBloqHilo
  cola : t.colaReadyFifoPrioridades.isSome = s.colaReadyFifoPrioridades.isSome
  niveles : ∀ i, (t.colasReadyCmn i).isSome = (s.colasReadyCmn i).isSome
  hilos : ∀ p, (t.tcbs p).map sinEstado = (s.tcbs p).map sinEstado

section

variable {s s' t u : EstadoKernel} {d p : Puntero} {ds : List Puntero}

theorem MismosHilos.refl (s : EstadoKernel) : MismosHilos s s :=
  ⟨rfl, rfl, rfl, rfl, fun _ => rfl, fun _ => rfl⟩

theorem MismosHilos.trans (h : MismosHilos s t) (h' : MismosHilos t u) : MismosHilos s u where
  algoritmo := h'.algoritmo.trans h.algoritmo
  dependencias := h'.dependencias.trans h.dependencias
  bloq := h'.bloq.trans h.bloq
  cola := h'.cola.trans h.cola
  niveles := fun i => (h'.niveles i).trans (h.niveles i)
  hilos := fun p => (h'.hilos p).trans (h.hilos p)

theorem MismosHilos.isSome (h : MismosHilos s t) (p : Puntero) :
    (t.tcbs p).isSome = (s.tcbs p).isSome := by
  rw [← Option.isSome_map (f := sinEstado), h.hilos p, Option.isSome_map]

theorem MismosHilos.identidad (h : MismosHilos s t) (p : Puntero) :
    (t.tcbs p).map (fun tcb => (tcb.PID, tcb.TID)) =
      (s.tcbs p).map fun tcb => (tcb.PID, tcb.TID) := by
  have hp := congrArg (Option.map fun r : UInt32 × UInt32 × UInt32 => (r.1, r.2.1)) (h.hilos p)
  rwa [Option.map_map, Option.map_map] at hp

theorem MismosHilos.colaCreada (h : MismosHilos s t) (hs : ColaCreada s) : ColaCreada t := by
  intro halgoritmo
  rw [h.algoritmo] at halgoritmo
  rw [h.cola]
  exact hs halgoritmo

theorem MismosHilos.insertable_iff (h : MismosHilos s t) : Insertable d t ↔ Insertable d s := by
  have himp {s t : EstadoKernel} (hilos : (s.tcbs d).map sinEstado = (t.tcbs d).map sinEstado)
      (niveles : ∀ i, (s.colasReadyCmn i).isSome = (t.colasReadyCmn i).isSome)
      (hins : Insertable d t) : Insertable d s := by
    obtain ⟨hd, tcb, cola, htcb, hprioridad, hcola⟩ := hins
    rw [htcb] at hilos
    obtain ⟨tcb', htcb', hid⟩ := Option.map_eq_some_iff.mp hilos
    obtain ⟨-, hid⟩ := Prod.mk.inj hid
    obtain ⟨-, hid⟩ := Prod.mk.inj hid
    have hnivel := niveles tcb.prioridad.toNat
    rw [hcola] at hnivel
    obtain ⟨cola', hcola'⟩ := Option.isSome_iff_exists.mp hnivel
    exact ⟨hd, tcb', cola', htcb', hid ▸ hprioridad, hid ▸ hcola'⟩
  exact ⟨himp (h.hilos d).symm fun i => (h.niveles i).symm, himp (h.hilos d) h.niveles⟩

theorem MismosHilos.entra_iff (h : MismosHilos s t) : Entra d t ↔ Entra d s := by
  unfold Entra
  rw [h.algoritmo]
  cases s.algoritmo
  case cmn => exact h.insertable_iff
  all_goals exact Iff.rfl

theorem ponerEstado_mismosHilos {estado : EstadoProceso} (h : ponerEstado d estado s = some t) :
    MismosHilos s t := by
  obtain ⟨tcb, htcb, rfl⟩ := Option.map_eq_some_iff.mp h
  refine ⟨rfl, rfl, rfl, rfl, fun _ => rfl, fun p => ?_⟩
  show (Function.update s.tcbs d _ p).map sinEstado = _
  by_cases hp : p = d
  · subst hp
    rw [Function.update_self, htcb]
    rfl
  · rw [Function.update_of_ne hp]

/-! ### Putting a thread in a collection -/

/-- An insertion in the levels succeeds when there is one for the thread. -/
theorem insertado_iff_insertable {insertado : Bool}
    (h : insertarEnColaReadyCmn d s = some (insertado, t)) :
    insertado = true ↔ Insertable d s := by
  constructor
  · rintro rfl
    have hd : d ≠ NULL := by
      rintro rfl
      unfold insertarEnColaReadyCmn at h
      rw [if_pos rfl] at h
      cases h
    rcases insertarEnColaReadyCmn_cases h with
      ⟨hfalse, -⟩ | ⟨tcb, cola, -, htcb, hprioridad, hcola, -⟩
    · cases hfalse
    · exact ⟨hd, tcb, cola, htcb, hprioridad, hcola⟩
  · rintro ⟨hd, tcb, cola, htcb, hprioridad, hcola⟩
    unfold insertarEnColaReadyCmn at h
    rw [if_neg hd, htcb, Option.bind_eq_bind, Option.bind_some, if_neg (not_le.mpr hprioridad),
      hcola] at h
    exact (Prod.mk.inj (Option.some.inj h)).1.symm

theorem meter_encolar (halgoritmo : s.algoritmo = .fifo ∨ s.algoritmo = .prioridades) :
    meter d s = encolarReady d s := by
  unfold meter
  rcases halgoritmo with halgoritmo | halgoritmo
  · rw [halgoritmo]
  · rw [halgoritmo]

/-- A thread that cannot be inserted is released, which does nothing when nobody waits for
it. -/
theorem agregarHiloAReady_meter
    (h : s.algoritmo = .cmn → Insertable d s ∨ SinDependiente d s) :
    agregarHiloAReady d s = meter d s := by
  rw [agregarHiloAReady_eq]
  unfold agregarSegun meter
  cases halgoritmo : s.algoritmo
  case cmn =>
    show ((insertarEnColaReadyCmn d s).bind fun r =>
      if r.1 then some r.2 else liberarTcb agregarHiloAReady d r.2) = _
    cases hinsertar : insertarEnColaReadyCmn d s with
    | none => rfl
    | some r =>
      obtain ⟨insertado, u⟩ := r
      rcases insertarEnColaReadyCmn_cases hinsertar with
        ⟨rfl, rfl⟩ | ⟨tcb, cola, rfl, -, -, -, rfl⟩
      · rw [Option.bind_some, Option.map_some]
        rcases h halgoritmo with hins | hsin
        · exact absurd ((insertado_iff_insertable hinsertar).mpr hins) Bool.false_ne_true
        · exact liberarTcb_sinDependiente _ hsin
      · rfl
  all_goals rfl

theorem encolarReady_cambia (h : encolarReady d s = some t) :
    MismosHilos s t ∧ (enReady t).Perm (d :: enReady s) := by
  obtain ⟨cola, hcola, h⟩ := Option.bind_eq_some_iff.mp h
  obtain ⟨tcb, -, h⟩ := Option.bind_eq_some_iff.mp h
  obtain rfl := Option.some.inj h
  refine ⟨⟨rfl, rfl, rfl, by rw [hcola]; rfl, fun _ => rfl, fun _ => rfl⟩, ?_⟩
  show (cola ++ [d] ++ waiting maxNivelesPrioridad (niveles s)).Perm _
  unfold enReady
  rw [hcola, Option.getD_some, ← List.cons_append]
  exact (List.perm_append_singleton d cola).append_right _

theorem insertarEnColaReadyCmn_cambia {insertado : Bool}
    (h : insertarEnColaReadyCmn d s = some (insertado, t)) :
    MismosHilos s t ∧ ((Insertable d s ∧ (enReady t).Perm (d :: enReady s)) ∨
      (¬ Insertable d s ∧ enReady t = enReady s)) := by
  rw [← insertado_iff_insertable h]
  rcases insertarEnColaReadyCmn_cases h with
    ⟨rfl, rfl⟩ | ⟨tcb, cola, rfl, htcb, hprioridad, hcola, rfl⟩
  · exact ⟨MismosHilos.refl _, Or.inr ⟨Bool.false_ne_true, rfl⟩⟩
  · refine ⟨⟨rfl, rfl, rfl, rfl, fun i => ?_, fun _ => rfl⟩, Or.inl ⟨rfl, ?_⟩⟩
    · dsimp only
      by_cases hi : i = tcb.prioridad.toNat
      · subst hi
        rw [Function.update_self, hcola]
        rfl
      · rw [Function.update_of_ne hi]
    · have hnivel := insertarEnColaReadyCmn_coleccion h
      exact (hnivel.append_left _).trans List.perm_middle

/-- What putting a thread in a collection changes. -/
theorem meter_cambia (h : meter d s = some t) :
    MismosHilos s t ∧
      ((Entra d s ∧ (enReady t).Perm (d :: enReady s)) ∨
        (¬ Entra d s ∧ enReady t = enReady s)) := by
  unfold meter at h
  unfold Entra
  cases halgoritmo : s.algoritmo <;> rw [halgoritmo] at h <;> dsimp only at h ⊢
  case fifo =>
    obtain ⟨hmismos, hready⟩ := encolarReady_cambia h
    exact ⟨hmismos, Or.inl ⟨trivial, hready⟩⟩
  case prioridades =>
    obtain ⟨hmismos, hready⟩ := encolarReady_cambia h
    exact ⟨hmismos, Or.inl ⟨trivial, hready⟩⟩
  case cmn =>
    obtain ⟨⟨insertado, u⟩, hinsertar, rfl⟩ := Option.map_eq_some_iff.mp h
    exact insertarEnColaReadyCmn_cambia hinsertar
  case colasMultinivel =>
    obtain rfl := Option.some.inj h
    exact ⟨MismosHilos.refl s, Or.inr ⟨not_false, rfl⟩⟩
  case desconocido =>
    obtain rfl := Option.some.inj h
    exact ⟨MismosHilos.refl s, Or.inr ⟨not_false, rfl⟩⟩

theorem encolarReady_isSome {tcb : TCB} (htcb : s.tcbs d = some tcb)
    (halgoritmo : s.algoritmo = .fifo ∨ s.algoritmo = .prioridades) :
    (encolarReady d s).isSome ↔ ColaCreada s := by
  cases hcola : s.colaReadyFifoPrioridades with
  | none =>
    rw [encolarReady_eq_none hcola]
    refine iff_of_false Bool.false_ne_true fun hcreada => ?_
    have hsome := hcreada halgoritmo
    rw [hcola] at hsome
    cases hsome
  | some cola =>
    rw [encolarReady_eq_some htcb hcola]
    exact iff_of_true rfl fun _ => Option.isSome_iff_exists.mpr ⟨cola, hcola⟩

/-- Only a queue that was not created stops it. -/
theorem meter_isSome {tcb : TCB} (htcb : s.tcbs d = some tcb) :
    (meter d s).isSome ↔ ColaCreada s := by
  have hotro (hno : ¬ (s.algoritmo = .fifo ∨ s.algoritmo = .prioridades)) : ColaCreada s :=
    fun halgoritmo => absurd halgoritmo hno
  unfold meter
  cases halgoritmo : s.algoritmo <;> dsimp only
  case fifo => exact encolarReady_isSome htcb (Or.inl halgoritmo)
  case prioridades => exact encolarReady_isSome htcb (Or.inr halgoritmo)
  case cmn =>
    obtain ⟨r, hr⟩ := insertarEnColaReadyCmn_isSome htcb
    rw [hr]
    exact iff_of_true rfl (hotro (by simp [halgoritmo]))
  case colasMultinivel => exact iff_of_true rfl (hotro (by simp [halgoritmo]))
  case desconocido => exact iff_of_true rfl (hotro (by simp [halgoritmo]))

/-! ### Waking threads -/

theorem despertarUno_cambia (h : despertarUno d s = some t) :
    MismosHilos s t ∧
      ((Entra d s ∧ (enReady t).Perm (d :: enReady s)) ∨
        (¬ Entra d s ∧ enReady t = enReady s)) := by
  obtain ⟨u, hu, h⟩ := Option.bind_eq_some_iff.mp h
  have hmismos := ponerEstado_mismosHilos hu
  obtain ⟨tcb, -, rfl⟩ := Option.map_eq_some_iff.mp hu
  obtain ⟨hmeter, hready⟩ := meter_cambia h
  rw [hmismos.entra_iff] at hready
  exact ⟨hmismos.trans hmeter, hready⟩

theorem despertarUno_isSome_iff :
    (despertarUno d s).isSome ↔ (s.tcbs d).isSome ∧ ColaCreada s := by
  unfold despertarUno
  cases htcb : s.tcbs d with
  | none =>
    unfold ponerEstado
    rw [htcb]
    exact iff_of_false Bool.false_ne_true fun h => Bool.false_ne_true h.1
  | some tcb =>
    rw [ponerEstado_eq htcb, Option.bind_some, meter_isSome (Function.update_self _ _ _)]
    exact (and_iff_right rfl).symm

/-- What is left of `lista_dependencias` makes no difference. -/
theorem meter_conDependencias (deps : List Dependencia) :
    meter d (conDependencias deps s) = (meter d s).map (conDependencias deps) := by
  have hencolar : encolarReady d (conDependencias deps s) =
      (encolarReady d s).map (conDependencias deps) := by
    unfold encolarReady conDependencias
    dsimp only
    cases s.colaReadyFifoPrioridades with
    | none => rfl
    | some cola => cases s.tcbs d <;> rfl
  have hinsertar : (insertarEnColaReadyCmn d (conDependencias deps s)).map Prod.snd =
      ((insertarEnColaReadyCmn d s).map Prod.snd).map (conDependencias deps) := by
    unfold insertarEnColaReadyCmn conDependencias
    dsimp only
    split
    · rfl
    · cases s.tcbs d with
      | none => rfl
      | some tcb =>
        dsimp only [Option.bind_eq_bind, Option.bind_some]
        split
        · rfl
        · cases s.colasReadyCmn tcb.prioridad.toNat <;> rfl
  unfold meter
  show (match s.algoritmo with
    | .fifo | .prioridades => encolarReady d (conDependencias deps s)
    | .cmn => (insertarEnColaReadyCmn d (conDependencias deps s)).map Prod.snd
    | .colasMultinivel | .desconocido => some (conDependencias deps s)) = _
  rw [hencolar, hinsertar]
  cases s.algoritmo <;> rfl

theorem despertarUno_conDependencias (deps : List Dependencia) :
    despertarUno d (conDependencias deps s) = (despertarUno d s).map (conDependencias deps) := by
  unfold despertarUno
  cases htcb : s.tcbs d with
  | none =>
    unfold ponerEstado
    rw [htcb, show (conDependencias deps s).tcbs d = none from htcb]
    rfl
  | some tcb =>
    rw [ponerEstado_eq htcb, ponerEstado_eq (s := conDependencias deps s) htcb,
      Option.bind_some, Option.bind_some]
    exact meter_conDependencias (s := { s with
      tcbs := Function.update s.tcbs d (some { tcb with estado := EstadoProceso.ready.codigo }) })
      deps

/-- The threads that have been woken and could be put in a collection are there, and nothing
else has joined or left them. -/
theorem despertar_cambia (h : despertar ds s = some t) :
    MismosHilos s t ∧ ∃ entran : List Puntero, (∀ d, d ∈ entran ↔ d ∈ ds ∧ Entra d s) ∧
      (enReady t).Perm (entran ++ enReady s) := by
  induction ds generalizing s with
  | nil =>
    obtain rfl := Option.some.inj h
    refine ⟨MismosHilos.refl s, [], fun d => ?_, List.Perm.refl _⟩
    exact iff_of_false List.not_mem_nil fun hd => List.not_mem_nil hd.1
  | cons d ds ih =>
    obtain ⟨u, hu, h⟩ := Option.bind_eq_some_iff.mp h
    obtain ⟨hmismos, huno⟩ := despertarUno_cambia hu
    obtain ⟨hresto, entran, hentran, hperm⟩ := ih h
    refine ⟨hmismos.trans hresto, ?_⟩
    simp only [hmismos.entra_iff] at hentran
    rcases huno with ⟨hentra, hready⟩ | ⟨hentra, hready⟩
    · refine ⟨d :: entran, fun e => ?_, ?_⟩
      · rw [List.mem_cons, List.mem_cons, hentran]
        constructor
        · rintro (rfl | ⟨he, hentra'⟩)
          · exact ⟨Or.inl rfl, hentra⟩
          · exact ⟨Or.inr he, hentra'⟩
        · rintro ⟨rfl | he, hentra'⟩
          · exact Or.inl rfl
          · exact Or.inr ⟨he, hentra'⟩
      · exact hperm.trans ((hready.append_left entran).trans List.perm_middle)
    · refine ⟨entran, fun e => ?_, hready ▸ hperm⟩
      rw [List.mem_cons, hentran]
      constructor
      · exact fun ⟨he, hentra'⟩ => ⟨Or.inr he, hentra'⟩
      · rintro ⟨rfl | he, hentra'⟩
        · exact absurd hentra' hentra
        · exact ⟨he, hentra'⟩

/-- Otherwise waking them goes through a null pointer, or one to nothing. -/
theorem despertar_isSome_iff : (despertar ds s).isSome ↔
    (ds ≠ [] → ColaCreada s) ∧ ∀ d ∈ ds, (s.tcbs d).isSome := by
  induction ds generalizing s with
  | nil => exact iff_of_true rfl ⟨fun h => absurd rfl h, fun d hd => absurd hd List.not_mem_nil⟩
  | cons d ds ih =>
    rw [List.forall_mem_cons]
    constructor
    · intro h
      obtain ⟨t, ht⟩ := Option.isSome_iff_exists.mp h
      obtain ⟨u, hu, ht⟩ := Option.bind_eq_some_iff.mp ht
      obtain ⟨hvivo, hcola⟩ := despertarUno_isSome_iff.mp (Option.isSome_iff_exists.mpr ⟨u, hu⟩)
      obtain ⟨-, hvivos⟩ := ih.mp (Option.isSome_iff_exists.mpr ⟨t, ht⟩)
      refine ⟨fun _ => hcola, hvivo, fun e he => ?_⟩
      rw [← (despertarUno_cambia hu).1.isSome]
      exact hvivos e he
    · rintro ⟨hcola, hvivo, hvivos⟩
      have hcreada := hcola (List.cons_ne_nil d ds)
      obtain ⟨u, hu⟩ := Option.isSome_iff_exists.mp (despertarUno_isSome_iff.mpr ⟨hvivo, hcreada⟩)
      have hmismos := (despertarUno_cambia hu).1
      rw [despertar, hu, Option.bind_some]
      refine ih.mpr ⟨fun _ => hmismos.colaCreada hcreada, fun e he => ?_⟩
      rw [hmismos.isSome]
      exact hvivos e he

/-! ### Under `FIFO` and `PRIORIDADES` -/

/-- The threads of the heap, those of `ds` marked as ready. -/
def marcarReady (ds : List Puntero) (tcbs : Puntero → Option TCB) (p : Puntero) : Option TCB :=
  if p ∈ ds then (tcbs p).map fun tcb => { tcb with estado := EstadoProceso.ready.codigo }
  else tcbs p

theorem despertarUno_eq (halgoritmo : s.algoritmo = .fifo ∨ s.algoritmo = .prioridades)
    {tcb : TCB} {cola : List Puntero} (htcb : s.tcbs d = some tcb)
    (hcola : s.colaReadyFifoPrioridades = some cola) :
    despertarUno d s = some { s with
      tcbs := Function.update s.tcbs d
        (some { tcb with estado := EstadoProceso.ready.codigo })
      colaReadyFifoPrioridades := some (cola ++ [d]) } := by
  unfold despertarUno
  rw [ponerEstado_eq htcb, Option.bind_some]
  have hencolar := encolarReady_eq_some (s := { s with
    tcbs := Function.update s.tcbs d (some { tcb with estado := EstadoProceso.ready.codigo }) })
    (Function.update_self _ _ _) hcola
  rw [← hencolar]
  exact meter_encolar halgoritmo

theorem marcarReady_nil (tcbs : Puntero → Option TCB) : marcarReady [] tcbs = tcbs := by
  funext p
  exact if_neg List.not_mem_nil

theorem marcarReady_cons {tcbs : Puntero → Option TCB} {tcb : TCB} (htcb : tcbs d = some tcb) :
    marcarReady ds (Function.update tcbs d
      (some { tcb with estado := EstadoProceso.ready.codigo })) = marcarReady (d :: ds) tcbs := by
  funext p
  unfold marcarReady
  by_cases hp : p = d
  · subst hp
    rw [Function.update_self, htcb, if_pos List.mem_cons_self]
    exact ite_self _
  · rw [Function.update_of_ne hp]
    simp only [List.mem_cons, hp, false_or]

theorem marcarReady_identidad (ds : List Puntero) (tcbs : Puntero → Option TCB) (p : Puntero) :
    (marcarReady ds tcbs p).map (fun tcb => (tcb.PID, tcb.TID)) =
      (tcbs p).map fun tcb => (tcb.PID, tcb.TID) := by
  unfold marcarReady
  split
  · rw [Option.map_map]
    rfl
  · rfl

/-- The threads of `ds` are on the heap, and there is a queue for them. -/
theorem despertar_eq (halgoritmo : s.algoritmo = .fifo ∨ s.algoritmo = .prioridades)
    {cola : List Puntero} (hcola : s.colaReadyFifoPrioridades = some cola)
    (hvivos : ∀ d ∈ ds, (s.tcbs d).isSome) :
    despertar ds s = some { s with
      tcbs := marcarReady ds s.tcbs
      colaReadyFifoPrioridades := some (cola ++ ds) } := by
  induction ds generalizing s cola with
  | nil =>
    rw [marcarReady_nil, List.append_nil, ← hcola]
    rfl
  | cons d ds ih =>
    rw [List.forall_mem_cons] at hvivos
    obtain ⟨tcb, htcb⟩ := Option.isSome_iff_exists.mp hvivos.1
    have hmismos := ponerEstado_mismosHilos (ponerEstado_eq htcb .ready)
    have hvivos' : ∀ e ∈ ds, (Function.update s.tcbs d
        (some { tcb with estado := EstadoProceso.ready.codigo }) e).isSome := fun e he =>
      (hmismos.isSome e).trans (hvivos.2 e he)
    have hresto := ih (s := { s with
      tcbs := Function.update s.tcbs d (some { tcb with estado := EstadoProceso.ready.codigo })
      colaReadyFifoPrioridades := some (cola ++ [d]) }) halgoritmo rfl hvivos'
    rw [despertar, despertarUno_eq halgoritmo htcb hcola, Option.bind_some, hresto]
    dsimp only
    rw [marcarReady_cons htcb, List.append_assoc, List.singleton_append]

end

end SoTp.Kernel
