import SoTp.Kernel.Estado
import SoTp.Lib.Levels

/-!
# Where a ready thread waits

`agregarHiloAReady` (`kernel/src/main.c`, lines 579–614) chooses the collection of a
ready thread by `algoritmo`, `planificador_corto_plazo` (`kernel/src/k_corto_plazo.c`,
lines 17–35) the dispatcher that takes threads from one. The first switch knows `CMN` and
not `COLAS_MULTINIVEL`, the second `COLAS_MULTINIVEL` and not `CMN`.

* `agregarHiloAReady_eq`: what the function does, without the bound on its recursion.
* `agregarFiel_iff`: under a dispatcher, a thread is added to the collection of that
  dispatcher **if and only if** the algorithm is not `COLAS_MULTINIVEL` and the queue of
  `FIFO` and `PRIORIDADES` has been created.
-/

namespace SoTp.Kernel

open SoTp.Lib SoTp.Utils

/-! ## Model -/

/-- `hilo->estado = estado`. -/
def ponerEstado (hilo : Puntero) (estado : EstadoProceso) (s : EstadoKernel) :
    Option EstadoKernel :=
  (s.tcbs hilo).map fun tcb =>
    { s with tcbs := Function.update s.tcbs hilo (some { tcb with estado := estado.codigo }) }

/-- `insertar_en_cola_ready_cmn(hilo)` (`kernel/src/k_largo_plazo.c`, lines 148–171). -/
def insertarEnColaReadyCmn (hilo : Puntero) (s : EstadoKernel) : Option (Bool × EstadoKernel) :=
  if hilo = NULL then some (false, s)
  else do
    let tcb ← s.tcbs hilo
    if maxNivelesPrioridad ≤ tcb.prioridad.toNat then some (false, s)
    else
      match s.colasReadyCmn tcb.prioridad.toNat with
      | none => some (false, s)
      | some cola => some (true, { s with
          colasReadyCmn :=
            Function.update s.colasReadyCmn tcb.prioridad.toNat (some (cola ++ [hilo])) })

/-- The branches `FIFO` and `PRIORIDADES` of `agregarHiloAReady`: the thread is pushed,
and read for the log. -/
def encolarReady (hilo : Puntero) (s : EstadoKernel) : Option EstadoKernel := do
  let cola ← s.colaReadyFifoPrioridades
  let _ ← s.tcbs hilo
  some { s with colaReadyFifoPrioridades := some (cola ++ [hilo]) }

/-- `tieneDependiente(hilo)` (`kernel/src/main.c`, lines 741–750): the first entry of the
thread decides. -/
def tieneDependiente (hilo : Puntero) (s : EstadoKernel) : Bool :=
  match s.listaDependencias.find? (·.hilo = hilo) with
  | some dep => dep.dependiente ≠ NULL
  | none => false

section Recursion

variable (agregar : Puntero → EstadoKernel → Option EstadoKernel)

/-- The loop of `buscarDependiente(hilo)` (`kernel/src/main.c`, lines 751–765) from index
`i` on, for at most `n` rounds. An entry that is removed makes the next one be skipped. -/
def buscarDependienteDesde (hilo : Puntero) : ℕ → ℕ → EstadoKernel → Option EstadoKernel
  | 0, _, s => some s
  | n + 1, i, s =>
    match s.listaDependencias[i]? with
    | none => some s
    | some dep =>
      if dep.hilo = hilo ∧ dep.dependiente ≠ NULL then do
        let s ← ponerEstado dep.dependiente .ready
          { s with listaDependencias := s.listaDependencias.eraseIdx i }
        let s ← agregar dep.dependiente s
        buscarDependienteDesde hilo n (i + 1) s
      else buscarDependienteDesde hilo n (i + 1) s

/-- `buscarDependiente(hilo)`: the list does not grow, so as many rounds as it has
entries are enough. -/
def buscarDependiente (hilo : Puntero) (s : EstadoKernel) : Option EstadoKernel :=
  buscarDependienteDesde agregar hilo s.listaDependencias.length 0 s

/-- `liberar_tcb(hilo)` (`kernel/src/k_largo_plazo.c`, lines 200–208). -/
def liberarTcb (hilo : Puntero) (s : EstadoKernel) : Option EstadoKernel :=
  if hilo = NULL then some s
  else if tieneDependiente hilo s then do
    let s ← buscarDependiente agregar hilo s
    let tcb ← s.tcbs hilo
    let lista ← quitarTCBDeLista s.tcbs tcb.PID tcb.TID s.listaBloqHilo
    some { s with listaBloqHilo := lista }
  else some s

/-- The switch of `agregarHiloAReady`; `agregar` is its call of itself, through
`liberar_tcb` and `buscarDependiente`. -/
def agregarSegun (hilo : Puntero) (s : EstadoKernel) : Option EstadoKernel :=
  match s.algoritmo with
  | .cmn => do
    let (insertado, s) ← insertarEnColaReadyCmn hilo s
    if insertado then some s else liberarTcb agregar hilo s
  | .fifo => encolarReady hilo s
  | .prioridades => encolarReady hilo s
  | .colasMultinivel => some s
  | .desconocido => some s

end Recursion

/-- `agregarHiloAReady(nuevoTCB)` with at most `n` nested calls. -/
def agregarHiloAReadyHasta : ℕ → Puntero → EstadoKernel → Option EstadoKernel
  | 0, _, _ => none
  | n + 1, nuevoTCB, s => agregarSegun (agregarHiloAReadyHasta n) nuevoTCB s

/-- `agregarHiloAReady(nuevoTCB)`: a nested call comes after an entry of
`lista_dependencias` has been removed. -/
def agregarHiloAReady (nuevoTCB : Puntero) (s : EstadoKernel) : Option EstadoKernel :=
  agregarHiloAReadyHasta (s.listaDependencias.length + 1) nuevoTCB s

/-- The loops that `planificador_corto_plazo` enters. -/
inductive Despachador where
  | atenderFifo
  | atenderPrioridades
  | atenderCmn
  deriving DecidableEq, Repr

/-- `planificador_corto_plazo()`; `none` is its `exit(EXIT_FAILURE)`. -/
def planificadorCortoPlazo : Algoritmo → Option Despachador
  | .fifo => some .atenderFifo
  | .prioridades => some .atenderPrioridades
  | .colasMultinivel => some .atenderCmn
  | .cmn => none
  | .desconocido => none

/-- `get_next_thread(prioridad)` (`kernel/src/k_corto_plazo.c`, lines 157–166). -/
def getNextThread (prioridad : ℕ) (s : EstadoKernel) : Option (Puntero × EstadoKernel) :=
  (s.colasReadyCmn prioridad).map fun
    | [] => (NULL, s)
    | hilo :: cola => (hilo,
        { s with colasReadyCmn := Function.update s.colasReadyCmn prioridad (some cola) })

/-- `queue_peek` and `queue_pop` of `cola_ready_fifo_prioridades`, as in `atender_fifo`
(`kernel/src/k_corto_plazo.c`, lines 47–49) and, for a queue of one thread, in
`atender_prioridades` (lines 91–93). -/
def sacarReady (s : EstadoKernel) : Option (Puntero × EstadoKernel) :=
  s.colaReadyFifoPrioridades.map fun
    | [] => (NULL, s)
    | hilo :: cola => (hilo, { s with colaReadyFifoPrioridades := some cola })

/-- The queues of the levels. -/
def niveles (s : EstadoKernel) : ℕ → List Puntero := fun i => (s.colasReadyCmn i).getD []

/-- The threads among which a dispatcher takes the next one. -/
def coleccion (s : EstadoKernel) : Despachador → List Puntero
  | .atenderFifo => s.colaReadyFifoPrioridades.getD []
  | .atenderPrioridades => s.colaReadyFifoPrioridades.getD []
  | .atenderCmn => waiting maxNivelesPrioridad (niveles s)

/-- The thread joins the collection of the dispatcher once, and nothing else changes in
it. -/
def AgregarFiel (d : Despachador) (hilo : Puntero) (s : EstadoKernel) : Prop :=
  ∃ s', agregarHiloAReady hilo s = some s' ∧ (coleccion s' d).Perm (hilo :: coleccion s d)

/-! ## What the functions keep -/

/-- What making threads ready leaves alone: no block is allocated, the processes stay as
they are, and no dependency is added. -/
structure Conserva (s s' : EstadoKernel) : Prop where
  algoritmo : s'.algoritmo = s.algoritmo
  siguiente : s'.siguiente = s.siguiente
  pcbs : s'.pcbs = s.pcbs
  colaNew : s'.colaNew = s.colaNew
  tcbs : ∀ p, s.tcbs p = none → s'.tcbs p = none
  dependencias : s'.listaDependencias.length ≤ s.listaDependencias.length

theorem Conserva.refl (s : EstadoKernel) : Conserva s s :=
  ⟨rfl, rfl, rfl, rfl, fun _ => id, le_rfl⟩

theorem Conserva.trans {s t u : EstadoKernel} (h : Conserva s t) (h' : Conserva t u) :
    Conserva s u where
  algoritmo := h'.algoritmo.trans h.algoritmo
  siguiente := h'.siguiente.trans h.siguiente
  pcbs := h'.pcbs.trans h.pcbs
  colaNew := h'.colaNew.trans h.colaNew
  tcbs := fun p hp => h'.tcbs p (h.tcbs p hp)
  dependencias := h'.dependencias.trans h.dependencias

theorem conserva_colecciones (s : EstadoKernel) (bloq : List Puntero)
    (cola : Option (List Puntero)) (colas : ℕ → Option (List Puntero)) :
    Conserva s { s with
      listaBloqHilo := bloq, colaReadyFifoPrioridades := cola, colasReadyCmn := colas } :=
  ⟨rfl, rfl, rfl, rfl, fun _ => id, le_rfl⟩

theorem ponerEstado_conserva {hilo : Puntero} {e : EstadoProceso} {s s' : EstadoKernel}
    (h : ponerEstado hilo e s = some s') : Conserva s s' := by
  obtain ⟨tcb, htcb, rfl⟩ := Option.map_eq_some_iff.mp h
  refine ⟨rfl, rfl, rfl, rfl, fun p hp => ?_, le_rfl⟩
  have hne : p ≠ hilo := by
    rintro rfl
    simp [htcb] at hp
  exact (Function.update_of_ne hne _ _).trans hp

theorem ponerEstado_eq {hilo : Puntero} {s : EstadoKernel} {tcb : TCB}
    (htcb : s.tcbs hilo = some tcb) (estado : EstadoProceso) :
    ponerEstado hilo estado s = some { s with
      tcbs := Function.update s.tcbs hilo (some { tcb with estado := estado.codigo }) } := by
  unfold ponerEstado
  rw [htcb]
  rfl

theorem encolarReady_conserva {hilo : Puntero} {s s' : EstadoKernel}
    (h : encolarReady hilo s = some s') : Conserva s s' := by
  obtain ⟨cola, -, h⟩ := Option.bind_eq_some_iff.mp h
  obtain ⟨tcb, -, h⟩ := Option.bind_eq_some_iff.mp h
  obtain rfl := Option.some.inj h
  exact conserva_colecciones s _ _ _

/-- What an insertion in the levels can do. -/
theorem insertarEnColaReadyCmn_cases {hilo : Puntero} {s s' : EstadoKernel} {insertado : Bool}
    (h : insertarEnColaReadyCmn hilo s = some (insertado, s')) :
    (insertado = false ∧ s' = s) ∨
      ∃ tcb cola, insertado = true ∧ s.tcbs hilo = some tcb ∧
        tcb.prioridad.toNat < maxNivelesPrioridad ∧
        s.colasReadyCmn tcb.prioridad.toNat = some cola ∧
        s' = { s with colasReadyCmn :=
          Function.update s.colasReadyCmn tcb.prioridad.toNat (some (cola ++ [hilo])) } := by
  unfold insertarEnColaReadyCmn at h
  split at h
  · obtain ⟨rfl, rfl⟩ := Prod.mk.inj (Option.some.inj h)
    exact Or.inl ⟨rfl, rfl⟩
  · obtain ⟨tcb, htcb, h⟩ := Option.bind_eq_some_iff.mp h
    split at h
    · obtain ⟨rfl, rfl⟩ := Prod.mk.inj (Option.some.inj h)
      exact Or.inl ⟨rfl, rfl⟩
    · rename_i hprioridad
      split at h
      · obtain ⟨rfl, rfl⟩ := Prod.mk.inj (Option.some.inj h)
        exact Or.inl ⟨rfl, rfl⟩
      · rename_i cola hcola
        obtain ⟨rfl, rfl⟩ := Prod.mk.inj (Option.some.inj h)
        exact Or.inr ⟨tcb, cola, rfl, htcb, by omega, hcola, rfl⟩

theorem insertarEnColaReadyCmn_conserva {hilo : Puntero} {s s' : EstadoKernel}
    {insertado : Bool} (h : insertarEnColaReadyCmn hilo s = some (insertado, s')) :
    Conserva s s' := by
  obtain ⟨-, rfl⟩ | ⟨tcb, cola, -, -, -, -, rfl⟩ := insertarEnColaReadyCmn_cases h
  · exact Conserva.refl _
  · exact conserva_colecciones s _ _ _

/-- A relation that each step of waking the threads that wait for another one keeps to. -/
structure Marco (R : EstadoKernel → EstadoKernel → Prop) : Prop where
  refl : ∀ s, R s s
  trans : ∀ {s t u}, R s t → R t u → R s u
  dependencias : ∀ s i, R s { s with listaDependencias := s.listaDependencias.eraseIdx i }
  estado : ∀ {hilo e s s'}, ponerEstado hilo e s = some s' → R s s'
  bloq : ∀ {s : EstadoKernel} {PID TID lista},
    quitarTCBDeLista s.tcbs PID TID s.listaBloqHilo = some lista →
    R s { s with listaBloqHilo := lista }

theorem marco_conserva : Marco Conserva where
  refl := Conserva.refl
  trans := Conserva.trans
  dependencias s i :=
    ⟨rfl, rfl, rfl, rfl, fun _ => id, List.length_eraseIdx_le s.listaDependencias i⟩
  estado := ponerEstado_conserva
  bloq _ := conserva_colecciones _ _ _ _

/-- A call of `agregarHiloAReady` leaves those alone. -/
def Conservadora (agregar : Puntero → EstadoKernel → Option EstadoKernel) : Prop :=
  ∀ hilo s s', agregar hilo s = some s' → Conserva s s'

/-- A call does not make `lista_dependencias` longer. -/
def NoCrece (agregar : Puntero → EstadoKernel → Option EstadoKernel) : Prop :=
  ∀ hilo s s', agregar hilo s = some s' →
    s'.listaDependencias.length ≤ s.listaDependencias.length

/-- Two calls agree while `lista_dependencias` has fewer than `m` entries. -/
def IgualesHasta (m : ℕ) (agregar agregar' : Puntero → EstadoKernel → Option EstadoKernel) :
    Prop :=
  ∀ hilo s, s.listaDependencias.length < m → agregar hilo s = agregar' hilo s

section Recursion

variable {agregar agregar' : Puntero → EstadoKernel → Option EstadoKernel}

theorem Conservadora.noCrece (h : Conservadora agregar) : NoCrece agregar :=
  fun hilo s s' hs => (h hilo s s' hs).dependencias

section Marco

variable {R : EstadoKernel → EstadoKernel → Prop}

theorem buscarDependienteDesde_marco (hR : Marco R)
    (hagregar : ∀ hilo s s', agregar hilo s = some s' → R s s') {hilo : Puntero}
    {n i : ℕ} {s s' : EstadoKernel} (h : buscarDependienteDesde agregar hilo n i s = some s') :
    R s s' := by
  induction n generalizing i s with
  | zero => exact Option.some.inj h ▸ hR.refl s
  | succ n ih =>
    unfold buscarDependienteDesde at h
    split at h
    · exact Option.some.inj h ▸ hR.refl s
    · split at h
      · obtain ⟨t, ht, h⟩ := Option.bind_eq_some_iff.mp h
        obtain ⟨u, hu, h⟩ := Option.bind_eq_some_iff.mp h
        have hponer := hR.trans (hR.dependencias s i) (hR.estado ht)
        exact hR.trans (hR.trans hponer (hagregar _ _ _ hu)) (ih h)
      · exact ih h

theorem liberarTcb_marco (hR : Marco R)
    (hagregar : ∀ hilo s s', agregar hilo s = some s' → R s s') {hilo : Puntero}
    {s s' : EstadoKernel} (h : liberarTcb agregar hilo s = some s') : R s s' := by
  unfold liberarTcb at h
  split at h
  · exact Option.some.inj h ▸ hR.refl s
  · split at h
    · obtain ⟨t, ht, h⟩ := Option.bind_eq_some_iff.mp h
      obtain ⟨tcb, -, h⟩ := Option.bind_eq_some_iff.mp h
      obtain ⟨lista, hlista, h⟩ := Option.bind_eq_some_iff.mp h
      obtain rfl := Option.some.inj h
      exact hR.trans (buscarDependienteDesde_marco hR hagregar ht) (hR.bloq hlista)
    · exact Option.some.inj h ▸ hR.refl s

end Marco

theorem liberarTcb_conserva (hagregar : Conservadora agregar) :
    Conservadora (liberarTcb agregar) :=
  fun _ _ _ h => liberarTcb_marco marco_conserva hagregar h

theorem agregarSegun_conserva (hagregar : Conservadora agregar) :
    Conservadora (agregarSegun agregar) := by
  intro hilo s s' h
  unfold agregarSegun at h
  split at h
  · obtain ⟨⟨insertado, t⟩, ht, h⟩ := Option.bind_eq_some_iff.mp h
    have hinsertar := insertarEnColaReadyCmn_conserva ht
    dsimp only at h
    split at h
    · exact Option.some.inj h ▸ hinsertar
    · exact hinsertar.trans (liberarTcb_conserva hagregar hilo t s' h)
  · exact encolarReady_conserva h
  · exact encolarReady_conserva h
  · exact Option.some.inj h ▸ Conserva.refl s
  · exact Option.some.inj h ▸ Conserva.refl s

/-! ### The recursion ends -/

/-- The entry is removed before the nested call. -/
theorem buscarDependienteDesde_congr {m : ℕ} (hle : NoCrece agregar)
    (heq : IgualesHasta m agregar agregar') (hilo : Puntero) (n i : ℕ) {s : EstadoKernel}
    (hs : s.listaDependencias.length ≤ m) :
    buscarDependienteDesde agregar hilo n i s = buscarDependienteDesde agregar' hilo n i s := by
  induction n generalizing i s with
  | zero => rfl
  | succ n ih =>
    unfold buscarDependienteDesde
    split
    · rfl
    · rename_i dep hdep
      split
      · refine Option.bind_congr fun t ht => ?_
        have hi : i < s.listaDependencias.length := (List.getElem?_eq_some_iff.mp hdep).1
        have ht' : t.listaDependencias.length < m := by
          have hponer : t.listaDependencias.length ≤ (s.listaDependencias.eraseIdx i).length :=
            (ponerEstado_conserva ht).dependencias
          rw [List.length_eraseIdx_of_lt hi] at hponer
          omega
        show (agregar _ t).bind _ = (agregar' _ t).bind _
        rw [← heq _ t ht']
        refine Option.bind_congr fun u hu => ?_
        exact ih (i + 1) (le_trans (hle _ _ _ hu) ht'.le)
      · exact ih (i + 1) hs

theorem agregarSegun_congr {m : ℕ} (hle : NoCrece agregar)
    (heq : IgualesHasta m agregar agregar') :
    IgualesHasta (m + 1) (agregarSegun agregar) (agregarSegun agregar') := by
  intro hilo s hs
  unfold agregarSegun
  split
  · refine Option.bind_congr fun r hr => ?_
    obtain ⟨insertado, t⟩ := r
    have ht : t.listaDependencias.length ≤ m :=
      (insertarEnColaReadyCmn_conserva hr).dependencias.trans (Nat.lt_succ_iff.mp hs)
    show (if insertado then some t else liberarTcb agregar hilo t) =
      if insertado then some t else liberarTcb agregar' hilo t
    have hbuscar : buscarDependiente agregar hilo t = buscarDependiente agregar' hilo t :=
      buscarDependienteDesde_congr hle heq hilo _ 0 ht
    unfold liberarTcb
    rw [hbuscar]
  all_goals rfl

end Recursion

theorem agregarHiloAReadyHasta_conserva (n : ℕ) : Conservadora (agregarHiloAReadyHasta n) := by
  induction n with
  | zero =>
    intro hilo s s' h
    cases h
  | succ n ih => exact agregarSegun_conserva ih

theorem agregarHiloAReady_conserva : Conservadora agregarHiloAReady :=
  fun _ _ _ h => agregarHiloAReadyHasta_conserva _ _ _ _ h

theorem agregarHiloAReadyHasta_congr (m k : ℕ) :
    IgualesHasta m (agregarHiloAReadyHasta m) (agregarHiloAReadyHasta (m + k)) := by
  induction m with
  | zero => exact fun hilo s hs => absurd hs (Nat.not_lt_zero _)
  | succ m ih =>
    rw [Nat.succ_add]
    exact agregarSegun_congr (agregarHiloAReadyHasta_conserva m).noCrece ih

/-- **The source's equation**: the switch, with the function itself as the nested call. -/
theorem agregarHiloAReady_eq (hilo : Puntero) (s : EstadoKernel) :
    agregarHiloAReady hilo s = agregarSegun agregarHiloAReady hilo s := by
  refine agregarSegun_congr (agregarHiloAReadyHasta_conserva _).noCrece ?_ hilo s
    (Nat.lt_succ_self s.listaDependencias.length)
  intro hilo' t ht
  obtain ⟨k, hk⟩ := Nat.exists_eq_add_of_lt ht
  rw [hk]
  unfold agregarHiloAReady
  rw [Nat.add_right_comm]
  exact (agregarHiloAReadyHasta_congr _ k hilo' t (Nat.lt_succ_self _)).symm

theorem agregarHiloAReady_encolar {hilo : Puntero} {s : EstadoKernel}
    (halgoritmo : s.algoritmo = .fifo ∨ s.algoritmo = .prioridades) :
    agregarHiloAReady hilo s = encolarReady hilo s := by
  rw [agregarHiloAReady_eq]
  unfold agregarSegun
  rcases halgoritmo with halgoritmo | halgoritmo
  · rw [halgoritmo]
  · rw [halgoritmo]

/-! ## Without dependencies -/

/-- No thread waits for this one. -/
def SinDependiente (hilo : Puntero) (s : EstadoKernel) : Prop :=
  ∀ dep ∈ s.listaDependencias, dep.hilo ≠ hilo

/-- The queue that the algorithm pushes to has been created. -/
def ColaCreada (s : EstadoKernel) : Prop :=
  s.algoritmo = .fifo ∨ s.algoritmo = .prioridades → s.colaReadyFifoPrioridades.isSome

section SinDependencias

variable {hilo : Puntero} {s : EstadoKernel}

theorem sinDependiente_of_nil (hdep : s.listaDependencias = []) : SinDependiente hilo s := by
  intro dep hmem
  rw [hdep] at hmem
  exact absurd hmem List.not_mem_nil

theorem liberarTcb_sinDependiente (agregar : Puntero → EstadoKernel → Option EstadoKernel)
    (hsin : SinDependiente hilo s) : liberarTcb agregar hilo s = some s := by
  have hfind : s.listaDependencias.find? (·.hilo = hilo) = none :=
    List.find?_eq_none.mpr fun dep hmem => by simpa using hsin dep hmem
  have htiene : tieneDependiente hilo s = false := by
    unfold tieneDependiente
    rw [hfind]
  unfold liberarTcb
  rw [htiene]
  exact ite_self _

theorem insertarEnColaReadyCmn_isSome {tcb : TCB} (htcb : s.tcbs hilo = some tcb) :
    ∃ r, insertarEnColaReadyCmn hilo s = some r := by
  unfold insertarEnColaReadyCmn
  rw [htcb]
  dsimp only [Option.bind_eq_bind, Option.bind_some]
  split
  · exact ⟨_, rfl⟩
  · split
    · exact ⟨_, rfl⟩
    · split
      · exact ⟨_, rfl⟩
      · exact ⟨_, rfl⟩

/-- When nothing waits for a thread, only the ready collections change. -/
theorem agregarHiloAReady_sinDependiente {tcb : TCB} (htcb : s.tcbs hilo = some tcb)
    (hsin : SinDependiente hilo s) (hcola : ColaCreada s) :
    ∃ cola niveles, agregarHiloAReady hilo s = some { s with
      colaReadyFifoPrioridades := cola, colasReadyCmn := niveles } ∧
      (s.colaReadyFifoPrioridades.isSome → cola.isSome) := by
  have hencolar (halgoritmo : s.algoritmo = .fifo ∨ s.algoritmo = .prioridades) :
      ∃ cola niveles, encolarReady hilo s = some { s with
        colaReadyFifoPrioridades := cola, colasReadyCmn := niveles } ∧
        (s.colaReadyFifoPrioridades.isSome → cola.isSome) := by
    obtain ⟨cola, hcola⟩ := Option.isSome_iff_exists.mp (hcola halgoritmo)
    unfold encolarReady
    rw [hcola, htcb]
    exact ⟨some (cola ++ [hilo]), s.colasReadyCmn, rfl, fun _ => rfl⟩
  rw [agregarHiloAReady_eq]
  unfold agregarSegun
  split
  · obtain ⟨⟨insertado, t⟩, ht⟩ := insertarEnColaReadyCmn_isSome htcb
    rw [ht]
    obtain ⟨rfl, rfl⟩ | ⟨tcb', cola', rfl, -, -, -, rfl⟩ := insertarEnColaReadyCmn_cases ht
    · exact ⟨_, _, liberarTcb_sinDependiente _ hsin, id⟩
    · exact ⟨s.colaReadyFifoPrioridades,
        Function.update s.colasReadyCmn tcb'.prioridad.toNat (some (cola' ++ [hilo])), rfl, id⟩
  · rename_i halgoritmo
    exact hencolar (Or.inl halgoritmo)
  · rename_i halgoritmo
    exact hencolar (Or.inr halgoritmo)
  · exact ⟨_, _, rfl, id⟩
  · exact ⟨_, _, rfl, id⟩

/-- Without the queue of its algorithm a thread cannot be made ready. -/
theorem agregarHiloAReady_eq_none (hcola : ¬ ColaCreada s) : agregarHiloAReady hilo s = none := by
  unfold ColaCreada at hcola
  push Not at hcola
  obtain ⟨halgoritmo, hcola⟩ := hcola
  have hnone : s.colaReadyFifoPrioridades = none := by simpa using hcola
  rw [agregarHiloAReady_eq]
  unfold agregarSegun encolarReady
  rw [hnone]
  rcases halgoritmo with halgoritmo | halgoritmo
  · rw [halgoritmo]
    rfl
  · rw [halgoritmo]
    rfl

end SinDependencias

/-! ## The collections -/

/-- The comparisons of `buscarAlgoritmo`, one after the other. -/
theorem buscarAlgoritmo_eq (token : CString) :
    buscarAlgoritmo token =
      if token.bytes = ascii "CMN" then .cmn
      else if token.bytes = ascii "FIFO" then .fifo
      else if token.bytes = ascii "PRIORIDADES" then .prioridades
      else if token.bytes = ascii "COLAS MULTINIVEL" then .colasMultinivel
      else .desconocido := by
  unfold buscarAlgoritmo nombresAlgoritmo
  by_cases hcmn : token.bytes = ascii "CMN"
  · simp [hcmn]
  by_cases hfifo : token.bytes = ascii "FIFO"
  · simp [hfifo, show ascii "FIFO" ≠ ascii "CMN" by decide]
  by_cases hprioridades : token.bytes = ascii "PRIORIDADES"
  · simp [hprioridades, show ascii "PRIORIDADES" ≠ ascii "CMN" by decide,
      show ascii "PRIORIDADES" ≠ ascii "FIFO" by decide]
  by_cases hcolas : token.bytes = ascii "COLAS MULTINIVEL"
  · simp [hcolas, show ascii "COLAS MULTINIVEL" ≠ ascii "CMN" by decide,
      show ascii "COLAS MULTINIVEL" ≠ ascii "FIFO" by decide,
      show ascii "COLAS MULTINIVEL" ≠ ascii "PRIORIDADES" by decide]
  · simp [hcmn, hfifo, hprioridades, hcolas]

/-- A dispatcher is started for three names only; with `CMN`, the one in the repository's
`kernel.config`, the kernel ends. -/
theorem planificadorCortoPlazo_buscarAlgoritmo (token : CString) :
    (planificadorCortoPlazo (buscarAlgoritmo token)).isSome ↔
      token.bytes = ascii "FIFO" ∨ token.bytes = ascii "PRIORIDADES" ∨
        token.bytes = ascii "COLAS MULTINIVEL" := by
  rw [buscarAlgoritmo_eq]
  split_ifs with hcmn hfifo hprioridades hcolas
  · rw [hcmn]
    decide
  · simp [hfifo, planificadorCortoPlazo]
  · simp [hprioridades, planificadorCortoPlazo]
  · simp [hcolas, planificadorCortoPlazo]
  · simp [hfifo, hprioridades, hcolas, planificadorCortoPlazo]

theorem niveles_update (s : EstadoKernel) (i : ℕ) (cola : List Puntero) :
    niveles { s with colasReadyCmn := Function.update s.colasReadyCmn i (some cola) } =
      Function.update (niveles s) i cola := by
  funext j
  by_cases hj : j = i
  · subst hj
    simp [niveles]
  · simp [niveles, hj]

theorem niveles_of_some {s : EstadoKernel} {i : ℕ} {cola : List Puntero}
    (h : s.colasReadyCmn i = some cola) : niveles s i = cola := by
  unfold niveles
  rw [h, Option.getD_some]

theorem insertarEnColaReadyCmn_coleccion {hilo : Puntero} {s s' : EstadoKernel}
    (h : insertarEnColaReadyCmn hilo s = some (true, s')) :
    (coleccion s' .atenderCmn).Perm (hilo :: coleccion s .atenderCmn) := by
  obtain ⟨hfalse, -⟩ | ⟨tcb, cola, -, -, hprioridad, hcola, rfl⟩ :=
    insertarEnColaReadyCmn_cases h
  · cases hfalse
  · show (waiting maxNivelesPrioridad (niveles _)).Perm _
    rw [niveles_update, ← niveles_of_some hcola]
    exact waiting_push hprioridad (niveles s) hilo

/-! ## Ready threads and dispatchers -/

/-- The queue of `FIFO` and `PRIORIDADES`, when there is one, gets the thread behind all
others. -/
theorem encolarReady_eq_some {hilo : Puntero} {tcb : TCB} {s : EstadoKernel}
    (htcb : s.tcbs hilo = some tcb) {cola : List Puntero}
    (hcola : s.colaReadyFifoPrioridades = some cola) :
    encolarReady hilo s = some { s with colaReadyFifoPrioridades := some (cola ++ [hilo]) } := by
  unfold encolarReady
  rw [hcola, htcb]
  rfl

theorem encolarReady_eq_none {hilo : Puntero} {s : EstadoKernel}
    (hcola : s.colaReadyFifoPrioridades = none) : encolarReady hilo s = none := by
  unfold encolarReady
  rw [hcola]
  rfl

section

variable {hilo : Puntero} {tcb : TCB} {s : EstadoKernel} {d : Despachador}

/-- The two algorithms with a queue of their own. -/
theorem agregarFiel_iff_encolarReady (htcb : s.tcbs hilo = some tcb)
    (hagregar : agregarHiloAReady hilo s = encolarReady hilo s)
    (hd : ∀ t, coleccion t d = t.colaReadyFifoPrioridades.getD []) :
    AgregarFiel d hilo s ↔ s.colaReadyFifoPrioridades.isSome := by
  unfold AgregarFiel
  rw [hagregar]
  cases hcola : s.colaReadyFifoPrioridades with
  | none =>
    rw [encolarReady_eq_none hcola]
    constructor
    · rintro ⟨s', hs', -⟩
      cases hs'
    · intro hsome
      cases hsome
  | some cola =>
    refine ⟨fun _ => rfl, fun _ => ⟨_, encolarReady_eq_some htcb hcola, ?_⟩⟩
    rw [hd, hd, hcola]
    exact List.perm_append_singleton hilo cola

theorem not_agregarFiel_colasMultinivel (hagregar : agregarHiloAReady hilo s = some s) :
    ¬ AgregarFiel d hilo s := by
  rintro ⟨s', hs', hperm⟩
  rw [hagregar] at hs'
  obtain rfl := Option.some.inj hs'
  have hlen := hperm.length_eq
  rw [List.length_cons] at hlen
  omega

/-- **Ready and dispatch agree if and only if** the algorithm is not `COLAS_MULTINIVEL`
and its queue has been created. -/
theorem agregarFiel_iff (htcb : s.tcbs hilo = some tcb)
    (hd : planificadorCortoPlazo s.algoritmo = some d) :
    AgregarFiel d hilo s ↔
      s.algoritmo ≠ .colasMultinivel ∧ s.colaReadyFifoPrioridades.isSome := by
  have hagregar := agregarHiloAReady_eq hilo s
  unfold agregarSegun at hagregar
  cases halgoritmo : s.algoritmo <;> rw [halgoritmo] at hd hagregar <;> dsimp only at hagregar
  case fifo =>
    obtain rfl := Option.some.inj hd
    rw [agregarFiel_iff_encolarReady htcb hagregar fun _ => rfl]
    exact ⟨fun h => ⟨by decide, h⟩, fun h => h.2⟩
  case prioridades =>
    obtain rfl := Option.some.inj hd
    rw [agregarFiel_iff_encolarReady htcb hagregar fun _ => rfl]
    exact ⟨fun h => ⟨by decide, h⟩, fun h => h.2⟩
  case colasMultinivel =>
    exact ⟨fun h => absurd h (not_agregarFiel_colasMultinivel hagregar),
      fun h => absurd rfl h.1⟩
  case cmn => cases hd
  case desconocido => cases hd

end

/-- Thread 0 of process 0, with priority 0, at address 1. -/
def unHilo (algoritmo : Algoritmo) : EstadoKernel :=
  { kernelInicial algoritmo with
    siguiente := 2
    tcbs := Function.update (fun _ => none) 1 (some ⟨0, 0, 0, EstadoProceso.ready.codigo⟩) }

/-- Under `FIFO`. -/
theorem agregarFiel_unHilo : AgregarFiel .atenderFifo 1 (unHilo .fifo) :=
  (agregarFiel_iff rfl rfl).mpr ⟨by decide, rfl⟩

/-- Under `COLAS MULTINIVEL` the dispatcher of the levels starts, the levels exist, and
the thread is put in none of them. -/
theorem not_agregarFiel_unHilo :
    buscarAlgoritmo (CString.ofBytes (ascii "COLAS MULTINIVEL")) = .colasMultinivel ∧
      planificadorCortoPlazo .colasMultinivel = some .atenderCmn ∧
      agregarHiloAReady 1 (unHilo .colasMultinivel) = some (unHilo .colasMultinivel) ∧
      ¬ AgregarFiel .atenderCmn 1 (unHilo .colasMultinivel) :=
  ⟨by decide, rfl, rfl, not_agregarFiel_colasMultinivel rfl⟩

end SoTp.Kernel
