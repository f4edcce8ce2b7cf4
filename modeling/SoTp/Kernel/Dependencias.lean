import SoTp.Kernel.Despertar
import SoTp.Kernel.Identidad
import SoTp.Lib.Edit
import SoTp.Lib.Skip

/-!
# Who waits for a thread

`buscarDependiente` (`kernel/src/main.c`, lines 751–765) and `liberar_tcb`
(`kernel/src/k_largo_plazo.c`, lines 200–208). The loop removes entries from
`lista_dependencias` while it walks over it, and does not look at the entry behind a removed
one.

* `buscarDependienteDesde_eq`: the loop removes the entries that `skipRemoved` says, and wakes
  their threads in order.
* `buscarDependiente_fiel`: **only joiners are woken**, under `FIFO` and `PRIORIDADES`.
* `todosDespiertos_iff`: **exactly when all of them are.**
-/

namespace SoTp.Kernel

open SoTp.Lib SoTp.Utils

/-! ## The loop -/

/-- The entry is removed for `hilo`. -/
def EsperaA (hilo : Puntero) (dep : Dependencia) : Bool :=
  decide (dep.hilo = hilo ∧ dep.dependiente ≠ NULL)

/-- No call of `agregarHiloAReady` for the threads of `ds` releases a thread for which others
wait: under `CMN` each of them has a level, or nobody waits for it. -/
def SinAnidar (ds : List Puntero) (s : EstadoKernel) : Prop :=
  s.algoritmo = .cmn → ∀ d ∈ ds, Insertable d s ∨ SinDependiente d s

theorem sinAnidar_of_encolar {ds : List Puntero} {s : EstadoKernel}
    (halgoritmo : s.algoritmo = .fifo ∨ s.algoritmo = .prioridades) : SinAnidar ds s := by
  intro hcmn
  rw [hcmn] at halgoritmo
  rcases halgoritmo with h | h
  · cases h
  · cases h

section

variable {s s' u : EstadoKernel} {hilo : Puntero}

theorem SinAnidar.despues {ds : List Puntero} {deps : List Dependencia} (h : SinAnidar ds s)
    (hsub : deps.Sublist s.listaDependencias) (hmismos : MismosHilos (conDependencias deps s) u) :
    SinAnidar ds u := by
  intro hcmn d hd
  rcases h (hmismos.algoritmo.symm.trans hcmn) d hd with hins | hsin
  · exact Or.inl (hmismos.insertable_iff.mpr hins)
  · right
    intro dep hdep
    rw [hmismos.dependencias] at hdep
    exact hsin dep (hsub.subset hdep)

theorem SinAnidar.head {d : Puntero} {ds : List Puntero} (h : SinAnidar (d :: ds) s) :
    SinAnidar [d] s := fun hcmn _ he => h hcmn _ (List.mem_singleton.mp he ▸ List.mem_cons_self)

theorem SinAnidar.tail {d : Puntero} {ds : List Puntero} (h : SinAnidar (d :: ds) s) :
    SinAnidar ds s := fun hcmn _ he => h hcmn _ (List.mem_cons_of_mem d he)

/-- A round that removes an entry. -/
theorem buscarDependienteDesde_succ {n i : ℕ} {dep : Dependencia}
    (hanidar : SinAnidar [dep.dependiente] s) (hget : s.listaDependencias[i]? = some dep)
    (hespera : EsperaA hilo dep) :
    buscarDependienteDesde agregarHiloAReady hilo (n + 1) i s =
      (despertarUno dep.dependiente (conDependencias (s.listaDependencias.eraseIdx i) s)).bind
        (buscarDependienteDesde agregarHiloAReady hilo n (i + 1)) := by
  have hespera' : dep.hilo = hilo ∧ dep.dependiente ≠ NULL := of_decide_eq_true hespera
  rw [buscarDependienteDesde, hget]
  dsimp only
  rw [if_pos hespera']
  unfold despertarUno
  rw [Option.bind_assoc]
  refine Option.bind_congr fun t ht => ?_
  have hmismos : MismosHilos (conDependencias (s.listaDependencias.eraseIdx i) s) t :=
    ponerEstado_mismosHilos ht
  have hanidar' : SinAnidar [dep.dependiente] t :=
    hanidar.despues (List.eraseIdx_sublist _ _) hmismos
  show (agregarHiloAReady _ t).bind _ = _
  rw [agregarHiloAReady_meter fun hcmn => hanidar' hcmn _ (List.mem_singleton.mpr rfl)]

/-- What is left to do from index `i` on: the threads of the entries that `skipRemoved` removes
are woken in order, and the other entries stay. -/
def recorrido (hilo : Puntero) (i : ℕ) (s : EstadoKernel) : Option EstadoKernel :=
  despertar ((skipRemoved (EsperaA hilo) (s.listaDependencias.drop i)).map (·.dependiente))
    (conDependencias (s.listaDependencias.take i ++
      skipKept (EsperaA hilo) (s.listaDependencias.drop i)) s)

theorem recorrido_fin {i : ℕ} (hle : s.listaDependencias.length ≤ i) :
    recorrido hilo i s = some s := by
  unfold recorrido
  rw [List.drop_eq_nil_of_le hle, List.take_of_length_le hle]
  unfold skipRemoved skipKept
  rw [List.append_nil]
  rfl

theorem drop_of_getElem? {i : ℕ} {dep : Dependencia} (hget : s.listaDependencias[i]? = some dep) :
    s.listaDependencias.drop i = dep :: s.listaDependencias.drop (i + 1) := by
  obtain ⟨hi, hdep⟩ := List.getElem?_eq_some_iff.mp hget
  rw [List.drop_eq_getElem_cons hi, hdep]

theorem recorrido_pasa {i : ℕ} {dep : Dependencia} (hget : s.listaDependencias[i]? = some dep)
    (hotra : ¬ EsperaA hilo dep) : recorrido hilo i s = recorrido hilo (i + 1) s := by
  obtain ⟨hi, hdep⟩ := List.getElem?_eq_some_iff.mp hget
  have htake : s.listaDependencias.take (i + 1) = s.listaDependencias.take i ++ [dep] := by
    rw [List.take_succ_eq_append_getElem hi, hdep]
  unfold recorrido
  rw [drop_of_getElem? hget, skipRemoved_cons_of_not hotra, skipKept_cons_of_not hotra, htake,
    List.append_assoc, List.singleton_append]

/-- After the removal of an entry the next one is in its place, and `i + 1` is behind it. -/
theorem recorrido_quita {i : ℕ} {dep : Dependencia} (hget : s.listaDependencias[i]? = some dep)
    (hespera : EsperaA hilo dep) :
    recorrido hilo i s =
      (despertarUno dep.dependiente (conDependencias (s.listaDependencias.eraseIdx i) s)).bind
        (recorrido hilo (i + 1)) := by
  obtain ⟨hi, -⟩ := List.getElem?_eq_some_iff.mp hget
  have hdrop : (s.listaDependencias.eraseIdx i).drop (i + 1) =
      (s.listaDependencias.drop (i + 1)).tail := drop_succ_eraseIdx _ hi
  have htake : (s.listaDependencias.eraseIdx i).take (i + 1) =
      s.listaDependencias.take i ++ (s.listaDependencias.drop (i + 1)).take 1 :=
    take_succ_eraseIdx _ hi
  unfold recorrido
  rw [drop_of_getElem? hget, skipRemoved_cons hespera, skipKept_cons hespera, List.map_cons,
    despertar, despertarUno_conDependencias, despertarUno_conDependencias]
  cases despertarUno dep.dependiente s with
  | none => rfl
  | some u =>
    show _ = despertar ((skipRemoved (EsperaA hilo)
        ((s.listaDependencias.eraseIdx i).drop (i + 1))).map (·.dependiente))
      (conDependencias ((s.listaDependencias.eraseIdx i).take (i + 1) ++
        skipKept (EsperaA hilo) ((s.listaDependencias.eraseIdx i).drop (i + 1))) u)
    rw [hdrop, htake, List.append_assoc]
    rfl

/-- **The loop** from index `i` on: the entries that it removes are those of `skipRemoved`,
their threads are woken in order, and the other entries stay. -/
theorem buscarDependienteDesde_eq (n i : ℕ) (hn : s.listaDependencias.length ≤ n + i)
    (hanidar : SinAnidar ((skipRemoved (EsperaA hilo) (s.listaDependencias.drop i)).map
      (·.dependiente)) s) :
    buscarDependienteDesde agregarHiloAReady hilo n i s = recorrido hilo i s := by
  induction n generalizing i s with
  | zero =>
    rw [recorrido_fin (by omega)]
    rfl
  | succ n ih =>
    cases hget : s.listaDependencias[i]? with
    | none =>
      rw [buscarDependienteDesde, hget, recorrido_fin (List.getElem?_eq_none_iff.mp hget)]
    | some dep =>
      rw [drop_of_getElem? hget] at hanidar
      by_cases hespera : EsperaA hilo dep
      · rw [skipRemoved_cons hespera, List.map_cons] at hanidar
        rw [buscarDependienteDesde_succ hanidar.head hget hespera, recorrido_quita hget hespera]
        refine Option.bind_congr fun u hu => ?_
        obtain ⟨hi, -⟩ := List.getElem?_eq_some_iff.mp hget
        have hmismos := (despertarUno_cambia hu).1
        have hdeps : u.listaDependencias = s.listaDependencias.eraseIdx i := hmismos.dependencias
        refine ih (i + 1) ?_ ?_
        · rw [hdeps, List.length_eraseIdx_of_lt hi]
          omega
        · rw [hdeps, drop_succ_eraseIdx _ hi]
          exact hanidar.tail.despues (List.eraseIdx_sublist _ _) hmismos
      · have hespera' : ¬ (dep.hilo = hilo ∧ dep.dependiente ≠ NULL) := fun h =>
          hespera (decide_eq_true h)
        rw [skipRemoved_cons_of_not hespera] at hanidar
        rw [buscarDependienteDesde, hget]
        dsimp only
        rw [if_neg hespera', recorrido_pasa hget hespera]
        exact ih (i + 1) (by omega) hanidar

/-- The entries that are removed for `hilo`. -/
def quitadas (hilo : Puntero) (s : EstadoKernel) : List Dependencia :=
  skipRemoved (EsperaA hilo) s.listaDependencias

/-- The entries that stay. -/
def quedan (hilo : Puntero) (s : EstadoKernel) : List Dependencia :=
  skipKept (EsperaA hilo) s.listaDependencias

theorem buscarDependienteDesde_zero
    (hanidar : SinAnidar ((quitadas hilo s).map (·.dependiente)) s) {n : ℕ}
    (hn : s.listaDependencias.length ≤ n) :
    buscarDependienteDesde agregarHiloAReady hilo n 0 s =
      despertar ((quitadas hilo s).map (·.dependiente)) (conDependencias (quedan hilo s) s) := by
  rw [buscarDependienteDesde_eq n 0 (by omega) (by rwa [List.drop_zero])]
  unfold recorrido
  rw [List.drop_zero, List.take_zero, List.nil_append]
  rfl

theorem buscarDependiente_eq
    (hanidar : SinAnidar ((quitadas hilo s).map (·.dependiente)) s) :
    buscarDependiente agregarHiloAReady hilo s =
      despertar ((quitadas hilo s).map (·.dependiente)) (conDependencias (quedan hilo s) s) :=
  buscarDependienteDesde_zero hanidar le_rfl

theorem mem_quitadas {dep : Dependencia} (h : dep ∈ quitadas hilo s) :
    dep.hilo = hilo ∧ dep.dependiente ≠ NULL :=
  of_decide_eq_true (mem_skipRemoved _ _ dep h)

theorem quitadas_append_quedan :
    (quitadas hilo s ++ quedan hilo s).Perm s.listaDependencias :=
  skipRemoved_append_skipKept _ _

/-- What the loop leaves when it comes back. -/
theorem buscarDependiente_eq_some (halgoritmo : s.algoritmo = .fifo ∨ s.algoritmo = .prioridades)
    (h : buscarDependiente agregarHiloAReady hilo s = some s') :
    ((quitadas hilo s).map (·.dependiente) ≠ [] → s.colaReadyFifoPrioridades.isSome) ∧
      (∀ d ∈ (quitadas hilo s).map (·.dependiente), (s.tcbs d).isSome) ∧
      s' = { s with
        tcbs := marcarReady ((quitadas hilo s).map (·.dependiente)) s.tcbs
        colaReadyFifoPrioridades := s.colaReadyFifoPrioridades.map
          (· ++ (quitadas hilo s).map (·.dependiente))
        listaDependencias := quedan hilo s } := by
  rw [buscarDependiente_eq (sinAnidar_of_encolar halgoritmo)] at h
  obtain ⟨hcreada, hvivos⟩ := despertar_isSome_iff.mp (Option.isSome_iff_exists.mpr ⟨s', h⟩)
  have hcola (hne : (quitadas hilo s).map (·.dependiente) ≠ []) :
      s.colaReadyFifoPrioridades.isSome := hcreada hne halgoritmo
  refine ⟨hcola, hvivos, ?_⟩
  cases hready : s.colaReadyFifoPrioridades with
  | some cola =>
    obtain rfl := Option.some.inj ((despertar_eq (s := conDependencias (quedan hilo s) s) halgoritmo
      hready hvivos).symm.trans h)
    rfl
  | none =>
    have hnadie : (quitadas hilo s).map (·.dependiente) = [] := by
      by_contra hne
      have hsome : s.colaReadyFifoPrioridades.isSome := hcola hne
      rw [hready] at hsome
      cases hsome
    rw [hnadie] at h ⊢
    obtain rfl := Option.some.inj h
    rw [marcarReady_nil, Option.map_none, ← hready]
    rfl

end

/-! ## What a release leaves -/

section

variable {PID TID : UInt32} {hilo : Puntero} {s s' : EstadoKernel}

theorem quitadas_ne_nil (htiene : tieneDependiente hilo s = true) :
    (quitadas hilo s).map (·.dependiente) ≠ [] := by
  unfold tieneDependiente at htiene
  split at htiene
  · rename_i dep hdep
    have hid := List.find?_some hdep
    rw [Ne, List.map_eq_nil_iff]
    exact skipRemoved_ne_nil _ _ (List.mem_of_find?_eq_some hdep)
      (decide_eq_true ⟨of_decide_eq_true hid, of_decide_eq_true htiene⟩)
  · cases htiene

/-- What `liberar_tcb(hilo)` leaves of the collections when somebody waits for the thread. -/
theorem liberarTcb_deja (hhilo : hilo ≠ NULL) (hid : EsHilo s.tcbs PID TID hilo)
    (htiene : tieneDependiente hilo s = true)
    (hanidar : SinAnidar ((quitadas hilo s).map (·.dependiente)) s)
    (h : liberarTcb agregarHiloAReady hilo s = some s') :
    ColaCreada s ∧ (∀ d ∈ (quitadas hilo s).map (·.dependiente), (s.tcbs d).isSome) ∧
      quitarTCBDeLista s.tcbs PID TID s.listaBloqHilo = some s'.listaBloqHilo ∧
      ∃ entran : List Puntero,
        (∀ d, d ∈ entran ↔ d ∈ (quitadas hilo s).map (·.dependiente) ∧ Entra d s) ∧
        (enReady s').Perm (entran ++ enReady s) := by
  unfold liberarTcb at h
  rw [if_neg hhilo, if_pos htiene, buscarDependiente_eq hanidar] at h
  obtain ⟨t, ht, h⟩ := Option.bind_eq_some_iff.mp h
  obtain ⟨tcb, htcb, h⟩ := Option.bind_eq_some_iff.mp h
  obtain ⟨lista, hlista, h⟩ := Option.bind_eq_some_iff.mp h
  obtain rfl := Option.some.inj h
  obtain ⟨hcola, hvivos⟩ := despertar_isSome_iff.mp (Option.isSome_iff_exists.mpr ⟨t, ht⟩)
  obtain ⟨hmismos, hentran⟩ := despertar_cambia ht
  refine ⟨hcola (quitadas_ne_nil htiene), hvivos, ?_, hentran⟩
  obtain ⟨tcb', htcb', hquitar⟩ := hid.quitar hmismos.identidad
  obtain rfl := Option.some.inj (htcb.symm.trans htcb')
  rw [hquitar, hmismos.bloq] at hlista
  exact hlista

/-- It comes back when there is a queue, and everything that it follows is a thread. -/
theorem liberarTcb_vuelve (hhilo : hilo ≠ NULL) (hid : EsHilo s.tcbs PID TID hilo)
    (hanidar : SinAnidar ((quitadas hilo s).map (·.dependiente)) s) (hcola : ColaCreada s)
    (hvivos : ∀ d ∈ (quitadas hilo s).map (·.dependiente), (s.tcbs d).isSome)
    {lista : List Puntero}
    (hlista : quitarTCBDeLista s.tcbs PID TID s.listaBloqHilo = some lista) :
    ∃ s', liberarTcb agregarHiloAReady hilo s = some s' := by
  by_cases htiene : tieneDependiente hilo s = true
  · obtain ⟨t, ht⟩ := Option.isSome_iff_exists.mp ((despertar_isSome_iff
      (s := conDependencias (quedan hilo s) s)).mpr ⟨fun _ => hcola, hvivos⟩)
    have hmismos := (despertar_cambia ht).1
    obtain ⟨tcb, htcb, hquitar⟩ := hid.quitar hmismos.identidad
    have hlista' : quitarTCBDeLista t.tcbs tcb.PID tcb.TID t.listaBloqHilo = some lista := by
      rw [hquitar, hmismos.bloq]
      exact hlista
    refine ⟨{ t with listaBloqHilo := lista }, ?_⟩
    unfold liberarTcb
    rw [if_neg hhilo, if_pos htiene, buscarDependiente_eq hanidar, ht]
    show (t.tcbs hilo).bind (fun tcb : TCB =>
      (quitarTCBDeLista t.tcbs tcb.PID tcb.TID t.listaBloqHilo).bind _) = _
    rw [htcb, Option.bind_some, hlista']
    rfl
  · refine ⟨s, ?_⟩
    unfold liberarTcb
    rw [if_neg hhilo, if_neg htiene]

end

/-! ## Only joiners are woken -/

/-- Between `s` and `s'` the entries of `quitadas` have been removed for `hilo`, their threads
woken, and nothing else has changed. -/
structure SoloEsperantes (hilo : Puntero) (s s' : EstadoKernel) (quitadas : List Dependencia) :
    Prop where
  entradas : ∀ dep ∈ quitadas, dep.hilo = hilo ∧ dep.dependiente ≠ NULL
  orden : quitadas.Sublist s.listaDependencias
  quedan : s'.listaDependencias.Sublist s.listaDependencias
  todas : (quitadas ++ s'.listaDependencias).Perm s.listaDependencias
  cola : listos s' = listos s ++ quitadas.map (·.dependiente)
  despiertos : ∀ dep ∈ quitadas, ∃ tcb, s.tcbs dep.dependiente = some tcb ∧
    s'.tcbs dep.dependiente = some { tcb with estado := EstadoProceso.ready.codigo }
  otros : ∀ p, p ∉ quitadas.map (·.dependiente) → s'.tcbs p = s.tcbs p
  resto : s' = { s with
    tcbs := s'.tcbs
    colaReadyFifoPrioridades := s'.colaReadyFifoPrioridades
    listaDependencias := s'.listaDependencias }

/-- **Only joiners are woken.** Under `FIFO` and `PRIORIDADES`, for every list of dependencies
and every thread: the loop has ended after as many rounds as the list has entries; it comes
back when there is a queue and the threads that wait are on the heap; and then it has removed
entries of that thread only, and woken their threads, each once and in order, behind the queue
as it was. -/
theorem buscarDependiente_fiel (hilo : Puntero) (s : EstadoKernel)
    (halgoritmo : s.algoritmo = .fifo ∨ s.algoritmo = .prioridades) :
    (∀ n, s.listaDependencias.length ≤ n →
        buscarDependienteDesde agregarHiloAReady hilo n 0 s =
          buscarDependiente agregarHiloAReady hilo s) ∧
      (s.colaReadyFifoPrioridades.isSome →
        (∀ dep ∈ s.listaDependencias, dep.hilo = hilo → dep.dependiente ≠ NULL →
          (s.tcbs dep.dependiente).isSome) →
        ∃ s', buscarDependiente agregarHiloAReady hilo s = some s') ∧
      ∀ s', buscarDependiente agregarHiloAReady hilo s = some s' →
        ∃ quitadas, SoloEsperantes hilo s s' quitadas := by
  refine ⟨fun n hn => ?_, fun hcola hvivos => ?_, fun s' hs' => ⟨quitadas hilo s, ?_⟩⟩
  · rw [buscarDependienteDesde_zero (sinAnidar_of_encolar halgoritmo) hn,
      buscarDependiente_eq (sinAnidar_of_encolar halgoritmo)]
  · obtain ⟨cola, hcola⟩ := Option.isSome_iff_exists.mp hcola
    rw [buscarDependiente_eq (sinAnidar_of_encolar halgoritmo)]
    refine ⟨_, despertar_eq (s := conDependencias (quedan hilo s) s) halgoritmo hcola ?_⟩
    rw [List.forall_mem_map]
    intro dep hdep
    obtain ⟨hid, hne⟩ := mem_quitadas hdep
    exact hvivos dep ((skipRemoved_sublist _ _).subset hdep) hid hne
  · obtain ⟨hcola, hvivos, rfl⟩ := buscarDependiente_eq_some halgoritmo hs'
    refine ⟨fun dep => mem_quitadas, skipRemoved_sublist _ _, skipKept_sublist _ _,
      quitadas_append_quedan, ?_, fun dep hdep => ?_, fun p hp => if_neg hp, rfl⟩
    · unfold listos
      cases hready : s.colaReadyFifoPrioridades with
      | some cola => rfl
      | none =>
        have hnadie : (quitadas hilo s).map (·.dependiente) = [] := by
          by_contra hne
          have hsome := hcola hne
          rw [hready] at hsome
          cases hsome
        rw [hnadie]
        rfl
    · have hmem : dep.dependiente ∈ (quitadas hilo s).map (·.dependiente) :=
        List.mem_map_of_mem hdep
      obtain ⟨tcb, htcb⟩ := Option.isSome_iff_exists.mp (hvivos _ hmem)
      refine ⟨tcb, htcb, (if_pos hmem).trans ?_⟩
      rw [htcb]
      rfl

/-- Under `FIFO`, thread 0 at address 1 has ended, the threads at 2 and 3 are blocked, and
`deps` are the dependencies. -/
def trasJoins (deps : List Dependencia) (bloq : List Puntero) : EstadoKernel :=
  { kernelInicial .fifo with
    siguiente := 4
    tcbs := fun p =>
      if p = 1 then some ⟨0, 0, 0, EstadoProceso.exit.codigo⟩
      else if p = 2 then some ⟨0, 1, 0, EstadoProceso.blocked.codigo⟩
      else if p = 3 then some ⟨0, 2, 0, EstadoProceso.blocked.codigo⟩
      else none
    listaBloqHilo := bloq
    listaDependencias := deps }

/-- Of three entries the second one is of another thread. -/
theorem buscarDependiente_fiel_tresHilos : ∃ s' quitadas,
    buscarDependiente agregarHiloAReady 1 (trasJoins [⟨1, 2⟩, ⟨2, 3⟩, ⟨1, 3⟩] [2, 3]) = some s' ∧
      SoloEsperantes 1 (trasJoins [⟨1, 2⟩, ⟨2, 3⟩, ⟨1, 3⟩] [2, 3]) s' quitadas := by
  obtain ⟨-, -, hsolo⟩ :=
    buscarDependiente_fiel 1 (trasJoins [⟨1, 2⟩, ⟨2, 3⟩, ⟨1, 3⟩] [2, 3]) (Or.inl rfl)
  obtain ⟨quitadas, hquitadas⟩ := hsolo _ rfl
  exact ⟨_, quitadas, rfl, hquitadas⟩

/-! ## All joiners are woken -/

/-- `liberar_tcb(hilo)` comes back; every thread that waited for `hilo` is in the ready queue
once more and not in `lista_bloq_hilo`, and no entry of `hilo` is left. -/
def TodosDespiertos (hilo : Puntero) (s : EstadoKernel) : Prop :=
  ∃ s', liberarTcb agregarHiloAReady hilo s = some s' ∧
    (∀ dep ∈ s.listaDependencias, dep.hilo = hilo → dep.dependiente ≠ NULL →
      (listos s').count dep.dependiente = (listos s).count dep.dependiente + 1 ∧
        dep.dependiente ∉ s'.listaBloqHilo) ∧
    ∀ dep ∈ s'.listaDependencias, dep.hilo ≠ hilo

/-- What the entries of `hilo`, which has the block `tcb`, must be like. They have a thread
each, all different and on the heap; no two of them follow one another; there is a ready queue;
and once the first thread with the identity of `hilo` has been taken out of `lista_bloq_hilo`,
none of the threads is in it. -/
structure Despertables (hilo : Puntero) (tcb : TCB) (s : EstadoKernel) : Prop where
  nulos : ∀ dep ∈ s.listaDependencias, dep.hilo = hilo → dep.dependiente ≠ NULL
  separadas : NoNeighbours (EsperaA hilo) s.listaDependencias
  distintos : ((s.listaDependencias.filter (EsperaA hilo)).map (·.dependiente)).Nodup
  vivos : ∀ dep ∈ s.listaDependencias, dep.hilo = hilo → (s.tcbs dep.dependiente).isSome
  cola : s.colaReadyFifoPrioridades.isSome
  bloq : ∃ lista, quitarTCBDeLista s.tcbs tcb.PID tcb.TID s.listaBloqHilo = some lista ∧
    ∀ dep ∈ s.listaDependencias, dep.hilo = hilo → dep.dependiente ∉ lista

section

variable {hilo : Puntero} {tcb : TCB} {s s' : EstadoKernel}

theorem tieneDependiente_of_entrada {dep : Dependencia} (hdep : dep ∈ s.listaDependencias)
    (hid : dep.hilo = hilo) (hnulos : ∀ dep ∈ s.listaDependencias, dep.hilo = hilo →
      dep.dependiente ≠ NULL) : tieneDependiente hilo s = true := by
  have hsome : (s.listaDependencias.find? fun dep => decide (dep.hilo = hilo)).isSome :=
    List.find?_isSome.mpr ⟨dep, hdep, decide_eq_true hid⟩
  obtain ⟨primera, hprimera⟩ := Option.isSome_iff_exists.mp hsome
  unfold tieneDependiente
  rw [hprimera]
  have hprimeraId := List.find?_some hprimera
  exact decide_eq_true
    (hnulos primera (List.mem_of_find?_eq_some hprimera) (of_decide_eq_true hprimeraId))

/-- With an entry of the thread, a release that leaves none has gone through the loop. -/
theorem liberarTcb_cases (hhilo : hilo ≠ NULL) (htcb : s.tcbs hilo = some tcb)
    (halgoritmo : s.algoritmo = .fifo ∨ s.algoritmo = .prioridades)
    (h : liberarTcb agregarHiloAReady hilo s = some s') :
    s' = s ∨ ∃ lista,
      ((quitadas hilo s).map (·.dependiente) ≠ [] → s.colaReadyFifoPrioridades.isSome) ∧
      (∀ d ∈ (quitadas hilo s).map (·.dependiente), (s.tcbs d).isSome) ∧
      quitarTCBDeLista s.tcbs tcb.PID tcb.TID s.listaBloqHilo = some lista ∧
      s' = { s with
        tcbs := marcarReady ((quitadas hilo s).map (·.dependiente)) s.tcbs
        colaReadyFifoPrioridades := s.colaReadyFifoPrioridades.map
          (· ++ (quitadas hilo s).map (·.dependiente))
        listaDependencias := quedan hilo s
        listaBloqHilo := lista } := by
  unfold liberarTcb at h
  rw [if_neg hhilo] at h
  split at h
  · right
    obtain ⟨t, ht, h⟩ := Option.bind_eq_some_iff.mp h
    obtain ⟨tcb', htcb', h⟩ := Option.bind_eq_some_iff.mp h
    obtain ⟨lista, hlista, h⟩ := Option.bind_eq_some_iff.mp h
    obtain rfl := Option.some.inj h
    obtain ⟨hcola, hvivos, rfl⟩ := buscarDependiente_eq_some halgoritmo ht
    have hid : EsHilo s.tcbs tcb.PID tcb.TID hilo := ⟨tcb, htcb, rfl, rfl⟩
    obtain ⟨tcb'', htcb'', hquitar⟩ :=
      hid.quitar (marcarReady_identidad ((quitadas hilo s).map (·.dependiente)) s.tcbs)
    obtain rfl := Option.some.inj (htcb'.symm.trans htcb'')
    rw [hquitar] at hlista
    exact ⟨lista, hcola, hvivos, hlista, rfl⟩
  · exact Or.inl (Option.some.inj h).symm

/-- Where the loop and the removal come back. -/
theorem liberarTcb_eq (hhilo : hilo ≠ NULL) (htcb : s.tcbs hilo = some tcb)
    (halgoritmo : s.algoritmo = .fifo ∨ s.algoritmo = .prioridades)
    (htiene : tieneDependiente hilo s = true) {cola lista : List Puntero}
    (hcola : s.colaReadyFifoPrioridades = some cola)
    (hvivos : ∀ d ∈ (quitadas hilo s).map (·.dependiente), (s.tcbs d).isSome)
    (hlista : quitarTCBDeLista s.tcbs tcb.PID tcb.TID s.listaBloqHilo = some lista) :
    liberarTcb agregarHiloAReady hilo s = some { s with
      tcbs := marcarReady ((quitadas hilo s).map (·.dependiente)) s.tcbs
      colaReadyFifoPrioridades := some (cola ++ (quitadas hilo s).map (·.dependiente))
      listaDependencias := quedan hilo s
      listaBloqHilo := lista } := by
  have hid : EsHilo s.tcbs tcb.PID tcb.TID hilo := ⟨tcb, htcb, rfl, rfl⟩
  obtain ⟨tcb', htcb', hquitar⟩ :=
    hid.quitar (marcarReady_identidad ((quitadas hilo s).map (·.dependiente)) s.tcbs)
  unfold liberarTcb
  rw [if_neg hhilo, if_pos htiene, buscarDependiente_eq (sinAnidar_of_encolar halgoritmo),
    despertar_eq (s := conDependencias (quedan hilo s) s) halgoritmo hcola hvivos]
  show (marcarReady _ s.tcbs hilo).bind (fun tcb : TCB =>
    (quitarTCBDeLista (marcarReady _ s.tcbs) tcb.PID tcb.TID s.listaBloqHilo).bind _) = _
  rw [htcb', Option.bind_some, hquitar, hlista]
  rfl

/-- With an entry of the thread, all of them are as `Despertables` says when all joiners have been
woken. -/
theorem TodosDespiertos.despertables (h : TodosDespiertos hilo s) (hhilo : hilo ≠ NULL)
    (htcb : s.tcbs hilo = some tcb) (halgoritmo : s.algoritmo = .fifo ∨ s.algoritmo = .prioridades)
    (hsin : ¬ SinDependiente hilo s) : Despertables hilo tcb s := by
  obtain ⟨s', hs', hdespiertos, hninguna⟩ := h
  rcases liberarTcb_cases hhilo htcb halgoritmo hs' with
    rfl | ⟨lista, hcola, hvivos, hlista, rfl⟩
  · exact absurd hninguna hsin
  have hnulos : ∀ dep ∈ s.listaDependencias, dep.hilo = hilo → dep.dependiente ≠ NULL := by
    intro dep hdep hid
    rcases List.mem_append.mp (quitadas_append_quedan.mem_iff.mpr hdep) with hquita | hqueda
    · exact (mem_quitadas hquita).2
    · exact absurd hid (hninguna dep hqueda)
  have hseparadas : NoNeighbours (EsperaA hilo) s.listaDependencias :=
    (forall_skipKept_iff _ _).mp fun dep hdep hespera =>
      hninguna dep hdep (of_decide_eq_true hespera).1
  have hfiltro : quitadas hilo s = s.listaDependencias.filter (EsperaA hilo) :=
    skipRemoved_eq_filter hseparadas
  have hmem {dep : Dependencia} (hdep : dep ∈ s.listaDependencias) (hid : dep.hilo = hilo) :
      dep.dependiente ∈ (quitadas hilo s).map (·.dependiente) := by
    rw [hfiltro]
    exact List.mem_map_of_mem
      (List.mem_filter.mpr ⟨hdep, decide_eq_true ⟨hid, hnulos dep hdep hid⟩⟩)
  unfold SinDependiente at hsin
  push Not at hsin
  obtain ⟨primera, hprimera, hid⟩ := hsin
  have hready : s.colaReadyFifoPrioridades.isSome :=
    hcola (List.ne_nil_of_mem (hmem hprimera hid))
  refine ⟨hnulos, hseparadas, ?_, fun dep hdep hid => hvivos _ (hmem hdep hid), hready,
    lista, hlista, fun dep hdep hid => (hdespiertos dep hdep hid (hnulos dep hdep hid)).2⟩
  obtain ⟨cola, hready⟩ := Option.isSome_iff_exists.mp hready
  rw [← hfiltro, List.nodup_iff_count_le_one]
  intro d
  by_cases hd : d ∈ (quitadas hilo s).map (·.dependiente)
  · obtain ⟨dep, hdep, rfl⟩ := List.mem_map.mp hd
    have hentrada := (skipRemoved_sublist _ _).subset hdep
    have hcuenta := (hdespiertos dep hentrada (mem_quitadas hdep).1 (mem_quitadas hdep).2).1
    unfold listos at hcuenta
    rw [hready, Option.map_some, Option.getD_some, Option.getD_some, List.count_append] at hcuenta
    omega
  · rw [List.count_eq_zero_of_not_mem hd]
    exact Nat.zero_le 1

/-- And then they are woken. -/
theorem Despertables.todosDespiertos (h : Despertables hilo tcb s) (hhilo : hilo ≠ NULL)
    (htcb : s.tcbs hilo = some tcb) (halgoritmo : s.algoritmo = .fifo ∨ s.algoritmo = .prioridades)
    (hsin : ¬ SinDependiente hilo s) : TodosDespiertos hilo s := by
  have hfiltro : quitadas hilo s = s.listaDependencias.filter (EsperaA hilo) :=
    skipRemoved_eq_filter h.separadas
  unfold SinDependiente at hsin
  push Not at hsin
  obtain ⟨primera, hprimera, hid⟩ := hsin
  obtain ⟨cola, hcola⟩ := Option.isSome_iff_exists.mp h.cola
  obtain ⟨lista, hlista, hsalen⟩ := h.bloq
  have hvivos : ∀ d ∈ (quitadas hilo s).map (·.dependiente), (s.tcbs d).isSome := by
    rw [List.forall_mem_map]
    exact fun dep hdep =>
      h.vivos dep ((skipRemoved_sublist _ _).subset hdep) (mem_quitadas hdep).1
  refine ⟨_, liberarTcb_eq hhilo htcb halgoritmo
    (tieneDependiente_of_entrada hprimera hid h.nulos) hcola hvivos hlista,
    fun dep hdep hid hne => ⟨?_, hsalen dep hdep hid⟩, fun dep hdep hid => ?_⟩
  · have hmem : dep.dependiente ∈ (quitadas hilo s).map (·.dependiente) := by
      rw [hfiltro]
      exact List.mem_map_of_mem (List.mem_filter.mpr ⟨hdep, decide_eq_true ⟨hid, hne⟩⟩)
    have huna : ((quitadas hilo s).map (·.dependiente)).count dep.dependiente = 1 :=
      List.count_eq_one_of_mem (hfiltro ▸ h.distintos) hmem
    unfold listos
    rw [hcola, Option.getD_some, Option.getD_some, List.count_append, huna]
  · have hqueda := (forall_skipKept_iff _ _).mpr h.separadas dep hdep
    have hentrada := (skipKept_sublist _ _).subset hdep
    exact hqueda (decide_eq_true ⟨hid, h.nulos dep hentrada hid⟩)

/-- **Exactly when all joiners are woken**: nobody waits for the thread, or its entries are as
`Despertables` says. Under `FIFO` and `PRIORIDADES`, for every list of dependencies, every
blocked list and every thread. -/
theorem todosDespiertos_iff (hilo : Puntero) (tcb : TCB) (s : EstadoKernel)
    (halgoritmo : s.algoritmo = .fifo ∨ s.algoritmo = .prioridades) (hhilo : hilo ≠ NULL)
    (htcb : s.tcbs hilo = some tcb) :
    TodosDespiertos hilo s ↔ SinDependiente hilo s ∨ Despertables hilo tcb s := by
  constructor
  · intro h
    by_cases hsin : SinDependiente hilo s
    · exact Or.inl hsin
    · exact Or.inr (h.despertables hhilo htcb halgoritmo hsin)
  · intro h
    by_cases hsin : SinDependiente hilo s
    · exact ⟨s, liberarTcb_sinDependiente _ hsin, fun dep hdep hid => absurd hid (hsin dep hdep),
        hsin⟩
    · exact (h.resolve_left hsin).todosDespiertos hhilo htcb halgoritmo hsin

end

/-- Two entries of the thread that are apart, and joiners that are not in `lista_bloq_hilo`. -/
theorem todosDespiertos_tresHilos :
    TodosDespiertos 1 (trasJoins [⟨1, 2⟩, ⟨2, 3⟩, ⟨1, 3⟩] []) := by
  refine (todosDespiertos_iff 1 ⟨0, 0, 0, EstadoProceso.exit.codigo⟩ _ (Or.inl rfl) (by decide)
    rfl).mpr (Or.inr ⟨by decide, by decide, by decide, by decide, rfl, [], rfl, ?_⟩)
  exact fun dep _ _ => List.not_mem_nil

/-- Two joiners with entries next to one another: the second one is not woken and its entry
stays; and both are in `lista_bloq_hilo` afterwards. -/
theorem not_todosDespiertos_seguidas :
    (liberarTcb agregarHiloAReady 1 (trasJoins [⟨1, 2⟩, ⟨1, 3⟩] [2, 3])).map
        (fun s => (listos s, s.listaBloqHilo, s.listaDependencias)) =
      some ([2], [2, 3], [⟨1, 3⟩]) ∧
    ¬ TodosDespiertos 1 (trasJoins [⟨1, 2⟩, ⟨1, 3⟩] [2, 3]) := by
  refine ⟨rfl, ?_⟩
  rintro ⟨s', hs', -, hninguna⟩
  obtain rfl := Option.some.inj hs'
  exact hninguna ⟨1, 3⟩ (List.mem_singleton.mpr rfl) rfl

end SoTp.Kernel
