import SoTp.Kernel.Despertar
import SoTp.Kernel.Identidad
import SoTp.Kernel.Pasada

/-!
# Putting a thread back

After a run `atender_cmn` looks at the `estado` of the thread (`kernel/src/k_corto_plazo.c`, lines
134–138), while the case of the reply (`kernel/src/main.c`, lines 239–488) has moved the thread
already. `planificador_corto_plazo` calls it under `COLAS MULTINIVEL` only, where
`agregarHiloAReady` adds nothing to the levels.

* `interpretarSyscall_traslada`: no case touches the levels, and what it adds to `lista_bloq_hilo`
  comes from `lista_exec_hilo`.
* `sinRepetir_iff`: **a thread that waits is put back exactly by** a `MUTEX_LOCK` of a mutex that is
  free, or by a `DUMP_MEMORY` that finds another thread of the same identity waiting.
-/

namespace SoTp.Kernel

open SoTp.Lib SoTp.Utils

/-! ## What the cases do to the levels -/

/-- Between `s` and `s'` no thread has joined the levels or `lista_bloq_hilo`. -/
structure NadieEntra (s s' : EstadoKernel) : Prop where
  algoritmo : s'.algoritmo = s.algoritmo
  niveles : s'.colasReadyCmn = s.colasReadyCmn
  bloq : s'.listaBloqHilo ⊆ s.listaBloqHilo

section Kernel

variable {s s' t : EstadoKernel} {hilo : Puntero}

theorem NadieEntra.refl (s : EstadoKernel) : NadieEntra s s :=
  ⟨rfl, rfl, List.Subset.refl _⟩

theorem NadieEntra.trans (h : NadieEntra s t) (h' : NadieEntra t s') : NadieEntra s s' :=
  ⟨h'.algoritmo.trans h.algoritmo, h'.niveles.trans h.niveles,
    List.Subset.trans h'.bloq h.bloq⟩

theorem ponerEstado_nadieEntra {estado : EstadoProceso} (h : ponerEstado hilo estado s = some s') :
    NadieEntra s s' := by
  obtain ⟨tcb, -, rfl⟩ := Option.map_eq_some_iff.mp h
  exact ⟨rfl, rfl, List.Subset.refl _⟩

theorem agregarHiloAReady_colasMultinivel (halgoritmo : s.algoritmo = .colasMultinivel)
    (hilo : Puntero) : agregarHiloAReady hilo s = some s := by
  rw [agregarHiloAReady_eq]
  unfold agregarSegun
  rw [halgoritmo]

theorem quitarTCBDeLista_subset {tcbs : Puntero → Option TCB} {PID TID : UInt32}
    {lista lista' : List Puntero} (h : quitarTCBDeLista tcbs PID TID lista = some lista') :
    lista' ⊆ lista := by
  obtain ⟨l₁, p, l₂, rfl, -, -, rfl⟩ | ⟨rfl, -⟩ := quitarTCBDeLista_cases h
  · exact ((List.sublist_cons_self p l₂).append_left l₁).subset
  · exact List.Subset.refl _

theorem marco_nadieEntra :
    Marco fun s s' => s.algoritmo = .colasMultinivel → NadieEntra s s' where
  refl s _ := NadieEntra.refl s
  trans h h' halgoritmo :=
    (h halgoritmo).trans (h' ((h halgoritmo).algoritmo.trans halgoritmo))
  dependencias _ _ _ := ⟨rfl, rfl, List.Subset.refl _⟩
  estado h _ := ponerEstado_nadieEntra h
  bloq h _ := ⟨rfl, rfl, quitarTCBDeLista_subset h⟩

theorem liberarTcb_nadieEntra (halgoritmo : s.algoritmo = .colasMultinivel)
    (h : liberarTcb agregarHiloAReady hilo s = some s') : NadieEntra s s' := by
  refine liberarTcb_marco marco_nadieEntra (fun p t t' ht halgoritmo => ?_) h halgoritmo
  rw [agregarHiloAReady_colasMultinivel halgoritmo] at ht
  exact Option.some.inj ht ▸ NadieEntra.refl t

/-- The thread is freed, or nothing happens to it. -/
theorem finalizarHilo_nadieEntra {aceptado : Bool} (halgoritmo : s.algoritmo = .colasMultinivel)
    (h : finalizarHilo aceptado hilo s = some s') :
    NadieEntra s s' ∧ (hilo ≠ NULL → s'.tcbs hilo = none ∨ s'.tcbs = s.tcbs) := by
  unfold finalizarHilo at h
  split at h
  · rename_i hnull
    exact Option.some.inj h ▸ ⟨NadieEntra.refl s, fun hne => absurd hnull hne⟩
  · obtain ⟨tcb, -, h⟩ := Option.bind_eq_some_iff.mp h
    split at h
    · obtain ⟨t, ht, h⟩ := Option.bind_eq_some_iff.mp h
      obtain rfl := Option.some.inj h
      have hliberar := liberarTcb_nadieEntra halgoritmo ht
      exact ⟨⟨hliberar.algoritmo, hliberar.niveles, hliberar.bloq⟩,
        fun _ => Or.inl (Function.update_self _ _ _)⟩
    · exact Option.some.inj h ▸ ⟨NadieEntra.refl s, fun _ => Or.inr rfl⟩

theorem crearHilo_nadieEntra {basura : Puntero → UInt32} {aceptado : Bool} {prioridad pid : Int32}
    (halgoritmo : s.algoritmo = .colasMultinivel)
    (h : crearHilo basura aceptado prioridad pid s = some s') : NadieEntra s s' := by
  have hcrear : NadieEntra s (crearTcb basura prioridad pid s).2 :=
    ⟨rfl, rfl, List.Subset.refl _⟩
  cases aceptado with
  | true =>
    have hagregar := agregarHiloAReady_colasMultinivel
      (s := (crearTcb basura prioridad pid s).2) halgoritmo s.siguiente
    exact Option.some.inj (hagregar.symm.trans h) ▸ hcrear
  | false =>
    exact hcrear.trans (liberarTcb_nadieEntra
      (s := (crearTcb basura prioridad pid s).2) halgoritmo h)

theorem admitirProceso_nadieEntra {basura : Puntero → UInt32} {aceptado : Bool}
    {prioridad : Int32} {pcb : Puntero} (halgoritmo : s.algoritmo = .colasMultinivel)
    (h : admitirProceso basura aceptado prioridad pcb s = some s') : NadieEntra s s' := by
  obtain ⟨b, -, h⟩ := Option.bind_eq_some_iff.mp h
  obtain ⟨t, ht, h⟩ := Option.bind_eq_some_iff.mp h
  obtain rfl := Option.some.inj h
  have hcrear := crearHilo_nadieEntra (by exact halgoritmo) ht
  exact ⟨hcrear.algoritmo, hcrear.niveles, hcrear.bloq⟩

/-- By induction on the answers of memoria. -/
theorem crearProceso_nadieEntra {basura : Puntero → UInt32} {aceptado : Bool} {prioridad : Int32}
    {respuestas : List Int32} (halgoritmo : s.algoritmo = .colasMultinivel)
    (h : crearProceso basura aceptado prioridad respuestas s = some s') : NadieEntra s s' := by
  have hpcb (cola : List Puntero) : NadieEntra s { (crearPcb s).2 with colaNew := cola } :=
    ⟨rfl, rfl, List.Subset.refl _⟩
  induction respuestas generalizing s with
  | nil =>
    rw [crearProceso] at h
    dsimp only at h
    split at h
    · cases h
    · exact Option.some.inj h ▸ hpcb _
  | cons respuesta respuestas ih =>
    rw [crearProceso] at h
    dsimp only at h
    split at h
    · split at h
      · exact (hpcb _).trans (admitirProceso_nadieEntra
          (s := { (crearPcb s).2 with colaNew := _ }) halgoritmo h)
      · exact (hpcb _).trans (ih halgoritmo h fun _ => ⟨rfl, rfl, List.Subset.refl _⟩)
    · exact Option.some.inj h ▸ hpcb _

end Kernel

section Casos

variable {PID TID : UInt32} {m : Entorno} {s s' : Nucleo}

theorem casoIo_nadieEntra (halgoritmo : s.algoritmo = .colasMultinivel)
    (h : casoIo PID TID s = some s') : NadieEntra s.toEstadoKernel s'.toEstadoKernel := by
  obtain ⟨tcb, -, h⟩ := Option.bind_eq_some_iff.mp h
  obtain ⟨lista, -, h⟩ := Option.bind_eq_some_iff.mp h
  obtain ⟨k, hk, h⟩ := Option.bind_eq_some_iff.mp h
  obtain rfl := Option.some.inj h
  rw [agregarHiloAReady_colasMultinivel halgoritmo] at hk
  exact Option.some.inj hk ▸ NadieEntra.refl _

theorem casoThreadCancel_nadieEntra {tid : UInt32} (halgoritmo : s.algoritmo = .colasMultinivel)
    (h : casoThreadCancel PID m tid s = some s') :
    NadieEntra s.toEstadoKernel s'.toEstadoKernel := by
  obtain ⟨⟨tcb, t⟩, ht, hfin⟩ := Option.bind_eq_some_iff.mp h
  obtain rfl := buscarHilo_eq_some ht
  obtain ⟨k, hk, hfin⟩ := Option.bind_eq_some_iff.mp hfin
  obtain ⟨k₁, hk₁, rfl⟩ := Option.map_eq_some_iff.mp hfin
  have hponer := ponerEstado_nadieEntra hk
  exact hponer.trans (finalizarHilo_nadieEntra (hponer.algoritmo.trans halgoritmo) hk₁).1

theorem casoThreadExit_nadieEntra (halgoritmo : s.algoritmo = .colasMultinivel)
    (h : casoThreadExit PID TID m s = some s') :
    NadieEntra s.toEstadoKernel s'.toEstadoKernel := by
  obtain ⟨tcb, -, h⟩ := Option.bind_eq_some_iff.mp h
  obtain ⟨k, hk, h⟩ := Option.bind_eq_some_iff.mp h
  obtain ⟨lista, -, h⟩ := Option.bind_eq_some_iff.mp h
  obtain ⟨k₁, hk₁, h⟩ := Option.bind_eq_some_iff.mp h
  obtain rfl := Option.some.inj h
  have hponer := ponerEstado_nadieEntra hk
  exact hponer.trans (finalizarHilo_nadieEntra (hponer.algoritmo.trans halgoritmo) hk₁).1

theorem casoMutexCreate_nadieEntra {recurso : CString}
    (h : casoMutexCreate PID TID recurso s = some s') :
    NadieEntra s.toEstadoKernel s'.toEstadoKernel := by
  obtain ⟨⟨pcb, cola⟩, -, h⟩ := Option.bind_eq_some_iff.mp h
  obtain ⟨⟨p, t⟩, ht, h⟩ := Option.bind_eq_some_iff.mp h
  obtain rfl := buscarHilo_eq_some ht
  obtain ⟨b, -, h⟩ := Option.bind_eq_some_iff.mp h
  obtain rfl := Option.some.inj h
  exact ⟨rfl, rfl, List.Subset.refl _⟩

theorem casoMutexUnlock_nadieEntra {recurso : CString}
    (halgoritmo : s.algoritmo = .colasMultinivel)
    (h : casoMutexUnlock PID TID m recurso s = some s') :
    NadieEntra s.toEstadoKernel s'.toEstadoKernel := by
  obtain ⟨⟨pcb, cola⟩, -, h⟩ := Option.bind_eq_some_iff.mp h
  obtain ⟨tcbN, -, h⟩ := Option.bind_eq_some_iff.mp h
  obtain ⟨b, -, h⟩ := Option.bind_eq_some_iff.mp h
  obtain ⟨mutexExistente, -, h⟩ := Option.bind_eq_some_iff.mp h
  split at h
  · obtain ⟨mutex, -, h⟩ := Option.bind_eq_some_iff.mp h
    split at h
    · obtain ⟨sinAsignar, -, h⟩ := Option.bind_eq_some_iff.mp h
      obtain ⟨otros, -, h⟩ := Option.bind_eq_some_iff.mp h
      obtain ⟨bloqueados, -, h⟩ := Option.bind_eq_some_iff.mp h
      dsimp only at h
      split at h
      · cases h
      · obtain ⟨k, hk, h⟩ := Option.bind_eq_some_iff.mp h
        obtain ⟨k₁, hk₁, h⟩ := Option.bind_eq_some_iff.mp h
        obtain ⟨hilo, -, h⟩ := Option.bind_eq_some_iff.mp h
        obtain rfl := Option.some.inj h
        have hponer := ponerEstado_nadieEntra hk
        rw [agregarHiloAReady_colasMultinivel (hponer.algoritmo.trans halgoritmo)] at hk₁
        exact Option.some.inj hk₁ ▸ hponer
    · exact Option.some.inj h ▸ NadieEntra.refl _
  · exact Option.some.inj h ▸ NadieEntra.refl _

theorem finalizarTids_kernel {TIDs : List UInt32} {rondas : ℕ}
    (h : finalizarTids PID TIDs rondas s = some s') :
    NadieEntra s.toEstadoKernel s'.toEstadoKernel := by
  refine finalizarTids_invariant
    (I := fun n => NadieEntra s.toEstadoKernel n.toEstadoKernel) (NadieEntra.refl _) ?_ h
  intro n _ _ _ hn _
  exact ⟨hn.algoritmo, hn.niveles, hn.bloq⟩

theorem terminarProceso_nadieEntra (h : terminarProceso PID m s = some s') :
    NadieEntra s.toEstadoKernel s'.toEstadoKernel := by
  obtain ⟨⟨pcb, cola⟩, -, h⟩ := Option.bind_eq_some_iff.mp h
  obtain ⟨b, -, h⟩ := Option.bind_eq_some_iff.mp h
  split at h
  · obtain ⟨t, ht, h⟩ := Option.bind_eq_some_iff.mp h
    obtain rfl := Option.some.inj h
    have hfin := finalizarTids_kernel ht
    exact ⟨hfin.algoritmo, hfin.niveles, hfin.bloq⟩
  · exact Option.some.inj h ▸ NadieEntra.refl _

end Casos

/-! ## The thread that has run -/

/-- `MUTEX_LOCK` finds the mutex of the process, and it is not taken. -/
def MutexLibre (PID : UInt32) (recurso : CString) (s : Nucleo) : Prop :=
  ∃ pcb cola b mutexExistente mutex bloqueados,
    obtenerPCBPorPID s.pcbs PID s.colaExec = some (pcb, cola) ∧ s.pcbs pcb = some b ∧
    buscarMutex s.mutexes recurso b.mutex = some mutexExistente ∧ mutexExistente ≠ NULL ∧
    s.mutexes mutexExistente = some mutex ∧ mutex.colaBloqueados = some bloqueados ∧
    mutex.tomado = false

/-- The reply leaves `thread` in `lista_bloq_hilo` and marks it as BLOCKED or READY. -/
def QuedaBloqueado (PID TID : UInt32) (m : Entorno) (thread : Puntero) (s : Nucleo) :
    Syscall → Prop
  | .mutexLock recurso =>
    obtenerTCBPorPIDyTID s.tcbs PID TID s.listaExecHilo = some thread ∧ MutexLibre PID recurso s
  | .dumpMemory =>
    obtenerTCBPorPIDyTID s.tcbs PID TID s.listaExecHilo = some thread ∧ PID = 0 ∧ TID = 0 ∧
      ¬ m.dump < 0 ∧ ∃ q, q ≠ NULL ∧ obtenerTCBPorPIDyTID s.tcbs 0 0 s.listaBloqHilo = some q
  | _ => False

/-- What a reply leaves for the re-insertion of `thread`. -/
structure Traslada (PID TID : UInt32) (m : Entorno) (thread : Puntero) (syscall : Syscall)
    (s s' : Nucleo) : Prop where
  niveles : s'.colasReadyCmn = s.colasReadyCmn
  bloq : ∀ p ∈ s'.listaBloqHilo, p ∈ s.listaBloqHilo ∨ p ∈ s.listaExecHilo ∨ p = NULL
  vuelve : thread ∈ s'.listaBloqHilo → ∀ tcb, s'.tcbs thread = some tcb → Vuelve tcb →
    QuedaBloqueado PID TID m thread s syscall

section Traslado

variable {PID TID : UInt32} {m : Entorno} {thread : Puntero} {syscall : Syscall} {s s' : Nucleo}

theorem NadieEntra.traslada (h : NadieEntra s.toEstadoKernel s'.toEstadoKernel)
    (hbloq : thread ∉ s.listaBloqHilo) : Traslada PID TID m thread syscall s s' :=
  ⟨h.niveles, fun _ hp => Or.inl (h.bloq hp), fun hmem => absurd (h.bloq hmem) hbloq⟩

theorem obtenerTCBPorPIDyTID_mem {tcbs : Puntero → Option TCB} {lista : List Puntero}
    {p : Puntero} (h : obtenerTCBPorPIDyTID tcbs PID TID lista = some p) :
    p ∈ lista ∨ p = NULL := by
  by_cases hp : p = NULL
  · exact Or.inr hp
  · exact Or.inl (obtenerTCBPorPIDyTID_ne_null hp h).1

theorem mem_bloq_of_append {p q : Puntero} {lista : List Puntero}
    (hp : obtenerTCBPorPIDyTID s.tcbs PID TID s.listaExecHilo = some p)
    (hlista : lista ⊆ s.listaBloqHilo ++ [p]) (hq : q ∈ lista) :
    q ∈ s.listaBloqHilo ∨ q ∈ s.listaExecHilo ∨ q = NULL := by
  rcases List.mem_append.mp (hlista hq) with hq | hq
  · exact Or.inl hq
  · obtain rfl := List.mem_singleton.mp hq
    exact Or.inr (obtenerTCBPorPIDyTID_mem hp)

theorem eq_of_mem_bloq {p : Puntero} {lista : List Puntero} (hbloq : thread ∉ s.listaBloqHilo)
    (hlista : lista ⊆ s.listaBloqHilo ++ [p]) (hmem : thread ∈ lista) : p = thread := by
  rcases List.mem_append.mp (hlista hmem) with hmem | hmem
  · exact absurd hmem hbloq
  · exact (List.mem_singleton.mp hmem).symm

/-- A thread that has ended does not come back. -/
theorem finalizarHilo_noVuelve {k k' : EstadoKernel} {aceptado : Bool} {tcb tcb' : TCB}
    (halgoritmo : k.algoritmo = .colasMultinivel) (hthread : thread ≠ NULL)
    (htcb : k.tcbs thread = some tcb) (hexit : tcb.estado = EstadoProceso.exit.codigo)
    (h : finalizarHilo aceptado thread k = some k') (htcb' : k'.tcbs thread = some tcb') :
    ¬ Vuelve tcb' := by
  rcases (finalizarHilo_nadieEntra halgoritmo h).2 hthread with hlibre | hsigue
  · rw [hlibre] at htcb'
    cases htcb'
  · rw [hsigue, htcb] at htcb'
    obtain rfl := Option.some.inj htcb'
    unfold Vuelve
    rw [hexit]
    decide

/-- `THREAD_JOIN` changes the state of no thread. -/
theorem casoThreadJoin_traslada {tid : UInt32} {tcb : TCB} (htcb : s.tcbs thread = some tcb)
    (hestado : ¬ Vuelve tcb) (h : casoThreadJoin PID tid s = some s') :
    Traslada PID TID m thread (.threadJoin tid) s s' := by
  have hno {t : Nucleo} (ht : t.tcbs = s.tcbs) (tcb' : TCB) (htcb' : t.tcbs thread = some tcb') :
      ¬ Vuelve tcb' := by
    rw [ht, htcb] at htcb'
    exact Option.some.inj htcb' ▸ hestado
  obtain ⟨⟨tcbN, t⟩, ht, hjoin⟩ := Option.bind_eq_some_iff.mp h
  obtain rfl := buscarHilo_eq_some ht
  dsimp only at hjoin
  split at hjoin
  · obtain ⟨p, hp, hjoin⟩ := Option.bind_eq_some_iff.mp hjoin
    obtain ⟨lista, -, hjoin⟩ := Option.bind_eq_some_iff.mp hjoin
    obtain rfl := Option.some.inj hjoin
    exact ⟨rfl, fun q hq => mem_bloq_of_append hp (List.Subset.refl _) hq,
      fun _ tcb' htcb' hvuelve => absurd hvuelve (hno rfl tcb' htcb')⟩
  · obtain rfl := Option.some.inj hjoin
    exact ⟨rfl, fun q hq => Or.inl hq,
      fun _ tcb' htcb' hvuelve => absurd hvuelve (hno rfl tcb' htcb')⟩

theorem casoMutexLock_traslada {recurso : CString} (hbloq : thread ∉ s.listaBloqHilo)
    (h : casoMutexLock PID TID recurso s = some s') :
    Traslada PID TID m thread (.mutexLock recurso) s s' := by
  obtain ⟨⟨pcb, cola⟩, hpcb, h⟩ := Option.bind_eq_some_iff.mp h
  obtain ⟨p, hp, h⟩ := Option.bind_eq_some_iff.mp h
  obtain ⟨b, hb, h⟩ := Option.bind_eq_some_iff.mp h
  obtain ⟨mutexExistente, hexistente, h⟩ := Option.bind_eq_some_iff.mp h
  split at h
  · rename_i hne
    obtain ⟨mutex, hmutex, h⟩ := Option.bind_eq_some_iff.mp h
    obtain ⟨bloqueados, hbloqueados, h⟩ := Option.bind_eq_some_iff.mp h
    dsimp only at h
    split at h
    · obtain rfl := Option.some.inj h
      exact NadieEntra.traslada ⟨rfl, rfl, List.Subset.refl _⟩ hbloq
    · rename_i htomado
      obtain ⟨hilo, -, h⟩ := Option.bind_eq_some_iff.mp h
      obtain ⟨k, hk, h⟩ := Option.bind_eq_some_iff.mp h
      obtain ⟨lista, -, h⟩ := Option.bind_eq_some_iff.mp h
      obtain rfl := Option.some.inj h
      obtain ⟨tcb, -, rfl⟩ := Option.map_eq_some_iff.mp hk
      refine ⟨rfl, fun q hq => mem_bloq_of_append hp (List.Subset.refl _) hq,
        fun hmem _ _ _ => ?_⟩
      obtain rfl := eq_of_mem_bloq hbloq (List.Subset.refl _) hmem
      exact ⟨hp, pcb, cola, b, mutexExistente, mutex, bloqueados, hpcb, hb, hexistente, hne,
        hmutex, hbloqueados, Bool.not_eq_true _ ▸ htomado⟩
  · obtain rfl := Option.some.inj h
    exact NadieEntra.traslada ⟨rfl, rfl, List.Subset.refl _⟩ hbloq

/-- A thread at the end of a list stays there when another one with its identity is in front. -/
theorem obtenerTCBPorPIDyTID_of_quitar {tcbs : Puntero → Option TCB} {lista lista' : List Puntero}
    (hnulo : tcbs NULL = none) (hthread : thread ∉ lista) (hid : EsHilo tcbs PID TID thread)
    (h : quitarTCBDeLista tcbs PID TID (lista ++ [thread]) = some lista')
    (hmem : thread ∈ lista') :
    ∃ q, q ≠ NULL ∧ obtenerTCBPorPIDyTID tcbs PID TID lista = some q := by
  rcases quitarTCBDeLista_cases h with ⟨l₁, p, l₂, hlista, hl₁, hp, rfl⟩ | ⟨-, hotros⟩
  · rcases List.eq_nil_or_concat l₂ with rfl | ⟨l, x, rfl⟩
    · rw [List.append_nil] at hmem
      obtain ⟨rfl, -⟩ := List.append_inj' hlista rfl
      exact absurd hmem hthread
    · rw [List.concat_eq_append, ← List.cons_append, ← List.append_assoc] at hlista
      obtain ⟨rfl, -⟩ := List.append_inj' hlista rfl
      obtain ⟨tcb, htcb, -⟩ := id hp
      exact ⟨p, ne_null_of_eq_some hnulo htcb, obtenerTCBPorPIDyTID_append hl₁ hp⟩
  · have hotro := hotros thread (List.mem_append_right _ List.mem_cons_self)
    exact absurd hid hotro.not_esHilo

theorem casoDumpMemory_traslada (halgoritmo : s.algoritmo = .colasMultinivel)
    (hnulo : s.tcbs NULL = none) (hbloq : thread ∉ s.listaBloqHilo)
    (h : casoDumpMemory PID TID m s = some s') :
    Traslada PID TID m thread .dumpMemory s s' := by
  obtain ⟨tcbN, hN, h⟩ := Option.bind_eq_some_iff.mp h
  obtain ⟨k, hk, h⟩ := Option.bind_eq_some_iff.mp h
  have hmismos := ponerEstado_mismosHilos hk
  obtain ⟨tcb, htcb, rfl⟩ := Option.map_eq_some_iff.mp hk
  have hne : tcbN ≠ NULL := ne_null_of_eq_some hnulo htcb
  split at h
  · rename_i hcero
    dsimp only at h
    split at h
    · -- `respuesta` is negative, and the thread ends
      obtain ⟨k₁, hk₁, h⟩ := Option.bind_eq_some_iff.mp h
      obtain ⟨lista, -, h⟩ := Option.bind_eq_some_iff.mp h
      obtain ⟨k₂, hk₂, h⟩ := Option.bind_eq_some_iff.mp h
      obtain rfl := Option.some.inj h
      obtain ⟨tcb₁, -, rfl⟩ := Option.map_eq_some_iff.mp hk₁
      have hfin := (finalizarHilo_nadieEntra (by exact halgoritmo) hk₂).1
      refine ⟨hfin.niveles, fun q hq => mem_bloq_of_append hN hfin.bloq hq,
        fun hmem tcb' htcb' hvuelve => ?_⟩
      obtain rfl := eq_of_mem_bloq hbloq hfin.bloq hmem
      exact absurd hvuelve (finalizarHilo_noVuelve (by exact halgoritmo) hne
        (Function.update_self _ _ _) rfl hk₂ htcb')
    · -- the thread is taken out of `lista_bloq_hilo` again
      rename_i hdump
      obtain ⟨k₁, hk₁, h⟩ := Option.bind_eq_some_iff.mp h
      obtain ⟨lista, hlista, h⟩ := Option.bind_eq_some_iff.mp h
      obtain rfl := Option.some.inj h
      have hmismos₁ := ponerEstado_mismosHilos hk₁
      obtain ⟨tcb₁, -, rfl⟩ := Option.map_eq_some_iff.mp hk₁
      rw [quitarTCBDeLista_congr fun p =>
        (hmismos₁.identidad p).trans (hmismos.identidad p)] at hlista
      have hsubset := quitarTCBDeLista_subset hlista
      refine ⟨rfl, fun q hq => mem_bloq_of_append hN hsubset hq, fun hmem _ _ _ => ?_⟩
      obtain rfl := eq_of_mem_bloq hbloq hsubset hmem
      obtain ⟨rfl, rfl⟩ := hcero
      have hid := (obtenerTCBPorPIDyTID_ne_null hne hN).2.1
      exact ⟨hN, rfl, rfl, hdump, obtenerTCBPorPIDyTID_of_quitar hnulo hbloq hid hlista hmem⟩
  · cases h

/-- **What the cases leave for the re-insertion.** -/
theorem interpretarSyscall_traslada {tcb : TCB} (halgoritmo : s.algoritmo = .colasMultinivel)
    (hnulo : s.tcbs NULL = none) (htcb : s.tcbs thread = some tcb) (hestado : ¬ Vuelve tcb)
    (hbloq : thread ∉ s.listaBloqHilo) (h : interpretarSyscall PID TID m syscall s = some s') :
    Traslada PID TID m thread syscall s s' := by
  cases syscall with
  | dumpMemory => exact casoDumpMemory_traslada halgoritmo hnulo hbloq h
  | io retorno => exact (casoIo_nadieEntra halgoritmo h).traslada hbloq
  | processCreate archivo tamanio prioridad₀ =>
    obtain ⟨k, hk, rfl⟩ := Option.map_eq_some_iff.mp h
    exact NadieEntra.traslada (crearProceso_nadieEntra halgoritmo hk) hbloq
  | threadCreate archivo prioridad =>
    obtain ⟨k, hk, rfl⟩ := Option.map_eq_some_iff.mp h
    exact NadieEntra.traslada (crearHilo_nadieEntra halgoritmo hk) hbloq
  | threadJoin tid => exact casoThreadJoin_traslada htcb hestado h
  | threadCancel tid => exact (casoThreadCancel_nadieEntra halgoritmo h).traslada hbloq
  | mutexCreate recurso => exact (casoMutexCreate_nadieEntra h).traslada hbloq
  | mutexLock recurso => exact casoMutexLock_traslada hbloq h
  | mutexUnlock recurso => exact (casoMutexUnlock_nadieEntra halgoritmo h).traslada hbloq
  | threadExit => exact (casoThreadExit_nadieEntra halgoritmo h).traslada hbloq
  | writeMem error =>
    change (if error = opOutOfMemory then terminarProceso PID m s else some s) = some s' at h
    split at h
    · exact (terminarProceso_nadieEntra h).traslada hbloq
    · exact Option.some.inj h ▸ (NadieEntra.refl _).traslada hbloq
  | processExit =>
    change (if TID = 0 then terminarProceso PID m s else some s) = some s' at h
    split at h
    · exact (terminarProceso_nadieEntra h).traslada hbloq
    · exact Option.some.inj h ▸ (NadieEntra.refl _).traslada hbloq
  | otra funcion => exact Option.some.inj h ▸ (NadieEntra.refl _).traslada hbloq

theorem update_estado_identidad {tcbs : Puntero → Option TCB} {tcb : TCB} {estado : Int32}
    (htcb : tcbs thread = some tcb) (p : Puntero) :
    (Function.update tcbs thread (some { tcb with estado := estado }) p).map
        (fun tcb => (tcb.PID, tcb.TID)) =
      (tcbs p).map fun tcb => (tcb.PID, tcb.TID) := by
  by_cases hp : p = thread
  · subst hp
    rw [Function.update_self, htcb]
    rfl
  · rw [Function.update_of_ne hp]

/-- What the thread is after a reply that leaves it waiting. -/
def TrasBloqueo (tcb : TCB) (thread : Puntero) (s s' : Nucleo) : Prop :=
  s'.colasReadyCmn = s.colasReadyCmn ∧ thread ∈ s'.listaBloqHilo ∧
    ∃ tcb', s'.tcbs thread = some tcb' ∧ Vuelve tcb' ∧ tcb'.prioridad = tcb.prioridad

theorem casoMutexLock_tras {recurso : CString} {tcb : TCB} (hthread : thread ≠ NULL)
    (htcb : s.tcbs thread = some tcb)
    (hobtener : obtenerTCBPorPIDyTID s.tcbs PID TID s.listaExecHilo = some thread)
    (hlibre : MutexLibre PID recurso s) :
    ∃ s', casoMutexLock PID TID recurso s = some s' ∧ TrasBloqueo tcb thread s s' := by
  obtain ⟨pcb, cola, b, mutexExistente, mutex, bloqueados, hpcb, hb, hexistente, hne, hmutex,
    hbloqueados, htomado⟩ := hlibre
  obtain ⟨-, -, lista, hlista, -⟩ := obtenerTCBPorPIDyTID_ne_null hthread hobtener
  refine ⟨{ s with
    tcbs := Function.update s.tcbs thread
      (some { tcb with estado := EstadoProceso.blocked.codigo })
    listaBloqHilo := s.listaBloqHilo ++ [thread]
    colaExec := cola
    listaExecHilo := lista
    mutexes := Function.update s.mutexes mutexExistente (some
      { mutex with
        colaBloqueados := some (bloqueados ++ [thread])
        bloqueado := true
        tomado := true
        hiloActual := tcb.TID }) }, ?_, rfl, by simp, ?_⟩
  · unfold casoMutexLock
    rw [hpcb]
    dsimp only [Option.bind_eq_bind, Option.bind_some]
    rw [hobtener, Option.bind_some, hb, Option.bind_some, hexistente, Option.bind_some,
      if_pos hne, hmutex, Option.bind_some, hbloqueados, Option.bind_some, htomado,
      if_neg Bool.false_ne_true, htcb, Option.bind_some, ponerEstado_eq htcb, Option.bind_some]
    dsimp only
    rw [quitarTCBDeLista_congr (update_estado_identidad htcb), hlista]
    rfl
  · exact ⟨_, Function.update_self _ _ _, Or.inl rfl, rfl⟩

theorem casoDumpMemory_tras {tcb : TCB} {q : Puntero} (htcb : s.tcbs thread = some tcb)
    (hobtener : obtenerTCBPorPIDyTID s.tcbs 0 0 s.listaExecHilo = some thread)
    (hdump : ¬ m.dump < 0) (hq : q ≠ NULL)
    (hbloq : obtenerTCBPorPIDyTID s.tcbs 0 0 s.listaBloqHilo = some q) :
    ∃ s', casoDumpMemory 0 0 m s = some s' ∧ TrasBloqueo tcb thread s s' := by
  rcases obtenerTCBPorPIDyTID_cases hbloq with ⟨l₁, l₂, hlista, hl₁, hid⟩ | ⟨hnull, -⟩
  · have hblocked := ponerEstado_eq htcb .blocked
    let tcb₁ : TCB := { tcb with estado := EstadoProceso.blocked.codigo }
    let tcbs₁ := Function.update s.tcbs thread (some tcb₁)
    have htcb₁ : tcbs₁ thread = some tcb₁ := Function.update_self _ _ _
    let tcbs₂ := Function.update tcbs₁ thread
      (some { tcb₁ with estado := EstadoProceso.ready.codigo })
    have hquitar : quitarTCBDeLista tcbs₂ 0 0 (s.listaBloqHilo ++ [thread]) =
        some (l₁ ++ (l₂ ++ [thread])) := by
      rw [quitarTCBDeLista_congr (update_estado_identidad htcb₁),
        quitarTCBDeLista_congr (update_estado_identidad htcb), hlista, List.append_assoc,
        List.cons_append]
      exact quitarTCBDeLista_append hl₁ hid
    refine ⟨{ s with
      tcbs := tcbs₂
      listaBloqHilo := l₁ ++ (l₂ ++ [thread])
      listaExecHilo := s.listaExecHilo ++ [thread] }, ?_, rfl, by simp, ?_⟩
    · unfold casoDumpMemory
      rw [hobtener]
      dsimp only [Option.bind_eq_bind, Option.bind_some]
      rw [hblocked, Option.bind_some, if_pos ⟨rfl, rfl⟩, if_neg hdump, ponerEstado_eq htcb₁,
        Option.bind_some]
      dsimp only
      rw [hquitar]
      rfl
    · exact ⟨_, Function.update_self _ _ _, Or.inr rfl, rfl⟩
  · exact absurd hnull hq

theorem QuedaBloqueado.tras {tcb : TCB} (hthread : thread ≠ NULL)
    (htcb : s.tcbs thread = some tcb) (h : QuedaBloqueado PID TID m thread s syscall) :
    ∃ s', interpretarSyscall PID TID m syscall s = some s' ∧ TrasBloqueo tcb thread s s' := by
  cases syscall with
  | mutexLock recurso => exact casoMutexLock_tras hthread htcb h.1 h.2
  | dumpMemory =>
    obtain ⟨hobtener, rfl, rfl, hdump, q, hq, hbloq⟩ := h
    exact casoDumpMemory_tras htcb hobtener hdump hq hbloq
  | _ => exact absurd h id

end Traslado

/-! ## The places of a thread -/

/-- Each thread is in at most one of the ready levels, `lista_exec_hilo` and `lista_bloq_hilo`,
and there once. -/
def EnUnLugar (s : Nucleo) : Prop :=
  ∀ p ≠ NULL, (waiting maxNivelesPrioridad (niveles s.toEstadoKernel) ++
    (s.listaExecHilo ++ s.listaBloqHilo)).count p ≤ 1

/-- No thread that waits is in a ready level, and none is queued twice. -/
structure SinRepetir (s : Nucleo) : Prop where
  bloq : ∀ p ≠ NULL, p ∈ s.listaBloqHilo →
    p ∉ waiting maxNivelesPrioridad (niveles s.toEstadoKernel)
  ready : ∀ p ≠ NULL, (waiting maxNivelesPrioridad (niveles s.toEstadoKernel)).count p ≤ 1

section Lugares

variable {s s' : Nucleo} {thread : Puntero}

theorem EnUnLugar.ready (h : EnUnLugar s) {p : Puntero} (hp : p ≠ NULL) :
    (waiting maxNivelesPrioridad (niveles s.toEstadoKernel)).count p ≤ 1 := by
  have hcount := h p hp
  rw [List.count_append] at hcount
  omega

theorem EnUnLugar.fuera (h : EnUnLugar s) {p : Puntero} (hp : p ≠ NULL)
    (hmem : p ∈ s.listaExecHilo ++ s.listaBloqHilo) :
    p ∉ waiting maxNivelesPrioridad (niveles s.toEstadoKernel) := by
  have hcount := h p hp
  have hpos := List.count_pos_iff.mpr hmem
  rw [List.count_append] at hcount
  exact List.count_eq_zero.mp (by omega)

theorem EnUnLugar.noEspera (h : EnUnLugar s) (hthread : thread ≠ NULL)
    (hmem : thread ∈ s.listaExecHilo) : thread ∉ s.listaBloqHilo := by
  have hcount := h thread hthread
  have hpos := List.count_pos_iff.mpr hmem
  rw [List.count_append, List.count_append] at hcount
  exact List.count_eq_zero.mp (by omega)

theorem EnUnLugar.enviar {i : ℕ} {cola : List Puntero} (hi : i < maxNivelesPrioridad)
    (hnivel : niveles s.toEstadoKernel i = thread :: cola) (h : EnUnLugar s)
    (hready : niveles s'.toEstadoKernel = Function.update (niveles s.toEstadoKernel) i cola)
    (hexec : s'.listaExecHilo = s.listaExecHilo ++ [thread])
    (hbloq : s'.listaBloqHilo = s.listaBloqHilo) : EnUnLugar s' := by
  intro p hp
  have hcount := h p hp
  rw [List.count_append, List.count_append, (waiting_pop hi hnivel).count_eq] at hcount
  rw [hready, hexec, hbloq, List.count_append, List.count_append, List.count_append]
  rw [List.count_cons] at hcount
  rw [List.count_singleton]
  omega

/-- A thread that comes back is added to the level of its priority. -/
theorem reinsertar_eq {tcb : TCB} (hthread : thread ≠ NULL) (htcb : s.tcbs thread = some tcb)
    (hcreadas : ∀ i < maxNivelesPrioridad, (s.colasReadyCmn i).isSome) :
    reinsertar thread s = some (if Vuelve tcb ∧ tcb.prioridad.toNat < maxNivelesPrioridad then
      { s with
        colasReadyCmn := Function.update s.colasReadyCmn tcb.prioridad.toNat
          (some (niveles s.toEstadoKernel tcb.prioridad.toNat ++ [thread])) }
      else s) := by
  unfold reinsertar
  rw [htcb]
  dsimp only [Option.bind_eq_bind, Option.bind_some]
  by_cases hvuelve : Vuelve tcb
  · rw [if_pos hvuelve, insertarEnColaReadyCmn_eq hthread htcb hcreadas]
    by_cases hprioridad : maxNivelesPrioridad ≤ tcb.prioridad.toNat
    · rw [if_pos hprioridad, if_neg fun h => absurd h.2 (not_lt.mpr hprioridad)]
      rfl
    · rw [if_neg hprioridad, if_pos ⟨hvuelve, Nat.lt_of_not_le hprioridad⟩]
      rfl
  · rw [if_neg hvuelve, if_neg fun h => hvuelve h.1]

/-- After the re-insertion: no thread is repeated unless the one that was put back waits. -/
theorem sinRepetir_reinsertar {tcb : TCB} (hthread : thread ≠ NULL)
    (htcb : s.tcbs thread = some tcb)
    (hcreadas : ∀ i < maxNivelesPrioridad, (s.colasReadyCmn i).isSome)
    (hs : SinRepetir s) (hfuera : thread ∉ waiting maxNivelesPrioridad (niveles s.toEstadoKernel))
    (h : reinsertar thread s = some s') :
    SinRepetir s' ↔ ¬ ((thread ∈ s.listaBloqHilo ∧ Vuelve tcb) ∧
      tcb.prioridad.toNat < maxNivelesPrioridad) := by
  rw [reinsertar_eq hthread htcb hcreadas] at h
  obtain rfl := Option.some.inj h
  by_cases hentra : Vuelve tcb ∧ tcb.prioridad.toNat < maxNivelesPrioridad
  · rw [if_pos hentra]
    have hperm := waiting_push hentra.2 (niveles s.toEstadoKernel) thread
    rw [← niveles_update] at hperm
    constructor
    · rintro hrep ⟨⟨hbloq, -⟩, -⟩
      exact hrep.bloq thread hthread hbloq (hperm.mem_iff.mpr List.mem_cons_self)
    · intro hno
      refine ⟨fun p hp hbloq hmem => ?_, fun p hp => ?_⟩
      · rcases List.mem_cons.mp (hperm.mem_iff.mp hmem) with rfl | hmem
        · exact hno ⟨⟨hbloq, hentra.1⟩, hentra.2⟩
        · exact hs.bloq p hp hbloq hmem
      · rw [hperm.count_eq, List.count_cons]
        by_cases hpt : thread = p
        · subst hpt
          rw [List.count_eq_zero.mpr hfuera]
          simp
        · have hcount := hs.ready p hp
          simp only [beq_iff_eq, if_neg hpt]
          omega
  · rw [if_neg hentra]
    exact iff_of_true hs fun h => hentra ⟨h.1.2, h.2⟩

/-- The cases add to `lista_bloq_hilo` what is in no level. -/
theorem sinRepetir_of_traslada {PID TID : UInt32} {m : Entorno} {syscall : Syscall}
    (h : Traslada PID TID m thread syscall s s') (hs : EnUnLugar s) : SinRepetir s' := by
  have hniveles : niveles s'.toEstadoKernel = niveles s.toEstadoKernel := by
    unfold niveles
    rw [h.niveles]
  refine ⟨fun p hp hbloq => ?_, fun p hp => ?_⟩
  · rw [hniveles]
    refine hs.fuera hp (List.mem_append.mpr ?_)
    rcases h.bloq p hbloq with hbloq | hexec | hnull
    · exact Or.inr hbloq
    · exact Or.inl hexec
    · exact absurd hnull hp
  · rw [hniveles]
    exact hs.ready hp

/-- The same for a reply and what follows it. -/
theorem sinRepetir_respuesta (PID TID : UInt32) (m : Entorno) (syscall : Syscall) {tcb : TCB}
    (halgoritmo : s.algoritmo = .colasMultinivel) (hnulo : s.tcbs NULL = none)
    (hcreadas : ∀ i < maxNivelesPrioridad, (s.colasReadyCmn i).isSome) (hs : EnUnLugar s)
    (hexec : thread ∈ s.listaExecHilo) (htcb : s.tcbs thread = some tcb)
    (hestado : ¬ Vuelve tcb) :
    (∀ s', (interpretarSyscall PID TID m syscall s).bind (reinsertar thread) = some s' →
        SinRepetir s') ↔
      ¬ (QuedaBloqueado PID TID m thread s syscall ∧
        tcb.prioridad.toNat < maxNivelesPrioridad) := by
  have hthread : thread ≠ NULL := ne_null_of_eq_some hnulo htcb
  have hbloq := hs.noEspera hthread hexec
  have hfuera := hs.fuera hthread (List.mem_append_left _ hexec)
  have htraslada {t : Nucleo} (ht : interpretarSyscall PID TID m syscall s = some t) :=
    interpretarSyscall_traslada halgoritmo hnulo htcb hestado hbloq ht
  -- the re-insertion starts from the levels that the reply found
  have hreinsertar {t s' : Nucleo} {tcb' : TCB}
      (ht : interpretarSyscall PID TID m syscall s = some t) (htcb' : t.tcbs thread = some tcb')
      (h : reinsertar thread t = some s') :
      SinRepetir s' ↔ ¬ ((thread ∈ t.listaBloqHilo ∧ Vuelve tcb') ∧
        tcb'.prioridad.toNat < maxNivelesPrioridad) := by
    refine sinRepetir_reinsertar hthread htcb' ?_ (sinRepetir_of_traslada (htraslada ht) hs) ?_ h
    · rw [(htraslada ht).niveles]
      exact hcreadas
    · unfold niveles
      rw [(htraslada ht).niveles]
      exact hfuera
  constructor
  · rintro hall ⟨hqueda, hprioridad⟩
    obtain ⟨t, ht, hniveles, hmem, tcb', htcb', hvuelve, hpri⟩ := hqueda.tras hthread htcb
    have hcreadas' : ∀ i < maxNivelesPrioridad, (t.colasReadyCmn i).isSome := by
      rw [hniveles]
      exact hcreadas
    have heq := reinsertar_eq hthread htcb' hcreadas'
    have hrep := hall _ (by rw [ht, Option.bind_some, heq])
    exact (hreinsertar ht htcb' heq).mp hrep ⟨⟨hmem, hvuelve⟩, hpri ▸ hprioridad⟩
  · intro hno s' h
    obtain ⟨t, ht, h⟩ := Option.bind_eq_some_iff.mp h
    obtain ⟨tcb', htcb', -⟩ := Option.bind_eq_some_iff.mp h
    rw [hreinsertar ht htcb' h]
    rintro ⟨⟨hmem, hvuelve⟩, hprioridad⟩
    have hqueda := (htraslada ht).vuelve hmem tcb' htcb' hvuelve
    obtain ⟨u, hu, -, -, tcb'', htcb'', -, hpri⟩ := hqueda.tras hthread htcb
    obtain rfl := Option.some.inj (ht.symm.trans hu)
    obtain rfl := Option.some.inj (htcb'.symm.trans htcb'')
    exact hno ⟨hqueda, hpri ▸ hprioridad⟩

/-- Which reply leaves the thread waiting depends on the identities of the threads only. -/
theorem quedaBloqueado_congr {PID TID : UInt32} {m : Entorno} {syscall : Syscall}
    (hid : ∀ p, (s'.tcbs p).map (fun tcb => (tcb.PID, tcb.TID)) =
      (s.tcbs p).map fun tcb => (tcb.PID, tcb.TID))
    (hexec : s'.listaExecHilo = s.listaExecHilo) (hbloq : s'.listaBloqHilo = s.listaBloqHilo)
    (hpcbs : s'.pcbs = s.pcbs) (hcola : s'.colaExec = s.colaExec)
    (hmutexes : s'.mutexes = s.mutexes) :
    QuedaBloqueado PID TID m thread s' syscall ↔ QuedaBloqueado PID TID m thread s syscall := by
  cases syscall with
  | mutexLock recurso =>
    unfold QuedaBloqueado MutexLibre
    rw [obtenerTCBPorPIDyTID_congr hid, hexec, hpcbs, hcola, hmutexes]
  | dumpMemory =>
    unfold QuedaBloqueado
    rw [obtenerTCBPorPIDyTID_congr hid, obtenerTCBPorPIDyTID_congr hid, hexec, hbloq]
  | _ => exact Iff.rfl

end Lugares

/-- **When round robin keeps threads in one place.** Under `COLAS MULTINIVEL`, from any state in
which each thread is in at most one place, for the thread that `atender_cmn` takes from a level and
any reply: no thread that waits is in a level afterwards and none is queued twice, exactly when the
reply does not leave the thread waiting in a state in which it is put back, or there is no level
for its priority. -/
theorem sinRepetir_iff (PID TID : UInt32) (m : Entorno) (syscall : Syscall) (s : Nucleo) (i : ℕ)
    (thread : Puntero) (cola : List Puntero) (tcb : TCB)
    (halgoritmo : s.algoritmo = .colasMultinivel) (hnulo : s.tcbs NULL = none)
    (hcreadas : ∀ j < maxNivelesPrioridad, (s.colasReadyCmn j).isSome) (hlugar : EnUnLugar s)
    (hi : i < maxNivelesPrioridad) (hnivel : s.colasReadyCmn i = some (thread :: cola))
    (htcb : s.tcbs thread = some tcb) :
    (∀ s', pasarNivel (interpretarSyscall PID TID m syscall) i s = some s' → SinRepetir s') ↔
      ¬ (QuedaBloqueado PID TID m thread { s with listaExecHilo := s.listaExecHilo ++ [thread] }
          syscall ∧ tcb.prioridad.toNat < maxNivelesPrioridad) := by
  have hthread : thread ≠ NULL := ne_null_of_eq_some hnulo htcb
  -- the state in which the reply arrives
  let s₀ : Nucleo :=
    { s with
      colasReadyCmn := Function.update s.colasReadyCmn i (some cola)
      tcbs := Function.update s.tcbs thread
        (some { tcb with estado := EstadoProceso.exec.codigo })
      listaExecHilo := s.listaExecHilo ++ [thread] }
  have hpasar : pasarNivel (interpretarSyscall PID TID m syscall) i s =
      (interpretarSyscall PID TID m syscall s₀).bind (reinsertar thread) := by
    unfold pasarNivel getNextThread
    rw [hnivel]
    dsimp only [Option.map_some, Option.bind_eq_bind, Option.bind_some]
    unfold ejecutarHilo
    rw [if_pos hthread, if_pos hthread]
    dsimp only
    rw [ponerEstado_eq (s := { s.toEstadoKernel with
      colasReadyCmn := Function.update s.colasReadyCmn i (some cola) }) htcb]
    rfl
  have hnulo₀ : s₀.tcbs NULL = none := (Function.update_of_ne hthread.symm _ _).trans hnulo
  have hlugar₀ : EnUnLugar s₀ := hlugar.enviar hi (niveles_of_some hnivel)
    (niveles_update s.toEstadoKernel i cola) rfl rfl
  have hqueda : QuedaBloqueado PID TID m thread s₀ syscall ↔ QuedaBloqueado PID TID m thread
      { s with listaExecHilo := s.listaExecHilo ++ [thread] } syscall :=
    quedaBloqueado_congr (update_estado_identidad htcb) rfl rfl rfl rfl rfl
  have htcb₀ : s₀.tcbs thread = some { tcb with estado := EstadoProceso.exec.codigo } :=
    Function.update_self _ _ _
  have hestado₀ : ¬ Vuelve { tcb with estado := EstadoProceso.exec.codigo } := by
    simp [Vuelve, EstadoProceso.codigo]
  have hrespuesta := sinRepetir_respuesta PID TID m syscall (s := s₀) halgoritmo hnulo₀
    (isSome_update cola hcreadas) hlugar₀ (List.mem_append_right _ List.mem_cons_self) htcb₀
    hestado₀
  rw [hpasar, ← hqueda]
  exact hrespuesta

/-- Thread 0 of process 0, at address 2, is in level 0; the PCB, at address 1, is in `cola_exec`, and
has the mutex `R`, at address 3, which is free. -/
def hiloEnNivel : Nucleo :=
  { nucleoInicial .colasMultinivel with
    pcbs := Function.update (fun _ => none) 1 (some ⟨0, .exec, [], [3]⟩)
    tcbs := Function.update (fun _ => none) 2 (some ⟨0, 0, 0, EstadoProceso.ready.codigo⟩)
    mutexes := Function.update (fun _ => none) 3
      (some ⟨CString.ofBytes (ascii "R"), false, false, 0, some []⟩)
    colasReadyCmn := fun i => if i = 0 then some [2] else some []
    colaExec := [1] }

theorem creadas_hiloEnNivel (i : ℕ) : (hiloEnNivel.colasReadyCmn i).isSome := by
  unfold hiloEnNivel
  dsimp only
  split <;> rfl

theorem enUnLugar_hiloEnNivel : EnUnLugar hiloEnNivel := by
  have hready : waiting maxNivelesPrioridad (niveles hiloEnNivel.toEstadoKernel) = [2] := by decide
  intro p _
  rw [hready]
  exact List.count_le_length

/-- It asks for an I/O, and is nowhere afterwards. -/
theorem sinRepetir_hiloEnNivel :
    ∃ s', pasarNivel (interpretarSyscall 0 0 memoriaAcepta (.io 0)) 0 hiloEnNivel = some s' ∧
      SinRepetir s' :=
  ⟨_, rfl, (sinRepetir_iff 0 0 memoriaAcepta (.io 0) hiloEnNivel 0 2 [] _ rfl rfl
    (fun j _ => creadas_hiloEnNivel j) enUnLugar_hiloEnNivel (by decide) rfl rfl).mpr
    (fun h => h.1) _ rfl⟩

/-- It locks the mutex: it waits, and is back in level 0. -/
theorem not_sinRepetir_hiloEnNivel :
    EnUnLugar hiloEnNivel ∧ ∃ s', pasarNivel (interpretarSyscall 0 0 memoriaAcepta
        (.mutexLock (CString.ofBytes (ascii "R")))) 0 hiloEnNivel = some s' ∧
      s'.listaBloqHilo = [2] ∧ niveles s'.toEstadoKernel 0 = [2] ∧ ¬ SinRepetir s' := by
  refine ⟨enUnLugar_hiloEnNivel, _, rfl, rfl, rfl, fun h => ?_⟩
  refine h.bloq 2 (by decide) List.mem_cons_self (List.mem_flatMap.mpr ⟨0, by decide, ?_⟩)
  exact List.mem_cons_self

end SoTp.Kernel
