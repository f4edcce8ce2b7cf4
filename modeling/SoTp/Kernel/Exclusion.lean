import SoTp.Kernel.Candados
import SoTp.Kernel.Orden
import SoTp.Kernel.Reencolado

/-!
# One thread at a time

`atender_fifo` and `atender_prioridades` (`kernel/src/k_corto_plazo.c`, lines 37–122) send a
thread only when `lista_exec_hilo` is empty, and put it there. No case of `interpretarCPU`
(`kernel/src/main.c`, lines 222–492) puts in another one.

* `run_exclusion`: in every run the thread in the CPU is the one in `lista_exec_hilo`, and **no
  two threads are ever in execution**.
* `run_detenido`: a reply that leaves its thread in `lista_exec_hilo` is the last one: **no run
  gets the dispatcher out of there**.
-/

namespace SoTp.Kernel

open SoTp.Lib SoTp.Utils

/-! ## The cases put no other thread in execution -/

section Casos

variable {PID TID : UInt32} {m : Entorno} {s s' : Nucleo}

theorem casoDumpMemory_exec (hnulo : s.tcbs NULL = none)
    (h : casoDumpMemory PID TID m s = some s') : s'.listaExecHilo ⊆ s.listaExecHilo := by
  obtain ⟨tcbN, htcbN, h⟩ := Option.bind_eq_some_iff.mp h
  obtain ⟨k, hk, h⟩ := Option.bind_eq_some_iff.mp h
  split at h
  · dsimp only at h
    split at h
    · obtain ⟨k₁, hk₁, h⟩ := Option.bind_eq_some_iff.mp h
      obtain ⟨lista, hlista, h⟩ := Option.bind_eq_some_iff.mp h
      obtain ⟨k₂, hk₂, h⟩ := Option.bind_eq_some_iff.mp h
      obtain rfl := Option.some.inj h
      exact quitarTCBDeLista_subset hlista
    · obtain ⟨k₁, hk₁, h⟩ := Option.bind_eq_some_iff.mp h
      obtain ⟨lista, hlista, h⟩ := Option.bind_eq_some_iff.mp h
      obtain rfl := Option.some.inj h
      -- the thread is put in a second time
      obtain ⟨tcb, htcb, -⟩ := Option.map_eq_some_iff.mp hk
      have hne : tcbN ≠ NULL := by
        rintro rfl
        rw [hnulo] at htcb
        cases htcb
      have hmem : tcbN ∈ s.listaExecHilo := (obtenerTCBPorPIDyTID_mem htcbN).resolve_right hne
      exact List.append_subset.mpr ⟨List.Subset.refl _,
        List.cons_subset.mpr ⟨hmem, List.nil_subset _⟩⟩
  · cases h

theorem casoThreadJoin_exec {tid : UInt32} (h : casoThreadJoin PID tid s = some s') :
    s'.listaExecHilo ⊆ s.listaExecHilo := by
  obtain ⟨⟨tcbN, t⟩, ht, hjoin⟩ := Option.bind_eq_some_iff.mp h
  obtain rfl := buscarHilo_eq_some ht
  dsimp only at hjoin
  split at hjoin
  · obtain ⟨tcb, -, hjoin⟩ := Option.bind_eq_some_iff.mp hjoin
    obtain ⟨lista, hlista, hjoin⟩ := Option.bind_eq_some_iff.mp hjoin
    obtain rfl := Option.some.inj hjoin
    exact quitarTCBDeLista_subset hlista
  · exact Option.some.inj hjoin ▸ List.Subset.refl _

theorem casoMutexLock_exec {recurso : CString} (h : casoMutexLock PID TID recurso s = some s') :
    s'.listaExecHilo ⊆ s.listaExecHilo := by
  obtain ⟨⟨pcb, cola⟩, -, h⟩ := Option.bind_eq_some_iff.mp h
  obtain ⟨tcb, -, h⟩ := Option.bind_eq_some_iff.mp h
  obtain ⟨b, -, h⟩ := Option.bind_eq_some_iff.mp h
  obtain ⟨mutexExistente, -, h⟩ := Option.bind_eq_some_iff.mp h
  split at h
  · obtain ⟨mutex, -, h⟩ := Option.bind_eq_some_iff.mp h
    obtain ⟨bloqueados, -, h⟩ := Option.bind_eq_some_iff.mp h
    dsimp only at h
    split at h
    · exact Option.some.inj h ▸ List.Subset.refl _
    · obtain ⟨hilo, -, h⟩ := Option.bind_eq_some_iff.mp h
      obtain ⟨k, -, h⟩ := Option.bind_eq_some_iff.mp h
      obtain ⟨lista, hlista, h⟩ := Option.bind_eq_some_iff.mp h
      obtain rfl := Option.some.inj h
      exact quitarTCBDeLista_subset hlista
  · exact Option.some.inj h ▸ List.Subset.refl _

theorem casoMutexUnlock_exec {recurso : CString}
    (h : casoMutexUnlock PID TID m recurso s = some s') :
    s'.listaExecHilo = s.listaExecHilo := by
  obtain ⟨⟨pcb, cola⟩, -, h⟩ := Option.bind_eq_some_iff.mp h
  obtain ⟨tcbN, -, h⟩ := Option.bind_eq_some_iff.mp h
  obtain ⟨b, -, h⟩ := Option.bind_eq_some_iff.mp h
  obtain ⟨mutexExistente, -, h⟩ := Option.bind_eq_some_iff.mp h
  split at h
  · obtain ⟨mutex, -, h⟩ := Option.bind_eq_some_iff.mp h
    split at h
    · obtain ⟨sinAsignar, -, h⟩ := Option.bind_eq_some_iff.mp h
      obtain ⟨otros, -, h⟩ := Option.bind_eq_some_iff.mp h
      obtain ⟨bloqueados, -, h⟩ := Option.bind_eq_some_iff.mp h
      dsimp only at h
      split at h
      · cases h
      · obtain ⟨k, -, h⟩ := Option.bind_eq_some_iff.mp h
        obtain ⟨k₁, -, h⟩ := Option.bind_eq_some_iff.mp h
        obtain ⟨hilo, -, h⟩ := Option.bind_eq_some_iff.mp h
        exact Option.some.inj h ▸ rfl
    · exact Option.some.inj h ▸ rfl
  · exact Option.some.inj h ▸ rfl

theorem finalizarTids_exec {TIDs : List UInt32} {rondas : ℕ}
    (h : finalizarTids PID TIDs rondas s = some s') : s'.listaExecHilo ⊆ s.listaExecHilo := by
  refine finalizarTids_invariant (I := fun n => n.listaExecHilo ⊆ s.listaExecHilo)
    (List.Subset.refl _) ?_ h
  intro n _ _ _ hn hlista
  exact List.Subset.trans (quitarTCBDeLista_subset hlista) hn

theorem terminarProceso_exec (h : terminarProceso PID m s = some s') :
    s'.listaExecHilo ⊆ s.listaExecHilo := by
  obtain ⟨⟨pcb, cola⟩, -, h⟩ := Option.bind_eq_some_iff.mp h
  obtain ⟨b, -, h⟩ := Option.bind_eq_some_iff.mp h
  split at h
  · obtain ⟨t, ht, h⟩ := Option.bind_eq_some_iff.mp h
    have hfin := finalizarTids_exec ht
    obtain rfl := Option.some.inj h
    exact hfin
  · exact Option.some.inj h ▸ List.Subset.refl _

/-- **One case for each syscall.** -/
theorem interpretarSyscall_exec {syscall : Syscall} (hnulo : s.tcbs NULL = none)
    (h : interpretarSyscall PID TID m syscall s = some s') :
    s'.listaExecHilo ⊆ s.listaExecHilo := by
  cases syscall with
  | dumpMemory => exact casoDumpMemory_exec hnulo h
  | io retorno =>
    obtain ⟨tcb, -, h⟩ := Option.bind_eq_some_iff.mp h
    obtain ⟨lista, hlista, h⟩ := Option.bind_eq_some_iff.mp h
    obtain ⟨k, -, h⟩ := Option.bind_eq_some_iff.mp h
    obtain rfl := Option.some.inj h
    exact quitarTCBDeLista_subset hlista
  | processCreate archivo tamanio prioridad₀ =>
    obtain ⟨k, -, rfl⟩ := Option.map_eq_some_iff.mp h
    exact List.Subset.refl _
  | threadCreate archivo prioridad =>
    obtain ⟨k, -, rfl⟩ := Option.map_eq_some_iff.mp h
    exact List.Subset.refl _
  | threadJoin tid => exact casoThreadJoin_exec h
  | threadCancel tid =>
    obtain ⟨⟨tcb, t⟩, ht, hfin⟩ := Option.bind_eq_some_iff.mp h
    obtain rfl := buscarHilo_eq_some ht
    obtain ⟨k, -, hfin⟩ := Option.bind_eq_some_iff.mp hfin
    obtain ⟨k₁, -, rfl⟩ := Option.map_eq_some_iff.mp hfin
    exact List.Subset.refl _
  | mutexCreate recurso =>
    obtain ⟨⟨pcb, cola⟩, -, h⟩ := Option.bind_eq_some_iff.mp h
    obtain ⟨⟨p, t⟩, ht, hcrear⟩ := Option.bind_eq_some_iff.mp h
    obtain rfl := buscarHilo_eq_some ht
    obtain ⟨b, -, hcrear⟩ := Option.bind_eq_some_iff.mp hcrear
    exact Option.some.inj hcrear ▸ List.Subset.refl _
  | mutexLock recurso => exact casoMutexLock_exec h
  | mutexUnlock recurso => exact casoMutexUnlock_exec h ▸ List.Subset.refl _
  | threadExit =>
    obtain ⟨tcbN, -, h⟩ := Option.bind_eq_some_iff.mp h
    obtain ⟨k, -, h⟩ := Option.bind_eq_some_iff.mp h
    obtain ⟨lista, hlista, h⟩ := Option.bind_eq_some_iff.mp h
    obtain ⟨k₁, -, h⟩ := Option.bind_eq_some_iff.mp h
    obtain rfl := Option.some.inj h
    exact quitarTCBDeLista_subset hlista
  | writeMem error =>
    by_cases herror : error = opOutOfMemory
    · exact terminarProceso_exec ((if_pos herror).symm.trans h)
    · exact Option.some.inj ((if_neg herror).symm.trans h) ▸ List.Subset.refl _
  | processExit =>
    by_cases htid : TID = 0
    · exact terminarProceso_exec ((if_pos htid).symm.trans h)
    · exact Option.some.inj ((if_neg htid).symm.trans h) ▸ List.Subset.refl _
  | otra funcion => exact Option.some.inj h ▸ List.Subset.refl _

end Casos

/-! ## Who is in execution -/

/-- The thread in the CPU is the one in `lista_exec_hilo`, where there is no other one. -/
structure Exclusivo (s : Marcha) : Prop where
  enCpu : ∀ p, s.enCpu = some p → s.listaExecHilo = [p]
  uno : ∀ p ∈ s.listaExecHilo, ∀ q ∈ s.listaExecHilo, p = q

/-- What the dispatcher of the algorithm has sent in a run. No thread joins the levels of
`COLAS MULTINIVEL`, and there is no dispatcher for the others. -/
structure Envios (a : Algoritmo) (s : Marcha) : Prop extends Bajo a s where
  exclusivo : Exclusivo s
  nada : a ≠ .fifo → a ≠ .prioridades → s.enCpu = none ∧ s.listaExecHilo = [] ∧
    (a = .colasMultinivel → ∀ i, niveles s.toEstadoKernel i = [])

section Pasos

variable {algoritmo : Algoritmo} {s s' : Marcha}

theorem envios_inicial (algoritmo : Algoritmo) : Envios algoritmo (marchaInicial algoritmo) where
  sinNulo := sinNulo_inicial algoritmo
  algoritmo := rfl
  exclusivo := ⟨nofun, fun _ hp => absurd hp List.not_mem_nil⟩
  nada _ _ := ⟨rfl, rfl, fun _ _ => rfl⟩

/-- The dispatcher sends nothing while a thread is in execution. -/
theorem Envios.listaExecHilo (hs : Envios algoritmo s) {p : Puntero} {cola : Option (List Puntero)}
    {colas : ℕ → Option (List Puntero)} (htoma : Toma s p cola colas) :
    s.listaExecHilo = [] ∧ (algoritmo = .fifo ∨ algoritmo = .prioridades) := by
  unfold Toma at htoma
  rw [hs.algoritmo] at htoma
  cases algoritmo with
  | fifo => exact ⟨htoma.1, Or.inl rfl⟩
  | prioridades => exact ⟨htoma.1, Or.inr rfl⟩
  | colasMultinivel =>
    obtain ⟨-, resto, hcola, -⟩ := htoma
    have hvacia := (hs.nada nofun nofun).2.2 rfl s.nivel
    rw [niveles_of_some hcola] at hvacia
    exact absurd hvacia (List.cons_ne_nil p resto)
  | cmn => exact htoma.elim
  | desconocido => exact htoma.elim

theorem Envios.iteracion (hs : Envios algoritmo s) (h : Iteracion s s') :
    Envios algoritmo s' := by
  have hbajo : Bajo algoritmo s' := ⟨h.sinNulo hs.sinNulo, h.algoritmo.trans hs.algoritmo⟩
  cases h with
  | nada candado nivel => exact ⟨hbajo, ⟨hs.exclusivo.enCpu, hs.exclusivo.uno⟩, hs.nada⟩
  | envia p tcb cola colas htcb htoma =>
    obtain ⟨hexec, halgoritmo⟩ := hs.listaExecHilo htoma
    refine ⟨hbajo, ⟨fun q hq => ?_, fun q hq q' hq' => ?_⟩, fun hfifo hprioridades => ?_⟩
    · obtain rfl := Option.some.inj hq
      show s.listaExecHilo ++ [p] = [p]
      rw [hexec, List.nil_append]
    · dsimp only at hq hq'
      rw [hexec, List.nil_append, List.mem_singleton] at hq hq'
      exact hq.trans hq'.symm
    · exact absurd halgoritmo (not_or.mpr ⟨hfifo, hprioridades⟩)

theorem Envios.conKernel (hs : Envios algoritmo s) {k : EstadoKernel}
    (hbajo : Bajo algoritmo { s with toEstadoKernel := k })
    (hcolas : s.algoritmo = .colasMultinivel → k.colasReadyCmn = s.colasReadyCmn) :
    Envios algoritmo { s with toEstadoKernel := k } := by
  refine ⟨hbajo, ⟨hs.exclusivo.enCpu, hs.exclusivo.uno⟩, fun hfifo hprioridades => ?_⟩
  obtain ⟨hcpu, hexec, hniveles⟩ := hs.nada hfifo hprioridades
  refine ⟨hcpu, hexec, fun halgoritmo i => ?_⟩
  unfold niveles
  dsimp only
  rw [hcolas (hs.algoritmo.trans halgoritmo)]
  exact hniveles halgoritmo i

theorem responder_exec {PID TID : UInt32} {syscall : Syscall} {m : Entorno}
    (hnulo : s.tcbs NULL = none) (h : responder PID TID syscall m s = some s') :
    s'.listaExecHilo ⊆ s.listaExecHilo := by
  obtain ⟨thread, n, -, hn, -, hs' | ⟨insertado, k, -, hs'⟩⟩ := responder_cases h
  · exact hs' ▸ interpretarSyscall_exec hnulo hn
  · have hexec := interpretarSyscall_exec hnulo hn
    rw [hs']
    exact hexec

theorem responder_ne_none {PID TID : UInt32} {syscall : Syscall} {m : Entorno}
    (h : responder PID TID syscall m s = some s') : s.enCpu ≠ none := by
  obtain ⟨thread, n, hcpu, -⟩ := responder_cases h
  rw [hcpu]
  exact Option.some_ne_none thread

/-- **One step.** -/
theorem suceder_envios {suceso : Suceso} (hs : Envios algoritmo s)
    (h : suceder s suceso = some s') : Envios algoritmo s' := by
  have hbajo := suceder_bajo hs.toBajo h
  cases suceso with
  | crearProceso m prioridad =>
    obtain ⟨k, hk, rfl⟩ := Option.map_eq_some_iff.mp h
    exact hs.conKernel hbajo fun halgoritmo => (crearProceso_nadieEntra halgoritmo hk).niveles
  | rechazo =>
    obtain ⟨k, hk, rfl⟩ := Option.map_eq_some_iff.mp h
    unfold esperarMemoria at hk
    split at hk
    · obtain rfl := Option.some.inj hk
      exact hs.conKernel hbajo fun _ => rfl
    · cases hk
  | despachar elegido =>
    exact hs.iteracion (despachar_iteracion hs.sinNulo h)
  | respuesta PID TID syscall m =>
    have hexec := responder_exec hs.sinNulo.nulo h
    refine ⟨hbajo, ⟨fun p hp => ?_, fun p hp q hq => ?_⟩, fun hfifo hprioridades => ?_⟩
    · rw [responder_enCpu h] at hp
      cases hp
    · exact hs.exclusivo.uno p (hexec hp) q (hexec hq)
    · exact absurd (hs.nada hfifo hprioridades).1 (responder_ne_none h)

theorem run_envios {sucesos : List Suceso}
    (hrun : run suceder (marchaInicial algoritmo) sucesos = some s) : Envios algoritmo s :=
  run_invariant (fun _ _ _ hs _ h => suceder_envios hs h) (envios_inicial algoritmo)
    (along_true _ _) hrun

end Pasos

/-- **At most one thread is in execution**, in every state of every run, under every algorithm,
and while the CPU has one it is that one. -/
theorem run_exclusion (algoritmo : Algoritmo) (sucesos : List Suceso) (s : Marcha)
    (hrun : run suceder (marchaInicial algoritmo) sucesos = some s) : Exclusivo s :=
  (run_envios hrun).exclusivo

/-- The thread at address 2 has been sent. -/
theorem run_exclusion_dos : ∃ s,
    run suceder (marchaInicial .prioridades) [.crearProceso memoriaAcepta 0, .despachar NULL] =
      some s ∧ s.enCpu = some 2 ∧ Exclusivo s :=
  ⟨_, rfl, rfl, run_exclusion .prioridades [.crearProceso memoriaAcepta 0, .despachar NULL] _ rfl⟩

/-! ## The dispatcher goes round -/

section Detenido

variable {algoritmo : Algoritmo} {s s' : Marcha}

/-- A thread is in execution, and its reply has been served: `ejecucion` is `lista_exec_hilo`. -/
structure Detenido (ejecucion : List Puntero) (s : Marcha) : Prop where
  enCpu : s.enCpu = none
  exec : s.listaExecHilo = ejecucion

/-- **One step** of a kernel that has stopped. -/
theorem suceder_detenido {ejecucion : List Puntero} {suceso : Suceso} (hs : Envios algoritmo s)
    (hdetenido : Detenido ejecucion s) (hne : ejecucion ≠ []) (h : suceder s suceso = some s') :
    Detenido ejecucion s' ∧ enviados s suceso = [] := by
  cases suceso with
  | crearProceso m prioridad =>
    obtain ⟨k, -, rfl⟩ := Option.map_eq_some_iff.mp h
    exact ⟨⟨hdetenido.enCpu, hdetenido.exec⟩, rfl⟩
  | rechazo =>
    obtain ⟨k, -, rfl⟩ := Option.map_eq_some_iff.mp h
    exact ⟨⟨hdetenido.enCpu, hdetenido.exec⟩, rfl⟩
  | despachar elegido =>
    rw [enviados_despachar h]
    cases despachar_iteracion hs.sinNulo h with
    | nada candado nivel =>
      refine ⟨⟨hdetenido.enCpu, hdetenido.exec⟩, ?_⟩
      dsimp only
      rw [hdetenido.enCpu, Option.toList_none]
    | envia p tcb cola colas htcb htoma =>
      exact absurd (hdetenido.exec.symm.trans (hs.listaExecHilo htoma).1) hne
  | respuesta PID TID syscall m => exact absurd hdetenido.enCpu (responder_ne_none h)

/-- **A stopped kernel stays so.** When in a state of a run a thread is in `lista_exec_hilo` and
none is in the CPU, then in everything that can follow no thread is sent, no reply is served, and
`lista_exec_hilo` stays what it is. -/
theorem run_detenido (algoritmo : Algoritmo) (antes despues : List Suceso) (s t : Marcha)
    (hs : run suceder (marchaInicial algoritmo) antes = some s) (hcpu : s.enCpu = none)
    (hexec : s.listaExecHilo ≠ []) (ht : run suceder s despues = some t) :
    t.enCpu = none ∧ t.listaExecHilo = s.listaExecHilo ∧ output suceder enviados s despues = [] ∧
      ∀ PID TID syscall m, suceder t (.respuesta PID TID syscall m) = none := by
  have hkeep (u : Marcha) (suceso : Suceso) (u' : Marcha) (bs : List Puntero)
      (hu : Envios algoritmo u ∧ Detenido s.listaExecHilo u ∧ bs = []) (_ : True)
      (hu' : suceder u suceso = some u') :
      Envios algoritmo u' ∧ Detenido s.listaExecHilo u' ∧ bs ++ enviados u suceso = [] := by
    obtain ⟨henvios, hdetenido, rfl⟩ := hu
    obtain ⟨hdetenido', hnada⟩ := suceder_detenido henvios hdetenido hexec hu'
    exact ⟨suceder_envios henvios hu', hdetenido', hnada⟩
  obtain ⟨-, hdetenido, hnada⟩ := run_output_invariant hkeep
    ⟨run_envios hs, ⟨hcpu, rfl⟩, rfl⟩ (along_true s despues) ht
  refine ⟨hdetenido.enCpu, hdetenido.exec, hnada, fun PID TID syscall m => ?_⟩
  cases hresponder : suceder t (.respuesta PID TID syscall m) with
  | none => rfl
  | some t' => exact absurd hdetenido.enCpu (responder_ne_none hresponder)

/-- After a `THREAD_CREATE` the thread at address 2 is still in `lista_exec_hilo`, and the one at
address 3, which is ready, is not sent. -/
theorem run_detenido_threadCreate : ∃ s t,
    run suceder (marchaInicial .fifo) [.crearProceso memoriaAcepta 0, .despachar NULL,
      .respuesta 0 0 (.threadCreate (CString.ofBytes (ascii "hilo")) 0) memoriaAcepta] = some s ∧
      run suceder s [.despachar NULL] = some t ∧ listos t.toEstadoKernel = [3] ∧
      t.listaExecHilo = [2] ∧ t.enCpu = none :=
  ⟨_, _, rfl, rfl, rfl, rfl, (run_detenido .fifo [.crearProceso memoriaAcepta 0, .despachar NULL,
    .respuesta 0 0 (.threadCreate (CString.ofBytes (ascii "hilo")) 0) memoriaAcepta]
    [.despachar NULL] _ _ rfl rfl (List.cons_ne_nil _ _) rfl).1⟩

end Detenido

end SoTp.Kernel
