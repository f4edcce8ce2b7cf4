import SoTp.Kernel.Procesos

/-!
# What a step does to the processes and threads

The cases of `interpretarCPU` (`kernel/src/main.c`, lines 222–492) are made of a few edits: a
thread is marked, queued, blocked, freed or made, a dependency is added or taken out, a PCB gets
a mutex or is freed. A relation between two states that each edit keeps to holds between the
states before and after any reply: `MarcoCasos` lists the edits, and the lemmas follow the
functions up to the reply. `MarcoKernel` adds the edits of `crearProceso`.

* `interpretarSyscall_marco`: **one case for each syscall**, for every such relation.
* `responder_marco`: the reply, with the re-insertion of `atender_cmn`.
* `suceder_marco`: every step but those of the dispatcher.
-/

namespace SoTp.Kernel

open SoTp.Lib SoTp.Utils

/-! ## The edits -/

/-- A relation that every edit of the cases keeps to. -/
structure MarcoCasos (R : EstadoKernel → EstadoKernel → Prop) : Prop extends Marco R where
  encolar : ∀ {hilo s s'}, encolarReady hilo s = some s' → R s s'
  insertar : ∀ {hilo s s' insertado}, insertarEnColaReadyCmn hilo s = some (insertado, s') → R s s'
  crear : ∀ s basura prioridad pid, R s (crearTcb basura prioridad pid s).2
  liberar : ∀ s hilo, R s { s with tcbs := Function.update s.tcbs hilo none }
  bloquear : ∀ s hilo, R s { s with listaBloqHilo := s.listaBloqHilo ++ [hilo] }
  esperar : ∀ s dep, R s { s with listaDependencias := s.listaDependencias ++ [dep] }
  mutex : ∀ s pcb b mutex, s.pcbs pcb = some b → R s { s with
    siguiente := s.siguiente + 1
    pcbs := Function.update s.pcbs pcb (some { b with mutex := b.mutex ++ [mutex] }) }
  terminar : ∀ s pcb, R s { s with pcbs := Function.update s.pcbs pcb none }

/-- The same for the edits of `crearProceso`. -/
structure MarcoKernel (R : EstadoKernel → EstadoKernel → Prop) : Prop extends MarcoCasos R where
  nuevo : ∀ s, R s { (crearPcb s).2 with colaNew := s.colaNew ++ [s.siguiente] }
  admitir : ∀ s pcb b, s.pcbs pcb = some b → R s { s with
    colaNew := s.colaNew.tail
    pcbs := Function.update s.pcbs pcb (some { b with estado := .ready })
    colaReady := s.colaReady ++ [pcb] }
  contador : ∀ s lista, R s { s with listaThreadId := lista }

section

variable {R : EstadoKernel → EstadoKernel → Prop} (hR : MarcoCasos R)

include hR

/-! ## The functions on threads -/

section Hilos

variable {s s' : EstadoKernel} {hilo : Puntero}

theorem agregarHiloAReadyHasta_marco (n : ℕ) {s s' : EstadoKernel} {hilo : Puntero}
    (h : agregarHiloAReadyHasta n hilo s = some s') : R s s' := by
  induction n generalizing hilo s s' with
  | zero => cases h
  | succ n ih =>
    unfold agregarHiloAReadyHasta agregarSegun at h
    split at h
    · obtain ⟨⟨insertado, t⟩, ht, h⟩ := Option.bind_eq_some_iff.mp h
      dsimp only at h
      split at h
      · exact Option.some.inj h ▸ hR.insertar ht
      · exact hR.trans (hR.insertar ht) (liberarTcb_marco hR.toMarco (fun _ _ _ => ih) h)
    · exact hR.encolar h
    · exact hR.encolar h
    · exact Option.some.inj h ▸ hR.refl s
    · exact Option.some.inj h ▸ hR.refl s

theorem agregarHiloAReady_marco (h : agregarHiloAReady hilo s = some s') : R s s' :=
  agregarHiloAReadyHasta_marco hR _ h

theorem liberarTcb_marcoCasos (h : liberarTcb agregarHiloAReady hilo s = some s') : R s s' :=
  liberarTcb_marco hR.toMarco (fun _ _ _ => agregarHiloAReady_marco hR) h

theorem finalizarHilo_marco {aceptado : Bool} (h : finalizarHilo aceptado hilo s = some s') :
    R s s' := by
  unfold finalizarHilo at h
  split at h
  · exact Option.some.inj h ▸ hR.refl s
  · obtain ⟨tcb, -, h⟩ := Option.bind_eq_some_iff.mp h
    split at h
    · obtain ⟨t, ht, h⟩ := Option.bind_eq_some_iff.mp h
      obtain rfl := Option.some.inj h
      exact hR.trans (liberarTcb_marcoCasos hR ht) (hR.liberar t hilo)
    · exact Option.some.inj h ▸ hR.refl s

theorem crearHilo_marco {basura : Puntero → UInt32} {aceptado : Bool} {prioridad pid : Int32}
    (h : crearHilo basura aceptado prioridad pid s = some s') : R s s' := by
  have hcrear := hR.crear s basura prioridad pid
  cases aceptado with
  | true => exact hR.trans hcrear (agregarHiloAReady_marco hR h)
  | false => exact hR.trans hcrear (liberarTcb_marcoCasos hR h)

end Hilos

/-! ## The cases -/

section Casos

variable {PID TID : UInt32} {m : Entorno} {s s' : Nucleo}

theorem casoDumpMemory_marco (h : casoDumpMemory PID TID m s = some s') :
    R s.toEstadoKernel s'.toEstadoKernel := by
  obtain ⟨tcbN, -, h⟩ := Option.bind_eq_some_iff.mp h
  obtain ⟨k, hk, h⟩ := Option.bind_eq_some_iff.mp h
  have hblocked := hR.trans (hR.estado hk) (hR.bloquear k tcbN)
  split at h
  · dsimp only at h
    split at h
    · obtain ⟨k₁, hk₁, h⟩ := Option.bind_eq_some_iff.mp h
      obtain ⟨lista, -, h⟩ := Option.bind_eq_some_iff.mp h
      obtain ⟨k₂, hk₂, h⟩ := Option.bind_eq_some_iff.mp h
      obtain rfl := Option.some.inj h
      exact hR.trans (hR.trans hblocked (hR.estado hk₁)) (finalizarHilo_marco hR hk₂)
    · obtain ⟨k₁, hk₁, h⟩ := Option.bind_eq_some_iff.mp h
      obtain ⟨lista, hlista, h⟩ := Option.bind_eq_some_iff.mp h
      obtain rfl := Option.some.inj h
      exact hR.trans (hR.trans hblocked (hR.estado hk₁)) (hR.bloq hlista)
  · cases h

theorem casoIo_marco (h : casoIo PID TID s = some s') : R s.toEstadoKernel s'.toEstadoKernel := by
  obtain ⟨tcb, -, h⟩ := Option.bind_eq_some_iff.mp h
  obtain ⟨lista, -, h⟩ := Option.bind_eq_some_iff.mp h
  obtain ⟨k, hk, h⟩ := Option.bind_eq_some_iff.mp h
  obtain rfl := Option.some.inj h
  exact agregarHiloAReady_marco hR hk

theorem casoThreadJoin_marco {tid : UInt32} (h : casoThreadJoin PID tid s = some s') :
    R s.toEstadoKernel s'.toEstadoKernel := by
  obtain ⟨⟨tcbN, t⟩, ht, hjoin⟩ := Option.bind_eq_some_iff.mp h
  obtain rfl := buscarHilo_eq_some ht
  dsimp only at hjoin
  split at hjoin
  · obtain ⟨tcb, -, hjoin⟩ := Option.bind_eq_some_iff.mp hjoin
    obtain ⟨lista, -, hjoin⟩ := Option.bind_eq_some_iff.mp hjoin
    obtain rfl := Option.some.inj hjoin
    exact hR.trans (hR.esperar t.toEstadoKernel ⟨tcbN, tcb⟩) (hR.bloquear _ tcb)
  · exact Option.some.inj hjoin ▸ hR.refl _

theorem casoThreadCancel_marco {tid : UInt32} (h : casoThreadCancel PID m tid s = some s') :
    R s.toEstadoKernel s'.toEstadoKernel := by
  obtain ⟨⟨tcb, t⟩, ht, hfin⟩ := Option.bind_eq_some_iff.mp h
  obtain rfl := buscarHilo_eq_some ht
  obtain ⟨k, hk, hfin⟩ := Option.bind_eq_some_iff.mp hfin
  obtain ⟨k₁, hk₁, rfl⟩ := Option.map_eq_some_iff.mp hfin
  exact hR.trans (hR.estado hk) (finalizarHilo_marco hR hk₁)

theorem casoThreadExit_marco (h : casoThreadExit PID TID m s = some s') :
    R s.toEstadoKernel s'.toEstadoKernel := by
  obtain ⟨tcb, -, h⟩ := Option.bind_eq_some_iff.mp h
  obtain ⟨k, hk, h⟩ := Option.bind_eq_some_iff.mp h
  obtain ⟨lista, -, h⟩ := Option.bind_eq_some_iff.mp h
  obtain ⟨k₁, hk₁, h⟩ := Option.bind_eq_some_iff.mp h
  obtain rfl := Option.some.inj h
  exact hR.trans (hR.estado hk) (finalizarHilo_marco hR hk₁)

theorem casoMutexCreate_marco {recurso : CString}
    (h : casoMutexCreate PID TID recurso s = some s') : R s.toEstadoKernel s'.toEstadoKernel := by
  obtain ⟨⟨pcb, cola⟩, -, h⟩ := Option.bind_eq_some_iff.mp h
  obtain ⟨⟨p, t⟩, ht, hcrear⟩ := Option.bind_eq_some_iff.mp h
  obtain rfl := buscarHilo_eq_some ht
  obtain ⟨b, hb, hcrear⟩ := Option.bind_eq_some_iff.mp hcrear
  obtain rfl := Option.some.inj hcrear
  exact hR.mutex s.toEstadoKernel pcb b _ hb

theorem casoMutexLock_marco {recurso : CString} (h : casoMutexLock PID TID recurso s = some s') :
    R s.toEstadoKernel s'.toEstadoKernel := by
  obtain ⟨⟨pcb, cola⟩, -, h⟩ := Option.bind_eq_some_iff.mp h
  obtain ⟨tcb, -, h⟩ := Option.bind_eq_some_iff.mp h
  obtain ⟨b, -, h⟩ := Option.bind_eq_some_iff.mp h
  obtain ⟨mutexExistente, -, h⟩ := Option.bind_eq_some_iff.mp h
  split at h
  · obtain ⟨mutex, -, h⟩ := Option.bind_eq_some_iff.mp h
    obtain ⟨bloqueados, -, h⟩ := Option.bind_eq_some_iff.mp h
    dsimp only at h
    split at h
    · exact Option.some.inj h ▸ hR.refl _
    · obtain ⟨hilo, -, h⟩ := Option.bind_eq_some_iff.mp h
      obtain ⟨k, hk, h⟩ := Option.bind_eq_some_iff.mp h
      obtain ⟨lista, -, h⟩ := Option.bind_eq_some_iff.mp h
      obtain rfl := Option.some.inj h
      exact hR.trans (hR.estado hk) (hR.bloquear k tcb)
  · exact Option.some.inj h ▸ hR.refl _

theorem casoMutexUnlock_marco {recurso : CString}
    (h : casoMutexUnlock PID TID m recurso s = some s') :
    R s.toEstadoKernel s'.toEstadoKernel := by
  obtain ⟨⟨pcb, cola⟩, -, h⟩ := Option.bind_eq_some_iff.mp h
  obtain ⟨tcbN, -, h⟩ := Option.bind_eq_some_iff.mp h
  obtain ⟨b, -, h⟩ := Option.bind_eq_some_iff.mp h
  obtain ⟨mutexExistente, -, h⟩ := Option.bind_eq_some_iff.mp h
  split at h
  · obtain ⟨mutex, -, h⟩ := Option.bind_eq_some_iff.mp h
    split at h
    · obtain ⟨sinAsignar, -, h⟩ := Option.bind_eq_some_iff.mp h
      obtain ⟨otros, -, h⟩ := Option.bind_eq_some_iff.mp h
      obtain ⟨bloqueados, -, h⟩ := Option.bind_eq_some_iff.mp h
      dsimp only at h
      split at h
      · cases h
      · obtain ⟨k, hk, h⟩ := Option.bind_eq_some_iff.mp h
        obtain ⟨k₁, hk₁, h⟩ := Option.bind_eq_some_iff.mp h
        obtain ⟨hilo, -, h⟩ := Option.bind_eq_some_iff.mp h
        obtain rfl := Option.some.inj h
        exact hR.trans (hR.estado hk) (agregarHiloAReady_marco hR hk₁)
    · exact Option.some.inj h ▸ hR.refl _
  · exact Option.some.inj h ▸ hR.refl _

theorem finalizarTids_marco {TIDs : List UInt32} {rondas : ℕ}
    (h : finalizarTids PID TIDs rondas s = some s') : R s.toEstadoKernel s'.toEstadoKernel := by
  refine finalizarTids_invariant (I := fun n => R s.toEstadoKernel n.toEstadoKernel) (hR.refl _) ?_ h
  intro n _ tcbN _ hn _
  exact hR.trans hn (hR.liberar n.toEstadoKernel tcbN)

theorem terminarProceso_marco (h : terminarProceso PID m s = some s') :
    R s.toEstadoKernel s'.toEstadoKernel := by
  obtain ⟨⟨pcb, cola⟩, -, h⟩ := Option.bind_eq_some_iff.mp h
  obtain ⟨b, -, h⟩ := Option.bind_eq_some_iff.mp h
  split at h
  · obtain ⟨t, ht, h⟩ := Option.bind_eq_some_iff.mp h
    obtain rfl := Option.some.inj h
    have hfin : R s.toEstadoKernel t.toEstadoKernel :=
      finalizarTids_marco (s := { s with colaExec := cola }) hR ht
    exact hR.trans hfin (hR.terminar t.toEstadoKernel pcb)
  · exact Option.some.inj h ▸ hR.refl _

/-- A call of `crearProceso` keeps to the relation. -/
def CreaSegun (R : EstadoKernel → EstadoKernel → Prop) (s : EstadoKernel) (m : Entorno) : Prop :=
  ∀ prioridad s', crearProceso m.basura m.hilo prioridad m.procesos s = some s' → R s s'

/-- **One case for each syscall.** -/
theorem interpretarSyscall_marco {syscall : Syscall} (hcrea : CreaSegun R s.toEstadoKernel m)
    (h : interpretarSyscall PID TID m syscall s = some s') :
    R s.toEstadoKernel s'.toEstadoKernel := by
  cases syscall with
  | dumpMemory => exact casoDumpMemory_marco hR h
  | io retorno => exact casoIo_marco hR h
  | processCreate archivo tamanio prioridad₀ =>
    obtain ⟨k, hk, rfl⟩ := Option.map_eq_some_iff.mp h
    exact hcrea _ k hk
  | threadCreate archivo prioridad =>
    obtain ⟨k, hk, rfl⟩ := Option.map_eq_some_iff.mp h
    exact crearHilo_marco hR hk
  | threadJoin tid => exact casoThreadJoin_marco hR h
  | threadCancel tid => exact casoThreadCancel_marco hR h
  | mutexCreate recurso => exact casoMutexCreate_marco hR h
  | mutexLock recurso => exact casoMutexLock_marco hR h
  | mutexUnlock recurso => exact casoMutexUnlock_marco hR h
  | threadExit => exact casoThreadExit_marco hR h
  | writeMem error =>
    by_cases herror : error = opOutOfMemory
    · exact terminarProceso_marco hR ((if_pos herror).symm.trans h)
    · exact Option.some.inj ((if_neg herror).symm.trans h) ▸ hR.refl _
  | processExit =>
    by_cases htid : TID = 0
    · exact terminarProceso_marco hR ((if_pos htid).symm.trans h)
    · exact Option.some.inj ((if_neg htid).symm.trans h) ▸ hR.refl _
  | otra funcion => exact Option.some.inj h ▸ hR.refl _

end Casos

/-- **The reply**, with what `atender_cmn` does after it. -/
theorem responder_marco {PID TID : UInt32} {syscall : Syscall} {m : Entorno} {s s' : Marcha}
    (hcrea : CreaSegun R s.toEstadoKernel m) (h : responder PID TID syscall m s = some s') :
    R s.toEstadoKernel s'.toEstadoKernel := by
  obtain ⟨thread, n, -, hn, -, hs' | ⟨insertado, k, hk, hs'⟩⟩ := responder_cases h
  · exact hs' ▸ interpretarSyscall_marco hR hcrea hn
  · rw [hs']
    exact hR.trans (interpretarSyscall_marco hR hcrea hn) (hR.insertar hk)

end

/-! ## New processes -/

section

variable {R : EstadoKernel → EstadoKernel → Prop} (hR : MarcoKernel R) {s s' : EstadoKernel}

include hR

theorem admitirProceso_marco {basura : Puntero → UInt32} {aceptado : Bool} {prioridad : Int32}
    {pcb : Puntero} (h : admitirProceso basura aceptado prioridad pcb s = some s') : R s s' := by
  obtain ⟨b, hb, h⟩ := Option.bind_eq_some_iff.mp h
  obtain ⟨t, ht, h⟩ := Option.bind_eq_some_iff.mp h
  obtain rfl := Option.some.inj h
  exact hR.trans (hR.trans (hR.admitir s pcb b hb) (crearHilo_marco hR.toMarcoCasos ht))
    (hR.contador t _)

/-- By induction on the answers of memoria: a refusal leaves a PCB and calls again. -/
theorem crearProceso_marco {basura : Puntero → UInt32} {aceptado : Bool} {prioridad : Int32}
    {respuestas : List Int32} (h : crearProceso basura aceptado prioridad respuestas s = some s') :
    R s s' := by
  induction respuestas generalizing s with
  | nil =>
    rw [crearProceso] at h
    dsimp only at h
    split at h
    · cases h
    · exact Option.some.inj h ▸ hR.nuevo s
  | cons respuesta respuestas ih =>
    rw [crearProceso] at h
    dsimp only at h
    split at h
    · split at h
      · exact hR.trans (hR.nuevo s) (admitirProceso_marco hR h)
      · exact hR.trans (hR.nuevo s) (ih h)
    · exact Option.some.inj h ▸ hR.nuevo s

theorem esperarMemoria_marco (h : esperarMemoria s = some s') : R s s' := by
  unfold esperarMemoria at h
  split at h
  · exact Option.some.inj h ▸ hR.nuevo s
  · cases h

/-- **Everything but the dispatcher.** -/
theorem suceder_marco {s s' : Marcha} {suceso : Suceso} (h : suceder s suceso = some s')
    (hno : ∀ elegido, suceso ≠ .despachar elegido) : R s.toEstadoKernel s'.toEstadoKernel := by
  cases suceso with
  | crearProceso m prioridad =>
    obtain ⟨k, hk, rfl⟩ := Option.map_eq_some_iff.mp h
    exact crearProceso_marco hR hk
  | rechazo =>
    obtain ⟨k, hk, rfl⟩ := Option.map_eq_some_iff.mp h
    exact esperarMemoria_marco hR hk
  | despachar elegido => exact absurd rfl (hno elegido)
  | respuesta PID TID syscall m =>
    exact responder_marco hR.toMarcoCasos (fun _ _ => crearProceso_marco hR) h

end

end SoTp.Kernel
