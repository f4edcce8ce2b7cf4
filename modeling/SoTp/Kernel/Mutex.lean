import SoTp.Kernel.Identidad
import SoTp.Kernel.Interprete

/-!
# The mutexes of a process

`MUTEX_LOCK` and `MUTEX_UNLOCK` (`kernel/src/main.c`, lines 369–449).

* `casoMutexLock_cases`, `casoMutexUnlock_cases`: what the two syscalls can leave.
* `lockCorrecto_iff`: **a lock does what it should only where nothing is asked of it**: a free
  mutex blocks the caller, and a taken one lets it go on.
* `not_unlockCorrecto`: **an unlock never does**: the mutex stays taken, nobody leaves its
  queue, and the PCB leaves `cola_exec`.
* `run_mutexLibres`: without the queues, which `MUTEX_CREATE` does not create, no mutex is ever
  taken.
-/

namespace SoTp.Kernel

open SoTp.Lib SoTp.Utils

/-! ## What a lock leaves -/

/-- The states that `MUTEX_LOCK` can leave. -/
inductive Bloqueo (PID TID : UInt32) (s : Nucleo) : Nucleo → Prop where
  /-- The process has no such mutex. -/
  | sinMutex (cola : List Puntero) : Bloqueo PID TID s { s with colaExec := cola }
  /-- It is taken: the caller is pushed, and goes on. -/
  | tomado (cola : List Puntero) (tcb x : Puntero) (mutex : Mutex) (bloqueados : List Puntero)
      (htcb : obtenerTCBPorPIDyTID s.tcbs PID TID s.listaExecHilo = some tcb)
      (hmutex : s.mutexes x = some mutex) (hcola : mutex.colaBloqueados = some bloqueados)
      (htomado : mutex.tomado = true) :
      Bloqueo PID TID s { s with
        colaExec := cola
        mutexes := Function.update s.mutexes x
          (some { mutex with colaBloqueados := some (bloqueados ++ [tcb]) }) }
  /-- It is free: the caller takes it, is pushed and is blocked. -/
  | libre (cola lista : List Puntero) (tcb x : Puntero) (mutex : Mutex)
      (bloqueados : List Puntero) (hilo : TCB)
      (htcb : obtenerTCBPorPIDyTID s.tcbs PID TID s.listaExecHilo = some tcb)
      (hmutex : s.mutexes x = some mutex)
      (hcola : mutex.colaBloqueados = some bloqueados)
      (hlibre : mutex.tomado = false) :
      Bloqueo PID TID s { s with
        colaExec := cola
        tcbs := Function.update s.tcbs tcb
          (some { hilo with estado := EstadoProceso.blocked.codigo })
        listaExecHilo := lista
        listaBloqHilo := s.listaBloqHilo ++ [tcb]
        mutexes := Function.update s.mutexes x (some { mutex with
          bloqueado := true
          tomado := true
          hiloActual := hilo.TID
          colaBloqueados := some (bloqueados ++ [tcb]) }) }

section

variable {PID TID : UInt32} {m : Entorno} {recurso : CString} {s s' : Nucleo}

theorem casoMutexLock_cases (h : casoMutexLock PID TID recurso s = some s') :
    Bloqueo PID TID s s' := by
  obtain ⟨⟨pcb, cola⟩, -, h⟩ := Option.bind_eq_some_iff.mp h
  obtain ⟨tcb, htcb, h⟩ := Option.bind_eq_some_iff.mp h
  obtain ⟨b, -, h⟩ := Option.bind_eq_some_iff.mp h
  obtain ⟨x, -, h⟩ := Option.bind_eq_some_iff.mp h
  split at h
  · obtain ⟨mutex, hmutex, h⟩ := Option.bind_eq_some_iff.mp h
    obtain ⟨bloqueados, hcola, h⟩ := Option.bind_eq_some_iff.mp h
    dsimp only at h
    split at h
    · rename_i htomado
      obtain rfl := Option.some.inj h
      exact .tomado cola tcb x mutex bloqueados htcb hmutex hcola htomado
    · rename_i hlibre
      obtain ⟨hilo, hhilo, h⟩ := Option.bind_eq_some_iff.mp h
      obtain ⟨k, hk, h⟩ := Option.bind_eq_some_iff.mp h
      obtain ⟨lista, -, h⟩ := Option.bind_eq_some_iff.mp h
      obtain rfl := Option.some.inj h
      rw [ponerEstado_eq hhilo] at hk
      obtain rfl := Option.some.inj hk
      exact .libre cola lista tcb x mutex bloqueados hilo htcb hmutex hcola
        (Bool.not_eq_true _ ▸ hlibre)
  · obtain rfl := Option.some.inj h
    exact .sinMutex cola

end

/-! ## A lock -/

/-- The caller has not been blocked. -/
structure SigueEnExec (tcb : Puntero) (s s' : Nucleo) : Prop where
  exec : s'.listaExecHilo = s.listaExecHilo
  bloq : s'.listaBloqHilo = s.listaBloqHilo
  estado : s'.tcbs tcb = s.tcbs tcb

/-- The caller has been marked as blocked and moved to `lista_bloq_hilo`. -/
structure PasaABloq (PID TID : UInt32) (tcb : Puntero) (s s' : Nucleo) : Prop where
  exec : quitarTCBDeLista s.tcbs PID TID s.listaExecHilo = some s'.listaExecHilo
  bloq : s'.listaBloqHilo = s.listaBloqHilo ++ [tcb]
  estado : ∃ hilo, s'.tcbs tcb = some hilo ∧ hilo.estado = EstadoProceso.blocked.codigo

/-- What `MUTEX_LOCK` owes to the thread at `tcb`, for the mutex at `x`. -/
structure LockCorrecto (PID TID : UInt32) (recurso : CString) (s : Nucleo) (tcb x : Puntero)
    (mutex : Mutex) : Prop where
  libre : mutex.tomado = false → ∃ s' mutex', casoMutexLock PID TID recurso s = some s' ∧
    s'.mutexes x = some mutex' ∧ mutex'.tomado = true ∧ mutex'.hiloActual = TID ∧
    mutex'.colaBloqueados = mutex.colaBloqueados ∧ SigueEnExec tcb s s'
  tomado : mutex.tomado = true → mutex.hiloActual ≠ TID →
    ∃ s' mutex' bloqueados, casoMutexLock PID TID recurso s = some s' ∧
      mutex.colaBloqueados = some bloqueados ∧ s'.mutexes x = some mutex' ∧
      mutex'.tomado = true ∧ mutex'.hiloActual = mutex.hiloActual ∧
      mutex'.colaBloqueados = some (bloqueados ++ [tcb]) ∧ PasaABloq PID TID tcb s s'

section

variable {PID TID : UInt32} {m : Entorno} {recurso : CString} {s s' : Nucleo} {tcb x : Puntero}
  {mutex mutex' : Mutex}

/-- A free mutex is not taken by a caller that goes on. -/
theorem Bloqueo.not_libre (h : Bloqueo PID TID s s') (hmutex : s.mutexes x = some mutex)
    (hlibre : mutex.tomado = false) (hsigue : SigueEnExec tcb s s')
    (hmutex' : s'.mutexes x = some mutex') : mutex'.tomado = false := by
  cases h with
  | sinMutex cola =>
    obtain rfl := Option.some.inj (hmutex.symm.trans hmutex')
    exact hlibre
  | tomado cola tcb' y mutexY bloqueados htcb' hy hcola htomado =>
    have hne : x ≠ y := by
      rintro rfl
      obtain rfl := Option.some.inj (hmutex.symm.trans hy)
      rw [hlibre] at htomado
      cases htomado
    have hsame := (Function.update_of_ne hne _ s.mutexes).symm.trans hmutex'
    obtain rfl := Option.some.inj (hmutex.symm.trans hsame)
    exact hlibre
  | libre cola lista tcb' y mutexY bloqueados hilo htcb' hy hcola hfree =>
    exact absurd hsigue.bloq (by simp)

/-- A taken mutex does not get a caller that is blocked into its queue. -/
theorem Bloqueo.not_tomado (h : Bloqueo PID TID s s') (hp : tcb ≠ NULL)
    (htcb : obtenerTCBPorPIDyTID s.tcbs PID TID s.listaExecHilo = some tcb)
    (hmutex : s.mutexes x = some mutex) (htomado : mutex.tomado = true)
    (hpasa : PasaABloq PID TID tcb s s') (hmutex' : s'.mutexes x = some mutex') :
    mutex'.colaBloqueados = mutex.colaBloqueados := by
  obtain ⟨-, -, lista, hlista, hlength⟩ := obtenerTCBPorPIDyTID_ne_null hp htcb
  have hexec : s'.listaExecHilo.length + 1 = s.listaExecHilo.length := by
    rw [← Option.some.inj (hlista.symm.trans hpasa.exec)]
    exact hlength
  cases h with
  | sinMutex cola => exact absurd hexec (Nat.succ_ne_self _)
  | tomado cola tcb' y mutexY bloqueados htcb' hy hcola htomadoY =>
    exact absurd hexec (Nat.succ_ne_self _)
  | libre cola lista tcb' y mutexY bloqueados hilo htcb' hy hcola hfree =>
    have hne : x ≠ y := by
      rintro rfl
      obtain rfl := Option.some.inj (hmutex.symm.trans hy)
      rw [htomado] at hfree
      cases hfree
    have hsame := (Function.update_of_ne hne _ s.mutexes).symm.trans hmutex'
    obtain rfl := Option.some.inj (hmutex.symm.trans hsame)
    rfl

end

/-- The mutex at `x` is the one of that name in a process with that `PID`. -/
def MutexDeProceso (PID : UInt32) (recurso : CString) (s : Nucleo) (x : Puntero)
    (mutex : Mutex) : Prop :=
  x ≠ NULL ∧ s.mutexes x = some mutex ∧
    ∃ pcb b, s.pcbs pcb = some b ∧ b.PID = PID ∧ buscarMutex s.mutexes recurso b.mutex = some x

/-- A lock of one mutex. -/
theorem lockCorrecto_iff_propio {PID TID : UInt32} {recurso : CString} {s : Nucleo}
    {tcb x : Puntero} {mutex : Mutex} (hp : tcb ≠ NULL)
    (htcb : obtenerTCBPorPIDyTID s.tcbs PID TID s.listaExecHilo = some tcb)
    (hmutex : s.mutexes x = some mutex) :
    LockCorrecto PID TID recurso s tcb x mutex ↔
      mutex.tomado = true ∧ mutex.hiloActual = TID := by
  constructor
  · intro h
    have htomado : mutex.tomado = true := by
      by_contra hlibre
      rw [Bool.not_eq_true] at hlibre
      obtain ⟨s', mutex', hs', hmutex', htomado', -, -, hsigue⟩ := h.libre hlibre
      have hfree := (casoMutexLock_cases hs').not_libre hmutex hlibre hsigue hmutex'
      rw [htomado'] at hfree
      cases hfree
    refine ⟨htomado, ?_⟩
    by_contra hajeno
    obtain ⟨s', mutex', bloqueados, hs', hcola, hmutex', -, -, hcola', hpasa⟩ :=
      h.tomado htomado hajeno
    have hsame := (casoMutexLock_cases hs').not_tomado hp htcb hmutex htomado hpasa hmutex'
    rw [hcola, hcola'] at hsame
    simp at hsame
  · rintro ⟨htomado, hpropio⟩
    refine ⟨fun hlibre => ?_, fun _ hajeno => absurd hpropio hajeno⟩
    rw [htomado] at hlibre
    cases hlibre

/-- **When `MUTEX_LOCK` does what it should**: exactly when the mutex is the caller's own
already, for which nothing is asked. In every other state with the thread in `lista_exec_hilo`
it does not: a free mutex blocks the caller, and a taken one lets it go on. -/
theorem lockCorrecto_iff (PID TID : UInt32) (recurso : CString) (s : Nucleo) (tcb : Puntero)
    (hp : tcb ≠ NULL)
    (htcb : obtenerTCBPorPIDyTID s.tcbs PID TID s.listaExecHilo = some tcb) :
    (∀ x mutex, MutexDeProceso PID recurso s x mutex →
        LockCorrecto PID TID recurso s tcb x mutex) ↔
      ∀ x mutex, MutexDeProceso PID recurso s x mutex →
        mutex.tomado = true ∧ mutex.hiloActual = TID := by
  constructor
  · intro h x mutex hmutex
    exact (lockCorrecto_iff_propio hp htcb hmutex.2.1).mp (h x mutex hmutex)
  · intro h x mutex hmutex
    exact (lockCorrecto_iff_propio hp htcb hmutex.2.1).mpr (h x mutex hmutex)

/-- Thread 0 of process 0, at address 2, runs; the PCB, at address 1, is in `cola_exec`, and
has the mutex `R`, at address 3, with `bloqueados` in its queue. -/
def unMutex (tomado : Bool) (bloqueados : List Puntero) : Nucleo :=
  { nucleoInicial .fifo with
    siguiente := 4
    pcbs := Function.update (fun _ => none) 1 (some ⟨0, .ready, [], [3]⟩)
    tcbs := Function.update (fun _ => none) 2 (some ⟨0, 0, 0, EstadoProceso.exec.codigo⟩)
    mutexes := Function.update (fun _ => none) 3
      (some ⟨CString.ofBytes (ascii "R"), tomado, tomado, 0, some bloqueados⟩)
    listaExecHilo := [2]
    colaExec := [1] }

theorem mutexDeProceso_unMutex (tomado : Bool) (bloqueados : List Puntero) :
    MutexDeProceso 0 (CString.ofBytes (ascii "R")) (unMutex tomado bloqueados) 3
      ⟨CString.ofBytes (ascii "R"), tomado, tomado, 0, some bloqueados⟩ :=
  ⟨by decide, rfl, 1, ⟨0, .ready, [], [3]⟩, rfl, rfl, rfl⟩

theorem mutexDeProceso_unMutex_eq {tomado : Bool} {bloqueados : List Puntero} {x : Puntero}
    {mutex : Mutex}
    (h : MutexDeProceso 0 (CString.ofBytes (ascii "R")) (unMutex tomado bloqueados) x mutex) :
    mutex = ⟨CString.ofBytes (ascii "R"), tomado, tomado, 0, some bloqueados⟩ := by
  obtain ⟨-, hmutex, -⟩ := h
  by_cases hx : x = 3
  · subst hx
    exact (Option.some.inj hmutex).symm
  · have hnone : (unMutex tomado bloqueados).mutexes x = none :=
      Function.update_of_ne hx _ fun _ => none
    rw [hnone] at hmutex
    cases hmutex

/-- The thread locks the mutex that it has. -/
theorem lockCorrecto_propio :
    LockCorrecto 0 0 (CString.ofBytes (ascii "R")) (unMutex true [2]) 2 3
      ⟨CString.ofBytes (ascii "R"), true, true, 0, some [2]⟩ :=
  (lockCorrecto_iff 0 0 (CString.ofBytes (ascii "R")) (unMutex true [2]) 2 (by decide) rfl).mpr
    (fun _ _ h => mutexDeProceso_unMutex_eq h ▸ ⟨rfl, rfl⟩) 3 _ (mutexDeProceso_unMutex true [2])

/-- The thread locks a free mutex: it has it, is in its queue, and is blocked. -/
theorem not_lockCorrecto_libre :
    (casoMutexLock 0 0 (CString.ofBytes (ascii "R")) (unMutex false [])).map
        (fun s => (s.listaExecHilo, s.listaBloqHilo, s.mutexes 3)) =
      some ([], [2], some ⟨CString.ofBytes (ascii "R"), true, true, 0, some [2]⟩) ∧
    ¬ LockCorrecto 0 0 (CString.ofBytes (ascii "R")) (unMutex false []) 2 3
      ⟨CString.ofBytes (ascii "R"), false, false, 0, some []⟩ := by
  refine ⟨rfl, fun h => ?_⟩
  obtain ⟨s', mutex', hs', -, -, -, -, hsigue⟩ := h.libre rfl
  obtain rfl := Option.some.inj hs'
  exact absurd hsigue.exec (by decide)

/-! ## What an unlock leaves -/

/-- The states that `MUTEX_UNLOCK` can leave. -/
inductive Desbloqueo (PID : UInt32) (s : Nucleo) : Nucleo → Prop where
  /-- There is no unassigned pointer to follow, or the mutex is not taken. -/
  | sinCambio (pcb : Puntero) (b : PCB) (cola : List Puntero)
      (hpcb : obtenerPCBPorPID s.pcbs PID s.colaExec = some (pcb, cola))
      (hb : s.pcbs pcb = some b) : Desbloqueo PID s { s with colaExec := cola }
  /-- The first thread of the queue is made ready, takes the mutex and goes to the back. -/
  | rotado (pcb : Puntero) (b : PCB) (cola : List Puntero) (x : Puntero) (mutex : Mutex)
      (bloqueados : List Puntero) (hilo : TCB) (k : EstadoKernel)
      (hpcb : obtenerPCBPorPID s.pcbs PID s.colaExec = some (pcb, cola))
      (hb : s.pcbs pcb = some b) (hmutex : s.mutexes x = some mutex)
      (htomado : mutex.tomado = true) (hcola : mutex.colaBloqueados = some bloqueados)
      (hk : Conserva s.toEstadoKernel k) :
      Desbloqueo PID s { s with
        toEstadoKernel := k
        colaExec := cola
        mutexes := Function.update s.mutexes x (some { mutex with
          bloqueado := true
          tomado := true
          hiloActual := hilo.TID
          colaBloqueados := some (bloqueados.tail ++ [bloqueados.headD NULL]) }) }

section

variable {PID TID : UInt32} {m : Entorno} {recurso : CString} {s s' : Nucleo} {x : Puntero}
  {mutex mutex' : Mutex}

theorem casoMutexUnlock_cases (h : casoMutexUnlock PID TID m recurso s = some s') :
    Desbloqueo PID s s' := by
  obtain ⟨⟨pcb, cola⟩, hpcb, h⟩ := Option.bind_eq_some_iff.mp h
  obtain ⟨tcb, -, h⟩ := Option.bind_eq_some_iff.mp h
  obtain ⟨b, hb, h⟩ := Option.bind_eq_some_iff.mp h
  obtain ⟨x, -, h⟩ := Option.bind_eq_some_iff.mp h
  split at h
  · obtain ⟨mutex, hmutex, h⟩ := Option.bind_eq_some_iff.mp h
    split at h
    · rename_i htomado
      obtain ⟨sinAsignar, -, h⟩ := Option.bind_eq_some_iff.mp h
      obtain ⟨otros, -, h⟩ := Option.bind_eq_some_iff.mp h
      obtain ⟨bloqueados, hcola, h⟩ := Option.bind_eq_some_iff.mp h
      dsimp only at h
      split at h
      · cases h
      · obtain ⟨k₁, hk₁, h⟩ := Option.bind_eq_some_iff.mp h
        obtain ⟨k₂, hk₂, h⟩ := Option.bind_eq_some_iff.mp h
        obtain ⟨hilo, -, h⟩ := Option.bind_eq_some_iff.mp h
        obtain rfl := Option.some.inj h
        have hconserva := (ponerEstado_conserva hk₁).trans (agregarHiloAReady_conserva _ _ _ hk₂)
        exact .rotado pcb b cola x mutex bloqueados hilo k₂ hpcb hb hmutex htomado hcola hconserva
    · obtain rfl := Option.some.inj h
      exact .sinCambio pcb b cola hpcb hb
  · obtain rfl := Option.some.inj h
    exact .sinCambio pcb b cola hpcb hb

/-- A taken mutex stays taken, and its queue keeps its threads. -/
theorem Desbloqueo.tomado (h : Desbloqueo PID s s') (hmutex : s.mutexes x = some mutex)
    (htomado : mutex.tomado = true) (hmutex' : s'.mutexes x = some mutex') :
    mutex'.tomado = true ∧ ∀ bloqueados, mutex.colaBloqueados = some bloqueados →
      ∃ bloqueados', mutex'.colaBloqueados = some bloqueados' ∧ bloqueados ⊆ bloqueados' := by
  cases h with
  | sinCambio pcb b cola hpcb hb =>
    obtain rfl := Option.some.inj (hmutex.symm.trans hmutex')
    exact ⟨htomado, fun bloqueados hcola => ⟨bloqueados, hcola, List.Subset.refl _⟩⟩
  | rotado pcb b cola y mutexY bloqueadosY hilo k hpcb hb hy htomadoY hcolaY hk =>
    by_cases hxy : x = y
    · subst hxy
      have hself := (Function.update_self x _ s.mutexes).symm.trans hmutex'
      obtain rfl := Option.some.inj hself
      obtain rfl := Option.some.inj (hmutex.symm.trans hy)
      refine ⟨rfl, fun bloqueados hcola => ⟨_, rfl, ?_⟩⟩
      obtain rfl := Option.some.inj (hcola.symm.trans hcolaY)
      intro p hp
      cases bloqueados with
      | nil => exact absurd hp List.not_mem_nil
      | cons q bloqueados =>
        rcases List.mem_cons.mp hp with rfl | hp
        · exact List.mem_append_right _ (List.mem_singleton.mpr rfl)
        · exact List.mem_append_left _ hp
    · have hsame := (Function.update_of_ne hxy _ s.mutexes).symm.trans hmutex'
      obtain rfl := Option.some.inj (hmutex.symm.trans hsame)
      exact ⟨htomado, fun bloqueados hcola => ⟨bloqueados, hcola, List.Subset.refl _⟩⟩

theorem Desbloqueo.colaExec (h : Desbloqueo PID s s') (hnulo : s.pcbs NULL = none) :
    s'.colaExec.length + 1 = s.colaExec.length := by
  cases h with
  | sinCambio pcb b cola hpcb hb =>
    exact obtenerPCBPorPID_length (ne_null_of_eq_some hnulo hb) hpcb
  | rotado pcb b cola y mutex bloqueados hilo k hpcb hb _ _ _ _ =>
    exact obtenerPCBPorPID_length (ne_null_of_eq_some hnulo hb) hpcb

end

/-! ## An unlock -/

/-- What `MUTEX_UNLOCK` owes to the thread at `tcb`, for the mutex at `x`. Who waits for the
mutex is in its queue and is not the caller. -/
structure UnlockCorrecto (PID TID : UInt32) (m : Entorno) (recurso : CString) (s : Nucleo)
    (tcb x : Puntero) (mutex : Mutex) : Prop where
  libera : mutex.tomado = true → mutex.hiloActual = TID →
    (∀ bloqueados, mutex.colaBloqueados = some bloqueados → ∀ p ∈ bloqueados, p = tcb) →
    ∃ s' mutex', casoMutexUnlock PID TID m recurso s = some s' ∧
      s'.mutexes x = some mutex' ∧ mutex'.tomado = false ∧ mutex'.colaBloqueados = some []
  entrega : mutex.tomado = true → mutex.hiloActual = TID →
    ∀ bloqueados w, mutex.colaBloqueados = some bloqueados →
      bloqueados.find? (fun p => decide (p ≠ tcb)) = some w →
      ∃ s' mutex' bloqueados' hilo, casoMutexUnlock PID TID m recurso s = some s' ∧
        s'.mutexes x = some mutex' ∧ mutex'.tomado = true ∧ s'.tcbs w = some hilo ∧
        mutex'.hiloActual = hilo.TID ∧ mutex'.colaBloqueados = some bloqueados' ∧
        w ∉ bloqueados' ∧ w ∉ s'.listaBloqHilo ∧ hilo.estado = EstadoProceso.ready.codigo
  ajeno : ¬ (mutex.tomado = true ∧ mutex.hiloActual = TID) →
    casoMutexUnlock PID TID m recurso s = some s

/-- In no state: the owner does not free the mutex nor hand it over, and for every other caller
`cola_exec` loses the PCB. -/
theorem not_unlockCorrecto_of_mutex {PID TID : UInt32} {m : Entorno} {recurso : CString}
    {s : Nucleo} {tcb x : Puntero} {mutex : Mutex} (hnulo : s.pcbs NULL = none)
    (hmutex : s.mutexes x = some mutex) : ¬ UnlockCorrecto PID TID m recurso s tcb x mutex := by
  intro h
  by_cases hdueno : mutex.tomado = true ∧ mutex.hiloActual = TID
  · obtain ⟨htomado, hpropio⟩ := hdueno
    by_cases hespera : ∃ bloqueados w, mutex.colaBloqueados = some bloqueados ∧
        bloqueados.find? (fun p => decide (p ≠ tcb)) = some w
    · obtain ⟨bloqueados, w, hcola, hw⟩ := hespera
      obtain ⟨s', mutex', bloqueados', hilo, hs', hmutex', -, -, -, hcola', hsale, -⟩ :=
        h.entrega htomado hpropio bloqueados w hcola hw
      obtain ⟨-, hqueda⟩ := (casoMutexUnlock_cases hs').tomado hmutex htomado hmutex'
      obtain ⟨bloqueados'', hcola'', hsub⟩ := hqueda bloqueados hcola
      obtain rfl := Option.some.inj (hcola'.symm.trans hcola'')
      exact hsale (hsub (List.mem_of_find?_eq_some hw))
    · have hnadie : ∀ bloqueados, mutex.colaBloqueados = some bloqueados →
          ∀ p ∈ bloqueados, p = tcb := by
        intro bloqueados hcola p hp
        by_contra hne
        have hsome : (bloqueados.find? fun p => decide (p ≠ tcb)).isSome :=
          List.find?_isSome.mpr ⟨p, hp, decide_eq_true hne⟩
        obtain ⟨w, hw⟩ := Option.isSome_iff_exists.mp hsome
        exact hespera ⟨bloqueados, w, hcola, hw⟩
      obtain ⟨s', mutex', hs', hmutex', hlibre, -⟩ := h.libera htomado hpropio hnadie
      have hsigue := ((casoMutexUnlock_cases hs').tomado hmutex htomado hmutex').1
      rw [hlibre] at hsigue
      cases hsigue
  · have hlength := (casoMutexUnlock_cases (h.ajeno hdueno)).colaExec hnulo
    exact absurd hlength (Nat.succ_ne_self _)

/-! ## Histories of mutex syscalls -/

/-- The syscalls on mutexes. -/
def Syscall.deMutex : Syscall → Prop
  | mutexCreate _ | mutexLock _ | mutexUnlock _ => True
  | _ => False

/-- A syscall of thread `TID` of the process. -/
structure Llamada where
  TID : UInt32
  entorno : Entorno
  syscall : Syscall

/-- A syscall of process `PID`. -/
def pasoLlamada (PID : UInt32) (s : Nucleo) (llamada : Llamada) : Option Nucleo :=
  interpretarSyscall PID llamada.TID llamada.entorno llamada.syscall s

/-- All of them are on mutexes. -/
def SoloMutex (PID : UInt32) : Nucleo → List Llamada → Prop :=
  Along (pasoLlamada PID) fun _ llamada => llamada.syscall.deMutex

section

variable {PID TID : UInt32} {recurso : CString} {s s' : Nucleo} {llamada : Llamada}

theorem casoMutexCreate_cases (h : casoMutexCreate PID TID recurso s = some s') :
    ∃ pcb b b', s.pcbs pcb = some b ∧ s'.pcbs = Function.update s.pcbs pcb (some b') ∧
      s'.mutexes =
        Function.update s.mutexes s.siguiente (some ⟨recurso, false, false, 0, none⟩) := by
  obtain ⟨⟨pcb, cola⟩, -, h⟩ := Option.bind_eq_some_iff.mp h
  obtain ⟨⟨tcb, t⟩, hbuscar, h⟩ := Option.bind_eq_some_iff.mp h
  obtain rfl := buscarHilo_eq_some hbuscar
  obtain ⟨b, hb, h⟩ := Option.bind_eq_some_iff.mp h
  obtain rfl := Option.some.inj h
  exact ⟨pcb, b, _, hb, rfl, rfl⟩

/-- Nothing is allocated at `NULL`. -/
theorem pasoLlamada_nulo (hnulo : s.pcbs NULL = none) (hmutex : llamada.syscall.deMutex)
    (h : pasoLlamada PID s llamada = some s') : s'.pcbs NULL = none := by
  obtain ⟨TID, m, syscall⟩ := llamada
  cases syscall with
  | mutexCreate recurso =>
    obtain ⟨pcb, b, b', hb, hpcbs, -⟩ := casoMutexCreate_cases h
    rw [hpcbs, Function.update_of_ne (ne_null_of_eq_some hnulo hb).symm]
    exact hnulo
  | mutexLock recurso => cases casoMutexLock_cases h <;> exact hnulo
  | mutexUnlock recurso =>
    cases casoMutexUnlock_cases h with
    | sinCambio pcb b cola hpcb hb => exact hnulo
    | rotado pcb b cola x mutex bloqueados hilo k hpcb hb hx htomado hcola hk =>
      exact (congrFun hk.pcbs NULL).trans hnulo
  | _ => exact absurd hmutex id

/-- No mutex is taken, and none has a queue. -/
def MutexLibres (s : Nucleo) : Prop :=
  ∀ x mutex, s.mutexes x = some mutex → mutex.tomado = false ∧ mutex.colaBloqueados = none

/-- Where no mutex has a queue, a lock that finds its mutex does not come back. -/
theorem pasoLlamada_mutexLibres (hlibres : MutexLibres s) (hmutex : llamada.syscall.deMutex)
    (h : pasoLlamada PID s llamada = some s') : MutexLibres s' := by
  obtain ⟨TID, m, syscall⟩ := llamada
  cases syscall with
  | mutexCreate recurso =>
    obtain ⟨pcb, b, b', -, -, hmutexes⟩ := casoMutexCreate_cases h
    intro x mutex hx
    rw [hmutexes] at hx
    by_cases hnuevo : x = s.siguiente
    · subst hnuevo
      rw [Function.update_self] at hx
      obtain rfl := Option.some.inj hx
      exact ⟨rfl, rfl⟩
    · rw [Function.update_of_ne hnuevo] at hx
      exact hlibres x mutex hx
  | mutexLock recurso =>
    cases casoMutexLock_cases h with
    | sinMutex cola => exact hlibres
    | tomado cola tcb x mutex bloqueados htcb hx hcola htomado =>
      rw [(hlibres x mutex hx).2] at hcola
      cases hcola
    | libre cola lista tcb x mutex bloqueados hilo htcb hx hcola hlibre =>
      rw [(hlibres x mutex hx).2] at hcola
      cases hcola
  | mutexUnlock recurso =>
    cases casoMutexUnlock_cases h with
    | sinCambio pcb b cola hpcb hb => exact hlibres
    | rotado pcb b cola x mutex bloqueados hilo k hpcb hb hx htomado hcola hk =>
      rw [(hlibres x mutex hx).2] at hcola
      cases hcola
  | _ => exact absurd hmutex id

end

/-- From a state without mutexes, or with mutexes as `MUTEX_CREATE` makes them, no sequence of
mutex syscalls takes one. -/
theorem run_mutexLibres {PID : UInt32} {s₀ s : Nucleo} {llamadas : List Llamada}
    (hlibres : MutexLibres s₀) (hmutexes : SoloMutex PID s₀ llamadas)
    (hrun : run (pasoLlamada PID) s₀ llamadas = some s) : MutexLibres s :=
  run_invariant (fun _ _ _ hs hmutex hpaso => pasoLlamada_mutexLibres hs hmutex hpaso) hlibres
    hmutexes hrun

/-- **`MUTEX_UNLOCK` never does what it should**: after every sequence of mutex syscalls of the
threads of a process, from every state in which nothing is allocated at `NULL`, for every caller
and every mutex of the process. -/
theorem not_unlockCorrecto (PID : UInt32) (s₀ s : Nucleo) (llamadas : List Llamada)
    (hnulo : s₀.pcbs NULL = none) (hmutexes : SoloMutex PID s₀ llamadas)
    (hrun : run (pasoLlamada PID) s₀ llamadas = some s) (TID : UInt32) (m : Entorno)
    (recurso : CString) (tcb x : Puntero) (mutex : Mutex)
    (hmutex : MutexDeProceso PID recurso s x mutex) :
    ¬ UnlockCorrecto PID TID m recurso s tcb x mutex := by
  have hnulo' : s.pcbs NULL = none :=
    run_invariant
      (fun _ _ _ hs hmutex hpaso => pasoLlamada_nulo hs hmutex hpaso) hnulo hmutexes hrun
  exact not_unlockCorrecto_of_mutex hnulo' hmutex.2.1

/-- Thread 0 has the mutex and is alone in its queue. -/
theorem not_unlockCorrecto_unMutex :
    ¬ UnlockCorrecto 0 0 { memoriaAcepta with mutex := 3 } (CString.ofBytes (ascii "R"))
      (unMutex true [2]) 2 3 ⟨CString.ofBytes (ascii "R"), true, true, 0, some [2]⟩ :=
  not_unlockCorrecto 0 (unMutex true [2]) (unMutex true [2]) [] rfl trivial rfl 0
    { memoriaAcepta with mutex := 3 } (CString.ofBytes (ascii "R")) 2 3
    ⟨CString.ofBytes (ascii "R"), true, true, 0, some [2]⟩ (mutexDeProceso_unMutex true [2])

/-- Its unlock leaves the mutex taken, with the thread in the queue again. And when it creates
another mutex and unlocks that one, the kernel goes through a null pointer: the PCB has left
`cola_exec` with the creation. -/
theorem casoMutexUnlock_unMutex :
    (casoMutexUnlock 0 0 { memoriaAcepta with mutex := 3 } (CString.ofBytes (ascii "R"))
        (unMutex true [2])).map (fun s => (s.mutexes 3, s.colaExec)) =
      some (some ⟨CString.ofBytes (ascii "R"), true, true, 0, some [2]⟩, []) ∧
    ¬ UnlockCorrecto 0 0 { memoriaAcepta with mutex := 3 } (CString.ofBytes (ascii "R"))
      (unMutex true [2]) 2 3 ⟨CString.ofBytes (ascii "R"), true, true, 0, some [2]⟩ ∧
    ∃ s, run (pasoLlamada 0) (unMutex false [])
        [⟨0, memoriaAcepta, .mutexCreate (CString.ofBytes (ascii "S"))⟩] = some s ∧
      MutexDeProceso 0 (CString.ofBytes (ascii "S")) s 4
        ⟨CString.ofBytes (ascii "S"), false, false, 0, none⟩ ∧
      casoMutexUnlock 0 0 memoriaAcepta (CString.ofBytes (ascii "S")) s = none := by
  refine ⟨rfl, not_unlockCorrecto_of_mutex rfl rfl, _, rfl, ⟨by decide, rfl, ?_⟩, rfl⟩
  exact ⟨1, ⟨0, .ready, [], [3, 4]⟩, rfl, rfl, rfl⟩

end SoTp.Kernel
