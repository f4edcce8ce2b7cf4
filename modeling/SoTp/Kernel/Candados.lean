import SoTp.Kernel.Marcha
import SoTp.Lib.Run

/-!
# The locks of the dispatchers

An iteration of `atender_fifo` (`kernel/src/k_corto_plazo.c`, lines 37–75) or
`atender_prioridades` (lines 77–122) takes `mutex_lista_exec_hilo` and, where nothing runs,
`mutex_cola_ready_fifo_prioridades`: that is `vuelta`.

* `vuelta_atenderReady`: at the head of the loop the iteration is `atenderReady`.
* `vuelta_sinTomar_iff`: an iteration leaves a lock behind when it finds nothing that runs and
  nothing that is ready.
* `candados_iff`: so a run keeps to its locks **if and only if** no iteration of it does.
-/

namespace SoTp.Kernel

open SoTp.Lib SoTp.Utils

/-! ## Model -/

/-- The dispatcher starts without any. -/
def candadosInicial (algoritmo : Algoritmo) : ConCandados :=
  ⟨marchaInicial algoritmo, .sueltos⟩

/-- `atender_fifo` (lines 39–72). -/
def vueltaFifo (t : ConCandados) : Option ConCandados := vuelta sacarReady t

/-- `atender_prioridades` (lines 79–120). -/
def vueltaPrioridades (elegido : Puntero) (t : ConCandados) : Option ConCandados :=
  vuelta (sacarPrioridades elegido) t

/-- A step of a kernel whose `planificador_corto_plazo` has entered the loop for `algoritmo`.
Behind `interpretarCPU` the iteration ends; what is not done by the dispatcher leaves its
mutexes alone. -/
def sucederCandados (algoritmo : Algoritmo) (t : ConCandados) : Suceso → Option ConCandados
  | .despachar elegido =>
    if t.marcha.enCpu.isSome then none
    else
      match algoritmo with
      | .fifo => vueltaFifo t
      | .prioridades => vueltaPrioridades elegido t
      | .cmn | .colasMultinivel | .desconocido => none
  | .respuesta PID TID syscall m =>
    (responder PID TID syscall m t.marcha).map fun s => ⟨s, t.tiene.soltarExec⟩
  | .crearProceso m prioridad =>
    (suceder t.marcha (.crearProceso m prioridad)).map fun s => ⟨s, t.tiene⟩
  | .rechazo => (suceder t.marcha .rechazo).map fun s => ⟨s, t.tiene⟩

/-! ## What an iteration does with the locks -/

/-- At the head of the loop nothing is held, and each lock of the iteration is there to be
taken. -/
structure SinTomar (t : ConCandados) : Prop where
  sueltos : t.marcha.enCpu = none → t.tiene = .sueltos
  exec : t.marcha.enCpu = none → t.tiene.tomarExec.isSome
  ready : t.marcha.enCpu = none → (t.tiene.tomarExec.bind Candados.tomarReady).isSome

/-- The iteration that starts finds a thread that runs or one that is ready. -/
def HayHilo (t : ConCandados) (suceso : Suceso) : Prop :=
  ∀ elegido, suceso = .despachar elegido →
    ¬ (t.marcha.listaExecHilo = [] ∧ t.marcha.colaReadyFifoPrioridades = some [])

/-- The dispatcher holds the mutex of the list exactly while it waits for a reply. -/
def Acotada (t : ConCandados) : Prop := t.tiene = ⟨t.marcha.enCpu.isSome, false⟩

theorem Acotada.sinTomar {t : ConCandados} (ht : Acotada t) : SinTomar t := by
  have hsueltos (h : t.marcha.enCpu = none) : t.tiene = .sueltos := by
    rw [ht, h]
    rfl
  refine ⟨hsueltos, fun h => ?_, fun h => ?_⟩
  · rw [hsueltos h]
    rfl
  · rw [hsueltos h]
    rfl

theorem enviarHilo_enCpu {unTcb : Puntero} {s s' : Marcha} (h : enviarHilo unTcb s = some s') :
    s'.enCpu = if unTcb ≠ NULL then some unTcb else s.enCpu := by
  obtain ⟨tcb, -, h⟩ := Option.bind_eq_some_iff.mp h
  split at h
  · rename_i hne
    obtain ⟨k, -, h⟩ := Option.bind_eq_some_iff.mp h
    obtain rfl := Option.some.inj h
    rw [if_pos hne]
  · rename_i heq
    obtain rfl := Option.some.inj h
    rw [if_neg heq]

section

variable {sacar : EstadoKernel → Option (Puntero × EstadoKernel)} {t t' : ConCandados}

/-- Something runs: the iteration takes one mutex and releases it. -/
theorem vuelta_ocupada (ht : t.tiene = .sueltos) (hexec : t.marcha.listaExecHilo ≠ []) :
    vuelta sacar t = some t := by
  unfold vuelta
  rw [ht]
  show (if t.marcha.listaExecHilo = [] then _ else
    some (⟨t.marcha, .sueltos⟩ : ConCandados)) = some t
  rw [if_neg hexec, ← ht]

/-- Nothing runs and nothing is ready: the mutex of the queue stays taken. -/
theorem vuelta_vacia (ht : t.tiene = .sueltos) (hexec : t.marcha.listaExecHilo = [])
    (hcola : t.marcha.colaReadyFifoPrioridades = some []) :
    vuelta sacar t = some ⟨t.marcha, ⟨false, true⟩⟩ := by
  unfold vuelta
  rw [ht]
  dsimp only
  rw [hcola]
  show (if t.marcha.listaExecHilo = [] then
    some (⟨t.marcha, ⟨false, true⟩⟩ : ConCandados) else _) = _
  rw [if_pos hexec]

/-- Otherwise a thread is taken, and the mutex of the list is held while it runs. -/
theorem vuelta_acotada (ht : t.tiene = .sueltos) (hcpu : t.marcha.enCpu = none)
    (hhay : ¬ (t.marcha.listaExecHilo = [] ∧ t.marcha.colaReadyFifoPrioridades = some []))
    (h : vuelta sacar t = some t') : Acotada t' := by
  have hacotada : Acotada t := by
    unfold Acotada
    rw [ht, hcpu]
    rfl
  by_cases hexec : t.marcha.listaExecHilo = []
  · unfold vuelta at h
    rw [ht] at h
    dsimp only at h
    obtain ⟨c, hc, h⟩ := Option.bind_eq_some_iff.mp h
    obtain rfl := Option.some.inj hc
    rw [if_pos hexec] at h
    obtain ⟨c, hc, h⟩ := Option.bind_eq_some_iff.mp h
    obtain rfl := Option.some.inj hc
    obtain ⟨cola, hcola, h⟩ := Option.bind_eq_some_iff.mp h
    have hne : cola ≠ [] := by
      rintro rfl
      exact hhay ⟨hexec, hcola⟩
    rw [if_pos hne] at h
    obtain ⟨⟨unTcb, k⟩, -, h⟩ := Option.bind_eq_some_iff.mp h
    obtain ⟨s, hs, h⟩ := Option.bind_eq_some_iff.mp h
    have henCpu := enviarHilo_enCpu hs
    unfold Acotada
    split at h
    · rename_i hnull
      obtain rfl := Option.some.inj h
      rw [if_pos hnull] at henCpu
      show _ = (⟨s.enCpu.isSome, false⟩ : Candados)
      rw [henCpu]
      rfl
    · rename_i hnull
      obtain rfl := Option.some.inj h
      rw [if_neg hnull] at henCpu
      show _ = (⟨s.enCpu.isSome, false⟩ : Candados)
      rw [henCpu, hcpu]
      rfl
  · rw [vuelta_ocupada ht hexec] at h
    exact Option.some.inj h ▸ hacotada

/-- **When an iteration releases what it locks.** From the head of the loop: exactly when it finds
a thread that runs or one that is ready. -/
theorem vuelta_sinTomar_iff (ht : t.tiene = .sueltos) (hcpu : t.marcha.enCpu = none)
    (h : vuelta sacar t = some t') :
    SinTomar t' ↔
      ¬ (t.marcha.listaExecHilo = [] ∧ t.marcha.colaReadyFifoPrioridades = some []) := by
  constructor
  · rintro hsuelta ⟨hexec, hcola⟩
    rw [vuelta_vacia ht hexec hcola] at h
    obtain rfl := Option.some.inj h
    exact Bool.noConfusion (congrArg Candados.colaReady (hsuelta.sueltos hcpu))
  · intro hhay
    exact (vuelta_acotada ht hcpu hhay h).sinTomar

/-- **The iteration is `atenderReady`**, with the lock of the queue as its `candado`. -/
theorem vuelta_atenderReady (s : Marcha) (candado : Bool) :
    (vuelta sacar ⟨s, ⟨false, candado⟩⟩).map
        (fun u => { u.marcha with candado := u.tiene.colaReady }) =
      atenderReady sacar { s with candado := candado } :=
  (vuelta_pasos sacar s candado).trans
    (atenderReady_pasos sacar { s with candado := candado }).symm

end

/-! ## Runs -/

section

variable {algoritmo : Algoritmo} {t t' : ConCandados} {suceso : Suceso}

theorem responder_enCpu {PID TID : UInt32} {syscall : Syscall} {m : Entorno} {s s' : Marcha}
    (h : responder PID TID syscall m s = some s') : s'.enCpu = none := by
  obtain ⟨thread, n, -, -, hcpu, -⟩ := responder_cases h
  exact hcpu

/-- An iteration that starts is one of `vuelta`. -/
theorem sucederCandados_despachar {elegido : Puntero}
    (h : sucederCandados algoritmo t (.despachar elegido) = some t') :
    t.marcha.enCpu = none ∧ ∃ sacar, vuelta sacar t = some t' := by
  unfold sucederCandados at h
  dsimp only at h
  split at h
  · cases h
  · rename_i hcpu
    refine ⟨Option.not_isSome_iff_eq_none.mp hcpu, ?_⟩
    split at h
    · exact ⟨sacarReady, h⟩
    · exact ⟨sacarPrioridades elegido, h⟩
    all_goals cases h

/-- **One step** that finds a thread. -/
theorem sucederCandados_acotada (ht : Acotada t) (hhay : HayHilo t suceso)
    (h : sucederCandados algoritmo t suceso = some t') : Acotada t' := by
  have hotro {s : Option Marcha} (hcpu : ∀ s', s = some s' → s'.enCpu = t.marcha.enCpu)
      (h : s.map (fun s' => (⟨s', t.tiene⟩ : ConCandados)) = some t') : Acotada t' := by
    obtain ⟨s', hs', rfl⟩ := Option.map_eq_some_iff.mp h
    show t.tiene = (⟨s'.enCpu.isSome, false⟩ : Candados)
    rw [hcpu s' hs']
    exact ht
  cases suceso with
  | crearProceso m prioridad =>
    refine hotro (fun s' hs' => ?_) h
    obtain ⟨k, -, rfl⟩ := Option.map_eq_some_iff.mp hs'
    rfl
  | rechazo =>
    refine hotro (fun s' hs' => ?_) h
    obtain ⟨k, -, rfl⟩ := Option.map_eq_some_iff.mp hs'
    rfl
  | despachar elegido =>
    obtain ⟨hcpu, sacar, hvuelta⟩ := sucederCandados_despachar h
    exact vuelta_acotada (ht.sinTomar.sueltos hcpu) hcpu (hhay elegido rfl) hvuelta
  | respuesta PID TID syscall m =>
    obtain ⟨s', hs', rfl⟩ := Option.map_eq_some_iff.mp h
    show t.tiene.soltarExec = (⟨s'.enCpu.isSome, false⟩ : Candados)
    rw [responder_enCpu hs', ht]
    rfl

theorem sucederCandados_traba (ht : Acotada t) (hhay : ¬ HayHilo t suceso)
    (h : sucederCandados algoritmo t suceso = some t') : ¬ SinTomar t' := by
  unfold HayHilo at hhay
  push Not at hhay
  obtain ⟨elegido, rfl, hvacias⟩ := hhay
  obtain ⟨hcpu, sacar, hvuelta⟩ := sucederCandados_despachar h
  rw [vuelta_sinTomar_iff (ht.sinTomar.sueltos hcpu) hcpu hvuelta]
  exact not_not.mpr hvacias

/-- By induction on the steps: nothing is held between the iterations as long as each of them
finds a thread. -/
theorem Acotada.along_iff {sucesos : List Suceso} (ht : Acotada t)
    (hrun : run (sucederCandados algoritmo) t sucesos = some t') :
    (Along (sucederCandados algoritmo) (fun u _ => SinTomar u) t sucesos ∧ SinTomar t') ↔
      Along (sucederCandados algoritmo) HayHilo t sucesos := by
  induction sucesos generalizing t with
  | nil =>
    obtain rfl := Option.some.inj hrun
    exact iff_of_true ⟨trivial, ht.sinTomar⟩ trivial
  | cons suceso sucesos ih =>
    obtain ⟨u, hu, hrun⟩ := run_cons_eq_some _ hrun
    constructor
    · rintro ⟨hsueltas, hfin⟩
      have hhay : HayHilo t suceso := by
        by_contra hhay
        have htraba := sucederCandados_traba ht hhay hu
        cases sucesos with
        | nil => exact htraba (Option.some.inj hrun ▸ hfin)
        | cons _ _ => exact htraba (hsueltas.tail hu).head
      exact along_cons hu hhay
        ((ih (sucederCandados_acotada ht hhay hu) hrun).mp ⟨hsueltas.tail hu, hfin⟩)
    · intro hhay
      obtain ⟨hsueltas, hfin⟩ :=
        (ih (sucederCandados_acotada ht hhay.head hu) hrun).mpr (hhay.tail hu)
      exact ⟨along_cons hu ht.sinTomar hsueltas, hfin⟩

end

/-- **Who releases what it locks.** In a run under `FIFO` or `PRIORIDADES`, from the start of the
kernel, the dispatcher holds nothing between two iterations, and finds each lock that the next one
takes free, in every state of the run, exactly when no iteration of the run starts with
`lista_exec_hilo` and the ready queue both empty. -/
theorem candados_iff (algoritmo : Algoritmo) (sucesos : List Suceso) (t : ConCandados)
    (hrun : run (sucederCandados algoritmo) (candadosInicial algoritmo) sucesos = some t) :
    (Along (sucederCandados algoritmo) (fun u _ => SinTomar u) (candadosInicial algoritmo)
        sucesos ∧ SinTomar t) ↔
      Along (sucederCandados algoritmo) HayHilo (candadosInicial algoritmo) sucesos :=
  Acotada.along_iff rfl hrun

/-- A process is admitted, and its thread is sent. -/
theorem candados_iff_admitido : ∃ t,
    run (sucederCandados .prioridades) (candadosInicial .prioridades)
      [.crearProceso memoriaAcepta 0, .despachar 0] = some t ∧
    ((Along (sucederCandados .prioridades) (fun u _ => SinTomar u) (candadosInicial .prioridades)
        [.crearProceso memoriaAcepta 0, .despachar 0] ∧ SinTomar t) ↔
      Along (sucederCandados .prioridades) HayHilo (candadosInicial .prioridades)
        [.crearProceso memoriaAcepta 0, .despachar 0]) :=
  ⟨_, rfl, candados_iff .prioridades _ _ rfl⟩

/-- The first iteration of the kernel finds no thread: it ends with the mutex of the queue taken,
and the next one waits for it. -/
theorem not_sinTomar_inicial :
    ∃ t, run (sucederCandados .fifo) (candadosInicial .fifo) [.despachar 0] = some t ∧
      ¬ SinTomar t ∧ sucederCandados .fifo t (.despachar 0) = none := by
  refine ⟨_, rfl, fun h => ?_, rfl⟩
  exact absurd (h.sueltos rfl) (by decide)

end SoTp.Kernel
