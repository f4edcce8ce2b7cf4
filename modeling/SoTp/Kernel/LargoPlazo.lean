import SoTp.Kernel.Admision
import SoTp.Kernel.Marcos
import SoTp.Kernel.Orden

/-!
# The life of a process

A process begins in `cola_new`, and `crearProceso` moves it to `cola_ready` when memoria accepts
it (`kernel/src/k_largo_plazo.c`, lines 45–87). No other function moves it: nothing is ever put
in `cola_exec`, so no syscall finds a PCB, and `finalizarProceso` is not reached.

* `EnOrden`: `cola_ready` and, behind it, `cola_new` hold **every process once**, in the order of
  creation, and its state is that of its queue.
* `run_procesos`: so it is in every state of every run, and between two of them **no process is
  lost, overtaken or ended**.
-/

namespace SoTp.Kernel

open SoTp.Lib SoTp.Utils

/-! ## The two queues -/

/-- The processes of the two queues, those that memoria has accepted first. -/
def procesos (s : EstadoKernel) : List Puntero := s.colaReady ++ s.colaNew

/-- Every process is in one of the two queues, once; addresses are given out in increasing order,
so the processes stand in the order of their creation. -/
structure EnOrden (s : EstadoKernel) : Prop where
  orden : (procesos s).Pairwise (· < ·)
  usados : ∀ p ∈ procesos s, p < s.siguiente
  vivos : ∀ p, p ∈ procesos s ↔ ∃ b, s.pcbs p = some b
  estado : ∀ p b, s.pcbs p = some b →
    b.estado = if p ∈ s.colaReady then EstadoProceso.ready else EstadoProceso.new

/-- Between `s` and `s'` processes have been made, behind all others, and some that were waiting
have been accepted; none has been ended. -/
structure Sigue (s s' : EstadoKernel) : Prop where
  procesos : procesos s <+: procesos s'
  ready : s.colaReady <+: s'.colaReady
  pids : ∀ p b, s.pcbs p = some b → ∃ b', s'.pcbs p = some b' ∧ b'.PID = b.PID

/-- No process is moved. -/
structure MismasColas (s s' : EstadoKernel) : Prop where
  colaNew : s'.colaNew = s.colaNew
  colaReady : s'.colaReady = s.colaReady
  siguiente : s.siguiente ≤ s'.siguiente

/-- No process is made, moved or written. -/
structure MismosProcesos (s s' : EstadoKernel) : Prop extends MismasColas s s' where
  pcbs : s'.pcbs = s.pcbs

section

variable {s s' t : EstadoKernel}

theorem enOrden_inicial (algoritmo : Algoritmo) : EnOrden (kernelInicial algoritmo) where
  orden := List.Pairwise.nil
  usados _ hp := nomatch hp
  vivos _ := iff_of_false List.not_mem_nil fun ⟨_, hb⟩ => nomatch hb
  estado _ _ hb := nomatch hb

theorem Sigue.refl (s : EstadoKernel) : Sigue s s :=
  ⟨List.prefix_rfl, List.prefix_rfl, fun _ b hb => ⟨b, hb, rfl⟩⟩

theorem Sigue.trans (h : Sigue s t) (h' : Sigue t s') : Sigue s s' where
  procesos := h.procesos.trans h'.procesos
  ready := h.ready.trans h'.ready
  pids := by
    intro p b hb
    obtain ⟨c, hc, hpid⟩ := h.pids p b hb
    obtain ⟨d, hd, hpid'⟩ := h'.pids p c hc
    exact ⟨d, hd, hpid'.trans hpid⟩

theorem MismosProcesos.procesos (h : MismosProcesos s s') : procesos s' = procesos s := by
  unfold Kernel.procesos
  rw [h.colaReady, h.colaNew]

theorem MismosProcesos.enOrden (h : MismosProcesos s s') (hs : EnOrden s) : EnOrden s' where
  orden := h.procesos ▸ hs.orden
  usados := by
    intro p hp
    rw [h.procesos] at hp
    exact (hs.usados p hp).trans_le h.siguiente
  vivos := by
    rw [h.procesos, h.pcbs]
    exact hs.vivos
  estado := by
    rw [h.pcbs, h.colaReady]
    exact hs.estado

theorem MismosProcesos.sigue (h : MismosProcesos s s') : Sigue s s' where
  procesos := h.procesos ▸ List.prefix_rfl
  ready := h.colaReady ▸ List.prefix_rfl
  pids := fun _ b hb => ⟨b, h.pcbs ▸ hb, rfl⟩

theorem EnOrden.pcbs_siguiente (hs : EnOrden s) : s.pcbs s.siguiente = none := by
  rw [Option.eq_none_iff_forall_ne_some]
  intro b hb
  exact lt_irrefl _ (hs.usados _ ((hs.vivos _).mpr ⟨b, hb⟩))

/-! ## A new process -/

/-- The kernel after `crear_pcb` and the `queue_push` on `cola_new`. -/
def nuevoProceso (s : EstadoKernel) : EstadoKernel :=
  { (crearPcb s).2 with colaNew := s.colaNew ++ [s.siguiente] }

theorem procesos_nuevoProceso (s : EstadoKernel) :
    procesos (nuevoProceso s) = procesos s ++ [s.siguiente] := (List.append_assoc _ _ _).symm

theorem EnOrden.nuevo (hs : EnOrden s) : EnOrden (nuevoProceso s) where
  orden := by
    rw [procesos_nuevoProceso, List.pairwise_append]
    refine ⟨hs.orden, List.pairwise_singleton _ _, fun p hp q hq => ?_⟩
    rw [List.mem_singleton.mp hq]
    exact hs.usados p hp
  usados := by
    intro p hp
    rw [procesos_nuevoProceso, List.mem_append, List.mem_singleton] at hp
    show p < s.siguiente + 1
    rcases hp with hp | rfl
    · exact (hs.usados p hp).trans (Nat.lt_succ_self _)
    · exact Nat.lt_succ_self _
  vivos := by
    intro p
    rw [procesos_nuevoProceso, List.mem_append, List.mem_singleton, hs.vivos]
    show (∃ b, s.pcbs p = some b) ∨ p = s.siguiente ↔
      ∃ b, Function.update s.pcbs s.siguiente _ p = some b
    by_cases hp : p = s.siguiente
    · rw [hp, Function.update_self]
      exact iff_of_true (.inr rfl) ⟨_, rfl⟩
    · rw [Function.update_of_ne hp]
      exact or_iff_left hp
  estado := by
    intro p b hb
    have hcaso := (Function.update_apply s.pcbs s.siguiente _ p).symm.trans hb
    show b.estado = if p ∈ s.colaReady then EstadoProceso.ready else EstadoProceso.new
    by_cases hp : p = s.siguiente
    · rw [if_pos hp] at hcaso
      have hno : p ∉ s.colaReady := fun hmem =>
        lt_irrefl _ (hp ▸ hs.usados p (List.mem_append_left _ hmem))
      rw [if_neg hno, ← Option.some.inj hcaso]
    · rw [if_neg hp] at hcaso
      exact hs.estado p b hcaso

theorem EnOrden.sigue_nuevo (hs : EnOrden s) : Sigue s (nuevoProceso s) where
  procesos := procesos_nuevoProceso s ▸ List.prefix_append _ _
  ready := List.prefix_rfl
  pids := by
    intro p b hb
    have hp : p ≠ s.siguiente := by
      rintro rfl
      rw [hs.pcbs_siguiente] at hb
      cases hb
    exact ⟨b, (Function.update_of_ne hp _ _).trans hb, rfl⟩

/-! ## Admission -/

/-- The kernel after the only process of `cola_new` has been accepted. -/
def procesoAdmitido (s : EstadoKernel) (pcb : Puntero) (b : PCB) : EstadoKernel :=
  { s with
    colaNew := s.colaNew.tail
    pcbs := Function.update s.pcbs pcb (some { b with estado := .ready })
    colaReady := s.colaReady ++ [pcb] }

variable {pcb : Puntero} {b : PCB}

theorem procesos_procesoAdmitido (hnew : s.colaNew = [pcb]) :
    procesos (procesoAdmitido s pcb b) = procesos s := by
  show (s.colaReady ++ [pcb]) ++ s.colaNew.tail = s.colaReady ++ s.colaNew
  rw [hnew, List.tail_cons, List.append_nil]

theorem EnOrden.admitido (hs : EnOrden s) (hnew : s.colaNew = [pcb]) (hb : s.pcbs pcb = some b) :
    EnOrden (procesoAdmitido s pcb b) where
  orden := procesos_procesoAdmitido hnew ▸ hs.orden
  usados := procesos_procesoAdmitido hnew ▸ hs.usados
  vivos := by
    intro p
    rw [procesos_procesoAdmitido hnew, hs.vivos]
    show (∃ b, s.pcbs p = some b) ↔ ∃ c, Function.update s.pcbs pcb _ p = some c
    by_cases hp : p = pcb
    · rw [hp, Function.update_self]
      exact iff_of_true ⟨b, hb⟩ ⟨_, rfl⟩
    · rw [Function.update_of_ne hp]
  estado := by
    intro p c hc
    have hcaso := (Function.update_apply s.pcbs pcb _ p).symm.trans hc
    show c.estado = if p ∈ s.colaReady ++ [pcb] then EstadoProceso.ready else EstadoProceso.new
    by_cases hp : p = pcb
    · rw [if_pos hp] at hcaso
      rw [if_pos (by rw [hp]; exact List.mem_append_right _ List.mem_cons_self),
        ← Option.some.inj hcaso]
    · rw [if_neg hp] at hcaso
      rw [hs.estado p c hcaso]
      simp [hp]

theorem sigue_admitido (hnew : s.colaNew = [pcb]) (hb : s.pcbs pcb = some b) :
    Sigue s (procesoAdmitido s pcb b) where
  procesos := procesos_procesoAdmitido hnew ▸ List.prefix_rfl
  ready := List.prefix_append _ _
  pids := by
    intro p c hc
    show ∃ d, Function.update s.pcbs pcb _ p = some d ∧ d.PID = c.PID
    by_cases hp : p = pcb
    · rw [hp, hb] at hc
      rw [hp, Function.update_self, ← Option.some.inj hc]
      exact ⟨_, rfl, rfl⟩
    · rw [Function.update_of_ne hp]
      exact ⟨c, hc, rfl⟩

/-! ## The functions of the kernel -/

/-- Threads come and go without the processes. -/
theorem marco_colas : MarcoCasos MismasColas where
  refl _ := ⟨rfl, rfl, le_rfl⟩
  trans h h' := ⟨h'.colaNew.trans h.colaNew, h'.colaReady.trans h.colaReady,
    h.siguiente.trans h'.siguiente⟩
  dependencias _ _ := ⟨rfl, rfl, le_rfl⟩
  estado h := by
    obtain ⟨tcb, -, rfl⟩ := Option.map_eq_some_iff.mp h
    exact ⟨rfl, rfl, le_rfl⟩
  bloq _ := ⟨rfl, rfl, le_rfl⟩
  encolar h := by
    obtain ⟨cola, -, h⟩ := Option.bind_eq_some_iff.mp h
    obtain ⟨tcb, -, h⟩ := Option.bind_eq_some_iff.mp h
    exact Option.some.inj h ▸ ⟨rfl, rfl, le_rfl⟩
  insertar h := by
    obtain ⟨-, rfl⟩ | ⟨tcb, cola, -, -, -, -, rfl⟩ := insertarEnColaReadyCmn_cases h
    · exact ⟨rfl, rfl, le_rfl⟩
    · exact ⟨rfl, rfl, le_rfl⟩
  crear s _ _ _ := ⟨rfl, rfl, Nat.le_succ s.siguiente⟩
  liberar _ _ := ⟨rfl, rfl, le_rfl⟩
  bloquear _ _ := ⟨rfl, rfl, le_rfl⟩
  esperar _ _ := ⟨rfl, rfl, le_rfl⟩
  mutex s _ _ _ _ := ⟨rfl, rfl, Nat.le_succ s.siguiente⟩
  terminar _ _ := ⟨rfl, rfl, le_rfl⟩

theorem crearHilo_mismosProcesos {basura : Puntero → UInt32} {aceptado : Bool}
    {prioridad pid : Int32} (h : crearHilo basura aceptado prioridad pid s = some s') :
    MismosProcesos s s' where
  toMismasColas := crearHilo_marco marco_colas h
  pcbs := by
    cases aceptado with
    | true => exact (agregarHiloAReady_conserva _ _ _ h).pcbs
    | false => exact (liberarTcb_conserva agregarHiloAReady_conserva _ _ _ h).pcbs

theorem admitirProceso_enOrden {basura : Puntero → UInt32} {aceptado : Bool} {prioridad : Int32}
    {pcb : Puntero} (hs : EnOrden s) (hnew : s.colaNew = [pcb])
    (h : admitirProceso basura aceptado prioridad pcb s = some s') : EnOrden s' ∧ Sigue s s' := by
  obtain ⟨b, hb, h⟩ := Option.bind_eq_some_iff.mp h
  obtain ⟨t, ht, h⟩ := Option.bind_eq_some_iff.mp h
  obtain rfl := Option.some.inj h
  have hmismos : MismosProcesos (procesoAdmitido s pcb b) t := crearHilo_mismosProcesos ht
  have hlista : MismosProcesos t
      { t with listaThreadId := listAddInIndex t.listaThreadId b.PID.toInt32.toInt 0 } :=
    ⟨⟨rfl, rfl, le_rfl⟩, rfl⟩
  exact ⟨hlista.enOrden (hmismos.enOrden (hs.admitido hnew hb)),
    ((sigue_admitido hnew hb).trans hmismos.sigue).trans hlista.sigue⟩

/-- By induction on the answers of memoria: a refusal leaves a process and calls again. -/
theorem crearProceso_enOrden {basura : Puntero → UInt32} {aceptado : Bool} {prioridad : Int32}
    {respuestas : List Int32} (hs : EnOrden s)
    (h : crearProceso basura aceptado prioridad respuestas s = some s') :
    EnOrden s' ∧ Sigue s s' := by
  induction respuestas generalizing s with
  | nil =>
    rw [crearProceso] at h
    dsimp only at h
    split at h
    · cases h
    · exact Option.some.inj h ▸ ⟨hs.nuevo, hs.sigue_nuevo⟩
  | cons respuesta respuestas ih =>
    rw [crearProceso] at h
    dsimp only at h
    split at h
    · rename_i hnew
      split at h
      · have hsolo : (nuevoProceso s).colaNew = [s.siguiente] := by
          show s.colaNew ++ [s.siguiente] = _
          rw [show s.colaNew = [] from hnew, List.nil_append]
        obtain ⟨hadmitido, hsigue⟩ := admitirProceso_enOrden hs.nuevo hsolo h
        exact ⟨hadmitido, hs.sigue_nuevo.trans hsigue⟩
      · obtain ⟨hs', hsigue⟩ := ih hs.nuevo h
        exact ⟨hs', hs.sigue_nuevo.trans hsigue⟩
    · exact Option.some.inj h ▸ ⟨hs.nuevo, hs.sigue_nuevo⟩

end

section

variable {PID TID : UInt32} {m : Entorno} {s s' : Nucleo}

/-- The syscalls that would write a PCB do not find one, and the others do not. -/
theorem interpretarSyscall_enOrden {syscall : Syscall} (hs : EnOrden s.toEstadoKernel)
    (hquietos : ProcesosQuietos s) (h : interpretarSyscall PID TID m syscall s = some s') :
    EnOrden s'.toEstadoKernel ∧ Sigue s.toEstadoKernel s'.toEstadoKernel := by
  have hmismos (hcolas : MismasColas s.toEstadoKernel s'.toEstadoKernel)
      (hpcbs : s'.pcbs = s.pcbs) :
      EnOrden s'.toEstadoKernel ∧ Sigue s.toEstadoKernel s'.toEstadoKernel :=
    have hmismos : MismosProcesos s.toEstadoKernel s'.toEstadoKernel := ⟨hcolas, hpcbs⟩
    ⟨hmismos.enOrden hs, hmismos.sigue⟩
  by_cases husa : syscall.usaPcb TID
  · rw [interpretarSyscall_usaPcb hquietos.exec hquietos.nulo husa] at h
    cases h
  cases syscall with
  | dumpMemory =>
    exact hmismos (casoDumpMemory_marco marco_colas h) (casoDumpMemory_conserva h).1.pcbs
  | io retorno => exact hmismos (casoIo_marco marco_colas h) (casoIo_conserva h).1.pcbs
  | processCreate archivo tamanio prioridad₀ =>
    obtain ⟨k, hk, rfl⟩ := Option.map_eq_some_iff.mp h
    exact crearProceso_enOrden hs hk
  | threadCreate archivo prioridad =>
    obtain ⟨k, hk, rfl⟩ := Option.map_eq_some_iff.mp h
    have hcrear := crearHilo_mismosProcesos hk
    exact hmismos hcrear.toMismasColas hcrear.pcbs
  | threadJoin tid =>
    refine hmismos (casoThreadJoin_marco marco_colas h) ?_
    obtain ⟨⟨tcbN, t⟩, ht, hjoin⟩ := Option.bind_eq_some_iff.mp h
    obtain rfl := buscarHilo_eq_some ht
    dsimp only at hjoin
    split at hjoin
    · obtain ⟨tcb, -, hjoin⟩ := Option.bind_eq_some_iff.mp hjoin
      obtain ⟨lista, -, hjoin⟩ := Option.bind_eq_some_iff.mp hjoin
      obtain rfl := Option.some.inj hjoin
      rfl
    · exact Option.some.inj hjoin ▸ rfl
  | threadCancel tid =>
    exact hmismos (casoThreadCancel_marco marco_colas h) (casoThreadCancel_conserva h).1.pcbs
  | threadExit =>
    exact hmismos (casoThreadExit_marco marco_colas h) (casoThreadExit_conserva h).1.pcbs
  | writeMem error =>
    obtain rfl := Option.some.inj ((if_neg husa).symm.trans h)
    exact hmismos ⟨rfl, rfl, le_rfl⟩ rfl
  | processExit =>
    obtain rfl := Option.some.inj ((if_neg husa).symm.trans h)
    exact hmismos ⟨rfl, rfl, le_rfl⟩ rfl
  | otra funcion =>
    obtain rfl := Option.some.inj h
    exact hmismos ⟨rfl, rfl, le_rfl⟩ rfl
  | mutexCreate recurso => exact absurd trivial husa
  | mutexLock recurso => exact absurd trivial husa
  | mutexUnlock recurso => exact absurd trivial husa

end

/-! ## Runs -/

section

variable {s s' : Marcha}

theorem responder_enOrden {PID TID : UInt32} {syscall : Syscall} {m : Entorno}
    (hs : EnOrden s.toEstadoKernel) (hquietos : ProcesosQuietos s.toNucleo)
    (h : responder PID TID syscall m s = some s') :
    EnOrden s'.toEstadoKernel ∧ Sigue s.toEstadoKernel s'.toEstadoKernel := by
  obtain ⟨thread, n, -, hn, -, hs' | ⟨insertado, k, hk, hs'⟩⟩ := responder_cases h
  · exact hs' ▸ interpretarSyscall_enOrden hs hquietos hn
  · have hcaso := interpretarSyscall_enOrden hs hquietos hn
    have hmismos : MismosProcesos n.toEstadoKernel k :=
      ⟨marco_colas.insertar hk, (insertarEnColaReadyCmn_conserva hk).pcbs⟩
    rw [hs']
    exact ⟨hmismos.enOrden hcaso.1, hcaso.2.trans hmismos.sigue⟩

/-- **One step.** -/
theorem suceder_enOrden {suceso : Suceso} (hs : EnOrden s.toEstadoKernel)
    (hquietos : ProcesosQuietos s.toNucleo) (hnulo : SinNulo s.toEstadoKernel)
    (h : suceder s suceso = some s') :
    EnOrden s'.toEstadoKernel ∧ Sigue s.toEstadoKernel s'.toEstadoKernel := by
  cases suceso with
  | crearProceso m prioridad =>
    obtain ⟨k, hk, rfl⟩ := Option.map_eq_some_iff.mp h
    exact crearProceso_enOrden hs hk
  | rechazo =>
    obtain ⟨k, hk, rfl⟩ := Option.map_eq_some_iff.mp h
    unfold esperarMemoria at hk
    split at hk
    · exact Option.some.inj hk ▸ ⟨hs.nuevo, hs.sigue_nuevo⟩
    · cases hk
  | despachar elegido =>
    cases despachar_iteracion hnulo h with
    | nada candado nivel => exact ⟨hs, Sigue.refl _⟩
    | envia p tcb cola colas htcb htoma =>
      refine ⟨⟨hs.orden, hs.usados, hs.vivos, hs.estado⟩, ?_⟩
      exact ⟨List.prefix_rfl, List.prefix_rfl, fun q b hb => ⟨b, hb, rfl⟩⟩
  | respuesta PID TID syscall m => exact responder_enOrden hs hquietos h

/-- **The life of a process**, in every run and under every algorithm: `cola_ready` and, behind
it, `cola_new` hold each process once, in the order of creation, with the state of its queue, and
`cola_exec` is empty. Whatever follows, processes are added behind these, those accepted stay
accepted in their order, and every process goes on existing with its `PID`. -/
theorem run_procesos (algoritmo : Algoritmo) (antes despues : List Suceso) (s t : Marcha)
    (hs : run suceder (marchaInicial algoritmo) antes = some s)
    (ht : run suceder s despues = some t) :
    EnOrden s.toEstadoKernel ∧ s.colaExec = [] ∧ Sigue s.toEstadoKernel t.toEstadoKernel := by
  have hkeep (r u : Marcha) (suceso : Suceso) (u' : Marcha)
      (hu : (Bajo algoritmo u ∧ ProcesosQuietos u.toNucleo) ∧
        EnOrden u.toEstadoKernel ∧ Sigue r.toEstadoKernel u.toEstadoKernel) (_ : True)
      (hu' : suceder u suceso = some u') :
      (Bajo algoritmo u' ∧ ProcesosQuietos u'.toNucleo) ∧
        EnOrden u'.toEstadoKernel ∧ Sigue r.toEstadoKernel u'.toEstadoKernel := by
    obtain ⟨⟨hbajo, hquietos⟩, horden, hsigue⟩ := hu
    obtain ⟨horden', hsigue'⟩ := suceder_enOrden horden hquietos hbajo.sinNulo hu'
    exact ⟨⟨suceder_bajo hbajo hu', suceder_procesosQuietos hquietos hu'⟩, horden',
      hsigue.trans hsigue'⟩
  have hquietos := run_procesosQuietos hs
  have hvacia : run suceder (marchaInicial algoritmo) [] = some (marchaInicial algoritmo) := rfl
  obtain ⟨-, horden, -⟩ := run_invariant (hkeep (marchaInicial algoritmo))
    ⟨⟨run_bajo hvacia, run_procesosQuietos hvacia⟩, enOrden_inicial algoritmo, Sigue.refl _⟩
    (along_true _ antes) hs
  obtain ⟨-, -, hsigue⟩ := run_invariant (hkeep s)
    ⟨⟨run_bajo hs, hquietos⟩, horden, Sigue.refl _⟩ (along_true _ despues) ht
  exact ⟨horden, hquietos.exec, hsigue⟩

end

/-- The process at address 1 is accepted, its thread is at 2, and the process at 3 waits. -/
theorem run_procesos_rechazo : ∃ s t,
    run suceder (marchaInicial .fifo) [.crearProceso memoriaAcepta 0] = some s ∧
      run suceder s [.rechazo] = some t ∧ s.colaReady = [1] ∧ s.colaNew = [] ∧ t.colaNew = [3] ∧
      EnOrden s.toEstadoKernel ∧ s.colaExec = [] ∧ Sigue s.toEstadoKernel t.toEstadoKernel :=
  ⟨_, _, rfl, rfl, by decide +kernel, by decide +kernel, by decide +kernel,
    run_procesos .fifo [.crearProceso memoriaAcepta 0] [.rechazo] _ _ rfl rfl⟩

end SoTp.Kernel
