import SoTp.Kernel.Marcha

/-!
# Processes in a run of the kernel

`crearProceso` puts the PCB of an admitted process in `cola_ready`, and nothing moves it from
there to `cola_exec`; `crear_hilo` makes a thread and does not write its `TID` in the list
`TIDs` of the PCB. So in every run `cola_exec` is empty and so is every list of `TIDs`.

* `run_procesosQuietos`: both, as an invariant of the runs.
* `not_pcbHallado`: in no reachable state is there a PCB for `obtener_PCB_por_PID` to find,
  and the syscalls that need one go through a null pointer.
* `finFiel_iff`: the end of a process leaves none of its threads behind **if and only if**
  none of them was anywhere before.
-/

namespace SoTp.Kernel

open SoTp.Lib SoTp.Utils

/-! ## What the steps keep -/

/-- No PCB has `TIDs`, and there is none at `NULL`. -/
structure SinTids (s : EstadoKernel) : Prop where
  siguiente : NULL < s.siguiente
  nulo : s.pcbs NULL = none
  tids : ∀ p b, s.pcbs p = some b → b.TIDs = []

section Kernel

variable {s s' : EstadoKernel}

theorem Conserva.sinTids (h : Conserva s s') (hs : SinTids s) : SinTids s' where
  siguiente := h.siguiente ▸ hs.siguiente
  nulo := h.pcbs ▸ hs.nulo
  tids := h.pcbs ▸ hs.tids

/-- A PCB is written without `TIDs`. -/
theorem SinTids.update (hs : SinTids s) {p : Puntero} (hp : p ≠ NULL) {b : PCB}
    (hb : b.TIDs = []) {t : EstadoKernel} (hsiguiente : s.siguiente ≤ t.siguiente)
    (hpcbs : t.pcbs = Function.update s.pcbs p (some b)) : SinTids t where
  siguiente := hs.siguiente.trans_le hsiguiente
  nulo := by
    rw [hpcbs, Function.update_of_ne hp.symm]
    exact hs.nulo
  tids := by
    intro q c hc
    rw [hpcbs] at hc
    by_cases hq : q = p
    · rw [hq, Function.update_self] at hc
      exact Option.some.inj hc ▸ hb
    · rw [Function.update_of_ne hq] at hc
      exact hs.tids q c hc

theorem crearPcb_sinTids (hs : SinTids s) (cola : List Puntero) :
    SinTids { (crearPcb s).2 with colaNew := cola } :=
  hs.update hs.siguiente.ne' rfl (Nat.le_succ _) rfl

theorem crearHilo_sinTids {basura : Puntero → UInt32} {aceptado : Bool} {prioridad pid : Int32}
    (h : crearHilo basura aceptado prioridad pid s = some s') (hs : SinTids s) : SinTids s' := by
  have hcrear : SinTids (crearTcb basura prioridad pid s).2 :=
    ⟨hs.siguiente.trans (Nat.lt_succ_self _), hs.nulo, hs.tids⟩
  cases aceptado with
  | true => exact (agregarHiloAReady_conserva _ _ _ h).sinTids hcrear
  | false => exact (liberarTcb_conserva agregarHiloAReady_conserva _ _ _ h).sinTids hcrear

theorem admitirProceso_sinTids {basura : Puntero → UInt32} {aceptado : Bool} {prioridad : Int32}
    {pcb : Puntero} (h : admitirProceso basura aceptado prioridad pcb s = some s')
    (hs : SinTids s) : SinTids s' := by
  obtain ⟨b, hb, h⟩ := Option.bind_eq_some_iff.mp h
  obtain ⟨t, ht, h⟩ := Option.bind_eq_some_iff.mp h
  obtain rfl := Option.some.inj h
  have hpcb : pcb ≠ NULL := by
    rintro rfl
    simp [hs.nulo] at hb
  have ht' := crearHilo_sinTids ht
    (hs.update (b := { b with estado := .ready }) hpcb (hs.tids pcb b hb) le_rfl rfl)
  exact ⟨ht'.siguiente, ht'.nulo, ht'.tids⟩

/-- By induction on the answers of memoria: each refusal leaves one more PCB. -/
theorem crearProceso_sinTids {basura : Puntero → UInt32} {aceptado : Bool} {prioridad : Int32}
    {respuestas : List Int32} (h : crearProceso basura aceptado prioridad respuestas s = some s')
    (hs : SinTids s) : SinTids s' := by
  induction respuestas generalizing s with
  | nil =>
    rw [crearProceso] at h
    dsimp only at h
    split at h
    · cases h
    · exact Option.some.inj h ▸ crearPcb_sinTids hs _
  | cons respuesta respuestas ih =>
    rw [crearProceso] at h
    dsimp only at h
    split at h
    · split at h
      · exact admitirProceso_sinTids h (crearPcb_sinTids hs _)
      · exact ih h (crearPcb_sinTids hs _)
    · exact Option.some.inj h ▸ crearPcb_sinTids hs _

theorem esperarMemoria_sinTids (h : esperarMemoria s = some s') (hs : SinTids s) :
    SinTids s' := by
  unfold esperarMemoria at h
  split at h
  · exact Option.some.inj h ▸ crearPcb_sinTids hs _
  · cases h

end Kernel

/-- Besides, no PCB is in `cola_exec`. -/
structure ProcesosQuietos (s : Nucleo) : Prop extends SinTids s.toEstadoKernel where
  exec : s.colaExec = []

section Nucleo

variable {PID TID : UInt32} {m : Entorno} {s s' : Nucleo}

/-- A case of the `switch` that changes threads only. -/
def ConservaNucleo (s s' : Nucleo) : Prop :=
  Conserva s.toEstadoKernel s'.toEstadoKernel ∧ s'.colaExec = s.colaExec

theorem ConservaNucleo.procesosQuietos (h : ConservaNucleo s s') (hs : ProcesosQuietos s) :
    ProcesosQuietos s' :=
  ⟨h.1.sinTids hs.toSinTids, h.2.trans hs.exec⟩

theorem casoDumpMemory_conserva (h : casoDumpMemory PID TID m s = some s') :
    ConservaNucleo s s' := by
  obtain ⟨tcbN, -, h⟩ := Option.bind_eq_some_iff.mp h
  obtain ⟨k, hk, h⟩ := Option.bind_eq_some_iff.mp h
  have hblocked : Conserva s.toEstadoKernel
      { k with listaBloqHilo := k.listaBloqHilo ++ [tcbN] } :=
    (ponerEstado_conserva hk).trans (conserva_colecciones k _ _ _)
  split at h
  · dsimp only at h
    split at h
    · obtain ⟨k₁, hk₁, h⟩ := Option.bind_eq_some_iff.mp h
      obtain ⟨lista, -, h⟩ := Option.bind_eq_some_iff.mp h
      obtain ⟨k₂, hk₂, h⟩ := Option.bind_eq_some_iff.mp h
      obtain rfl := Option.some.inj h
      exact ⟨(hblocked.trans (ponerEstado_conserva hk₁)).trans (finalizarHilo_conserva hk₂), rfl⟩
    · obtain ⟨k₁, hk₁, h⟩ := Option.bind_eq_some_iff.mp h
      obtain ⟨lista, -, h⟩ := Option.bind_eq_some_iff.mp h
      obtain rfl := Option.some.inj h
      exact ⟨(hblocked.trans (ponerEstado_conserva hk₁)).trans
        (conserva_colecciones k₁ _ _ _), rfl⟩
  · cases h

theorem casoIo_conserva (h : casoIo PID TID s = some s') : ConservaNucleo s s' := by
  obtain ⟨tcb, -, h⟩ := Option.bind_eq_some_iff.mp h
  obtain ⟨lista, -, h⟩ := Option.bind_eq_some_iff.mp h
  obtain ⟨k, hk, h⟩ := Option.bind_eq_some_iff.mp h
  obtain rfl := Option.some.inj h
  exact ⟨agregarHiloAReady_conserva _ _ _ hk, rfl⟩

theorem casoThreadCancel_conserva {tid : UInt32} (h : casoThreadCancel PID m tid s = some s') :
    ConservaNucleo s s' := by
  obtain ⟨⟨tcb, t⟩, ht, hfin⟩ := Option.bind_eq_some_iff.mp h
  obtain rfl := buscarHilo_eq_some ht
  obtain ⟨k, hk, hfin⟩ := Option.bind_eq_some_iff.mp hfin
  obtain ⟨k₁, hk₁, rfl⟩ := Option.map_eq_some_iff.mp hfin
  exact ⟨(ponerEstado_conserva hk).trans (finalizarHilo_conserva hk₁), rfl⟩

theorem casoThreadExit_conserva (h : casoThreadExit PID TID m s = some s') :
    ConservaNucleo s s' := by
  obtain ⟨tcb, -, h⟩ := Option.bind_eq_some_iff.mp h
  obtain ⟨k, hk, h⟩ := Option.bind_eq_some_iff.mp h
  obtain ⟨lista, -, h⟩ := Option.bind_eq_some_iff.mp h
  obtain ⟨k₁, hk₁, h⟩ := Option.bind_eq_some_iff.mp h
  obtain rfl := Option.some.inj h
  exact ⟨(ponerEstado_conserva hk).trans (finalizarHilo_conserva hk₁), rfl⟩

theorem casoThreadJoin_procesosQuietos {tid : UInt32} (h : casoThreadJoin PID tid s = some s')
    (hs : ProcesosQuietos s) : ProcesosQuietos s' := by
  obtain ⟨⟨tcbN, t⟩, ht, hjoin⟩ := Option.bind_eq_some_iff.mp h
  obtain rfl := buscarHilo_eq_some ht
  dsimp only at hjoin
  split at hjoin
  · obtain ⟨tcb, -, hjoin⟩ := Option.bind_eq_some_iff.mp hjoin
    obtain ⟨lista, -, hjoin⟩ := Option.bind_eq_some_iff.mp hjoin
    obtain rfl := Option.some.inj hjoin
    exact ⟨⟨hs.siguiente, hs.nulo, hs.tids⟩, hs.exec⟩
  · exact Option.some.inj hjoin ▸ hs

/-- One case for each syscall. -/
theorem interpretarSyscall_procesosQuietos {syscall : Syscall} (hs : ProcesosQuietos s)
    (h : interpretarSyscall PID TID m syscall s = some s') : ProcesosQuietos s' := by
  by_cases husa : syscall.usaPcb TID
  · rw [interpretarSyscall_usaPcb hs.exec hs.nulo husa] at h
    cases h
  cases syscall with
  | dumpMemory => exact (casoDumpMemory_conserva h).procesosQuietos hs
  | io retorno => exact (casoIo_conserva h).procesosQuietos hs
  | processCreate archivo tamanio prioridad₀ =>
    obtain ⟨k, hk, rfl⟩ := Option.map_eq_some_iff.mp h
    exact ⟨crearProceso_sinTids hk hs.toSinTids, hs.exec⟩
  | threadCreate archivo prioridad =>
    obtain ⟨k, hk, rfl⟩ := Option.map_eq_some_iff.mp h
    exact ⟨crearHilo_sinTids hk hs.toSinTids, hs.exec⟩
  | threadJoin tid => exact casoThreadJoin_procesosQuietos h hs
  | threadCancel tid => exact (casoThreadCancel_conserva h).procesosQuietos hs
  | threadExit => exact (casoThreadExit_conserva h).procesosQuietos hs
  | writeMem error => exact Option.some.inj ((if_neg husa).symm.trans h) ▸ hs
  | processExit => exact Option.some.inj ((if_neg husa).symm.trans h) ▸ hs
  | otra funcion => exact Option.some.inj h ▸ hs
  | mutexCreate recurso => exact absurd trivial husa
  | mutexLock recurso => exact absurd trivial husa
  | mutexUnlock recurso => exact absurd trivial husa

end Nucleo

section Pasos

variable {s s' : Marcha}

theorem sacarReady_conserva {k k' : EstadoKernel} {hilo : Puntero}
    (h : sacarReady k = some (hilo, k')) : Conserva k k' := by
  obtain ⟨cola, -, h⟩ := Option.map_eq_some_iff.mp h
  cases cola with
  | nil =>
    obtain ⟨-, rfl⟩ := Prod.mk.inj h
    exact Conserva.refl k
  | cons p cola =>
    obtain ⟨-, rfl⟩ := Prod.mk.inj h
    exact conserva_colecciones k _ _ _

theorem sacarPrioridades_conserva {k k' : EstadoKernel} {elegido hilo : Puntero}
    (h : sacarPrioridades elegido k = some (hilo, k')) : Conserva k k' := by
  obtain ⟨cola, -, h⟩ := Option.bind_eq_some_iff.mp h
  split at h
  · exact sacarReady_conserva h
  · obtain ⟨r, -, h⟩ := Option.map_eq_some_iff.mp h
    obtain ⟨-, rfl⟩ := Prod.mk.inj h
    exact conserva_colecciones k _ _ _

theorem getNextThread_conserva {k k' : EstadoKernel} {nivel : ℕ} {hilo : Puntero}
    (h : getNextThread nivel k = some (hilo, k')) : Conserva k k' := by
  obtain ⟨cola, -, h⟩ := Option.map_eq_some_iff.mp h
  cases cola with
  | nil =>
    obtain ⟨-, rfl⟩ := Prod.mk.inj h
    exact Conserva.refl k
  | cons p cola =>
    obtain ⟨-, rfl⟩ := Prod.mk.inj h
    exact conserva_colecciones k _ _ _

theorem enviarHilo_conserva {unTcb : Puntero} (h : enviarHilo unTcb s = some s') :
    ConservaNucleo s.toNucleo s'.toNucleo := by
  obtain ⟨tcb, -, h⟩ := Option.bind_eq_some_iff.mp h
  split at h
  · obtain ⟨k, hk, h⟩ := Option.bind_eq_some_iff.mp h
    obtain rfl := Option.some.inj h
    exact ⟨ponerEstado_conserva hk, rfl⟩
  · exact Option.some.inj h ▸ ⟨Conserva.refl _, rfl⟩

theorem atenderReady_conserva {sacar : EstadoKernel → Option (Puntero × EstadoKernel)}
    (hsacar : ∀ k hilo k', sacar k = some (hilo, k') → Conserva k k')
    (h : atenderReady sacar s = some s') : ConservaNucleo s.toNucleo s'.toNucleo := by
  rcases atenderReady_cases h with ⟨-, rfl⟩ | ⟨-, rfl⟩ | ⟨cola, unTcb, k, -, -, -, hk, henvia⟩
  · exact ⟨Conserva.refl _, rfl⟩
  · exact ⟨Conserva.refl _, rfl⟩
  · have henviar := enviarHilo_conserva henvia
    exact ⟨(hsacar _ _ _ hk).trans henviar.1, henviar.2⟩

theorem atenderNivel_conserva (h : atenderNivel s = some s') :
    ConservaNucleo s.toNucleo s'.toNucleo := by
  unfold atenderNivel at h
  split at h
  · obtain ⟨⟨thread, k⟩, hk, h⟩ := Option.bind_eq_some_iff.mp h
    dsimp only at h
    split at h
    · have henviar := enviarHilo_conserva h
      exact ⟨(getNextThread_conserva hk).trans henviar.1, henviar.2⟩
    · exact Option.some.inj h ▸ ⟨getNextThread_conserva hk, rfl⟩
  · exact Option.some.inj h ▸ ⟨Conserva.refl _, rfl⟩

theorem despachar_conserva {elegido : Puntero} (h : despachar elegido s = some s') :
    ConservaNucleo s.toNucleo s'.toNucleo := by
  unfold despachar at h
  split at h
  · cases h
  · obtain ⟨despachador, -, h⟩ := Option.bind_eq_some_iff.mp h
    cases despachador with
    | atenderFifo => exact atenderReady_conserva (fun _ _ _ => sacarReady_conserva) h
    | atenderPrioridades => exact atenderReady_conserva (fun _ _ _ => sacarPrioridades_conserva) h
    | atenderCmn => exact atenderNivel_conserva h

theorem responder_procesosQuietos {PID TID : UInt32} {syscall : Syscall} {m : Entorno}
    (hs : ProcesosQuietos s.toNucleo) (h : responder PID TID syscall m s = some s') :
    ProcesosQuietos s'.toNucleo := by
  obtain ⟨thread, n, -, hn, -, hs' | ⟨insertado, k, hk, hs'⟩⟩ := responder_cases h
  · exact hs' ▸ interpretarSyscall_procesosQuietos hs hn
  · have hn' := interpretarSyscall_procesosQuietos hs hn
    rw [hs']
    exact ⟨(insertarEnColaReadyCmn_conserva hk).sinTids hn'.toSinTids, hn'.exec⟩

/-- **One step.** -/
theorem suceder_procesosQuietos {suceso : Suceso} (hs : ProcesosQuietos s.toNucleo)
    (h : suceder s suceso = some s') : ProcesosQuietos s'.toNucleo := by
  cases suceso with
  | crearProceso m prioridad =>
    obtain ⟨k, hk, rfl⟩ := Option.map_eq_some_iff.mp h
    exact ⟨crearProceso_sinTids hk hs.toSinTids, hs.exec⟩
  | rechazo =>
    obtain ⟨k, hk, rfl⟩ := Option.map_eq_some_iff.mp h
    exact ⟨esperarMemoria_sinTids hk hs.toSinTids, hs.exec⟩
  | despachar elegido => exact (despachar_conserva h).procesosQuietos hs
  | respuesta PID TID syscall m => exact responder_procesosQuietos hs h

end Pasos

/-- **Every run**, under every algorithm. -/
theorem run_procesosQuietos {algoritmo : Algoritmo} {sucesos : List Suceso} {s : Marcha}
    (hrun : run suceder (marchaInicial algoritmo) sucesos = some s) :
    ProcesosQuietos s.toNucleo := by
  have hinicial : ProcesosQuietos (marchaInicial algoritmo).toNucleo :=
    ⟨⟨Nat.one_pos, rfl, fun _ _ hb => by cases hb⟩, rfl⟩
  exact run_invariant (fun _ _ _ hs _ h => suceder_procesosQuietos hs h) hinicial
    (along_true _ _) hrun

/-! ## Looking for the PCB of a syscall -/

/-- `obtener_PCB_por_PID(cola_exec, PID)` returns the PCB of the process. -/
def PcbHallado (PID : UInt32) (s : Nucleo) : Prop :=
  ∃ pcb cola b, obtenerPCBPorPID s.pcbs PID s.colaExec = some (pcb, cola) ∧
    s.pcbs pcb = some b ∧ b.PID = PID

theorem ProcesosQuietos.not_pcbHallado {s : Nucleo} (hs : ProcesosQuietos s) (PID : UInt32) :
    ¬ PcbHallado PID s := by
  rintro ⟨pcb, cola, b, hobtener, hb, -⟩
  rw [hs.exec, obtenerPCBPorPID_nil] at hobtener
  obtain ⟨rfl, -⟩ := Prod.mk.inj (Option.some.inj hobtener)
  rw [hs.nulo] at hb
  cases hb

theorem ProcesosQuietos.responder_eq_none {s : Marcha} (hs : ProcesosQuietos s.toNucleo)
    (PID TID : UInt32) {syscall : Syscall} (husa : syscall.usaPcb TID) (m : Entorno) :
    responder PID TID syscall m s = none := by
  unfold responder
  rw [interpretarSyscall_usaPcb hs.exec hs.nulo husa]
  exact Option.bind_fun_none _

/-- **The PCB is never found**: in no reachable state, for no process, and every reply that
needs it ends in an access through `NULL`. -/
theorem run_not_pcbHallado (algoritmo : Algoritmo) (sucesos : List Suceso) (s : Marcha)
    (hrun : run suceder (marchaInicial algoritmo) sucesos = some s) (PID : UInt32) :
    ¬ PcbHallado PID s.toNucleo ∧ ∀ (TID : UInt32) (syscall : Syscall) (m : Entorno),
      syscall.usaPcb TID → responder PID TID syscall m s = none :=
  ⟨(run_procesosQuietos hrun).not_pcbHallado PID,
    fun TID _ m husa => (run_procesosQuietos hrun).responder_eq_none PID TID husa m⟩

/-- A run of one step. -/
theorem run_not_pcbHallado_primero : ∃ s,
    run suceder (marchaInicial .fifo) [.crearProceso memoriaAcepta 0] = some s ∧
      ¬ PcbHallado 0 s.toNucleo :=
  ⟨_, rfl, (run_not_pcbHallado .fifo [.crearProceso memoriaAcepta 0] _ rfl 0).1⟩

/-- Process 0 is created, and its thread, at address 2, is sent to the CPU and asks for a
mutex. The PCB, at address 1, is in `cola_ready` and is not found. -/
theorem not_pcbHallado_mutexCreate : ∃ s,
    run suceder (marchaInicial .fifo) [.crearProceso memoriaAcepta 0, .despachar NULL] = some s ∧
      s.enCpu = some 2 ∧ s.tcbs 2 = some ⟨0, 0, 0, EstadoProceso.exec.codigo⟩ ∧
      s.pcbs 1 = some ⟨0, .ready, [], []⟩ ∧ s.colaReady = [1] ∧
      obtenerPCBPorPID s.pcbs 0 s.colaExec = some (NULL, []) ∧ ¬ PcbHallado 0 s.toNucleo ∧
      responder 0 0 (.mutexCreate (CString.ofBytes (ascii "R"))) memoriaAcepta s = none := by
  refine ⟨_, rfl, rfl, rfl, rfl, rfl, rfl, ?_, rfl⟩
  rintro ⟨pcb, cola, b, hobtener, hb, -⟩
  obtain ⟨rfl, -⟩ := Prod.mk.inj (Option.some.inj hobtener)
  cases hb

/-! ## The end of a process -/

/-- Where a thread can be. -/
inductive Lugar where
  | exec
  | bloq
  | ready
  | dependencia
  deriving DecidableEq, Repr

/-- The threads that are there. -/
def hilosEn (s : Nucleo) : Lugar → List Puntero
  | .exec => s.listaExecHilo
  | .bloq => s.listaBloqHilo
  | .ready => s.colaReadyFifoPrioridades.getD [] ++
    waiting maxNivelesPrioridad (niveles s.toEstadoKernel)
  | .dependencia => s.listaDependencias.flatMap fun dep => [dep.hilo, dep.dependiente]

/-- The thread at an address belongs to a process. -/
def DeProceso (s : Nucleo) (PID : UInt32) (hilo : Puntero) : Prop :=
  ∃ tcb, s.tcbs hilo = some tcb ∧ tcb.PID = PID

/-- Between `s` and `s'` the threads of a process have gone, and no others. -/
structure SinRastro (PID : UInt32) (s s' : Nucleo) : Prop where
  propios : ∀ lugar, ∀ hilo ∈ hilosEn s' lugar, ¬ DeProceso s PID hilo
  ajenos : ∀ lugar hilo, ¬ DeProceso s PID hilo →
    (hilosEn s lugar).count hilo ≤ (hilosEn s' lugar).count hilo

/-- `finalizarProceso(pcb)`, accepted by memoria, returns, and leaves no thread of the
process `b` behind. -/
def FinFiel (pcb : Puntero) (b : PCB) (s : Nucleo) : Prop :=
  ∀ rondas, ∃ s', finalizarProceso rondas 1 pcb s = some s' ∧ SinRastro b.PID s s'

/-- A PCB without `TIDs` is freed, and every list stays as it is. -/
theorem finFiel_iff_of_sinTids {pcb : Puntero} {b : PCB} {s : Nucleo}
    (hpcb : s.pcbs pcb = some b) (htids : b.TIDs = []) :
    FinFiel pcb b s ↔ ∀ lugar, ∀ hilo ∈ hilosEn s lugar, ¬ DeProceso s b.PID hilo := by
  have hfin := fun rondas => finalizarProceso_sinTids rondas hpcb htids
  have hhilos : ∀ lugar, hilosEn { s with pcbs := Function.update s.pcbs pcb none } lugar =
      hilosEn s lugar := by
    intro lugar
    cases lugar <;> rfl
  constructor
  · intro hfiel lugar hilo hhilo
    obtain ⟨s', hs', hrastro⟩ := hfiel 0
    obtain rfl := Option.some.inj ((hfin 0).symm.trans hs')
    apply hrastro.propios lugar hilo
    rw [hhilos]
    exact hhilo
  · intro hnadie rondas
    refine ⟨_, hfin rondas, fun lugar hilo hhilo => ?_, fun lugar hilo _ => ?_⟩
    · rw [hhilos] at hhilo
      exact hnadie lugar hilo hhilo
    · rw [hhilos]

/-- **A finished process leaves no thread behind if and only if** it had none in any of the
collections. For every reachable state, every process in it and every algorithm. -/
theorem finFiel_iff (algoritmo : Algoritmo) (sucesos : List Suceso) (s : Marcha)
    (hrun : run suceder (marchaInicial algoritmo) sucesos = some s) (pcb : Puntero) (b : PCB)
    (hpcb : s.pcbs pcb = some b) :
    FinFiel pcb b s.toNucleo ↔
      ∀ lugar, ∀ hilo ∈ hilosEn s.toNucleo lugar, ¬ DeProceso s.toNucleo b.PID hilo :=
  finFiel_iff_of_sinTids hpcb ((run_procesosQuietos hrun).tids pcb b hpcb)

/-- Process 0, when memoria has refused its thread: there is none to leave behind. -/
theorem finFiel_sinHilo : ∃ s,
    run suceder (marchaInicial .fifo)
        [.crearProceso { memoriaAcepta with hilo := false } 0] = some s ∧
      FinFiel 1 ⟨0, .ready, [], []⟩ s.toNucleo := by
  refine ⟨_, rfl, (finFiel_iff .fifo [.crearProceso { memoriaAcepta with hilo := false } 0] _
    rfl 1 _ rfl).mpr ?_⟩
  intro lugar hilo hhilo
  cases lugar <;> exact absurd hhilo (List.not_mem_nil)

/-- Process 0 with its thread, at address 2, in execution: the thread stays in
`lista_exec_hilo`. -/
theorem not_finFiel_enExec : ∃ s,
    run suceder (marchaInicial .fifo) [.crearProceso memoriaAcepta 0, .despachar NULL] = some s ∧
      (finalizarProceso 1 1 1 s.toNucleo).map (fun t => (t.pcbs 1, t.listaExecHilo)) =
        some (none, [2]) ∧
      ¬ FinFiel 1 ⟨0, .ready, [], []⟩ s.toNucleo := by
  refine ⟨_, rfl, rfl, ?_⟩
  intro hfiel
  obtain ⟨s', hs', hrastro⟩ := hfiel 1
  obtain rfl := Option.some.inj hs'
  exact hrastro.propios .exec 2 (List.mem_singleton.mpr rfl) ⟨_, rfl, rfl⟩

end SoTp.Kernel
