import SoTp.Kernel.Exclusion
import SoTp.Kernel.Admision
import SoTp.Kernel.Memoria

/-!
# Processes that wait

`crearProceso` (`kernel/src/k_largo_plazo.c`, lines 45–87) asks memoria only when nobody waits in
`cola_new`, and nothing else takes a process out of there.

* `run_espera`: **one refusal is for ever.** Once a process waits, in every run that follows
  nobody is admitted.
* `run_deMemoria`: the kernel and memoria together. `crearProcesoMemoria` never reads the 1 of an
  acceptance from what `enviar_estado` sends, so **no process is ever admitted** and no thread
  ever exists.
* `run_envia`: **what it takes to send a thread**: an algorithm with a dispatcher that finds it, a
  ready queue, and an acceptance.
-/

namespace SoTp.Kernel

open SoTp.Lib SoTp.Utils SoTp.Memoria

/-! ## Nobody leaves `cola_new` -/

/-- Between `s` and `s'` processes have joined `cola_new` at the back, and nobody has been
admitted. -/
structure Espera (s s' : EstadoKernel) : Prop where
  colaNew : s.colaNew <+: s'.colaNew
  colaReady : s'.colaReady = s.colaReady

section

variable {s s' t : EstadoKernel}

theorem espera_of_eq (hnew : s'.colaNew = s.colaNew) (hready : s'.colaReady = s.colaReady) :
    Espera s s' where
  colaNew := hnew ▸ List.prefix_rfl
  colaReady := hready

theorem Espera.trans (h : Espera s t) (h' : Espera t s') : Espera s s' where
  colaNew := h.colaNew.trans h'.colaNew
  colaReady := h'.colaReady.trans h.colaReady

theorem Espera.ne_nil (h : Espera s s') (hnew : s.colaNew ≠ []) : s'.colaNew ≠ [] := by
  intro hnil
  have hprefix := h.colaNew
  rw [hnil, List.prefix_nil] at hprefix
  exact hnew hprefix

theorem insertarEnColaReadyCmn_espera {hilo : Puntero} {insertado : Bool}
    (h : insertarEnColaReadyCmn hilo s = some (insertado, s')) : Espera s s' := by
  obtain ⟨-, rfl⟩ | ⟨tcb, cola, -, -, -, -, rfl⟩ := insertarEnColaReadyCmn_cases h
  · exact espera_of_eq rfl rfl
  · exact espera_of_eq rfl rfl

theorem marco_espera : MarcoCasos fun s s' => s.colaNew ≠ [] → Espera s s' where
  refl _ _ := espera_of_eq rfl rfl
  trans h h' hnew := (h hnew).trans (h' ((h hnew).ne_nil hnew))
  dependencias _ _ _ := espera_of_eq rfl rfl
  estado h _ := by
    obtain ⟨tcb, -, rfl⟩ := Option.map_eq_some_iff.mp h
    exact espera_of_eq rfl rfl
  bloq _ _ := espera_of_eq rfl rfl
  encolar h _ := by
    obtain ⟨cola, -, h⟩ := Option.bind_eq_some_iff.mp h
    obtain ⟨tcb, -, h⟩ := Option.bind_eq_some_iff.mp h
    obtain rfl := Option.some.inj h
    exact espera_of_eq rfl rfl
  insertar h _ := insertarEnColaReadyCmn_espera h
  crear _ _ _ _ _ := espera_of_eq rfl rfl
  liberar _ _ _ := espera_of_eq rfl rfl
  bloquear _ _ _ := espera_of_eq rfl rfl
  esperar _ _ _ := espera_of_eq rfl rfl
  mutex _ _ _ _ _ _ := espera_of_eq rfl rfl
  terminar _ _ _ := espera_of_eq rfl rfl

theorem crearProceso_espera {basura : Puntero → UInt32} {aceptado : Bool} {prioridad : Int32}
    {respuestas : List Int32} (h : crearProceso basura aceptado prioridad respuestas s = some s')
    (hnew : s.colaNew ≠ []) : Espera s s' := by
  rw [crearProceso_ocupada basura aceptado prioridad respuestas hnew] at h
  obtain rfl := Option.some.inj h
  exact ⟨List.prefix_append _ _, rfl⟩

end

/-- **One step.** -/
theorem suceder_espera {s s' : Marcha} {suceso : Suceso} (hs : SinNulo s.toEstadoKernel)
    (hnew : s.colaNew ≠ []) (h : suceder s suceso = some s') :
    Espera s.toEstadoKernel s'.toEstadoKernel := by
  cases suceso with
  | crearProceso m prioridad =>
    obtain ⟨k, hk, rfl⟩ := Option.map_eq_some_iff.mp h
    exact crearProceso_espera hk hnew
  | rechazo =>
    obtain ⟨k, hk, rfl⟩ := Option.map_eq_some_iff.mp h
    cases (if_neg hnew).symm.trans hk
  | despachar elegido =>
    cases despachar_iteracion hs h with
    | nada candado nivel => exact espera_of_eq rfl rfl
    | envia p tcb cola colas htcb htoma => exact espera_of_eq rfl rfl
  | respuesta PID TID syscall m =>
    exact responder_marco marco_espera (fun _ _ hk => crearProceso_espera hk) h hnew

/-- **A refusal starves every other process**: after a state of a run in which a process waits,
whatever memoria answers, those that wait keep waiting in their order, the new ones wait behind
them, and `cola_ready` stays what it is. -/
theorem run_espera (algoritmo : Algoritmo) (antes despues : List Suceso) (s t : Marcha)
    (hs : run suceder (marchaInicial algoritmo) antes = some s) (hnew : s.colaNew ≠ [])
    (ht : run suceder s despues = some t) :
    s.colaNew <+: t.colaNew ∧ t.colaReady = s.colaReady := by
  have hkeep (u : Marcha) (suceso : Suceso) (u' : Marcha)
      (hu : Bajo algoritmo u ∧ Espera s.toEstadoKernel u.toEstadoKernel) (_ : True)
      (hu' : suceder u suceso = some u') :
      Bajo algoritmo u' ∧ Espera s.toEstadoKernel u'.toEstadoKernel :=
    ⟨suceder_bajo hu.1 hu', hu.2.trans (suceder_espera hu.1.sinNulo (hu.2.ne_nil hnew) hu')⟩
  have hespera := (run_invariant hkeep ⟨run_bajo hs, espera_of_eq rfl rfl⟩
    (along_true s despues) ht).2
  exact ⟨hespera.colaNew, hespera.colaReady⟩

/-- The process at address 1 waits; memoria would accept the next one, at address 2. -/
theorem run_espera_rechazo : ∃ s t,
    run suceder (marchaInicial .fifo) [.rechazo] = some s ∧
      run suceder s [.crearProceso memoriaAcepta 0] = some t ∧ s.colaNew = [1] ∧
      t.colaNew = [1, 2] ∧ t.colaReady = s.colaReady :=
  ⟨_, _, rfl, rfl, rfl, rfl, (run_espera .fifo [.rechazo] [.crearProceso memoriaAcepta 0] _ _ rfl
    (List.cons_ne_nil _ _) rfl).2⟩

/-! ## The kernel and memoria -/

/-- What the calls of `crearProcesoMemoria` return is read from answers that memoria sends with
`enviar_estado`. -/
def Entorno.DeMemoria (m : Entorno) : Prop :=
  ∀ respuesta ∈ m.procesos, ∃ g g' estado, Consulta.crearProceso.respuesta g'
    (enviarEstado g estado Consulta.crearProceso.operacion) = some respuesta

def Suceso.DeMemoria : Suceso → Prop
  | crearProceso m _ | respuesta _ _ _ m => m.DeMemoria
  | rechazo | despachar _ => True

/-- No call of `crearProceso` reads an acceptance at its first time. -/
def Suceso.SinAceptar : Suceso → Prop
  | crearProceso m _ => m.procesos.head? ≠ some 1
  | rechazo | despachar _ | respuesta _ _ _ _ => True

theorem Entorno.DeMemoria.head_ne {m : Entorno} (hm : m.DeMemoria) :
    m.procesos.head? ≠ some 1 := by
  intro hhead
  obtain ⟨g, g', estado, hrespuesta⟩ := hm 1 (List.mem_of_head? hhead)
  rw [respuesta_enviarEstado] at hrespuesta
  exact absurd (Option.some.inj hrespuesta) (by decide)

theorem Suceso.DeMemoria.sinAceptar {suceso : Suceso} (h : suceso.DeMemoria) :
    suceso.SinAceptar := by
  cases suceso with
  | crearProceso m prioridad => exact Entorno.DeMemoria.head_ne h
  | rechazo => trivial
  | despachar elegido => trivial
  | respuesta PID TID syscall m => trivial

/-- Every process that was asked for waits, and there are no threads. -/
structure TodosEsperan (s : EstadoKernel) : Prop where
  nuevos : ∀ p b, s.pcbs p = some b → p ∈ s.colaNew ∧ b.estado = .new
  ready : s.colaReady = []
  hilos : ∀ p, s.tcbs p = none

theorem TodosEsperan.nuevo {s : EstadoKernel} (hs : TodosEsperan s) :
    TodosEsperan { (crearPcb s).2 with colaNew := s.colaNew ++ [s.siguiente] } where
  nuevos := by
    intro p b hb
    by_cases hp : p = s.siguiente
    · subst hp
      have hnuevo := (Function.update_self _ _ _).symm.trans hb
      exact ⟨List.mem_append_right _ List.mem_cons_self, Option.some.inj hnuevo ▸ rfl⟩
    · have hviejo := (Function.update_of_ne hp _ _).symm.trans hb
      exact ⟨List.mem_append_left _ (hs.nuevos p b hviejo).1, (hs.nuevos p b hviejo).2⟩
  ready := hs.ready
  hilos := hs.hilos

/-- A refusal leaves two processes that wait. -/
theorem crearProceso_todosEsperan {m : Entorno} {aceptado : Bool} {prioridad : Int32}
    {s s' : EstadoKernel} (hm : m.procesos.head? ≠ some 1) (hs : TodosEsperan s)
    (h : crearProceso m.basura aceptado prioridad m.procesos s = some s') : TodosEsperan s' := by
  by_cases hnew : s.colaNew = []
  · cases hprocesos : m.procesos with
    | nil =>
      rw [hprocesos] at h
      cases (if_pos hnew).symm.trans h
    | cons respuesta respuestas =>
      have hrechazo : respuesta ≠ 1 := by
        rintro rfl
        exact hm (by rw [hprocesos, List.head?_cons])
      rw [hprocesos, crearProceso_rechazo m.basura aceptado prioridad respuestas hnew
        hrechazo] at h
      have hdos := hs.nuevo.nuevo
      dsimp only at hdos
      rw [hnew] at hdos
      exact Option.some.inj h ▸ hdos
  · rw [crearProceso_ocupada m.basura aceptado prioridad m.procesos hnew] at h
    exact Option.some.inj h ▸ hs.nuevo

/-- **One step** sends nothing, and leaves everybody waiting. -/
theorem suceder_todosEsperan {s s' : Marcha} {suceso : Suceso} (hnulo : SinNulo s.toEstadoKernel)
    (hs : TodosEsperan s.toEstadoKernel) (hcpu : s.enCpu = none) (hm : suceso.SinAceptar)
    (h : suceder s suceso = some s') :
    TodosEsperan s'.toEstadoKernel ∧ s'.enCpu = none ∧ enviados s suceso = [] := by
  cases suceso with
  | crearProceso m prioridad =>
    obtain ⟨k, hk, rfl⟩ := Option.map_eq_some_iff.mp h
    exact ⟨crearProceso_todosEsperan hm hs hk, hcpu, rfl⟩
  | rechazo =>
    obtain ⟨k, hk, rfl⟩ := Option.map_eq_some_iff.mp h
    unfold esperarMemoria at hk
    split at hk
    · exact ⟨Option.some.inj hk ▸ hs.nuevo, hcpu, rfl⟩
    · cases hk
  | despachar elegido =>
    rw [enviados_despachar h]
    cases despachar_iteracion hnulo h with
    | nada candado nivel =>
      refine ⟨⟨hs.nuevos, hs.ready, hs.hilos⟩, hcpu, ?_⟩
      dsimp only
      rw [hcpu, Option.toList_none]
    | envia p tcb cola colas htcb htoma =>
      rw [hs.hilos p] at htcb
      cases htcb
  | respuesta PID TID syscall m => exact absurd hcpu (responder_ne_none h)

/-- **A run without an acceptance** sends nothing, and leaves everybody waiting. -/
theorem run_todosEsperan {algoritmo : Algoritmo} {sucesos : List Suceso} {s t : Marcha}
    (hs : Bajo algoritmo s) (hesperan : TodosEsperan s.toEstadoKernel) (hcpu : s.enCpu = none)
    (hsin : Along suceder (fun _ suceso => suceso.SinAceptar) s sucesos)
    (hrun : run suceder s sucesos = some t) :
    TodosEsperan t.toEstadoKernel ∧ output suceder enviados s sucesos = [] := by
  have hkeep (u : Marcha) (suceso : Suceso) (u' : Marcha) (bs : List Puntero)
      (hu : Bajo algoritmo u ∧ TodosEsperan u.toEstadoKernel ∧ u.enCpu = none ∧ bs = [])
      (hm : suceso.SinAceptar) (hu' : suceder u suceso = some u') :
      Bajo algoritmo u' ∧ TodosEsperan u'.toEstadoKernel ∧ u'.enCpu = none ∧
        bs ++ enviados u suceso = [] := by
    obtain ⟨hbajo, hesperan, hcpu, rfl⟩ := hu
    exact ⟨suceder_bajo hbajo hu', suceder_todosEsperan hbajo.sinNulo hesperan hcpu hm hu'⟩
  obtain ⟨-, hesperan, -, hnada⟩ := run_output_invariant hkeep ⟨hs, hesperan, hcpu, rfl⟩ hsin hrun
  exact ⟨hesperan, hnada⟩

/-- **With the memoria of the repository no process ever runs.** In every run in which what the
kernel reads are answers of memoria, whatever memoria decides, every process waits in `cola_new`,
none is admitted, no thread exists, and nothing is sent to the CPU. -/
theorem run_deMemoria (algoritmo : Algoritmo) (sucesos : List Suceso) (s : Marcha)
    (hmemoria : Along suceder (fun _ suceso => suceso.DeMemoria) (marchaInicial algoritmo) sucesos)
    (hrun : run suceder (marchaInicial algoritmo) sucesos = some s) :
    TodosEsperan s.toEstadoKernel ∧
      output suceder enviados (marchaInicial algoritmo) sucesos = [] :=
  run_todosEsperan ⟨sinNulo_inicial algoritmo, rfl⟩ ⟨fun _ _ hb => (nomatch hb), rfl, fun _ => rfl⟩
    rfl (hmemoria.mono fun _ _ => Suceso.DeMemoria.sinAceptar) hrun

/-- Memoria answers 1, and the kernel reads 4: the process at address 1 waits, and so does the one
of the second call, at address 2. -/
theorem run_deMemoria_uno : ∃ s,
    run suceder (marchaInicial .fifo) [.crearProceso { memoriaAcepta with procesos := [4] } 0] =
      some s ∧ s.colaNew = [1, 2] ∧ TodosEsperan s.toEstadoKernel := by
  refine ⟨_, rfl, rfl, (run_deMemoria .fifo
    [.crearProceso { memoriaAcepta with procesos := [4] } 0] _ (along_cons rfl ?_ trivial) rfl).1⟩
  intro respuesta hmem
  obtain rfl := List.mem_singleton.mp hmem
  exact ⟨fun _ => 0, fun _ => 0, 1, respuesta_enviarEstado .crearProceso _ _ 1⟩

/-! ## What it takes to send a thread -/

/-- The kernel when its dispatcher starts, with these ready collections. The source creates none
of them, the levels included. -/
def arranque (algoritmo : Algoritmo) (cola : Option (List Puntero))
    (colas : ℕ → Option (List Puntero)) : Marcha :=
  { marchaInicial algoritmo with colaReadyFifoPrioridades := cola, colasReadyCmn := colas }

/-- A queue that was not created is never created. -/
theorem marco_sinCola : MarcoKernel fun s s' =>
    s.colaReadyFifoPrioridades = none → s'.colaReadyFifoPrioridades = none where
  refl _ := id
  trans h h' := h' ∘ h
  dependencias _ _ := id
  estado h := by
    obtain ⟨tcb, -, rfl⟩ := Option.map_eq_some_iff.mp h
    exact id
  bloq _ := id
  encolar h hnada := by
    obtain ⟨cola, hcola, -⟩ := Option.bind_eq_some_iff.mp h
    rw [hnada] at hcola
    cases hcola
  insertar h := by
    obtain ⟨-, rfl⟩ | ⟨tcb, cola, -, -, -, -, rfl⟩ := insertarEnColaReadyCmn_cases h
    · exact id
    · exact id
  crear _ _ _ _ := id
  liberar _ _ := id
  bloquear _ _ := id
  esperar _ _ := id
  mutex _ _ _ _ _ := id
  terminar _ _ := id
  nuevo _ := id
  admitir _ _ _ _ := id
  contador _ _ := id

section

variable {algoritmo : Algoritmo} {s s' : Marcha} {cola : Option (List Puntero)}
  {colas : ℕ → Option (List Puntero)} {sucesos : List Suceso}

theorem niveles_arranque (hcolas : ∀ i, colas i = none ∨ colas i = some []) (i : ℕ) :
    niveles (arranque algoritmo cola colas).toEstadoKernel i = [] := by
  show (colas i).getD [] = []
  rcases hcolas i with hi | hi
  · rw [hi, Option.getD_none]
  · rw [hi, Option.getD_some]

theorem envios_arranque (algoritmo : Algoritmo) (cola : Option (List Puntero))
    (hcolas : ∀ i, colas i = none ∨ colas i = some []) :
    Envios algoritmo (arranque algoritmo cola colas) where
  sinNulo := by
    refine ⟨Nat.one_pos, rfl, fun i => ?_⟩
    rw [niveles_arranque hcolas]
    exact List.not_mem_nil
  algoritmo := rfl
  exclusivo := ⟨nofun, fun _ hp => absurd hp List.not_mem_nil⟩
  nada _ _ := ⟨rfl, rfl, fun _ => niveles_arranque hcolas⟩

theorem enviados_of_envios {suceso : Suceso} (hs : Envios algoritmo s')
    (hfifo : algoritmo ≠ .fifo) (hprioridades : algoritmo ≠ .prioridades)
    (h : suceder s suceso = some s') : enviados s suceso = [] := by
  cases suceso with
  | despachar elegido =>
    rw [enviados_despachar h, (hs.nada hfifo hprioridades).1, Option.toList_none]
  | crearProceso m prioridad => rfl
  | rechazo => rfl
  | respuesta PID TID syscall m => rfl

/-- With `COLAS MULTINIVEL` no thread joins the levels, and with `CMN`, the name in the
repository's `kernel.config`, or any other one, there is no dispatcher. -/
theorem arranque_sinDespachador (hcolas : ∀ i, colas i = none ∨ colas i = some [])
    (hfifo : algoritmo ≠ .fifo) (hprioridades : algoritmo ≠ .prioridades)
    (hrun : run suceder (arranque algoritmo cola colas) sucesos = some s) :
    output suceder enviados (arranque algoritmo cola colas) sucesos = [] := by
  have hkeep (u : Marcha) (suceso : Suceso) (u' : Marcha) (bs : List Puntero)
      (hu : Envios algoritmo u ∧ bs = []) (_ : True) (hu' : suceder u suceso = some u') :
      Envios algoritmo u' ∧ bs ++ enviados u suceso = [] := by
    obtain ⟨henvios, rfl⟩ := hu
    have henvios' := suceder_envios henvios hu'
    exact ⟨henvios', enviados_of_envios henvios' hfifo hprioridades hu'⟩
  exact (run_output_invariant hkeep ⟨envios_arranque algoritmo cola hcolas, rfl⟩
    (along_true _ sucesos) hrun).2

/-- Without its queue an iteration comes back only when it does not look there. -/
theorem despachar_sinCola {elegido : Puntero}
    (halgoritmo : s.algoritmo = .fifo ∨ s.algoritmo = .prioridades)
    (hcola : s.colaReadyFifoPrioridades = none) (h : despachar elegido s = some s') : s' = s := by
  have hready {sacar : EstadoKernel → Option (Puntero × EstadoKernel)}
      (h : atenderReady sacar s = some s') : s' = s := by
    rcases atenderReady_cases h with ⟨-, h⟩ | ⟨hvacia, -⟩ | ⟨_, _, _, -, hotra, -⟩
    · exact h
    · cases hcola.symm.trans hvacia
    · cases hcola.symm.trans hotra
  unfold despachar at h
  rw [if_neg (by simp [despachar_enCpu h])] at h
  obtain ⟨despachador, hplan, h⟩ := Option.bind_eq_some_iff.mp h
  rcases halgoritmo with halgoritmo | halgoritmo
  · rw [halgoritmo] at hplan
    obtain rfl := Option.some.inj hplan
    exact hready h
  · rw [halgoritmo] at hplan
    obtain rfl := Option.some.inj hplan
    exact hready h

theorem arranque_sinCola (halgoritmo : algoritmo = .fifo ∨ algoritmo = .prioridades)
    (hcolas : ∀ i, colas i = none ∨ colas i = some [])
    (hrun : run suceder (arranque algoritmo none colas) sucesos = some s) :
    output suceder enviados (arranque algoritmo none colas) sucesos = [] := by
  have hkeep (u : Marcha) (suceso : Suceso) (u' : Marcha) (bs : List Puntero)
      (hu : Bajo algoritmo u ∧ u.colaReadyFifoPrioridades = none ∧ u.enCpu = none ∧ bs = [])
      (_ : True) (hu' : suceder u suceso = some u') :
      Bajo algoritmo u' ∧ u'.colaReadyFifoPrioridades = none ∧ u'.enCpu = none ∧
        bs ++ enviados u suceso = [] := by
    obtain ⟨hbajo, hcola, hcpu, rfl⟩ := hu
    refine ⟨suceder_bajo hbajo hu', ?_⟩
    cases suceso with
    | crearProceso m prioridad =>
      obtain ⟨k, hk, rfl⟩ := Option.map_eq_some_iff.mp hu'
      exact ⟨crearProceso_marco marco_sinCola hk hcola, hcpu, rfl⟩
    | rechazo =>
      obtain ⟨k, hk, rfl⟩ := Option.map_eq_some_iff.mp hu'
      exact ⟨esperarMemoria_marco marco_sinCola hk hcola, hcpu, rfl⟩
    | despachar elegido =>
      obtain rfl := despachar_sinCola (hbajo.algoritmo ▸ halgoritmo) hcola hu'
      refine ⟨hcola, hcpu, ?_⟩
      rw [enviados_despachar hu', hcpu, Option.toList_none, List.nil_append]
    | respuesta PID TID syscall m => exact absurd hcpu (responder_ne_none hu')
  exact (run_output_invariant hkeep
    ⟨(envios_arranque algoritmo none hcolas).toBajo, rfl, rfl, rfl⟩ (along_true _ sucesos) hrun).2.2.2

theorem arranque_sinAceptar (hcolas : ∀ i, colas i = none ∨ colas i = some [])
    (hsin : ∀ suceso ∈ sucesos, suceso.SinAceptar)
    (hrun : run suceder (arranque algoritmo cola colas) sucesos = some s) :
    output suceder enviados (arranque algoritmo cola colas) sucesos = [] :=
  (run_todosEsperan (envios_arranque algoritmo cola hcolas).toBajo
    ⟨fun _ _ hb => (nomatch hb), rfl, fun _ => rfl⟩ rfl (along_of_forall hsin _) hrun).2

end

/-- **What it takes to send a thread.** Whatever the name of the algorithm in the configuration,
and whichever of the ready collections have been created: a run that sends a thread is one of
`FIFO` or `PRIORIDADES`, with its queue created, and with a call of `crearProceso` that reads 1
for its first answer of memoria. -/
theorem run_envia (token : CString) (cola : Option (List Puntero))
    (colas : ℕ → Option (List Puntero)) (hcola : cola = none ∨ cola = some [])
    (hcolas : ∀ i, colas i = none ∨ colas i = some []) (sucesos : List Suceso) (s : Marcha)
    (hrun : run suceder (arranque (buscarAlgoritmo token) cola colas) sucesos = some s)
    (henvia : output suceder enviados (arranque (buscarAlgoritmo token) cola colas) sucesos ≠ []) :
    (token.bytes = ascii "FIFO" ∨ token.bytes = ascii "PRIORIDADES") ∧ cola = some [] ∧
      ∃ m prioridad, Suceso.crearProceso m prioridad ∈ sucesos ∧ m.procesos.head? = some 1 := by
  have halgoritmo : buscarAlgoritmo token = .fifo ∨ buscarAlgoritmo token = .prioridades := by
    by_contra hno
    obtain ⟨hfifo, hprioridades⟩ := not_or.mp hno
    exact henvia (arranque_sinDespachador hcolas hfifo hprioridades hrun)
  refine ⟨?_, hcola.resolve_left ?_, ?_⟩
  · rw [buscarAlgoritmo_eq] at halgoritmo
    split_ifs at halgoritmo with hcmn hfifo hprioridades hcolas
    · exact absurd halgoritmo (by decide)
    · exact Or.inl hfifo
    · exact Or.inr hprioridades
    · exact absurd halgoritmo (by decide)
    · exact absurd halgoritmo (by decide)
  · rintro rfl
    exact henvia (arranque_sinCola halgoritmo hcolas hrun)
  · by_contra hno
    refine henvia (arranque_sinAceptar hcolas (fun suceso hmem => ?_) hrun)
    cases suceso with
    | crearProceso m prioridad => exact fun hhead => hno ⟨m, prioridad, hmem, hhead⟩
    | rechazo => trivial
    | despachar elegido => trivial
    | respuesta PID TID syscall m => trivial

/-- Under `FIFO`, with its queue and an acceptance, the thread at address 2 is sent. -/
theorem run_envia_fifo :
    output suceder enviados (arranque (buscarAlgoritmo (CString.ofBytes (ascii "FIFO"))) (some [])
        fun _ => none) [.crearProceso memoriaAcepta 0, .despachar NULL] = [2] ∧
      ∃ m prioridad, Suceso.crearProceso m prioridad ∈
        [.crearProceso memoriaAcepta 0, .despachar NULL] ∧ m.procesos.head? = some 1 :=
  ⟨rfl, (run_envia (CString.ofBytes (ascii "FIFO")) (some []) (fun _ => none) (Or.inr rfl)
    (fun _ => Or.inl rfl) [.crearProceso memoriaAcepta 0, .despachar NULL] _ rfl
    (List.cons_ne_nil 2 [])).2.2⟩

end SoTp.Kernel
