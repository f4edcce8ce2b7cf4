import SoTp.Kernel.Marcos
import SoTp.Kernel.Planificacion
import SoTp.Lib.Fifo

/-!
# The order in which threads are sent

Threads join the ready collections from everywhere in the kernel: `crear_hilo`, the syscalls, the
threads that waited for another one, `atender_cmn` itself. All of these push at the back
(`kernel/src/main.c`, lines 579–614, `kernel/src/k_largo_plazo.c`, lines 148–171), and only the
dispatcher takes from the front (`kernel/src/k_corto_plazo.c`, lines 37–72 and 124–166).

* `marco_crece`: no other step takes a thread out of a ready collection.
* `run_ready_fifo`: under `FIFO` **no thread is lost, repeated or overtaken** between two states
  of a run.
* `run_niveles_fifo`: under `COLAS MULTINIVEL` neither is one of any level.
-/

namespace SoTp.Kernel

open SoTp.Lib SoTp.Utils

/-! ## No thread at `NULL` -/

/-- Nothing is allocated at `NULL`, and no level holds it. -/
structure SinNulo (s : EstadoKernel) : Prop where
  siguiente : NULL < s.siguiente
  nulo : s.tcbs NULL = none
  niveles : ∀ i, NULL ∉ niveles s i

theorem sinNulo_inicial (algoritmo : Algoritmo) : SinNulo (kernelInicial algoritmo) :=
  ⟨Nat.one_pos, rfl, fun _ => List.not_mem_nil⟩

theorem Conserva.sinNulo {s s' : EstadoKernel} (h : Conserva s s')
    (hniveles : ∀ i, niveles s' i ⊆ niveles s i) (hs : SinNulo s) : SinNulo s' :=
  ⟨h.siguiente ▸ hs.siguiente, h.tcbs NULL hs.nulo, fun i hmem => hs.niveles i (hniveles i hmem)⟩

theorem ponerEstado_niveles {hilo : Puntero} {e : EstadoProceso} {s s' : EstadoKernel}
    (h : ponerEstado hilo e s = some s') (i : ℕ) : niveles s' i ⊆ niveles s i := by
  obtain ⟨tcb, -, rfl⟩ := Option.map_eq_some_iff.mp h
  exact List.Subset.refl _

/-- What is pushed in a level is a thread in use. -/
theorem insertarEnColaReadyCmn_sinNulo {hilo : Puntero} {s s' : EstadoKernel} {insertado : Bool}
    (h : insertarEnColaReadyCmn hilo s = some (insertado, s')) (hs : SinNulo s) : SinNulo s' := by
  obtain ⟨-, rfl⟩ | ⟨tcb, cola, -, htcb, -, hcola, rfl⟩ := insertarEnColaReadyCmn_cases h
  · exact hs
  · refine ⟨hs.siguiente, hs.nulo, fun i hmem => ?_⟩
    rw [niveles_update] at hmem
    by_cases hi : i = tcb.prioridad.toNat
    · rw [hi, Function.update_self, ← niveles_of_some hcola, List.mem_append,
        List.mem_singleton] at hmem
      rcases hmem with hmem | rfl
      · exact hs.niveles _ hmem
      · rw [hs.nulo] at htcb
        cases htcb
    · rw [Function.update_of_ne hi] at hmem
      exact hs.niveles i hmem

theorem marco_sinNulo : MarcoKernel fun s s' => SinNulo s → SinNulo s' where
  refl _ := id
  trans h h' := h' ∘ h
  dependencias _ _ hs := ⟨hs.siguiente, hs.nulo, hs.niveles⟩
  estado h := (ponerEstado_conserva h).sinNulo (ponerEstado_niveles h)
  bloq _ hs := ⟨hs.siguiente, hs.nulo, hs.niveles⟩
  encolar h hs := by
    obtain ⟨cola, -, h⟩ := Option.bind_eq_some_iff.mp h
    obtain ⟨tcb, -, h⟩ := Option.bind_eq_some_iff.mp h
    obtain rfl := Option.some.inj h
    exact ⟨hs.siguiente, hs.nulo, hs.niveles⟩
  insertar := insertarEnColaReadyCmn_sinNulo
  crear s basura prioridad pid hs :=
    ⟨Nat.succ_pos _, (Function.update_of_ne hs.siguiente.ne _ _).trans hs.nulo, hs.niveles⟩
  liberar s hilo hs := by
    refine ⟨hs.siguiente, ?_, hs.niveles⟩
    show Function.update s.tcbs hilo none NULL = none
    rw [Function.update_apply, hs.nulo]
    exact ite_self _
  bloquear _ _ hs := ⟨hs.siguiente, hs.nulo, hs.niveles⟩
  esperar _ _ hs := ⟨hs.siguiente, hs.nulo, hs.niveles⟩
  mutex _ _ _ _ _ hs := ⟨Nat.succ_pos _, hs.nulo, hs.niveles⟩
  terminar _ _ hs := ⟨hs.siguiente, hs.nulo, hs.niveles⟩
  nuevo _ hs := ⟨Nat.succ_pos _, hs.nulo, hs.niveles⟩
  admitir _ _ _ _ hs := ⟨hs.siguiente, hs.nulo, hs.niveles⟩
  contador _ _ hs := ⟨hs.siguiente, hs.nulo, hs.niveles⟩

/-! ## Threads join at the back -/

/-- Between `s` and `s'` threads have joined the ready collections at the back, and none has
left. -/
structure Crece (s s' : EstadoKernel) : Prop where
  algoritmo : s'.algoritmo = s.algoritmo
  listos : listos s <+: listos s'
  niveles : ∀ i, niveles s i <+: niveles s' i

section

variable {s s' t : EstadoKernel}

theorem crece_of_eq (halgoritmo : s'.algoritmo = s.algoritmo)
    (hcola : s'.colaReadyFifoPrioridades = s.colaReadyFifoPrioridades)
    (hcolas : s'.colasReadyCmn = s.colasReadyCmn) : Crece s s' where
  algoritmo := halgoritmo
  listos := by
    unfold Kernel.listos
    rw [hcola]
  niveles := by
    intro i
    unfold Kernel.niveles
    rw [hcolas]

theorem Crece.trans (h : Crece s t) (h' : Crece t s') : Crece s s' where
  algoritmo := h'.algoritmo.trans h.algoritmo
  listos := h.listos.trans h'.listos
  niveles := fun i => (h.niveles i).trans (h'.niveles i)

theorem encolarReady_crece {hilo : Puntero} (h : encolarReady hilo s = some s') : Crece s s' := by
  obtain ⟨cola, hcola, h⟩ := Option.bind_eq_some_iff.mp h
  obtain ⟨tcb, -, h⟩ := Option.bind_eq_some_iff.mp h
  obtain rfl := Option.some.inj h
  refine ⟨rfl, ?_, fun _ => List.prefix_rfl⟩
  unfold listos
  rw [hcola]
  exact List.prefix_append cola [hilo]

theorem insertarEnColaReadyCmn_crece {hilo : Puntero} {insertado : Bool}
    (h : insertarEnColaReadyCmn hilo s = some (insertado, s')) : Crece s s' := by
  obtain ⟨-, rfl⟩ | ⟨tcb, cola, -, -, -, hcola, rfl⟩ := insertarEnColaReadyCmn_cases h
  · exact crece_of_eq rfl rfl rfl
  · refine ⟨rfl, List.prefix_rfl, fun i => ?_⟩
    rw [niveles_update]
    by_cases hi : i = tcb.prioridad.toNat
    · rw [hi, Function.update_self, ← niveles_of_some hcola]
      exact List.prefix_append _ [hilo]
    · rw [Function.update_of_ne hi]

theorem marco_crece : MarcoKernel Crece where
  refl _ := crece_of_eq rfl rfl rfl
  trans := Crece.trans
  dependencias _ _ := crece_of_eq rfl rfl rfl
  estado h := by
    obtain ⟨tcb, -, rfl⟩ := Option.map_eq_some_iff.mp h
    exact crece_of_eq rfl rfl rfl
  bloq _ := crece_of_eq rfl rfl rfl
  encolar := encolarReady_crece
  insertar := insertarEnColaReadyCmn_crece
  crear _ _ _ _ := crece_of_eq rfl rfl rfl
  liberar _ _ := crece_of_eq rfl rfl rfl
  bloquear _ _ := crece_of_eq rfl rfl rfl
  esperar _ _ := crece_of_eq rfl rfl rfl
  mutex _ _ _ _ _ := crece_of_eq rfl rfl rfl
  terminar _ _ := crece_of_eq rfl rfl rfl
  nuevo _ := crece_of_eq rfl rfl rfl
  admitir _ _ _ _ := crece_of_eq rfl rfl rfl
  contador _ _ := crece_of_eq rfl rfl rfl

end

/-! ## The dispatcher takes the first one -/

/-- The collection from which the dispatcher of the algorithm has taken `p`, before and after.
That of `PRIORIDADES` may send a thread that is not in its queue. -/
def Toma (s : Marcha) (p : Puntero) (cola : Option (List Puntero))
    (colas : ℕ → Option (List Puntero)) : Prop :=
  match s.algoritmo with
  | .fifo => s.listaExecHilo = [] ∧ colas = s.colasReadyCmn ∧
      ∃ resto, s.colaReadyFifoPrioridades = some (p :: resto) ∧ cola = some resto
  | .prioridades => s.listaExecHilo = [] ∧ colas = s.colasReadyCmn
  | .colasMultinivel => cola = s.colaReadyFifoPrioridades ∧
      ∃ resto, s.colasReadyCmn s.nivel = some (p :: resto) ∧
        colas = Function.update s.colasReadyCmn s.nivel (some resto)
  | .cmn | .desconocido => False

/-- The states that an iteration can lead to. -/
inductive Iteracion (s : Marcha) : Marcha → Prop where
  /-- No thread is sent. -/
  | nada (candado : Bool) (nivel : ℕ) : Iteracion s { s with candado := candado, nivel := nivel }
  /-- The thread `p` is sent. -/
  | envia (p : Puntero) (tcb : TCB) (cola : Option (List Puntero))
      (colas : ℕ → Option (List Puntero)) (htcb : s.tcbs p = some tcb)
      (htoma : Toma s p cola colas) : Iteracion s { s with
        tcbs := Function.update s.tcbs p (some { tcb with estado := EstadoProceso.exec.codigo })
        colaReadyFifoPrioridades := cola
        colasReadyCmn := colas
        listaExecHilo := s.listaExecHilo ++ [p]
        enCpu := some p }

section

variable {s s' : Marcha}

theorem despachar_enCpu {elegido : Puntero} (h : despachar elegido s = some s') :
    s.enCpu = none := by
  unfold despachar at h
  split at h
  · cases h
  · rename_i hsome
    exact Option.not_isSome_iff_eq_none.mp hsome

/-- A thread that has been taken is sent: it is not the one at `NULL`. -/
theorem enviarHilo_eq_some {p : Puntero} (h : enviarHilo p s = some s')
    (hnulo : s.tcbs NULL = none) : ∃ tcb, s.tcbs p = some tcb ∧ s' = { s with
      tcbs := Function.update s.tcbs p (some { tcb with estado := EstadoProceso.exec.codigo })
      listaExecHilo := s.listaExecHilo ++ [p]
      enCpu := some p } := by
  obtain ⟨tcb, htcb, h⟩ := Option.bind_eq_some_iff.mp h
  have hne : p ≠ NULL := by
    rintro rfl
    rw [hnulo] at htcb
    cases htcb
  rw [if_pos hne] at h
  obtain ⟨k, hk, h⟩ := Option.bind_eq_some_iff.mp h
  rw [ponerEstado_eq htcb] at hk
  obtain rfl := Option.some.inj hk
  exact ⟨tcb, htcb, (Option.some.inj h).symm⟩

theorem enviarHilo_iteracion {p : Puntero} {cola : Option (List Puntero)}
    {colas : ℕ → Option (List Puntero)} (hnulo : s.tcbs NULL = none) (htoma : Toma s p cola colas)
    (h : enviarHilo p { s with colaReadyFifoPrioridades := cola, colasReadyCmn := colas } =
      some s') : Iteracion s s' := by
  obtain ⟨tcb, htcb, rfl⟩ := enviarHilo_eq_some h hnulo
  exact .envia p tcb cola colas htcb htoma

/-- `sacar` takes the thread from the queue that the two dispatchers share. -/
theorem atenderReady_iteracion {sacar : EstadoKernel → Option (Puntero × EstadoKernel)}
    (hnulo : s.tcbs NULL = none)
    (hsacar : ∀ p k, s.listaExecHilo = [] → sacar s.toEstadoKernel = some (p, k) →
      s.colaReadyFifoPrioridades ≠ some [] →
      ∃ cola, k = { s.toEstadoKernel with colaReadyFifoPrioridades := cola } ∧
        Toma s p cola s.colasReadyCmn)
    (h : atenderReady sacar s = some s') : Iteracion s s' := by
  rcases atenderReady_cases h with ⟨-, rfl⟩ | ⟨-, rfl⟩ | ⟨cola, p, k, hexec, hcola, hne, hk, henvia⟩
  · exact .nada s'.candado s'.nivel
  · exact .nada true s.nivel
  · obtain ⟨cola', rfl, htoma⟩ := hsacar p k hexec hk
      fun heq => hne (Option.some.inj (hcola.symm.trans heq))
    exact enviarHilo_iteracion hnulo htoma henvia

theorem atenderNivel_iteracion (hs : SinNulo s.toEstadoKernel)
    (halgoritmo : s.algoritmo = .colasMultinivel) (h : atenderNivel s = some s') :
    Iteracion s s' := by
  unfold atenderNivel at h
  split at h
  · obtain ⟨⟨thread, k⟩, hk, h⟩ := Option.bind_eq_some_iff.mp h
    obtain ⟨cola, hcola, hnext⟩ := Option.map_eq_some_iff.mp hk
    cases cola with
    | nil =>
      obtain ⟨rfl, rfl⟩ := Prod.mk.inj hnext
      obtain rfl := Option.some.inj ((if_neg fun hne => hne rfl).symm.trans h)
      exact .nada s.candado (s.nivel + 1)
    | cons p cola =>
      obtain ⟨rfl, rfl⟩ := Prod.mk.inj hnext
      have hne : p ≠ NULL := by
        rintro rfl
        apply hs.niveles s.nivel
        rw [niveles_of_some hcola]
        exact List.mem_cons_self
      have htoma : Toma s p s.colaReadyFifoPrioridades
          (Function.update s.colasReadyCmn s.nivel (some cola)) := by
        unfold Toma
        rw [halgoritmo]
        exact ⟨rfl, cola, hcola, rfl⟩
      exact enviarHilo_iteracion hs.nulo htoma ((if_pos hne).symm.trans h)
  · exact Option.some.inj h ▸ .nada s.candado s.nivel

/-- Everything an iteration can do. -/
theorem despachar_iteracion (hs : SinNulo s.toEstadoKernel) {elegido : Puntero}
    (h : despachar elegido s = some s') : Iteracion s s' := by
  have hcpu := despachar_enCpu h
  unfold despachar at h
  rw [if_neg (by simp [hcpu])] at h
  obtain ⟨despachador, hplan, h⟩ := Option.bind_eq_some_iff.mp h
  cases halgoritmo : s.algoritmo with
  | cmn => simp [halgoritmo, planificadorCortoPlazo] at hplan
  | desconocido => simp [halgoritmo, planificadorCortoPlazo] at hplan
  | fifo =>
    obtain rfl : Despachador.atenderFifo = despachador := by
      simpa [halgoritmo, planificadorCortoPlazo] using hplan
    refine atenderReady_iteracion hs.nulo (fun p k hexec hk hne => ?_) h
    obtain ⟨cola, hcola, hk⟩ := Option.map_eq_some_iff.mp hk
    cases cola with
    | nil => exact absurd hcola hne
    | cons q cola =>
      obtain ⟨rfl, rfl⟩ := Prod.mk.inj hk
      refine ⟨some cola, rfl, ?_⟩
      unfold Toma
      rw [halgoritmo]
      exact ⟨hexec, rfl, cola, hcola, rfl⟩
  | prioridades =>
    obtain rfl : Despachador.atenderPrioridades = despachador := by
      simpa [halgoritmo, planificadorCortoPlazo] using hplan
    have htoma (p : Puntero) (cola : Option (List Puntero)) (hexec : s.listaExecHilo = []) :
        Toma s p cola s.colasReadyCmn := by
      unfold Toma
      rw [halgoritmo]
      exact ⟨hexec, rfl⟩
    refine atenderReady_iteracion hs.nulo (fun p k hexec hk hne => ?_) h
    obtain ⟨cola, hcola, hk⟩ := Option.bind_eq_some_iff.mp hk
    split at hk
    · obtain ⟨cola', -, hk⟩ := Option.map_eq_some_iff.mp hk
      cases cola' with
      | nil =>
        obtain ⟨-, rfl⟩ := Prod.mk.inj hk
        exact ⟨s.colaReadyFifoPrioridades, rfl, htoma p _ hexec⟩
      | cons q cola' =>
        obtain ⟨-, rfl⟩ := Prod.mk.inj hk
        exact ⟨some cola', rfl, htoma p _ hexec⟩
    · obtain ⟨r, -, hk⟩ := Option.map_eq_some_iff.mp hk
      obtain ⟨-, rfl⟩ := Prod.mk.inj hk
      exact ⟨some r.2, rfl, htoma p _ hexec⟩
  | colasMultinivel =>
    obtain rfl : Despachador.atenderCmn = despachador := by
      simpa [halgoritmo, planificadorCortoPlazo] using hplan
    exact atenderNivel_iteracion hs halgoritmo h

theorem Iteracion.sinNulo (h : Iteracion s s') (hs : SinNulo s.toEstadoKernel) :
    SinNulo s'.toEstadoKernel := by
  cases h with
  | nada candado nivel => exact hs
  | envia p tcb cola colas htcb htoma =>
    have hne : NULL ≠ p := by
      rintro rfl
      rw [hs.nulo] at htcb
      cases htcb
    refine ⟨hs.siguiente, (Function.update_of_ne hne _ _).trans hs.nulo, fun i hmem => ?_⟩
    unfold Toma at htoma
    unfold niveles at hmem
    split at htoma
    · obtain ⟨-, rfl, -⟩ := htoma
      exact hs.niveles i hmem
    · obtain ⟨-, rfl⟩ := htoma
      exact hs.niveles i hmem
    · obtain ⟨-, resto, hcola, rfl⟩ := htoma
      dsimp only at hmem
      by_cases hi : i = s.nivel
      · rw [hi, Function.update_self, Option.getD_some] at hmem
        apply hs.niveles s.nivel
        rw [niveles_of_some hcola]
        exact List.mem_cons_of_mem p hmem
      · rw [Function.update_of_ne hi] at hmem
        exact hs.niveles i hmem
    · exact htoma
    · exact htoma

/-- **No step allocates at `NULL`.** -/
theorem suceder_sinNulo {suceso : Suceso} (hs : SinNulo s.toEstadoKernel)
    (h : suceder s suceso = some s') : SinNulo s'.toEstadoKernel := by
  cases suceso with
  | despachar elegido => exact (despachar_iteracion hs h).sinNulo hs
  | crearProceso m prioridad => exact suceder_marco marco_sinNulo h nofun hs
  | rechazo => exact suceder_marco marco_sinNulo h nofun hs
  | respuesta PID TID syscall m => exact suceder_marco marco_sinNulo h nofun hs

theorem Iteracion.algoritmo (h : Iteracion s s') : s'.algoritmo = s.algoritmo := by
  cases h <;> rfl

theorem suceder_algoritmo {suceso : Suceso} (hs : SinNulo s.toEstadoKernel)
    (h : suceder s suceso = some s') : s'.algoritmo = s.algoritmo := by
  cases suceso with
  | despachar elegido => exact (despachar_iteracion hs h).algoritmo
  | crearProceso m prioridad => exact (suceder_marco marco_crece h nofun).algoritmo
  | rechazo => exact (suceder_marco marco_crece h nofun).algoritmo
  | respuesta PID TID syscall m => exact (suceder_marco marco_crece h nofun).algoritmo

/-- The dispatcher is that of the algorithm, and no thread is at `NULL`. -/
structure Bajo (algoritmo : Algoritmo) (s : Marcha) : Prop where
  sinNulo : SinNulo s.toEstadoKernel
  algoritmo : s.algoritmo = algoritmo

theorem suceder_bajo {algoritmo : Algoritmo} {suceso : Suceso} (hs : Bajo algoritmo s)
    (h : suceder s suceso = some s') : Bajo algoritmo s' :=
  ⟨suceder_sinNulo hs.sinNulo h, (suceder_algoritmo hs.sinNulo h).trans hs.algoritmo⟩

theorem run_bajo {algoritmo : Algoritmo} {sucesos : List Suceso}
    (hrun : run suceder (marchaInicial algoritmo) sucesos = some s) : Bajo algoritmo s :=
  run_invariant (fun _ _ _ hs _ h => suceder_bajo hs h) ⟨sinNulo_inicial algoritmo, rfl⟩
    (along_true _ _) hrun

end

/-! ## Runs -/

/-- The thread that a step sends to the CPU. -/
def enviados (s : Marcha) : Suceso → List Puntero
  | .despachar elegido => ((despachar elegido s).bind Marcha.enCpu).toList
  | _ => []

/-- The thread that a step takes from a level and sends to the CPU. -/
def enviadosDe (nivel : ℕ) (s : Marcha) (suceso : Suceso) : List Puntero :=
  if s.nivel = nivel then enviados s suceso else []

section

variable {s s' : Marcha} {suceso : Suceso}

theorem enviados_despachar {elegido : Puntero} (h : despachar elegido s = some s') :
    enviados s (.despachar elegido) = s'.enCpu.toList := by
  show ((despachar elegido s).bind Marcha.enCpu).toList = _
  rw [h, Option.bind_some]

/-- **One step** under `FIFO`. -/
theorem suceder_fifo (hs : SinNulo s.toEstadoKernel) (halgoritmo : s.algoritmo = .fifo)
    (h : suceder s suceso = some s') :
    Fifo (listos s.toEstadoKernel) (enviados s suceso) (listos s'.toEstadoKernel) := by
  cases suceso with
  | despachar elegido =>
    have hcpu := despachar_enCpu h
    rw [enviados_despachar h]
    cases despachar_iteracion hs h with
    | nada candado nivel =>
      dsimp only
      rw [hcpu]
      exact Fifo.refl _
    | envia p tcb cola colas htcb htoma =>
      unfold Toma at htoma
      rw [halgoritmo] at htoma
      obtain ⟨-, -, resto, hcola, rfl⟩ := htoma
      unfold listos
      rw [hcola]
      exact Fifo.cons p resto
  | crearProceso m prioridad =>
    exact Fifo.of_prefix (suceder_marco marco_crece h nofun).listos
  | rechazo => exact Fifo.of_prefix (suceder_marco marco_crece h nofun).listos
  | respuesta PID TID syscall m =>
    exact Fifo.of_prefix (suceder_marco marco_crece h nofun).listos

/-- **One step** under `COLAS MULTINIVEL`, at one level. -/
theorem suceder_nivel (hs : SinNulo s.toEstadoKernel) (halgoritmo : s.algoritmo = .colasMultinivel)
    (h : suceder s suceso = some s') (i : ℕ) :
    Fifo (niveles s.toEstadoKernel i) (enviadosDe i s suceso) (niveles s'.toEstadoKernel i) := by
  have hcrece (hno : ∀ elegido, suceso ≠ .despachar elegido) (hnada : enviados s suceso = []) :
      Fifo (niveles s.toEstadoKernel i) (enviadosDe i s suceso) (niveles s'.toEstadoKernel i) := by
    unfold enviadosDe
    rw [hnada, ite_self]
    exact Fifo.of_prefix ((suceder_marco marco_crece h hno).niveles i)
  cases suceso with
  | despachar elegido =>
    have hcpu := despachar_enCpu h
    unfold enviadosDe
    rw [enviados_despachar h]
    cases despachar_iteracion hs h with
    | nada candado nivel =>
      dsimp only
      rw [hcpu, Option.toList_none, ite_self]
      exact Fifo.refl _
    | envia p tcb cola colas htcb htoma =>
      unfold Toma at htoma
      rw [halgoritmo] at htoma
      obtain ⟨-, resto, hcola, rfl⟩ := htoma
      unfold niveles
      dsimp only
      by_cases hi : s.nivel = i
      · subst hi
        rw [if_pos rfl, hcola, Function.update_self]
        exact Fifo.cons p resto
      · rw [if_neg hi, Function.update_of_ne (Ne.symm hi)]
        exact Fifo.refl _
  | crearProceso m prioridad => exact hcrece nofun rfl
  | rechazo => exact hcrece nofun rfl
  | respuesta PID TID syscall m => exact hcrece nofun rfl

end

/-- **First come, first served.** Under `FIFO`, between two states of any run: the threads that
are ready in the first one and those that become ready behind them are, in order, those that are
sent to the CPU and those that are ready in the second one. So nobody is overtaken: the threads
sent are the first of those that were ready, or all of those were sent first. -/
theorem run_ready_fifo (antes despues : List Suceso) (s t : Marcha)
    (hs : run suceder (marchaInicial .fifo) antes = some s)
    (ht : run suceder s despues = some t) :
    Fifo (listos s.toEstadoKernel) (output suceder enviados s despues)
        (listos t.toEstadoKernel) ∧
      (output suceder enviados s despues <+: listos s.toEstadoKernel ∨
        listos s.toEstadoKernel <+: output suceder enviados s despues) := by
  have hfifo := run_fifo (fun u : Marcha => listos u.toEstadoKernel) enviados
    (fun _ _ _ hu hu' => suceder_bajo hu hu')
    (fun _ _ _ hu _ hu' => suceder_fifo hu.sinNulo hu.algoritmo hu') (run_bajo hs)
    (along_true _ _) ht
  exact ⟨hfifo, hfifo.prefix_or_prefix⟩

/-- The thread of a process, at address 2, is sent; after an `IO` it joins the queue again. -/
theorem run_ready_fifo_io : ∃ s t,
    run suceder (marchaInicial .fifo) [.crearProceso memoriaAcepta 0] = some s ∧
      run suceder s [.despachar NULL, .respuesta 0 0 (.io 5) memoriaAcepta] = some t ∧
      listos s.toEstadoKernel = [2] ∧ listos t.toEstadoKernel = [2] ∧
      Fifo (listos s.toEstadoKernel)
        (output suceder enviados s [.despachar NULL, .respuesta 0 0 (.io 5) memoriaAcepta])
        (listos t.toEstadoKernel) :=
  ⟨_, _, rfl, rfl, rfl, rfl, (run_ready_fifo [.crearProceso memoriaAcepta 0]
    [.despachar NULL, .respuesta 0 0 (.io 5) memoriaAcepta] _ _ rfl rfl).1⟩

/-- **Within a level** it is the same, whatever the levels hold: a thread that `atender_cmn` puts
back goes behind those of its priority. -/
theorem run_niveles_fifo (s t : Marcha) (hs : SinNulo s.toEstadoKernel)
    (halgoritmo : s.algoritmo = .colasMultinivel) (sucesos : List Suceso)
    (ht : run suceder s sucesos = some t) (i : ℕ) :
    Fifo (niveles s.toEstadoKernel i) (output suceder (enviadosDe i) s sucesos)
        (niveles t.toEstadoKernel i) ∧
      (output suceder (enviadosDe i) s sucesos <+: niveles s.toEstadoKernel i ∨
        niveles s.toEstadoKernel i <+: output suceder (enviadosDe i) s sucesos) := by
  have hfifo := run_fifo (fun u : Marcha => niveles u.toEstadoKernel i) (enviadosDe i)
    (fun _ _ _ hu hu' => suceder_bajo hu hu')
    (fun _ _ _ hu _ hu' => suceder_nivel hu.sinNulo hu.algoritmo hu' i)
    (Bajo.mk hs halgoritmo) (along_true _ _) ht
  exact ⟨hfifo, hfifo.prefix_or_prefix⟩

/-- The kernel with threads at addresses 1 and 2, both in level 0. -/
def dosEnNivelCero : Marcha :=
  { marchaInicial .colasMultinivel with
    siguiente := 3
    tcbs := fun p => if p = 1 ∨ p = 2 then some ⟨0, UInt32.ofNat p, 0, 1⟩ else none
    colasReadyCmn := fun i => if i = 0 then some [1, 2] else some [] }

/-- The first thread is sent. It has asked for `IO`, and is not put back: it is not BLOCKED. -/
theorem run_niveles_fifo_dos : ∃ t,
    run suceder dosEnNivelCero [.despachar NULL, .respuesta 0 1 (.io 0) memoriaAcepta] = some t ∧
      niveles t.toEstadoKernel 0 = [2] ∧
      Fifo [1, 2] (output suceder (enviadosDe 0) dosEnNivelCero
        [.despachar NULL, .respuesta 0 1 (.io 0) memoriaAcepta]) (niveles t.toEstadoKernel 0) := by
  have hs : SinNulo dosEnNivelCero.toEstadoKernel := by
    refine ⟨by decide, rfl, fun i hmem => ?_⟩
    by_cases hi : i = 0
    · subst hi
      exact absurd hmem (by decide)
    · have hvacia : niveles dosEnNivelCero.toEstadoKernel i = [] := by
        unfold niveles dosEnNivelCero
        simp [hi]
      rw [hvacia] at hmem
      exact List.not_mem_nil hmem
  exact ⟨_, rfl, rfl, (run_niveles_fifo dosEnNivelCero _ hs rfl
    [.despachar NULL, .respuesta 0 1 (.io 0) memoriaAcepta] rfl 0).1⟩

end SoTp.Kernel
