import SoTp.Kernel.Orden
import SoTp.Kernel.Seleccion

/-!
# Ready threads under `PRIORIDADES`

`elegir_maxima_prioridad` compares an unassigned variable with all the threads of the queue but
the last one, and puts what loses back (`kernel/src/k_corto_plazo.c`, lines 168–195). So an
iteration of `atender_prioridades` that finds two threads or more adds one that was not there.

* `despachar_prioridades`: everything that an iteration can do to the queue.
* `run_ready_prioridades`: over every run **the books of the queue balance** when what the variable
  held is counted as entered; who is sent is not beaten by those it has been compared with; and a
  run that never reads the variable is first come, first served.
-/

namespace SoTp.Kernel

open SoTp.Lib SoTp.Utils

/-! ## What enters the queue -/

/-- The threads that a step other than a dispatch makes ready. -/
def llegan (s : Marcha) : Suceso → List Puntero
  | .despachar _ => []
  | suceso => (suceder s suceso).elim [] fun s' =>
    (listos s'.toEstadoKernel).drop (listos s.toEstadoKernel).length

/-- What an iteration of `atender_prioridades` reads in the unassigned `elegido`: it does with two
threads or more. -/
def leido (s : Marcha) : Suceso → List Puntero
  | .despachar elegido =>
    if s.listaExecHilo = [] ∧ 2 ≤ (listos s.toEstadoKernel).length then [elegido] else []
  | _ => []

/-- The thread that the step sends is not beaten by those it has been compared with. -/
def SinMejor (s : Marcha) (suceso : Suceso) : Prop :=
  ∀ p ∈ enviados s suceso, ∀ q ∈ leido s suceso ++ (listos s.toEstadoKernel).dropLast,
    NoSupera s.tcbs q p

/-! ## An iteration -/

/-- What `elegir_maxima_prioridad` returns and leaves: with what `elegido` held, they are the
threads of the queue, and the result is not beaten by any but the last one. -/
theorem elegirMaximaPrioridad_spec {tcbs : Puntero → Option TCB} {elegido : Puntero}
    {cola : List Puntero} {r : Puntero × List Puntero} (h2 : 2 ≤ cola.length)
    (h : elegirMaximaPrioridad tcbs elegido cola = some r) :
    (r.1 :: r.2).Perm (elegido :: cola) ∧ ∀ q ∈ elegido :: cola.dropLast, NoSupera tcbs q r.1 := by
  rw [← seleccionar_eq] at h
  obtain ⟨s, hs, rfl⟩ := Option.map_eq_some_iff.mp h
  refine ⟨(seleccionar_spec h2 hs).2, ?_⟩
  obtain ⟨t, ht, rfl⟩ := Option.map_eq_some_iff.mp hs
  obtain ⟨perdedores, hrotada⟩ := rotada_of_run elegido cola (cola.length - 1) (by omega) ht
  have hmejor (q : Puntero) (hq : q ∈ elegido :: cola.dropLast) : q ∈ t.elegido :: perdedores := by
    rw [List.dropLast_eq_take] at hq
    exact hrotada.perm.mem_iff.mpr hq
  -- somebody has lost, so the one that has not is a thread
  have hlen := hrotada.perm.length_eq
  rw [List.length_cons, List.length_cons, List.length_take] at hlen
  obtain ⟨p, hp⟩ := List.exists_mem_of_length_pos (l := perdedores) (by omega)
  obtain ⟨-, maximo, -, hmaximo, -⟩ := hrotada.mejor p hp
  intro q hq
  rcases List.mem_cons.mp (hmejor q hq) with rfl | hq
  · exact ⟨maximo, maximo, hmaximo, hmaximo, UInt32.le_refl _⟩
  · exact hrotada.mejor q hq

section

variable {s s' : Marcha}

/-- What an iteration of `atender_prioridades` does to the queue. -/
inductive Turno (s : Marcha) (elegido : Puntero) (s' : Marcha) : Prop where
  /-- A thread is in execution, or none is ready. -/
  | nada (hleido : leido s (.despachar elegido) = []) (hcpu : s'.enCpu = none)
    (hlistos : listos s'.toEstadoKernel = listos s.toEstadoKernel)
  /-- The only thread is sent. -/
  | solo (p : Puntero) (hleido : leido s (.despachar elegido) = []) (hcpu : s'.enCpu = some p)
    (hlistos : listos s.toEstadoKernel = [p]) (hvacia : listos s'.toEstadoKernel = [])
  /-- One of several is, or the one at `elegido`. -/
  | elige (p : Puntero) (hleido : leido s (.despachar elegido) = [elegido])
    (hcpu : s'.enCpu = some p)
    (hperm : (p :: listos s'.toEstadoKernel).Perm (elegido :: listos s.toEstadoKernel))
    (hmejor : ∀ q ∈ elegido :: (listos s.toEstadoKernel).dropLast, NoSupera s.tcbs q p)

/-- Everything that an iteration can do to the queue. -/
theorem despachar_prioridades {elegido : Puntero} (hs : SinNulo s.toEstadoKernel)
    (halgoritmo : s.algoritmo = .prioridades) (h : despachar elegido s = some s') :
    Turno s elegido s' := by
  have hcpu := despachar_enCpu h
  have hplan : planificadorCortoPlazo s.algoritmo = some .atenderPrioridades := by
    rw [halgoritmo]
    rfl
  unfold despachar at h
  rw [if_neg (by simp [hcpu]), hplan] at h
  change atenderReady (sacarPrioridades elegido) s = some s' at h
  have hlistos (cola : List Puntero) (hcola : s.colaReadyFifoPrioridades = some cola) :
      listos s.toEstadoKernel = cola := by
    unfold listos
    rw [hcola, Option.getD_some]
  rcases atenderReady_cases h with ⟨hexec, rfl⟩ | ⟨hvacia, rfl⟩ |
    ⟨cola, p, k, hexec, hcola, hne, hk, h⟩
  · exact .nada (if_neg fun hno => hexec hno.1) hcpu rfl
  · refine .nada (if_neg fun hno => ?_) hcpu rfl
    rw [hlistos [] hvacia] at hno
    exact absurd hno.2 (by decide)
  replace hlistos := hlistos cola hcola
  unfold sacarPrioridades at hk
  rw [hcola] at hk
  change (if cola.length = 1 then sacarReady s.toEstadoKernel else _) = _ at hk
  split at hk
  · rename_i huno
    obtain ⟨q, rfl⟩ := List.length_eq_one_iff.mp huno
    unfold sacarReady at hk
    rw [hcola] at hk
    obtain ⟨rfl, rfl⟩ := Prod.mk.inj (Option.some.inj hk)
    obtain ⟨tcb, -, rfl⟩ := enviarHilo_eq_some h hs.nulo
    refine .solo q (if_neg fun hno => ?_) rfl hlistos rfl
    rw [hlistos, List.length_singleton] at hno
    exact absurd hno.2 (by decide)
  · rename_i hvarios
    have h2 : 2 ≤ cola.length := by
      have hpos := List.length_pos_iff.mpr hne
      omega
    obtain ⟨r, hr, hk⟩ := Option.map_eq_some_iff.mp hk
    obtain ⟨rfl, rfl⟩ := Prod.mk.inj hk
    obtain ⟨hperm, hmejor⟩ := elegirMaximaPrioridad_spec h2 hr
    obtain ⟨tcb, -, rfl⟩ := enviarHilo_eq_some h hs.nulo
    refine .elige r.1 (if_pos ⟨hexec, hlistos ▸ h2⟩) rfl ?_ ?_
    · rw [hlistos]
      exact hperm
    · rw [hlistos]
      exact hmejor

theorem Turno.balance {elegido : Puntero} (h : Turno s elegido s') :
    Balance (listos s.toEstadoKernel) (leido s (.despachar elegido)) s'.enCpu.toList
      (listos s'.toEstadoKernel) := by
  cases h with
  | nada hleido hcpu hlistos =>
    rw [hleido, hcpu, hlistos]
    exact Balance.refl _
  | solo p hleido hcpu hlistos hvacia =>
    rw [hleido, hcpu, hlistos, hvacia]
    exact Balance.cons p []
  | elige p hleido hcpu hperm hmejor =>
    rw [hleido, hcpu]
    exact (List.perm_append_singleton elegido _).trans hperm.symm

/-! ## One step -/

variable {suceso : Suceso}

theorem llegan_eq (hno : ∀ elegido, suceso ≠ .despachar elegido)
    (h : suceder s suceso = some s') :
    llegan s suceso = (listos s'.toEstadoKernel).drop (listos s.toEstadoKernel).length := by
  unfold llegan
  split
  · exact absurd rfl (hno _)
  · rw [h]
    rfl

theorem suceder_balance (hs : Bajo .prioridades s) (h : suceder s suceso = some s') :
    Balance (listos s.toEstadoKernel) (llegan s suceso ++ leido s suceso) (enviados s suceso)
      (listos s'.toEstadoKernel) := by
  have hjunta (hno : ∀ elegido, suceso ≠ .despachar elegido) :
      Balance (listos s.toEstadoKernel) (llegan s suceso ++ []) [] (listos s'.toEstadoKernel) := by
    rw [List.append_nil, llegan_eq hno h]
    exact Balance.of_prefix (suceder_marco marco_crece h hno).listos
  cases suceso with
  | despachar elegido =>
    rw [enviados_despachar h]
    exact (despachar_prioridades hs.sinNulo hs.algoritmo h).balance
  | crearProceso m prioridad => exact hjunta nofun
  | rechazo => exact hjunta nofun
  | respuesta PID TID syscall m => exact hjunta nofun

theorem suceder_sinMejor (hs : Bajo .prioridades s) (suceso : Suceso) : SinMejor s suceso := by
  intro p hp q hq
  cases suceso with
  | despachar elegido =>
    obtain ⟨s', h, hcpu⟩ := Option.bind_eq_some_iff.mp (Option.mem_toList.mp hp)
    cases despachar_prioridades hs.sinNulo hs.algoritmo h with
    | nada hleido hnada hlistos =>
      rw [hnada] at hcpu
      cases hcpu
    | solo r hleido hsale hlistos hvacia =>
      rw [hleido, hlistos] at hq
      exact absurd hq List.not_mem_nil
    | elige r hleido hsale hperm hmejor =>
      obtain rfl := Option.some.inj (hsale.symm.trans hcpu)
      rw [hleido] at hq
      exact hmejor q hq
  | crearProceso m prioridad => exact absurd hp List.not_mem_nil
  | rechazo => exact absurd hp List.not_mem_nil
  | respuesta PID TID syscall m => exact absurd hp List.not_mem_nil

/-- As long as the variable is not read, the queue is one. -/
theorem suceder_prioridades_fifo (hs : Bajo .prioridades s) (hleido : leido s suceso = [])
    (h : suceder s suceso = some s') :
    Fifo (listos s.toEstadoKernel) (enviados s suceso) (listos s'.toEstadoKernel) := by
  cases suceso with
  | despachar elegido =>
    rw [enviados_despachar h]
    cases despachar_prioridades hs.sinNulo hs.algoritmo h with
    | nada _ hcpu hlistos =>
      rw [hcpu, hlistos]
      exact Fifo.refl _
    | solo p _ hcpu hlistos hvacia =>
      rw [hcpu, hlistos, hvacia]
      exact Fifo.cons p []
    | elige p hsilee hcpu hperm hmejor =>
      rw [hleido] at hsilee
      cases hsilee
  | crearProceso m prioridad =>
    exact Fifo.of_prefix (suceder_marco marco_crece h nofun).listos
  | rechazo => exact Fifo.of_prefix (suceder_marco marco_crece h nofun).listos
  | respuesta PID TID syscall m =>
    exact Fifo.of_prefix (suceder_marco marco_crece h nofun).listos

end

/-! ## Runs -/

/-- **The books of the queue** under `PRIORIDADES`, between two states of any run: the threads that
are ready in the first one, those that become ready and the ones that the unassigned variable
held are those that are sent and those that are ready in the second one, each as often. Nobody who
is sent is beaten by one of the queue before the last or by the one in the variable. When the
variable is never read, nobody is overtaken either. -/
theorem run_ready_prioridades (antes despues : List Suceso) (s t : Marcha)
    (hs : run suceder (marchaInicial .prioridades) antes = some s)
    (ht : run suceder s despues = some t) :
    Balance (listos s.toEstadoKernel)
        (output suceder (fun u suceso => llegan u suceso ++ leido u suceso) s despues)
        (output suceder enviados s despues) (listos t.toEstadoKernel) ∧
      Along suceder SinMejor s despues ∧
      (Along suceder (fun u suceso => leido u suceso = []) s despues →
        Fifo (listos s.toEstadoKernel) (output suceder enviados s despues)
          (listos t.toEstadoKernel)) := by
  have hbajo := run_bajo hs
  have hinv (u : Marcha) (suceso : Suceso) (u' : Marcha) (hu : Bajo .prioridades u)
      (hu' : suceder u suceso = some u') : Bajo .prioridades u' := suceder_bajo hu hu'
  refine ⟨?_, ?_, fun hleido => ?_⟩
  · exact run_balance (fun u : Marcha => listos u.toEstadoKernel) _ enviados hinv
      (fun _ _ _ hu hu' => suceder_balance hu hu') hbajo ht
  · exact along_of_invariant hinv (fun _ suceso hu => suceder_sinMejor hu suceso) hbajo despues
  · exact run_fifo (fun u : Marcha => listos u.toEstadoKernel) enviados hinv
      (fun _ _ _ hu hno hu' => suceder_prioridades_fifo hu hno hu') hbajo hleido ht

/-- The threads at addresses 2 and 4 are ready, and the variable holds the first one: it is sent,
and it is in the queue all the same. -/
theorem run_ready_prioridades_repite : ∃ s t,
    run suceder (marchaInicial .prioridades)
        [.crearProceso memoriaAcepta 0, .crearProceso memoriaAcepta 0] = some s ∧
      run suceder s [.despachar 2] = some t ∧ listos s.toEstadoKernel = [2, 4] ∧
      (t.enCpu, listos t.toEstadoKernel) = (some 2, [4, 2]) ∧
      Balance (listos s.toEstadoKernel)
        (output suceder (fun u suceso => llegan u suceso ++ leido u suceso) s [.despachar 2])
        (output suceder enviados s [.despachar 2]) (listos t.toEstadoKernel) := by
  have hlistos : (run suceder (marchaInicial .prioridades)
      [.crearProceso memoriaAcepta 0, .crearProceso memoriaAcepta 0]).map
        (fun s => listos s.toEstadoKernel) = some [2, 4] := by decide +kernel
  have hsigue : ((run suceder (marchaInicial .prioridades)
      [.crearProceso memoriaAcepta 0, .crearProceso memoriaAcepta 0]).bind
        fun s => run suceder s [.despachar 2]).map
          (fun t => (t.enCpu, listos t.toEstadoKernel)) = some (some 2, [4, 2]) := by
    decide +kernel
  obtain ⟨s, hs, hlistos⟩ := Option.map_eq_some_iff.mp hlistos
  rw [hs, Option.bind_some] at hsigue
  obtain ⟨t, ht, hquedan⟩ := Option.map_eq_some_iff.mp hsigue
  exact ⟨s, t, hs, ht, hlistos, hquedan, (run_ready_prioridades
    [.crearProceso memoriaAcepta 0, .crearProceso memoriaAcepta 0] [.despachar 2] s t hs ht).1⟩

end SoTp.Kernel
