import SoTp.Kernel.Identidad
import SoTp.Kernel.Procesos

/-!
# Waiting for a thread

`THREAD_JOIN` (`kernel/src/main.c`, lines 309–332). `tid` is the thread that is waited for;
the case takes the thread that is to wait out of `lista_exec_hilo` with `tid` too.

* `casoThreadJoin_cases`: what the syscall leaves: the thread that it moves is the target.
* `joinCorrecto_iff`: **a join does what it should exactly when there is no such thread**, and
  the search for it comes back.
-/

namespace SoTp.Kernel

open SoTp.Lib SoTp.Utils

/-! ## What a join leaves -/

section

variable {PID tid : UInt32} {s s' : Nucleo}

/-- Nothing was found, or: an entry with the thread that was found as `hilo`, and as
`dependiente` the running thread with the same identity, which is moved. -/
theorem casoThreadJoin_cases (h : casoThreadJoin PID tid s = some s') :
    (buscarHilo PID tid s = some (NULL, s) ∧ s' = s) ∨
      ∃ hilo tcb lista, buscarHilo PID tid s = some (hilo, s) ∧ hilo ≠ NULL ∧
        obtenerTCBPorPIDyTID s.tcbs PID tid s.listaExecHilo = some tcb ∧
        quitarTCBDeLista s.tcbs PID tid s.listaExecHilo = some lista ∧
        s' = { s with
          listaDependencias := s.listaDependencias ++ [⟨hilo, tcb⟩]
          listaExecHilo := lista
          listaBloqHilo := s.listaBloqHilo ++ [tcb] } := by
  obtain ⟨⟨hilo, t⟩, hbuscar, hresto⟩ := Option.bind_eq_some_iff.mp h
  obtain rfl : t = s := buscarHilo_eq_some hbuscar
  dsimp only at hresto
  split at hresto
  · rename_i hhilo
    obtain ⟨tcb, htcb, hresto⟩ := Option.bind_eq_some_iff.mp hresto
    obtain ⟨lista, hlista, hresto⟩ := Option.bind_eq_some_iff.mp hresto
    obtain rfl := Option.some.inj hresto
    exact Or.inr ⟨hilo, tcb, lista, hbuscar, hhilo, htcb, hlista, rfl⟩
  · rename_i hhilo
    obtain rfl := not_not.mp hhilo
    exact Or.inl ⟨hbuscar, (Option.some.inj hresto).symm⟩

theorem buscarHilo_exec {tcb : Puntero} (hp : tcb ≠ NULL)
    (htcb : obtenerTCBPorPIDyTID s.tcbs PID tid s.listaExecHilo = some tcb) :
    buscarHilo PID tid s = some (tcb, s) := by
  unfold buscarHilo
  rw [htcb]
  exact if_pos hp

end

/-! ## A join -/

/-- The thread at `p` has that identity and is in the exec, blocked or ready collections. -/
def EstaEn (PID tid : UInt32) (s : Nucleo) (p : Puntero) : Prop :=
  EsHilo s.tcbs PID tid p ∧ ∃ lugar, lugar ≠ .dependencia ∧ p ∈ hilosEn s lugar

/-- What `THREAD_JOIN(tid)` owes to the thread at `tcb`. -/
structure JoinCorrecto (PID tid : UInt32) (s : Nucleo) (tcb : Puntero) : Prop where
  espera : ∀ p, EstaEn PID tid s p → p ≠ tcb →
    ∃ s' hilo, casoThreadJoin PID tid s = some s' ∧ EstaEn PID tid s hilo ∧ hilo ≠ tcb ∧
      tcb ∈ s'.listaBloqHilo ∧ tcb ∉ s'.listaExecHilo ∧
      s'.listaDependencias = s.listaDependencias ++ [⟨hilo, tcb⟩] ∧
      ∀ lugar, lugar ≠ .dependencia →
        (hilosEn s' lugar).count hilo = (hilosEn s lugar).count hilo
  nadie : (∀ p, EstaEn PID tid s p → p = tcb) → casoThreadJoin PID tid s = some s

theorem not_casoThreadJoin_espera {PID tid : UInt32} {s s' : Nucleo} {tcb hilo : Puntero}
    (hp : tcb ≠ NULL) (h : casoThreadJoin PID tid s = some s') (hhilo : hilo ≠ tcb)
    (hdep : s'.listaDependencias = s.listaDependencias ++ [⟨hilo, tcb⟩]) : False := by
  rcases casoThreadJoin_cases h with ⟨-, rfl⟩ | ⟨hilo', tcb', lista, hbuscar, -, htcb', -, rfl⟩
  · simp at hdep
  · have hentrada := List.append_cancel_left hdep
    obtain ⟨rfl, rfl⟩ := Dependencia.mk.inj (List.singleton_inj.mp hentrada)
    -- the running thread with that identity is the one that the search finds
    have hexec := buscarHilo_exec hp htcb'
    exact hhilo (Prod.mk.inj (Option.some.inj (hbuscar.symm.trans hexec))).1

/-- **When `THREAD_JOIN` does what it should**: exactly when no thread with that identity is in
any of the collections, the caller included, and all that the search looks at is a thread. For
every state with the caller, at `tcb`, in `lista_exec_hilo`. -/
theorem joinCorrecto_iff (PID TID tid : UInt32) (s : Nucleo) (tcb : Puntero) (hp : tcb ≠ NULL)
    (htcb : obtenerTCBPorPIDyTID s.tcbs PID TID s.listaExecHilo = some tcb)
    (hnulo : s.tcbs NULL = none) :
    JoinCorrecto PID tid s tcb ↔ NoHallado PID tid s ∧ ∀ p, ¬ EstaEn PID tid s p := by
  constructor
  · intro h
    have hsolo : ∀ p, EstaEn PID tid s p → p = tcb := by
      intro p hesta
      by_contra hne
      obtain ⟨s', hilo, hs', -, hhilo, -, -, hdep, -⟩ := h.espera p hesta hne
      exact not_casoThreadJoin_espera hp hs' hhilo hdep
    have hno : NoHallado PID tid s := by
      rcases casoThreadJoin_cases (h.nadie hsolo) with
        ⟨hbuscar, -⟩ | ⟨hilo, tcb', lista, -, -, -, -, hs⟩
      · exact (buscarHilo_eq_null_iff hnulo).mp hbuscar
      · have hdep := congrArg (fun t : Nucleo => t.listaDependencias.length) hs
        simp at hdep
    refine ⟨hno, fun p hesta => ?_⟩
    obtain rfl := hsolo p hesta
    have hmem := (obtenerTCBPorPIDyTID_ne_null hp htcb).1
    exact (hno.exec p hmem).not_esHilo hesta.1
  · rintro ⟨hno, hnadie⟩
    refine ⟨fun p hesta => absurd hesta (hnadie p), fun _ => ?_⟩
    unfold casoThreadJoin
    rw [(buscarHilo_eq_null_iff hnulo).mpr hno]
    rfl

/-- Thread 0 of process 0, at address 1, runs, and thread 1, at address 2, is ready. -/
def dosDelProceso : Nucleo :=
  { nucleoInicial .fifo with
    siguiente := 3
    tcbs := Function.update (Function.update (fun _ => none)
      1 (some ⟨0, 0, 0, EstadoProceso.exec.codigo⟩))
      2 (some ⟨0, 1, 0, EstadoProceso.ready.codigo⟩)
    colaReadyFifoPrioridades := some [2]
    listaExecHilo := [1] }

theorem esOtro_dosDelProceso : ∀ p ∈ ([1, 2] : List Puntero), EsOtro dosDelProceso.tcbs 0 7 p := by
  intro p hmem
  rcases List.mem_pair.mp hmem with rfl | rfl
  · exact ⟨_, rfl, by decide⟩
  · exact ⟨_, rfl, by decide⟩

theorem not_estaEn_dosDelProceso (p : Puntero) : ¬ EstaEn 0 7 dosDelProceso p := by
  rintro ⟨hid, lugar, hlugar, hmem⟩
  refine (esOtro_dosDelProceso p ?_).not_esHilo hid
  cases lugar with
  | exec => exact List.mem_pair.mpr (Or.inl (List.mem_singleton.mp hmem))
  | bloq => exact absurd hmem List.not_mem_nil
  | ready => exact List.mem_pair.mpr (Or.inr (List.mem_singleton.mp hmem))
  | dependencia => exact absurd rfl hlugar

/-- Thread 0 waits for a thread that there is not. -/
theorem joinCorrecto_inexistente : JoinCorrecto 0 7 dosDelProceso 1 := by
  refine (joinCorrecto_iff 0 0 7 dosDelProceso 1 (by decide) rfl rfl).mpr
    ⟨?_, not_estaEn_dosDelProceso⟩
  refine ⟨fun p hmem => esOtro_dosDelProceso p ?_, fun p hmem => absurd hmem List.not_mem_nil,
    fun _ p hmem => esOtro_dosDelProceso p ?_, fun halgoritmo => absurd halgoritmo (by decide)⟩
  · exact List.mem_pair.mpr (Or.inl (List.mem_singleton.mp hmem))
  · exact List.mem_pair.mpr (Or.inr (List.mem_singleton.mp hmem))

/-- Thread 0 waits for thread 1: it stays in `lista_exec_hilo`, the entry is of thread 1 with
nobody, and a null pointer joins `lista_bloq_hilo`. -/
theorem not_joinCorrecto_ready :
    (casoThreadJoin 0 1 dosDelProceso).map
        (fun s => (s.listaExecHilo, s.listaBloqHilo, s.listaDependencias)) =
      some ([1], [NULL], [⟨2, NULL⟩]) ∧
    ¬ JoinCorrecto 0 1 dosDelProceso 1 := by
  refine ⟨rfl, fun h => ?_⟩
  have hesta : EstaEn 0 1 dosDelProceso 2 :=
    ⟨⟨_, rfl, rfl, rfl⟩, .ready, by decide, List.mem_singleton.mpr rfl⟩
  obtain ⟨s', hilo, hs', -, -, -, hsale, -⟩ := h.espera 2 hesta (by decide)
  obtain rfl := Option.some.inj hs'
  exact hsale (List.mem_singleton.mpr rfl)

end SoTp.Kernel
