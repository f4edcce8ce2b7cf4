import SoTp.Kernel.Dependencias
import SoTp.Kernel.Join

/-!
# Cancelling a thread

`THREAD_CANCEL` (`kernel/src/main.c`, lines 333–345). The search for the thread takes it out of
no collection; `liberar_tcb` takes it out of `lista_bloq_hilo`, and only when somebody waits
for it.

* `casoThreadCancel_eq`: what the syscall does with the thread that the search has found.
* `Cancelable.cancelado`: a cancelled thread is gone when it was in `lista_bloq_hilo` once, was
  in no other collection, and somebody waits for it.
* `cancelCorrecto_cancelable`: that is enough where no joiner that is woken is released in turn,
  and there it is needed as well.
-/

namespace SoTp.Kernel

open SoTp.Lib SoTp.Utils

/-! ## Specification -/

/-- The thread at `q` waits for a thread with that identity. -/
def EsperaHilo (PID tid : UInt32) (s : Nucleo) (q : Puntero) : Prop :=
  ∃ dep ∈ s.listaDependencias, EsHilo s.tcbs PID tid dep.hilo ∧ dep.dependiente = q

/-- Between `s` and `s'` the threads with that identity have left all collections, and every
other one is where it was, or waited for them and is ready. -/
structure Cancelado (PID tid : UInt32) (s s' : Nucleo) : Prop where
  idos : ∀ q, EsHilo s.tcbs PID tid q → ∀ lugar, lugar ≠ .dependencia → q ∉ hilosEn s' lugar
  otros : ∀ q, ¬ EsHilo s.tcbs PID tid q →
    (∀ lugar, lugar ≠ .dependencia → (hilosEn s' lugar).count q = (hilosEn s lugar).count q) ∨
      EsperaHilo PID tid s q ∧ q ∈ hilosEn s' .ready

/-- What `THREAD_CANCEL(tid)` owes to the kernel. -/
structure CancelCorrecto (PID : UInt32) (m : Entorno) (tid : UInt32) (s : Nucleo) : Prop where
  existe : (∃ p, EstaEn PID tid s p) → m.finHilo = true →
    ∃ s', casoThreadCancel PID m tid s = some s' ∧ Cancelado PID tid s s'
  noExiste : (∀ p, ¬ EstaEn PID tid s p) → casoThreadCancel PID m tid s = some s

/-- The thread at `p` has that identity and is in `lista_bloq_hilo`, and no thread with that
identity is anywhere else. Somebody waits for it; those that are woken are on the heap, there is
a queue for them, and none of them has that identity and a place among the ready ones. -/
structure Cancelable (PID tid : UInt32) (s : Nucleo) (p : Puntero) : Prop where
  hilo : EsHilo s.tcbs PID tid p
  exec : ∀ q ∈ s.listaExecHilo, EsOtro s.tcbs PID tid q
  bloq : ∃ l₁ l₂, s.listaBloqHilo = l₁ ++ p :: l₂ ∧ (∀ q ∈ l₁, EsOtro s.tcbs PID tid q) ∧
    ∀ q ∈ l₂, ¬ EsHilo s.tcbs PID tid q
  ready : ∀ q ∈ hilosEn s .ready, ¬ EsHilo s.tcbs PID tid q
  espera : tieneDependiente p s.toEstadoKernel = true
  cola : ColaCreada s.toEstadoKernel
  vivos : ∀ dep ∈ quitadas p s.toEstadoKernel, (s.tcbs dep.dependiente).isSome
  despiertos : ∀ dep ∈ quitadas p s.toEstadoKernel, Entra dep.dependiente s.toEstadoKernel →
    ¬ EsHilo s.tcbs PID tid dep.dependiente

/-- None of the joiners of the thread at `p` that are woken is released in turn: under `CMN` each
of them has a level, or nobody waits for it. -/
def DespiertaSimple (s : Nucleo) (p : Puntero) : Prop :=
  SinAnidar ((quitadas p s.toEstadoKernel).map (·.dependiente)) s.toEstadoKernel

/-! ## What a cancellation does -/

/-- The block of the thread is marked as `EXIT`. -/
def marcarExit (p : Puntero) (tcb : TCB) (s : EstadoKernel) : EstadoKernel :=
  { s with
    tcbs := Function.update s.tcbs p (some { tcb with estado := EstadoProceso.exit.codigo }) }

section

variable {PID tid : UInt32} {m : Entorno} {s s' : Nucleo} {p : Puntero} {tcb : TCB}

theorem marcarExit_mismosHilos {k : EstadoKernel} (htcb : k.tcbs p = some tcb) :
    MismosHilos k (marcarExit p tcb k) :=
  ponerEstado_mismosHilos (ponerEstado_eq htcb .exit)

/-- The thread that the search has found is released and freed, when memoria accepts. -/
theorem casoThreadCancel_eq (hp : p ≠ NULL) (hbuscar : buscarHilo PID tid s = some (p, s))
    (htcb : s.tcbs p = some tcb) (hacepta : m.finHilo = true) :
    casoThreadCancel PID m tid s =
      (liberarTcb agregarHiloAReady p (marcarExit p tcb s.toEstadoKernel)).map fun k =>
        s.conKernel { k with tcbs := Function.update k.tcbs p none } := by
  have hmarcado : (marcarExit p tcb s.toEstadoKernel).tcbs p =
      some { tcb with estado := EstadoProceso.exit.codigo } := Function.update_self _ _ _
  unfold casoThreadCancel
  rw [hbuscar]
  show (ponerEstado p .exit s.toEstadoKernel).bind _ = _
  rw [ponerEstado_eq htcb, Option.bind_some]
  show (finalizarHilo m.finHilo p (marcarExit p tcb s.toEstadoKernel)).map s.conKernel = _
  unfold finalizarHilo
  rw [if_neg hp, hmarcado, hacepta]
  show ((liberarTcb agregarHiloAReady p (marcarExit p tcb s.toEstadoKernel)).bind _).map _ = _
  cases liberarTcb agregarHiloAReady p (marcarExit p tcb s.toEstadoKernel) <;> rfl

theorem casoThreadCancel_hallado (hnulo : s.tcbs NULL = none)
    (h : casoThreadCancel PID m tid s = some s') :
    ∃ p tcb, p ≠ NULL ∧ buscarHilo PID tid s = some (p, s) ∧ s.tcbs p = some tcb := by
  obtain ⟨⟨p, t⟩, hbuscar, hresto⟩ := Option.bind_eq_some_iff.mp h
  obtain rfl : t = s := buscarHilo_eq_some hbuscar
  obtain ⟨k, hk, -⟩ := Option.bind_eq_some_iff.mp hresto
  obtain ⟨tcb, htcb, -⟩ := Option.map_eq_some_iff.mp hk
  exact ⟨p, tcb, ne_null_of_eq_some hnulo htcb, hbuscar, htcb⟩

theorem estaEn_of_buscarHilo (hnulo : s.tcbs NULL = none) (hp : p ≠ NULL)
    (hbuscar : buscarHilo PID tid s = some (p, s)) : EstaEn PID tid s p := by
  obtain ⟨hid, hlugar⟩ := buscarHilo_esHilo hnulo hp hbuscar
  refine ⟨hid, ?_⟩
  rcases hlugar with hexec | hbloq | hcola | ⟨i, hi, hnivel⟩
  · exact ⟨.exec, by decide, hexec⟩
  · exact ⟨.bloq, by decide, hbloq⟩
  · exact ⟨.ready, by decide, List.mem_append_left _ hcola⟩
  · exact ⟨.ready, by decide, List.mem_append_right _
      (List.mem_flatMap.mpr ⟨i, List.mem_range.mpr hi, hnivel⟩)⟩

theorem DespiertaSimple.marcarExit (h : DespiertaSimple s p) (htcb : s.tcbs p = some tcb) :
    SinAnidar ((quitadas p s.toEstadoKernel).map (·.dependiente))
      (marcarExit p tcb s.toEstadoKernel) := by
  intro hcmn d hd
  rcases h hcmn d hd with hins | hsin
  · exact Or.inl ((marcarExit_mismosHilos htcb).insertable_iff.mpr hins)
  · exact Or.inr hsin

/-- What a cancellation leaves of the collections, when somebody waits for the thread that the
search has found. -/
theorem casoThreadCancel_deja (hp : p ≠ NULL) (hbuscar : buscarHilo PID tid s = some (p, s))
    (hid : EsHilo s.tcbs PID tid p) (hacepta : m.finHilo = true)
    (htiene : tieneDependiente p s.toEstadoKernel = true) (hsimple : DespiertaSimple s p)
    (h : casoThreadCancel PID m tid s = some s') :
    ColaCreada s.toEstadoKernel ∧
      (∀ dep ∈ quitadas p s.toEstadoKernel, (s.tcbs dep.dependiente).isSome) ∧
      quitarTCBDeLista s.tcbs PID tid s.listaBloqHilo = some s'.listaBloqHilo ∧
      s'.listaExecHilo = s.listaExecHilo ∧
      ∃ entran : List Puntero,
        (∀ d, d ∈ entran ↔ (∃ dep ∈ quitadas p s.toEstadoKernel, dep.dependiente = d) ∧
          Entra d s.toEstadoKernel) ∧
        (hilosEn s' .ready).Perm (entran ++ hilosEn s .ready) := by
  obtain ⟨tcb, htcb, hPID, hTID⟩ := hid
  have hmismos := marcarExit_mismosHilos (k := s.toEstadoKernel) htcb
  have hid' : EsHilo (marcarExit p tcb s.toEstadoKernel).tcbs PID tid p :=
    ⟨_, Function.update_self _ _ _, hPID, hTID⟩
  rw [casoThreadCancel_eq hp hbuscar htcb hacepta] at h
  obtain ⟨k, hk, rfl⟩ := Option.map_eq_some_iff.mp h
  obtain ⟨hcola, hvivos, hlista, entran, hentran, hperm⟩ := liberarTcb_deja hp hid' htiene
    (hsimple.marcarExit htcb) hk
  refine ⟨hcola, fun dep hdep => ?_, ?_, rfl, entran, fun d => ?_, hperm⟩
  · rw [← hmismos.isSome]
    exact hvivos _ (List.mem_map_of_mem hdep)
  · rw [quitarTCBDeLista_congr hmismos.identidad] at hlista
    exact hlista
  · rw [hentran, hmismos.entra_iff, List.mem_map]
    exact Iff.rfl

/-- It comes back when there is a queue, and everything that it follows is a thread. -/
theorem casoThreadCancel_vuelve (hp : p ≠ NULL) (hbuscar : buscarHilo PID tid s = some (p, s))
    (hid : EsHilo s.tcbs PID tid p) (hacepta : m.finHilo = true)
    (hsimple : DespiertaSimple s p) (hcola : ColaCreada s.toEstadoKernel)
    (hvivos : ∀ dep ∈ quitadas p s.toEstadoKernel, (s.tcbs dep.dependiente).isSome)
    {lista : List Puntero}
    (hlista : quitarTCBDeLista s.tcbs PID tid s.listaBloqHilo = some lista) :
    ∃ s', casoThreadCancel PID m tid s = some s' := by
  obtain ⟨tcb, htcb, hPID, hTID⟩ := hid
  have hid' : EsHilo (marcarExit p tcb s.toEstadoKernel).tcbs PID tid p :=
    ⟨_, Function.update_self _ _ _, hPID, hTID⟩
  have hmismos := marcarExit_mismosHilos (k := s.toEstadoKernel) htcb
  have hvivos' : ∀ d ∈ (quitadas p s.toEstadoKernel).map (·.dependiente),
      ((marcarExit p tcb s.toEstadoKernel).tcbs d).isSome := by
    rw [List.forall_mem_map]
    intro dep hdep
    rw [hmismos.isSome]
    exact hvivos dep hdep
  obtain ⟨k, hk⟩ := liberarTcb_vuelve hp hid' (hsimple.marcarExit htcb)
    (hmismos.colaCreada hcola) hvivos' ((quitarTCBDeLista_congr hmismos.identidad _).trans hlista)
  rw [casoThreadCancel_eq hp hbuscar htcb hacepta, hk]
  exact ⟨_, rfl⟩

/-- Where nobody waits for the thread that the search has found, all collections stay. -/
theorem casoThreadCancel_sinEspera (hp : p ≠ NULL) (hbuscar : buscarHilo PID tid s = some (p, s))
    (hid : EsHilo s.tcbs PID tid p) (hacepta : m.finHilo = true)
    (htiene : ¬ tieneDependiente p s.toEstadoKernel = true)
    (h : casoThreadCancel PID m tid s = some s') (lugar : Lugar) :
    hilosEn s' lugar = hilosEn s lugar := by
  obtain ⟨tcb, htcb, -⟩ := hid
  have hlibera : liberarTcb agregarHiloAReady p (marcarExit p tcb s.toEstadoKernel) =
      some (marcarExit p tcb s.toEstadoKernel) := by
    have htiene' : ¬ tieneDependiente p (marcarExit p tcb s.toEstadoKernel) = true := htiene
    unfold liberarTcb
    rw [if_neg hp, if_neg htiene']
  rw [casoThreadCancel_eq hp hbuscar htcb hacepta, hlibera] at h
  obtain rfl := Option.some.inj h
  cases lugar <;> rfl

/-! ## When a cancelled thread is gone -/

/-- The search finds a thread that is as `Cancelable` says. -/
theorem Cancelable.hallado (h : Cancelable PID tid s p) (hnulo : s.tcbs NULL = none) :
    buscarHilo PID tid s = some (p, s) := by
  obtain ⟨l₁, l₂, hbloq, hl₁, -⟩ := h.bloq
  obtain ⟨tcb, htcb, -⟩ := h.hilo
  rw [buscarHilo_eq hnulo, obtenerTCBPorPIDyTID_otros h.exec, Option.bind_some,
    if_neg (not_not.mpr rfl), hbloq, obtenerTCBPorPIDyTID_append hl₁ h.hilo, Option.bind_some,
    if_pos (ne_null_of_eq_some hnulo htcb)]

/-- It is gone afterwards. -/
theorem Cancelable.cancelado (h : Cancelable PID tid s p) (hnulo : s.tcbs NULL = none)
    (hacepta : m.finHilo = true) (hsimple : DespiertaSimple s p) :
    ∃ s', casoThreadCancel PID m tid s = some s' ∧ Cancelado PID tid s s' := by
  obtain ⟨l₁, l₂, hbloq, hl₁, hl₂⟩ := h.bloq
  obtain ⟨tcb, htcb, -⟩ := h.hilo
  have hp : p ≠ NULL := ne_null_of_eq_some hnulo htcb
  have hbuscar := h.hallado hnulo
  have hlista : quitarTCBDeLista s.tcbs PID tid s.listaBloqHilo = some (l₁ ++ l₂) := by
    rw [hbloq]
    exact quitarTCBDeLista_append hl₁ h.hilo
  obtain ⟨s', hs'⟩ :=
    casoThreadCancel_vuelve hp hbuscar h.hilo hacepta hsimple h.cola h.vivos hlista
  obtain ⟨-, -, hlista', hexec, entran, hentran, hready⟩ :=
    casoThreadCancel_deja hp hbuscar h.hilo hacepta h.espera hsimple hs'
  have hbloq' : s'.listaBloqHilo = l₁ ++ l₂ := Option.some.inj (hlista'.symm.trans hlista)
  refine ⟨s', hs', fun q hq lugar hlugar hmem => ?_, fun q hq => ?_⟩
  · cases lugar with
    | exec => exact (h.exec q (hexec ▸ hmem)).not_esHilo hq
    | bloq =>
      have hmem' : q ∈ l₁ ++ l₂ := hbloq' ▸ hmem
      rcases List.mem_append.mp hmem' with hmem' | hmem'
      · exact (hl₁ q hmem').not_esHilo hq
      · exact hl₂ q hmem' hq
    | ready =>
      rcases List.mem_append.mp (hready.mem_iff.mp hmem) with hmem' | hmem'
      · obtain ⟨⟨dep, hdep, rfl⟩, hentra⟩ := (hentran q).mp hmem'
        exact h.despiertos dep hdep hentra hq
      · exact h.ready q hmem' hq
    | dependencia => exact hlugar rfl
  · by_cases hdespierta : q ∈ entran
    · obtain ⟨⟨dep, hdep, rfl⟩, -⟩ := (hentran q).mp hdespierta
      refine Or.inr ⟨⟨dep, (skipRemoved_sublist _ _).subset hdep, ?_, rfl⟩,
        hready.mem_iff.mpr (List.mem_append_left _ hdespierta)⟩
      rw [(mem_quitadas hdep).1]
      exact h.hilo
    · refine Or.inl fun lugar hlugar => ?_
      cases lugar with
      | exec => exact congrArg (List.count q) hexec
      | bloq =>
        have hne : p ≠ q := by
          rintro rfl
          exact hq h.hilo
        show s'.listaBloqHilo.count q = s.listaBloqHilo.count q
        rw [hbloq', hbloq, List.count_append, List.count_append, List.count_cons_of_ne hne]
      | ready =>
        rw [hready.count_eq, List.count_append, List.count_eq_zero_of_not_mem hdespierta,
          Nat.zero_add]
      | dependencia => exact absurd rfl hlugar

/-- The thread that the search has found is gone only if it was as `Cancelable` says. -/
theorem Cancelado.cancelable (h : Cancelado PID tid s s') (hnulo : s.tcbs NULL = none)
    (hp : p ≠ NULL) (hbuscar : buscarHilo PID tid s = some (p, s)) (hacepta : m.finHilo = true)
    (hsimple : DespiertaSimple s p) (hs' : casoThreadCancel PID m tid s = some s') :
    Cancelable PID tid s p := by
  obtain ⟨hid, lugar, hlugar, hmem⟩ := estaEn_of_buscarHilo hnulo hp hbuscar
  by_cases htiene : tieneDependiente p s.toEstadoKernel = true
  · obtain ⟨hcola, hvivos, hlista, hexec, entran, hentran, hready⟩ :=
      casoThreadCancel_deja hp hbuscar hid hacepta htiene hsimple hs'
    have hfueraExec : ∀ q ∈ s.listaExecHilo, ¬ EsHilo s.tcbs PID tid q := by
      intro q hq hid
      refine h.idos q hid .exec (by decide) ?_
      show q ∈ s'.listaExecHilo
      rw [hexec]
      exact hq
    have hfueraReady : ∀ q ∈ hilosEn s .ready, ¬ EsHilo s.tcbs PID tid q := fun q hq hid =>
      h.idos q hid .ready (by decide) (hready.mem_iff.mpr (List.mem_append_right _ hq))
    have hpbloq : p ∈ s.listaBloqHilo := by
      cases lugar with
      | exec => exact absurd hid (hfueraExec p hmem)
      | bloq => exact hmem
      | ready => exact absurd hid (hfueraReady p hmem)
      | dependencia => exact absurd rfl hlugar
    refine ⟨hid, ?_, ?_, hfueraReady, htiene, hcola, hvivos, fun dep hdep hentra hid => ?_⟩
    · rw [buscarHilo_eq hnulo] at hbuscar
      obtain ⟨p₁, hexec₁, -⟩ := Option.bind_eq_some_iff.mp hbuscar
      rcases obtenerTCBPorPIDyTID_cases hexec₁ with ⟨l₁, l₂, hlista₁, -, hid₁⟩ | ⟨-, hotros⟩
      · exact absurd hid₁ (hfueraExec p₁ (by simp [hlista₁]))
      · exact hotros
    · rcases quitarTCBDeLista_cases hlista with ⟨l₁, q, l₂, hbloq, hl₁, hq, hbloq'⟩ | ⟨-, hotros⟩
      · have hl₂ : ∀ r ∈ l₂, ¬ EsHilo s.tcbs PID tid r := by
          intro r hr hid
          refine h.idos r hid .bloq (by decide) ?_
          show r ∈ s'.listaBloqHilo
          rw [hbloq']
          exact List.mem_append_right _ hr
        have hqp : q = p := by
          rw [hbloq] at hpbloq
          rcases List.mem_append.mp hpbloq with hp₁ | hp₂
          · exact absurd hid (hl₁ p hp₁).not_esHilo
          · rcases List.mem_cons.mp hp₂ with heq | hp₂
            · exact heq.symm
            · exact absurd hid (hl₂ p hp₂)
        exact ⟨l₁, l₂, hqp ▸ hbloq, hl₁, hl₂⟩
      · exact absurd hid (hotros p hpbloq).not_esHilo
    · have hentran' : dep.dependiente ∈ entran := (hentran _).mpr ⟨⟨dep, hdep, rfl⟩, hentra⟩
      exact h.idos _ hid .ready (by decide)
        (hready.mem_iff.mpr (List.mem_append_left _ hentran'))
  · have hqueda := casoThreadCancel_sinEspera hp hbuscar hid hacepta htiene hs' lugar
    exact absurd (hqueda ▸ hmem) (h.idos p hid lugar hlugar)

end

/-- Thread 0 of process 0, at address 1, runs. Threads 1 and 2, at 2 and 3, are blocked, and the
second of them waits for the first. -/
def unoEspera : Nucleo :=
  { nucleoInicial .fifo with
    siguiente := 4
    tcbs := fun p =>
      if p = 1 then some ⟨0, 0, 0, EstadoProceso.exec.codigo⟩
      else if p = 2 then some ⟨0, 1, 0, EstadoProceso.blocked.codigo⟩
      else if p = 3 then some ⟨0, 2, 0, EstadoProceso.blocked.codigo⟩
      else none
    listaExecHilo := [1]
    listaBloqHilo := [2, 3]
    listaDependencias := [⟨2, 3⟩] }

end SoTp.Kernel
