import SoTp.Kernel.Orden

/-!
# The identity of processes

`crear_pcb` (`kernel/src/k_largo_plazo.c`, lines 28–43) takes the `PID` of a process from the
counter `process_id`, and increments it. Other functions write a PCB: `crearProceso` sets its
`estado`, `MUTEX_CREATE` adds a mutex, `finalizarProceso` frees it. None changes a `PID`.

* `marco_pids`: what every edit of the kernel keeps.
* `run_pids`: in every run the processes are **numbered in the order of their creation**, so no
  two have the same `PID`, until the counter comes round.
-/

namespace SoTp.Kernel

open SoTp.Lib SoTp.Utils

/-! ## The order of the PCBs -/

/-- The PCBs that exist: each has a `PID` below the counter, and of two the one that was made
later has the larger one. -/
structure Numerados (s : EstadoKernel) : Prop where
  usados : ∀ p b, s.pcbs p = some b → p < s.siguiente
  contador : ∃ n < s.siguiente, s.processId = Int32.ofNat n ∧
    ∀ p b, s.pcbs p = some b → b.PID.toNat < n
  orden : ∀ p q b c, s.pcbs p = some b → s.pcbs q = some c → p < q → b.PID.toNat < c.PID.toNat

section

variable {s s' t : EstadoKernel}

theorem numerados_inicial (algoritmo : Algoritmo) : Numerados (kernelInicial algoritmo) where
  usados _ _ hb := nomatch hb
  contador := ⟨0, Nat.one_pos, rfl, fun _ _ hb => nomatch hb⟩
  orden _ _ _ _ hb := nomatch hb

/-- No PCB is made, and no `PID` is written. -/
theorem Numerados.of_pcbs (hs : Numerados s) (hid : s'.processId = s.processId)
    (hsiguiente : s.siguiente ≤ s'.siguiente)
    (hpcbs : ∀ p b', s'.pcbs p = some b' → ∃ b, s.pcbs p = some b ∧ b.PID = b'.PID) :
    Numerados s' where
  usados := by
    intro p b' hb'
    obtain ⟨b, hb, -⟩ := hpcbs p b' hb'
    exact (hs.usados p b hb).trans_le hsiguiente
  contador := by
    obtain ⟨n, hn, hcontador, hpids⟩ := hs.contador
    refine ⟨n, hn.trans_le hsiguiente, hid.trans hcontador, fun p b' hb' => ?_⟩
    obtain ⟨b, hb, hpid⟩ := hpcbs p b' hb'
    exact hpid ▸ hpids p b hb
  orden := by
    intro p q b' c' hb' hc' hlt
    obtain ⟨b, hb, hb₁⟩ := hpcbs p b' hb'
    obtain ⟨c, hc, hc₁⟩ := hpcbs q c' hc'
    exact hb₁ ▸ hc₁ ▸ hs.orden p q b c hb hc hlt

/-- **A new process** gets the counter, which is larger than every `PID`. -/
theorem Numerados.nuevo (hs : Numerados s) (hsiguiente : s.siguiente + 1 ≤ 2 ^ 32)
    (cola : List Puntero) : Numerados { (crearPcb s).2 with colaNew := cola } := by
  obtain ⟨n, hn, hcontador, hpids⟩ := hs.contador
  have hpid : s.processId.toUInt32.toNat = n := by
    rw [hcontador, Int32.toUInt32_ofNat']
    exact UInt32.toNat_ofNat_of_lt' (hn.trans_le (Nat.le_of_succ_le hsiguiente))
  -- a PCB is the new one or an old one
  have hcasos (p : Puntero) (b : PCB) (hb : (crearPcb s).2.pcbs p = some b) :
      (p = s.siguiente ∧ b.PID.toNat = n) ∨ (p < s.siguiente ∧ s.pcbs p = some b) := by
    by_cases hp : p = s.siguiente
    · subst hp
      have hnuevo := (Function.update_self _ _ _).symm.trans hb
      exact Or.inl ⟨rfl, Option.some.inj hnuevo ▸ hpid⟩
    · have hviejo := (Function.update_of_ne hp _ _).symm.trans hb
      exact Or.inr ⟨hs.usados p b hviejo, hviejo⟩
  refine ⟨fun p b hb => ?_, ⟨n + 1, Nat.succ_lt_succ hn, ?_, fun p b hb => ?_⟩,
    fun p q b c hb hc hlt => ?_⟩
  · obtain ⟨rfl, -⟩ | ⟨hp, -⟩ := hcasos p b hb
    · exact Nat.lt_succ_self _
    · exact Nat.lt_succ_of_lt hp
  · show s.processId + 1 = Int32.ofNat (n + 1)
    rw [hcontador, Int32.ofNat_add]
    rfl
  · obtain ⟨-, hb'⟩ | ⟨-, hb'⟩ := hcasos p b hb
    · exact hb' ▸ Nat.lt_succ_self n
    · exact Nat.lt_succ_of_lt (hpids p b hb')
  · obtain ⟨rfl, hc'⟩ | ⟨hq, hc'⟩ := hcasos q c hc
    · obtain ⟨rfl, -⟩ | ⟨-, hb'⟩ := hcasos p b hb
      · exact absurd hlt (lt_irrefl _)
      · exact hc' ▸ hpids p b hb'
    · obtain ⟨rfl, -⟩ | ⟨-, hb'⟩ := hcasos p b hb
      · exact absurd (hlt.trans hq) (lt_irrefl _)
      · exact hs.orden p q b c hb' hc' hlt

/-! ## The edits -/

/-- What a step keeps while the counter has not come round. -/
def SigueNumerando (s s' : EstadoKernel) : Prop :=
  s.siguiente ≤ s'.siguiente ∧ (s'.siguiente ≤ 2 ^ 32 → Numerados s → Numerados s')

theorem sigue_of_pcbs (hid : s'.processId = s.processId) (hsiguiente : s.siguiente ≤ s'.siguiente)
    (hpcbs : ∀ p b', s'.pcbs p = some b' → ∃ b, s.pcbs p = some b ∧ b.PID = b'.PID) :
    SigueNumerando s s' :=
  ⟨hsiguiente, fun _ hs => hs.of_pcbs hid hsiguiente hpcbs⟩

theorem sigue_of_eq (hid : s'.processId = s.processId) (hsiguiente : s.siguiente ≤ s'.siguiente)
    (hpcbs : s'.pcbs = s.pcbs) : SigueNumerando s s' :=
  sigue_of_pcbs hid hsiguiente fun _ b' hb' => ⟨b', hpcbs ▸ hb', rfl⟩

theorem sigue_of_update {p : Puntero} {b b' : PCB} (hb : s.pcbs p = some b) (hpid : b.PID = b'.PID)
    (hid : s'.processId = s.processId) (hsiguiente : s.siguiente ≤ s'.siguiente)
    (hpcbs : s'.pcbs = Function.update s.pcbs p (some b')) : SigueNumerando s s' := by
  refine sigue_of_pcbs hid hsiguiente fun q c' hc' => ?_
  rw [hpcbs] at hc'
  by_cases hq : q = p
  · rw [hq, Function.update_self] at hc'
    exact ⟨b, hq ▸ hb, Option.some.inj hc' ▸ hpid⟩
  · rw [Function.update_of_ne hq] at hc'
    exact ⟨c', hc', rfl⟩

theorem SigueNumerando.trans (h : SigueNumerando s t) (h' : SigueNumerando t s') :
    SigueNumerando s s' :=
  ⟨h.1.trans h'.1, fun hle hs => h'.2 hle (h.2 (h'.1.trans hle) hs)⟩

theorem marco_pids : MarcoKernel SigueNumerando where
  refl _ := sigue_of_eq rfl le_rfl rfl
  trans := SigueNumerando.trans
  dependencias _ _ := sigue_of_eq rfl le_rfl rfl
  estado h := by
    obtain ⟨tcb, -, rfl⟩ := Option.map_eq_some_iff.mp h
    exact sigue_of_eq rfl le_rfl rfl
  bloq _ := sigue_of_eq rfl le_rfl rfl
  encolar h := by
    obtain ⟨cola, -, h⟩ := Option.bind_eq_some_iff.mp h
    obtain ⟨tcb, -, h⟩ := Option.bind_eq_some_iff.mp h
    exact Option.some.inj h ▸ sigue_of_eq rfl le_rfl rfl
  insertar h := by
    obtain ⟨-, rfl⟩ | ⟨tcb, cola, -, -, -, -, rfl⟩ := insertarEnColaReadyCmn_cases h
    · exact sigue_of_eq rfl le_rfl rfl
    · exact sigue_of_eq rfl le_rfl rfl
  crear s _ _ _ := sigue_of_eq rfl (Nat.le_succ s.siguiente) rfl
  liberar _ _ := sigue_of_eq rfl le_rfl rfl
  bloquear _ _ := sigue_of_eq rfl le_rfl rfl
  esperar _ _ := sigue_of_eq rfl le_rfl rfl
  mutex s pcb b mutex hb := by
    have hpid : b.PID = ({ b with mutex := b.mutex ++ [mutex] } : PCB).PID := rfl
    exact sigue_of_update hb hpid rfl (Nat.le_succ s.siguiente) rfl
  terminar s pcb := by
    refine sigue_of_pcbs rfl le_rfl fun p b' hb' => ?_
    dsimp only at hb'
    by_cases hp : p = pcb
    · rw [hp, Function.update_self] at hb'
      cases hb'
    · rw [Function.update_of_ne hp] at hb'
      exact ⟨b', hb', rfl⟩
  nuevo s := ⟨Nat.le_succ s.siguiente, fun hle hs => hs.nuevo hle _⟩
  admitir s pcb b hb := by
    have hpid : b.PID = ({ b with estado := .ready } : PCB).PID := rfl
    exact sigue_of_update hb hpid rfl le_rfl rfl
  contador _ _ := sigue_of_eq rfl le_rfl rfl

end

/-! ## Runs -/

/-- **One step**: the dispatcher writes threads only. -/
theorem suceder_pids {s s' : Marcha} {suceso : Suceso} (hs : SinNulo s.toEstadoKernel)
    (h : suceder s suceso = some s') :
    SigueNumerando s.toEstadoKernel s'.toEstadoKernel := by
  cases suceso with
  | despachar elegido =>
    cases despachar_iteracion hs h with
    | nada candado nivel => exact sigue_of_eq rfl le_rfl rfl
    | envia p tcb cola colas htcb htoma => exact sigue_of_eq rfl le_rfl rfl
  | crearProceso m prioridad => exact suceder_marco marco_pids h nofun
  | rechazo => exact suceder_marco marco_pids h nofun
  | respuesta PID TID syscall m => exact suceder_marco marco_pids h nofun

/-- **Every process has a `PID` of its own**, in every state of every run in which fewer than
`2 ^ 32` blocks have been allocated: a process was created before another one exactly when its
`PID` is smaller. -/
theorem run_pids (algoritmo : Algoritmo) (sucesos : List Suceso) (s : Marcha)
    (hrun : run suceder (marchaInicial algoritmo) sucesos = some s)
    (hsiguiente : s.siguiente ≤ 2 ^ 32) {p q : Puntero} {b c : PCB} (hb : s.pcbs p = some b)
    (hc : s.pcbs q = some c) :
    (p < q ↔ b.PID.toNat < c.PID.toNat) ∧ (b.PID = c.PID → p = q) := by
  have hkeep (u : Marcha) (suceso : Suceso) (u' : Marcha)
      (hu : Bajo algoritmo u ∧ (u.siguiente ≤ 2 ^ 32 → Numerados u.toEstadoKernel)) (_ : True)
      (hu' : suceder u suceso = some u') :
      Bajo algoritmo u' ∧ (u'.siguiente ≤ 2 ^ 32 → Numerados u'.toEstadoKernel) := by
    obtain ⟨hle, hsigue⟩ := suceder_pids hu.1.sinNulo hu'
    exact ⟨suceder_bajo hu.1 hu', fun hlt => hsigue hlt (hu.2 (hle.trans hlt))⟩
  have hnumerados := (run_invariant hkeep ⟨⟨sinNulo_inicial algoritmo, rfl⟩,
    fun _ => numerados_inicial algoritmo⟩ (along_true _ _) hrun).2 hsiguiente
  have horden := hnumerados.orden
  rcases lt_trichotomy p q with hlt | rfl | hlt
  · have hpid := horden p q b c hb hc hlt
    exact ⟨iff_of_true hlt hpid, fun heq => absurd (heq ▸ hpid) (lt_irrefl _)⟩
  · obtain rfl := Option.some.inj (hb.symm.trans hc)
    exact ⟨iff_of_false (lt_irrefl _) (lt_irrefl _), fun _ => rfl⟩
  · have hpid := horden q p c b hc hb hlt
    exact ⟨iff_of_false hlt.asymm hpid.asymm, fun heq => absurd (heq ▸ hpid) (lt_irrefl _)⟩

/-- The processes at addresses 1 and 2 wait; they are 0 and 1. -/
theorem run_pids_dos : ∃ s b c,
    run suceder (marchaInicial .fifo) [.rechazo, .crearProceso memoriaAcepta 0] = some s ∧
      s.pcbs 1 = some b ∧ s.pcbs 2 = some c ∧ b.PID = 0 ∧ c.PID = 1 ∧ (b.PID = c.PID → 1 = 2) :=
  ⟨_, _, _, rfl, rfl, rfl, rfl, rfl, (run_pids .fifo [.rechazo, .crearProceso memoriaAcepta 0] _
    rfl (by decide) rfl rfl).2⟩

end SoTp.Kernel
