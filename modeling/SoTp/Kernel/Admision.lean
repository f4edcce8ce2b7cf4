import SoTp.Kernel.Hilos

/-!
# Admission of a process

`crearProceso` (`kernel/src/k_largo_plazo.c`, lines 45–87) asks memoria for a process only
when `cola_new` is empty. After a refusal it waits for `sem_nuevoProceso` and calls itself:
the second call allocates another PCB and finds the first one in `cola_new`, so it puts the
new one behind it, does not ask memoria again, and returns.

* `crearProceso_ocupada`, `crearProceso_rechazada`: what is left of a request that finds
  another one waiting, and of one that is refused.
* `admisionFiel_iff`: a request is admitted as it should be **if and only if** nobody waits,
  memoria does not refuse it, and its thread 0 can be made.
-/

namespace SoTp.Kernel

open SoTp.Lib SoTp.Utils

/-! ## What admission owes -/

/-- The states in which a call waits for `sem_nuevoProceso`, one after each refusal. -/
def esperas : List Int32 → EstadoKernel → List EstadoKernel
  | respuestas, s =>
    let (nuevoPCB, s) := crearPcb s
    let s' := { s with colaNew := s.colaNew ++ [nuevoPCB] }
    if s.colaNew = [] then
      match respuestas with
      | [] => []
      | respuesta :: respuestas => if respuesta = 1 then [] else s' :: esperas respuestas s'
    else []

/-- `malloc` returns blocks that are not in use. -/
structure Libres (s : EstadoKernel) : Prop where
  pcbs : ∀ p, s.siguiente ≤ p → s.pcbs p = none
  tcbs : ∀ p, s.siguiente ≤ p → s.tcbs p = none
  nuevos : ∀ p ∈ s.colaNew, p < s.siguiente
  dependencias : ∀ dep ∈ s.listaDependencias, dep.hilo < s.siguiente

/-- The process `pcb` of a request has been admitted between `s` and `s'`. -/
structure Admitido (aceptado : Bool) (s s' : EstadoKernel) (pcb : Puntero) : Prop where
  /-- It is the one PCB that the request has created. -/
  unico : ∀ p, s.pcbs p = none ∧ (s'.pcbs p).isSome ↔ p = pcb
  /-- It is not in `cola_new`, and the others are, in order. -/
  fuera : pcb ∉ s'.colaNew
  orden : s'.colaNew = s.colaNew
  ready : s'.colaReady = s.colaReady ++ [pcb]
  /-- It is READY, and has a thread 0 that memoria has accepted. -/
  hilo : ∃ b, s'.pcbs pcb = some b ∧ b.estado = .ready ∧ aceptado = true ∧
    ∃ hilo tcb, s.tcbs hilo = none ∧ s'.tcbs hilo = some tcb ∧ tcb.PID = b.PID ∧ tcb.TID = 0

/-- A request that memoria refuses with each of `rechazos` and then accepts: its PCB stays
in `cola_new` while it is refused, and is admitted. -/
def AdmisionFiel (basura : Puntero → UInt32) (aceptado : Bool) (prioridad : Int32)
    (rechazos : List Int32) (s : EstadoKernel) : Prop :=
  ∃ s' pcb, crearProceso basura aceptado prioridad (rechazos ++ [1]) s = some s' ∧
    (∀ t ∈ esperas (rechazos ++ [1]) s, pcb ∈ t.colaNew) ∧ Admitido aceptado s s' pcb

/-! ## What a request does -/

section

variable (basura : Puntero → UInt32) (aceptado : Bool) (prioridad : Int32) {s : EstadoKernel}

theorem crearProceso_ocupada (respuestas : List Int32) (hnew : s.colaNew ≠ []) :
    crearProceso basura aceptado prioridad respuestas s =
      some { (crearPcb s).2 with colaNew := s.colaNew ++ [s.siguiente] } := by
  unfold crearProceso
  exact if_neg hnew

/-- The first refusal ends the request: the second call finds the PCB of the first one
waiting, and is put behind it. -/
theorem crearProceso_rechazo {rechazo : Int32} (respuestas : List Int32)
    (hnew : s.colaNew = []) (hrechazo : rechazo ≠ 1) :
    crearProceso basura aceptado prioridad (rechazo :: respuestas) s =
      some { (crearPcb (crearPcb s).2).2 with colaNew := [s.siguiente, s.siguiente + 1] } := by
  let s₁ : EstadoKernel := { (crearPcb s).2 with colaNew := s.colaNew ++ [s.siguiente] }
  have hcrear : crearProceso basura aceptado prioridad (rechazo :: respuestas) s =
      crearProceso basura aceptado prioridad respuestas s₁ := by
    rw [crearProceso]
    show (if s.colaNew = [] then _ else _) = _
    rw [if_pos hnew]
    exact if_neg hrechazo
  have hocupada : s₁.colaNew ≠ [] := List.append_ne_nil_of_right_ne_nil _ (List.cons_ne_nil _ _)
  rw [hcrear, crearProceso_ocupada basura aceptado prioridad respuestas hocupada]
  show some { (crearPcb s₁).2 with colaNew := s.colaNew ++ [s.siguiente] ++ [s.siguiente + 1] } = _
  rw [hnew]
  rfl

/-- It has made two PCBs, and both are in `cola_new`. -/
theorem crearProceso_rechazada {rechazo : Int32} (respuestas : List Int32)
    (hnew : s.colaNew = []) (hrechazo : rechazo ≠ 1) :
    ∃ s', crearProceso basura aceptado prioridad (rechazo :: respuestas) s = some s' ∧
      s'.colaNew = [s.siguiente, s.siguiente + 1] ∧
      (s'.pcbs s.siguiente).isSome ∧ (s'.pcbs (s.siguiente + 1)).isSome := by
  refine ⟨_, crearProceso_rechazo basura aceptado prioridad respuestas hnew hrechazo, rfl, ?_, ?_⟩
  · show (Function.update (Function.update s.pcbs s.siguiente _) (s.siguiente + 1) _
      s.siguiente).isSome
    rw [Function.update_of_ne (Nat.lt_succ_self _).ne, Function.update_self]
    rfl
  · show (Function.update (Function.update s.pcbs s.siguiente _) (s.siguiente + 1) _
      (s.siguiente + 1)).isSome
    rw [Function.update_self]
    rfl

/-- A request that memoria accepts at once, when nobody waits: the process is READY, and the
one new thread has its PID and the `TID` of the heap. -/
theorem crearProceso_aceptada (hlibres : Libres s) (hnew : s.colaNew = [])
    (hcola : aceptado = true → ColaCreada s) :
    ∃ s', crearProceso basura aceptado prioridad [1] s = some s' ∧ s'.colaNew = [] ∧
      s'.colaReady = s.colaReady ++ [s.siguiente] ∧
      s'.pcbs = Function.update s.pcbs s.siguiente (some ⟨s.processId.toUInt32, .ready, [], []⟩) ∧
      s'.tcbs = Function.update s.tcbs (s.siguiente + 1)
        (some ⟨s.processId.toUInt32, basura (s.siguiente + 1), prioridad.toUInt32,
          EstadoProceso.ready.codigo⟩) := by
  have hsin : SinDependiente (conProceso s).siguiente (conProceso s) := by
    intro dep hmem
    exact (Nat.lt_succ_of_lt (hlibres.dependencias dep hmem)).ne
  obtain ⟨cola, niveles, hcrear, -⟩ := crearHilo_sinDependiente basura prioridad s.processId
    hsin hcola
  have hproceso := crearProceso_eq basura aceptado prioridad [] hnew
  rw [hcrear, Option.map_some] at hproceso
  refine ⟨_, hproceso, rfl, rfl, ?_, rfl⟩
  exact Function.update_idem _ _ _

end

/-! ## When a request is admitted -/

section

variable {basura : Puntero → UInt32} {aceptado : Bool} {prioridad : Int32}
  {rechazos : List Int32} {s : EstadoKernel}

/-- Nobody waits, memoria accepts at the first time, with the thread, whose block holds a 0
in `TID`, and the queue for it exists. -/
structure AdmisionDirecta (basura : Puntero → UInt32) (aceptado : Bool) (rechazos : List Int32)
    (s : EstadoKernel) : Prop where
  nuevos : s.colaNew = []
  rechazos : rechazos = []
  aceptado : aceptado = true
  tid : basura (s.siguiente + 1) = 0
  cola : ColaCreada s

theorem admisionFiel_of_directa (hlibres : Libres s)
    (h : AdmisionDirecta basura aceptado rechazos s) :
    AdmisionFiel basura aceptado prioridad rechazos s := by
  obtain ⟨s', hs', hnew, hready, hpcbs, htcbs⟩ := crearProceso_aceptada basura aceptado prioridad
    hlibres h.nuevos fun _ => h.cola
  refine ⟨s', s.siguiente, ?_, ?_, ?_⟩
  · rw [h.rechazos]
    exact hs'
  · intro t ht
    rw [h.rechazos] at ht
    unfold esperas at ht
    simp at ht
  · refine ⟨fun p => ?_, ?_, hnew.trans h.nuevos.symm, hready, ?_⟩
    · rw [hpcbs]
      by_cases hp : p = s.siguiente
      · subst hp
        rw [Function.update_self, hlibres.pcbs _ le_rfl]
        exact ⟨fun _ => rfl, fun _ => ⟨rfl, rfl⟩⟩
      · rw [Function.update_of_ne hp]
        refine ⟨fun hnone => ?_, fun heq => absurd heq hp⟩
        rw [hnone.1] at hnone
        exact absurd hnone.2 (by decide)
    · rw [hnew]
      exact List.not_mem_nil
    · refine ⟨_, by rw [hpcbs, Function.update_self], rfl, h.aceptado, s.siguiente + 1, _,
        hlibres.tcbs _ (Nat.le_succ _), by rw [htcbs, Function.update_self], rfl, h.tid⟩

/-- A request that finds somebody waiting leaves its PCB NEW. -/
theorem not_admisionFiel_ocupada (hlibres : Libres s) (hnew : s.colaNew ≠ []) :
    ¬ AdmisionFiel basura aceptado prioridad rechazos s := by
  rintro ⟨s', pcb, hs', -, hadmitido⟩
  obtain ⟨b, hb, hestado, -⟩ := hadmitido.hilo
  rw [crearProceso_ocupada basura aceptado prioridad _ hnew] at hs'
  obtain rfl := Option.some.inj hs'
  have hnuevo : (crearPcb s).2.pcbs s.siguiente = some ⟨s.processId.toUInt32, .new, [], []⟩ :=
    Function.update_self _ _ _
  have hpcb : s.siguiente = pcb := by
    refine (hadmitido.unico _).mp ⟨hlibres.pcbs _ le_rfl, ?_⟩
    show ((crearPcb s).2.pcbs s.siguiente).isSome
    rw [hnuevo]
    rfl
  subst hpcb
  rw [← Option.some.inj (hnuevo.symm.trans hb)] at hestado
  simp at hestado

theorem not_admisionFiel_rechazada (hlibres : Libres s) (hnew : s.colaNew = []) {r : Int32}
    (hr : r ≠ 1) : ¬ AdmisionFiel basura aceptado prioridad (r :: rechazos) s := by
  rintro ⟨s', pcb, hs', -, hadmitido⟩
  obtain ⟨t, ht, -, hprimero, hsegundo⟩ := crearProceso_rechazada basura aceptado prioridad
    (rechazos ++ [1]) hnew hr
  obtain rfl : t = s' := Option.some.inj (ht.symm.trans hs')
  have h₁ := (hadmitido.unico _).mp ⟨hlibres.pcbs _ le_rfl, hprimero⟩
  have h₂ := (hadmitido.unico _).mp ⟨hlibres.pcbs _ (Nat.le_succ _), hsegundo⟩
  exact absurd (h₁.trans h₂.symm) (Nat.lt_succ_self _).ne

theorem admisionDirecta_of_fiel (hlibres : Libres s) (hrechazos : ∀ r ∈ rechazos, r ≠ 1)
    (h : AdmisionFiel basura aceptado prioridad rechazos s) :
    AdmisionDirecta basura aceptado rechazos s := by
  have hnew : s.colaNew = [] := by
    by_contra hnew
    exact not_admisionFiel_ocupada hlibres hnew h
  cases rechazos with
  | cons r rechazos =>
    exact absurd h (not_admisionFiel_rechazada hlibres hnew (hrechazos r List.mem_cons_self))
  | nil =>
    obtain ⟨s', pcb, hs', -, hadmitido⟩ := h
    obtain ⟨b, hb, -, haceptado, hilo, tcb, hnone, htcb, -, htid⟩ := hadmitido.hilo
    have hcola : ColaCreada s := by
      by_contra hcola
      rw [List.nil_append, crearProceso_eq basura aceptado prioridad [] hnew, haceptado] at hs'
      have hfalla : crearHilo basura true prioridad s.processId (conProceso s) = none :=
        agregarHiloAReady_eq_none hcola
      rw [hfalla] at hs'
      simp at hs'
    obtain ⟨t, ht, -, -, -, htcbs⟩ := crearProceso_aceptada basura aceptado prioridad hlibres
      hnew fun _ => hcola
    obtain rfl : t = s' := Option.some.inj (ht.symm.trans hs')
    refine ⟨hnew, rfl, haceptado, ?_, hcola⟩
    rw [htcbs] at htcb
    by_cases hhilo : hilo = s.siguiente + 1
    · rw [hhilo, Function.update_self] at htcb
      rw [← htid, ← Option.some.inj htcb]
    · rw [Function.update_of_ne hhilo, hnone] at htcb
      simp at htcb

end

/-- **A request is admitted if and only if it is never refused**, finds nobody waiting, and
its thread 0 can be made. For every kernel state, every priority, every list of refusals and
everything the heap may hold. -/
theorem admisionFiel_iff (basura : Puntero → UInt32) (aceptado : Bool) (prioridad : Int32)
    (rechazos : List Int32) (s : EstadoKernel) (hlibres : Libres s)
    (hrechazos : ∀ r ∈ rechazos, r ≠ 1) :
    AdmisionFiel basura aceptado prioridad rechazos s ↔
      AdmisionDirecta basura aceptado rechazos s :=
  ⟨admisionDirecta_of_fiel hlibres hrechazos, admisionFiel_of_directa hlibres⟩

/-- The first process, accepted at once. -/
theorem admisionFiel_primero :
    AdmisionFiel (fun _ => 0) true 0 [] (kernelInicial .fifo) :=
  (admisionFiel_iff (fun _ => 0) true 0 [] (kernelInicial .fifo)
    ⟨fun _ _ => rfl, fun _ _ => rfl, fun _ h => absurd h List.not_mem_nil,
      fun _ h => absurd h List.not_mem_nil⟩ (fun _ h => absurd h List.not_mem_nil)).mpr
    ⟨rfl, rfl, rfl, rfl, fun _ => rfl⟩

/-- The first process, refused once: two PCBs, at 1 and 2, are in `cola_new`, and nothing is
READY. -/
theorem not_admisionFiel_rechazo :
    (crearProceso (fun _ => 0) true 0 [0, 1] (kernelInicial .fifo)).map (fun s =>
        (s.colaNew, s.colaReady)) = some ([1, 2], []) ∧
      ¬ AdmisionFiel (fun _ => 0) true 0 [0] (kernelInicial .fifo) := by
  refine ⟨rfl, ?_⟩
  rintro ⟨s', pcb, hs', -, hadmitido⟩
  obtain rfl := Option.some.inj hs'
  have h₁ : 1 = pcb := (hadmitido.unico 1).mp ⟨rfl, rfl⟩
  have h₂ : 2 = pcb := (hadmitido.unico 2).mp ⟨rfl, rfl⟩
  exact absurd (h₁.trans h₂.symm) (by decide)

end SoTp.Kernel
