import SoTp.Kernel.Ready
import SoTp.Lib.Run

/-!
# The identity of threads

`crearProceso`, `crear_hilo` and `crear_tcb` (`kernel/src/k_largo_plazo.c`, lines 45–87,
123–146 and 210–226) keep in `lista_thread_id` one counter a process, which `crear_tcb`
reads into `ultimo_tid` and increments. It does not store it: the `TID` of a thread is
what `malloc` found in that field.

* `run_tid`: in every run, the `TID` of every thread that was created is that of the heap.
* `identidadHilos_iff`: the threads of each process are 0, 1, 2, … whatever the heap held,
  **if and only if** no thread is created.
* `crearProceso_contador`: the increment for thread 0 is lost as well, because the
  counter of a process is added to the list after its thread 0.
-/

namespace SoTp.Kernel

open SoTp.Lib SoTp.Utils

/-! ## Model

`basura` is what `malloc` leaves in the field `TID` of the block at an address. -/

/-- `crear_pcb()` (lines 28–43). -/
def crearPcb (s : EstadoKernel) : Puntero × EstadoKernel :=
  (s.siguiente, { s with
    processId := s.processId + 1
    siguiente := s.siguiente + 1
    pcbs := Function.update s.pcbs s.siguiente (some ⟨s.processId.toUInt32, .new, [], []⟩) })

/-- `crear_tcb(prioridad, pid)` (lines 210–226). -/
def crearTcb (basura : Puntero → UInt32) (prioridad pid : Int32) (s : EstadoKernel) :
    Puntero × EstadoKernel :=
  let ultimoTid := listGet s.listaThreadId pid.toInt
  let nuevoTCB : TCB :=
    ⟨pid.toUInt32, basura s.siguiente, prioridad.toUInt32, EstadoProceso.ready.codigo⟩
  (s.siguiente, { s with
    siguiente := s.siguiente + 1
    listaThreadId := listReplace s.listaThreadId pid.toInt (ultimoTid + 1)
    tcbs := Function.update s.tcbs s.siguiente (some nuevoTCB) })

/-- `crear_hilo(archivo, prioridad, pid)` (lines 123–146); `aceptado` is what
`crearHiloMemoria` returns. -/
def crearHilo (basura : Puntero → UInt32) (aceptado : Bool) (prioridad pid : Int32)
    (s : EstadoKernel) : Option EstadoKernel :=
  let (nuevoTCB, s) := crearTcb basura prioridad pid s
  if aceptado then agregarHiloAReady nuevoTCB s else liberarTcb agregarHiloAReady nuevoTCB s

/-- The branch of `crearProceso` for the answer 1 (lines 61–74). -/
def admitirProceso (basura : Puntero → UInt32) (aceptado : Bool) (prioridad : Int32)
    (nuevoPCB : Puntero) (s : EstadoKernel) : Option EstadoKernel := do
  let pcb ← s.pcbs nuevoPCB
  let s := { s with
    colaNew := s.colaNew.tail
    pcbs := Function.update s.pcbs nuevoPCB (some { pcb with estado := .ready })
    colaReady := s.colaReady ++ [nuevoPCB] }
  let s ← crearHilo basura aceptado prioridad pcb.PID.toInt32 s
  some { s with listaThreadId := listAddInIndex s.listaThreadId pcb.PID.toInt32.toInt 0 }

/-- `crearProceso(archivo, tam, prioridad)` (lines 45–87); `respuestas` is what
`crearProcesoMemoria` returns, call after call. After a refusal the function waits for
`sem_nuevoProceso` and calls itself. -/
def crearProceso (basura : Puntero → UInt32) (aceptado : Bool) (prioridad : Int32) :
    List Int32 → EstadoKernel → Option EstadoKernel
  | respuestas, s =>
    let (nuevoPCB, s) := crearPcb s
    let s' := { s with colaNew := s.colaNew ++ [nuevoPCB] }
    if s.colaNew = [] then
      match respuestas with
      | [] => none
      | respuesta :: respuestas =>
        if respuesta = 1 then admitirProceso basura aceptado prioridad nuevoPCB s'
        else crearProceso basura aceptado prioridad respuestas s'
    else some s'

/-- A request: `crearProceso`, which memoria accepts with its thread 0, or the syscall
`THREAD_CREATE` of a thread of process `pid`. -/
inductive Creacion where
  | proceso (prioridad : Int32)
  | hilo (pid prioridad : Int32) (aceptado : Bool)
  deriving DecidableEq, Repr

/-- The request ends with one thread more. -/
def Creacion.creaHilo : Creacion → Bool
  | proceso _ => true
  | hilo _ _ aceptado => aceptado

/-- The kernel, and the threads it has created, in order. -/
structure Corrida where
  kernel : EstadoKernel
  creados : List Puntero

/-- One request. The PCB of a new process is allocated before its thread. -/
def paso (basura : Puntero → UInt32) (c : Corrida) : Creacion → Option Corrida
  | .proceso prioridad =>
    (crearProceso basura true prioridad [1] c.kernel).map fun kernel =>
      ⟨kernel, c.creados ++ [(crearPcb c.kernel).2.siguiente]⟩
  | .hilo pid prioridad aceptado =>
    (crearHilo basura aceptado prioridad pid c.kernel).map fun kernel =>
      ⟨kernel, if aceptado then c.creados ++ [c.kernel.siguiente] else c.creados⟩

/-- Before the first request. -/
def inicio (algoritmo : Algoritmo) : Corrida := ⟨kernelInicial algoritmo, []⟩

/-- The threads that were created, in order. -/
def Corrida.hilos (c : Corrida) : List TCB := c.creados.filterMap c.kernel.tcbs

/-- The `TID`s of the threads of a process, in the order of creation. -/
def Corrida.tids (c : Corrida) (pid : UInt32) : List UInt32 :=
  (c.hilos.filter (·.PID = pid)).map TCB.TID

/-- The threads of each process are 0, 1, 2, …, and no two threads are the same. -/
structure IdentidadHilos (c : Corrida) : Prop where
  orden : ∀ pid, (c.tids pid).map UInt32.toNat = List.range (c.tids pid).length
  unicidad : (c.hilos.map fun tcb => (tcb.PID, tcb.TID)).Nodup

/-! ## What the functions do -/

section Pasos

variable (basura : Puntero → UInt32) {s : EstadoKernel}

theorem crearTcb_tcbs (prioridad pid : Int32) :
    (crearTcb basura prioridad pid s).2.tcbs s.siguiente =
      some ⟨pid.toUInt32, basura s.siguiente, prioridad.toUInt32, EstadoProceso.ready.codigo⟩ :=
  Function.update_self _ _ _

/-- When nothing waits for the block of the new thread, `crear_hilo` allocates the thread,
moves the counter on, and changes nothing but the ready collections. -/
theorem crearHilo_sinDependiente {aceptado : Bool} (prioridad pid : Int32)
    (hsin : SinDependiente s.siguiente s) (hcola : aceptado = true → ColaCreada s) :
    ∃ cola niveles, crearHilo basura aceptado prioridad pid s = some
      { (crearTcb basura prioridad pid s).2 with
        colaReadyFifoPrioridades := cola, colasReadyCmn := niveles } ∧
      (s.colaReadyFifoPrioridades.isSome → cola.isSome) := by
  cases aceptado with
  | true =>
    exact agregarHiloAReady_sinDependiente (crearTcb_tcbs basura prioridad pid) hsin (hcola rfl)
  | false => exact ⟨_, _, liberarTcb_sinDependiente agregarHiloAReady hsin, id⟩

theorem crearHilo_eq (aceptado : Bool) (prioridad pid : Int32)
    (hdep : s.listaDependencias = []) (hcola : s.colaReadyFifoPrioridades.isSome) :
    ∃ cola niveles, crearHilo basura aceptado prioridad pid s = some
      { (crearTcb basura prioridad pid s).2 with
        colaReadyFifoPrioridades := some cola, colasReadyCmn := niveles } := by
  obtain ⟨cola, niveles, hcrear, hsome⟩ := crearHilo_sinDependiente basura
    prioridad pid (sinDependiente_of_nil hdep) fun _ _ => hcola
  obtain ⟨cola, rfl⟩ := Option.isSome_iff_exists.mp (hsome hcola)
  exact ⟨cola, niveles, hcrear⟩

/-- The state in which `crear_hilo` is called for thread 0. -/
def conProceso (s : EstadoKernel) : EstadoKernel :=
  { (crearPcb s).2 with
    colaNew := []
    pcbs := Function.update (crearPcb s).2.pcbs s.siguiente
      (some ⟨s.processId.toUInt32, .ready, [], []⟩)
    colaReady := s.colaReady ++ [s.siguiente] }

/-- A process that memoria accepts when no other one is waiting. -/
theorem crearProceso_eq (aceptado : Bool) (prioridad : Int32) (respuestas : List Int32)
    (hnew : s.colaNew = []) :
    crearProceso basura aceptado prioridad (1 :: respuestas) s =
      (crearHilo basura aceptado prioridad s.processId (conProceso s)).map fun k =>
        { k with listaThreadId := listAddInIndex k.listaThreadId s.processId.toInt 0 } := by
  have hpcb : (crearPcb s).2.pcbs s.siguiente = some ⟨s.processId.toUInt32, .new, [], []⟩ :=
    Function.update_self _ _ _
  have hcrear : crearProceso basura aceptado prioridad (1 :: respuestas) s =
      if s.colaNew = [] then
        admitirProceso basura aceptado prioridad s.siguiente
          { (crearPcb s).2 with colaNew := s.colaNew ++ [s.siguiente] }
      else some { (crearPcb s).2 with colaNew := s.colaNew ++ [s.siguiente] } := rfl
  rw [hcrear, if_pos hnew, hnew]
  unfold admitirProceso
  dsimp only
  rw [hpcb, Option.map_eq_bind]
  rfl

end Pasos

/-! ## Runs -/

/-- The kernel between two requests: nobody waits for memoria or for a thread, the queue
exists, and the `TID` of every thread that was created is that of the heap. -/
structure Sano (basura : Puntero → UInt32) (c : Corrida) : Prop where
  nuevos : c.kernel.colaNew = []
  dependencias : c.kernel.listaDependencias = []
  cola : c.kernel.colaReadyFifoPrioridades.isSome
  usados : ∀ hilo ∈ c.creados, hilo < c.kernel.siguiente
  hilos : ∀ hilo ∈ c.creados, ∃ tcb, c.kernel.tcbs hilo = some tcb ∧ tcb.TID = basura hilo

section Corridas

variable {basura : Puntero → UInt32} {c : Corrida}

theorem sano_inicio (basura : Puntero → UInt32) (algoritmo : Algoritmo) :
    Sano basura (inicio algoritmo) where
  nuevos := rfl
  dependencias := rfl
  cola := rfl
  usados := fun _ h => absurd h List.not_mem_nil
  hilos := fun _ h => absurd h List.not_mem_nil

/-- A thread that is allocated in a state `s` that keeps the threads of `c`. -/
theorem Sano.conHilo (hc : Sano basura c) {s k : EstadoKernel} (prioridad pid : Int32)
    (hsiguiente : c.kernel.siguiente ≤ s.siguiente) (htcbs : s.tcbs = c.kernel.tcbs)
    (hnew : k.colaNew = []) (hdep : k.listaDependencias = [])
    (hcola : k.colaReadyFifoPrioridades.isSome)
    (hk : k.siguiente = s.siguiente + 1)
    (hktcbs : k.tcbs = (crearTcb basura prioridad pid s).2.tcbs) :
    Sano basura ⟨k, c.creados ++ [s.siguiente]⟩ := by
  have hlt : ∀ hilo ∈ c.creados, hilo < s.siguiente := fun hilo hhilo =>
    (hc.usados hilo hhilo).trans_le hsiguiente
  refine ⟨hnew, hdep, hcola, ?_, ?_⟩
  · intro hilo hhilo
    show hilo < k.siguiente
    rw [hk]
    rcases List.mem_append.mp hhilo with hviejo | hnuevo
    · exact Nat.lt_succ_of_lt (hlt hilo hviejo)
    · rw [List.mem_singleton.mp hnuevo]
      exact Nat.lt_succ_self _
  · intro hilo hhilo
    show ∃ tcb, k.tcbs hilo = some tcb ∧ tcb.TID = basura hilo
    rw [hktcbs]
    rcases List.mem_append.mp hhilo with hviejo | hnuevo
    · obtain ⟨tcb, htcb, htid⟩ := hc.hilos hilo hviejo
      refine ⟨tcb, ?_, htid⟩
      rw [← htcb, ← htcbs]
      exact Function.update_of_ne (hlt hilo hviejo).ne _ _
    · rw [List.mem_singleton.mp hnuevo]
      exact ⟨_, Function.update_self _ _ _, rfl⟩

theorem Sano.sinHilo {k : EstadoKernel} {hilo : Puntero}
    (hc : Sano basura ⟨k, c.creados ++ [hilo]⟩) : Sano basura ⟨k, c.creados⟩ where
  nuevos := hc.nuevos
  dependencias := hc.dependencias
  cola := hc.cola
  usados := fun p hp => hc.usados p (List.mem_append_left _ hp)
  hilos := fun p hp => hc.hilos p (List.mem_append_left _ hp)

/-- A request is always served, and adds at most one thread. -/
theorem paso_sano (hc : Sano basura c) (p : Creacion) :
    ∃ c', paso basura c p = some c' ∧ Sano basura c' ∧
      c'.creados.length = c.creados.length + if p.creaHilo then 1 else 0 := by
  cases p with
  | proceso prioridad =>
    obtain ⟨cola, niveles, hcrear⟩ := crearHilo_eq basura true prioridad
      c.kernel.processId (s := conProceso c.kernel) hc.dependencias hc.cola
    have hproceso := crearProceso_eq basura true prioridad [] hc.nuevos
    rw [hcrear, Option.map_some] at hproceso
    refine ⟨_, congrArg (Option.map _) hproceso, ?_, List.length_append⟩
    exact hc.conHilo (s := conProceso c.kernel) prioridad c.kernel.processId (Nat.le_succ _) rfl
      rfl hc.dependencias rfl rfl rfl
  | hilo pid prioridad aceptado =>
    obtain ⟨cola, niveles, hcrear⟩ := crearHilo_eq basura aceptado prioridad pid
      hc.dependencias hc.cola
    have hcon := hc.conHilo (s := c.kernel) prioridad pid
      (k := { (crearTcb basura prioridad pid c.kernel).2 with
        colaReadyFifoPrioridades := some cola, colasReadyCmn := niveles })
      le_rfl rfl hc.nuevos hc.dependencias rfl rfl rfl
    cases aceptado with
    | true => exact ⟨_, congrArg (Option.map _) hcrear, hcon, List.length_append⟩
    | false => exact ⟨_, congrArg (Option.map _) hcrear, hcon.sinHilo, rfl⟩

/-- Every list of requests is served to its end, and creates as many threads as it asks
for. -/
theorem run_sano (hc : Sano basura c) (pedidos : List Creacion) :
    ∃ c', run (paso basura) c pedidos = some c' ∧ Sano basura c' ∧
      c'.creados.length = c.creados.length + pedidos.countP Creacion.creaHilo := by
  induction pedidos generalizing c with
  | nil => exact ⟨c, rfl, hc, rfl⟩
  | cons p pedidos ih =>
    obtain ⟨c₁, hpaso, hc₁, hlen₁⟩ := paso_sano hc p
    obtain ⟨c₂, hrun, hc₂, hlen₂⟩ := ih hc₁
    refine ⟨c₂, ?_, hc₂, ?_⟩
    · show (paso basura c p).bind _ = _
      rw [hpaso]
      exact hrun
    · rw [List.countP_cons]
      omega

theorem Sano.tid (hc : Sano basura c) {tcb : TCB} (htcb : tcb ∈ c.hilos) :
    ∃ hilo ∈ c.creados, tcb.TID = basura hilo := by
  obtain ⟨hilo, hhilo, hsome⟩ := List.mem_filterMap.mp htcb
  obtain ⟨tcb', hsome', htid⟩ := hc.hilos hilo hhilo
  obtain rfl : tcb = tcb' := Option.some.inj (hsome.symm.trans hsome')
  exact ⟨hilo, hhilo, htid⟩

end Corridas

/-- **In every run** each created thread has the `TID` that the heap held at an address
of a created thread. -/
theorem run_tid (basura : Puntero → UInt32) (algoritmo : Algoritmo) {pedidos : List Creacion}
    {c : Corrida} (hrun : run (paso basura) (inicio algoritmo) pedidos = some c) :
    ∀ tcb ∈ c.hilos, ∃ hilo ∈ c.creados, tcb.TID = basura hilo := by
  obtain ⟨c', hrun', hc', -⟩ := run_sano (sano_inicio basura algoritmo) pedidos
  obtain rfl : c' = c := Option.some.inj (hrun'.symm.trans hrun)
  exact fun tcb htcb => hc'.tid htcb

theorem identidadHilos_of_nil {c : Corrida} (h : c.creados = []) : IdentidadHilos c := by
  have hhilos : c.hilos = [] := by
    unfold Corrida.hilos
    rw [h]
    rfl
  refine ⟨fun pid => ?_, ?_⟩
  · unfold Corrida.tids
    rw [hhilos]
    rfl
  · rw [hhilos]
    exact List.nodup_nil

/-- A heap without a 0 in it gives no thread the `TID` 0. -/
theorem not_identidadHilos {basura : Puntero → UInt32} {c : Corrida} (hc : Sano basura c)
    (hbasura : ∀ p, (basura p).toNat ≠ 0) (hcreados : c.creados ≠ []) : ¬ IdentidadHilos c := by
  intro hid
  obtain ⟨hilo, hhilo⟩ := List.exists_mem_of_ne_nil _ hcreados
  obtain ⟨tcb, htcb, -⟩ := hc.hilos hilo hhilo
  have hmem : tcb ∈ c.hilos := List.mem_filterMap.mpr ⟨hilo, hhilo, htcb⟩
  have htid : tcb.TID ∈ c.tids tcb.PID :=
    List.mem_map_of_mem (List.mem_filter.mpr ⟨hmem, decide_eq_true rfl⟩)
  -- the first `TID` of its process is 0
  have hcero : 0 ∈ (c.tids tcb.PID).map UInt32.toNat := by
    rw [hid.orden]
    exact List.mem_range.mpr (List.length_pos_of_mem htid)
  obtain ⟨tid, hmemtid, htidcero⟩ := List.mem_map.mp hcero
  obtain ⟨tcb', hmem', rfl⟩ := List.mem_map.mp hmemtid
  obtain ⟨hilo', -, htid'⟩ := hc.tid (List.mem_filter.mp hmem').1
  rw [htid'] at htidcero
  exact hbasura hilo' htidcero

/-- **Threads are numbered if and only if there are none**: the requests create no
thread. -/
theorem identidadHilos_iff (algoritmo : Algoritmo) (pedidos : List Creacion) :
    (∀ basura c, run (paso basura) (inicio algoritmo) pedidos = some c → IdentidadHilos c) ↔
      ∀ p ∈ pedidos, ¬ p.creaHilo := by
  constructor
  · intro hall p hp hcrea
    obtain ⟨c, hrun, hc, hlen⟩ := run_sano (sano_inicio (fun _ => 7) algoritmo) pedidos
    have hpos : 0 < pedidos.countP Creacion.creaHilo := List.countP_pos_iff.mpr ⟨p, hp, hcrea⟩
    have hcreados : c.creados ≠ [] := by
      apply List.ne_nil_of_length_pos
      omega
    exact not_identidadHilos hc (fun _ => by decide) hcreados (hall _ c hrun)
  · intro hnone basura c hrun
    obtain ⟨c', hrun', -, hlen⟩ := run_sano (sano_inicio basura algoritmo) pedidos
    obtain rfl : c' = c := Option.some.inj (hrun'.symm.trans hrun)
    rw [List.countP_eq_zero.mpr hnone] at hlen
    exact identidadHilos_of_nil (List.eq_nil_of_length_eq_zero hlen)

/-- One process, with a 7 in every block: its thread 0 is the thread 7. -/
theorem not_identidadHilos_proceso :
    ∃ c, run (paso fun _ => 7) (inicio .fifo) [.proceso 0] = some c ∧
      c.hilos = [⟨0, 7, 0, EstadoProceso.ready.codigo⟩] ∧ c.tids 0 = [7] ∧ ¬ IdentidadHilos c := by
  refine ⟨_, rfl, rfl, rfl, ?_⟩
  intro hid
  exact absurd (hid.orden 0) (by decide)

/-! ## The counters -/

theorem crearTcb_listaThreadId {basura : Puntero → UInt32} {prioridad pid : Int32}
    {s : EstadoKernel} (hpid : s.listaThreadId.length ≤ pid.toInt.toNat) :
    (crearTcb basura prioridad pid s).2.listaThreadId = s.listaThreadId := by
  show listReplace s.listaThreadId pid.toInt _ = _
  unfold listReplace
  split
  · exact List.set_eq_of_length_le hpid
  · rfl

/-- When the list has one counter for each process before, thread 0 of a new process
reads a counter past its end, whose increment is lost, and leaves behind a 0 for the
first `THREAD_CREATE` to read. -/
theorem crearProceso_contador (basura : Puntero → UInt32) (aceptado : Bool) (prioridad : Int32)
    (respuestas : List Int32) {s : EstadoKernel} (hnew : s.colaNew = [])
    (hdep : s.listaDependencias = []) (hcola : s.colaReadyFifoPrioridades.isSome)
    (hid : s.processId.toInt = s.listaThreadId.length) :
    listGet s.listaThreadId s.processId.toInt = 0 ∧
      ∃ s', crearProceso basura aceptado prioridad (1 :: respuestas) s = some s' ∧
        s'.listaThreadId = s.listaThreadId ++ [0] ∧
        listGet s'.listaThreadId s.processId.toInt = 0 := by
  rw [hid]
  refine ⟨listGet_length _, ?_⟩
  obtain ⟨cola, niveles, hcrear⟩ := crearHilo_eq basura aceptado prioridad s.processId
    (s := conProceso s) hdep hcola
  have hproceso := crearProceso_eq basura aceptado prioridad respuestas hnew
  rw [hcrear, Option.map_some] at hproceso
  have hlista : (crearTcb basura prioridad s.processId (conProceso s)).2.listaThreadId =
      s.listaThreadId := by
    apply crearTcb_listaThreadId
    show s.listaThreadId.length ≤ s.processId.toInt.toNat
    omega
  have hagregar : listAddInIndex
      (crearTcb basura prioridad s.processId (conProceso s)).2.listaThreadId s.processId.toInt 0 =
        s.listaThreadId ++ [0] := by
    rw [hlista, hid]
    exact listAddInIndex_length _ 0
  refine ⟨_, hproceso, hagregar, ?_⟩
  dsimp only
  rw [hagregar]
  exact listGet_append_singleton _ 0

end SoTp.Kernel
