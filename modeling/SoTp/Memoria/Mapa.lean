import SoTp.Lib.Run
import SoTp.Memoria.Almacen

/-!
# The processes of memoria as a map

`Mapa` is what the dictionaries of memoria are for: a map from process ids to
processes, each with a map from thread ids to threads. A run of insertions,
`crear_hilo`, `finalizar_hilo` and `finalizar_proceso` follows it as long as every
id prints in at most seven characters (`EnRango`): the lookups see no more of the
key. A longer id is looked up under the key of another one.

* `llamar_representa`: what one call does, in both.
* `llamar_frame`: one call changes nothing under other ids.
* `run_representa`: **both hold over any sequence of calls**.
* `not_run_representa`: process 1234567 is found under the id 12345678.
-/

namespace SoTp.Memoria

open SoTp.Lib SoTp.Utils

/-! ## Keys -/

theorem stringItoa_injective : Function.Injective stringItoa := by
  intro m n h
  have hdecimal : decimal m.toInt = decimal n.toInt := congrArg CString.bytes h
  exact Int32.toInt_inj.mp (decimal_injective hdecimal)

/-- The id prints in at most seven characters. -/
def EnRango (n : Int32) : Prop := -999999 ≤ n.toInt ∧ n.toInt ≤ 9999999

theorem claveBusqueda_eq {n : Int32} (h : EnRango n) : claveBusqueda n = stringItoa n := by
  obtain ⟨hlo, hhi⟩ := h
  have hlen : (decimal n.toInt).length ≤ 6 + 1 :=
    (length_decimal_le_iff (by omega)).mpr ⟨by omega, by omega⟩
  apply CString.ext
  exact List.take_of_length_le hlen

/-! ## Specification -/

/-- What a process was inserted with. -/
structure DatosProceso where
  pid : Int32
  base : ℤ
  limite : Int32
  archivoPseudocodigo : CString
  deriving DecidableEq

/-- A process and its threads by id. -/
structure ProcesoMapa where
  datos : DatosProceso
  hilos : Int32 → Option THilo

/-- The processes by id. -/
abbrev Mapa := Int32 → Option ProcesoMapa

/-- The calls that insert and remove. -/
inductive Llamada where
  | insertarProceso (pid : Int32) (archivo : CString) (tamProceso : Int32) (base : ℤ)
  | crearHilo (pid tid : Int32) (archivo : CString) (prioridad : Int32)
  | finalizarHilo (pid tid : Int32)
  | finalizarProceso (freeReturns : ℤ → Bool) (pid : Int32)

/-- The process that a call is about. -/
def Llamada.pid : Llamada → Int32
  | insertarProceso pid _ _ _ => pid
  | crearHilo pid _ _ _ => pid
  | finalizarHilo pid _ => pid
  | finalizarProceso _ pid => pid

/-- The thread that a call is about, when it is about one. -/
def Llamada.tid : Llamada → Option Int32
  | insertarProceso _ _ _ _ => none
  | crearHilo _ tid _ _ => some tid
  | finalizarHilo _ tid => some tid
  | finalizarProceso _ _ => none

/-- The ids of a call print in at most seven characters. -/
def Llamada.EnRango (c : Llamada) : Prop :=
  Memoria.EnRango c.pid ∧ ∀ tid, c.tid = some tid → Memoria.EnRango tid

/-- A call on the map. -/
def Mapa.llamar (archivos : CString → Option (List UInt8)) (M : Mapa) : Llamada → Mapa
  | .insertarProceso pid archivo tamProceso base =>
    Function.update M pid (some ⟨⟨pid, base, tamProceso, archivo⟩, fun _ => none⟩)
  | .crearHilo pid tid archivo prioridad =>
    match M pid, obtenerInstrucciones archivos archivo with
    | some proceso, some instrucciones =>
      Function.update M pid (some { proceso with
        hilos := Function.update proceso.hilos tid
          (some (nuevoHilo tid archivo prioridad instrucciones)) })
    | _, _ => M
  | .finalizarHilo pid tid =>
    match M pid with
    | some proceso =>
      Function.update M pid (some { proceso with hilos := Function.update proceso.hilos tid none })
    | none => M
  | .finalizarProceso _ pid => Function.update M pid none

/-- The map after a sequence of calls on the empty one. -/
def Mapa.run (archivos : CString → Option (List UInt8)) (llamadas : List Llamada) : Mapa :=
  llamadas.foldl (Mapa.llamar archivos) fun _ => none

/-- A call on the dictionaries. -/
def llamar (archivos : CString → Option (List UInt8)) (m : Almacen) : Llamada → Option Almacen
  | .insertarProceso pid archivo tamProceso base =>
    some (insertarProceso m pid archivo tamProceso base)
  | .crearHilo pid tid archivo prioridad =>
    (crearHilo archivos m pid tid archivo prioridad).map Prod.snd
  | .finalizarHilo pid tid => (finalizarHilo m pid tid).map Prod.snd
  | .finalizarProceso freeReturns pid => (finalizarProceso freeReturns m pid).map Prod.snd

/-- Memoria with the dictionary `procesos` just created. -/
def almacenInicial (listaParticiones : List TParticion) : Almacen := ⟨∅, listaParticiones⟩

/-- What a process was inserted with. -/
def TProceso.datos (proceso : TProceso) : DatosProceso :=
  ⟨proceso.pid, proceso.base, proceso.limite, proceso.archivoPseudocodigo⟩

/-! ## Representation -/

/-- The process of the dictionary and that of the map have the same data and the same
threads. -/
structure ProcesoRepresenta (proceso : TProceso) (P : ProcesoMapa) : Prop where
  datos : proceso.datos = P.datos
  vivo : proceso.liberado = false
  hilos : ∀ tid, EnRango tid → proceso.hilos.lookup (stringItoa tid) = P.hilos tid

/-- The dictionaries hold what the map holds. -/
def Representa (m : Almacen) (M : Mapa) : Prop :=
  ∀ pid, EnRango pid → Option.Rel ProcesoRepresenta (m.procesos.lookup (stringItoa pid)) (M pid)

section

variable {archivos : CString → Option (List UInt8)} {m m' : Almacen} {M : Mapa}

theorem representa_inicial (l : List TParticion) : Representa (almacenInicial l) fun _ => none :=
  fun _ _ => .none

theorem Representa.update (h : Representa m M) {pid : Int32} {P : Option ProcesoMapa}
    (hother : ∀ k, k ≠ stringItoa pid → m'.procesos.lookup k = m.procesos.lookup k)
    (hpid : Option.Rel ProcesoRepresenta (m'.procesos.lookup (stringItoa pid)) P) :
    Representa m' (Function.update M pid P) := by
  intro pid' hpid'
  by_cases heq : pid' = pid
  · rw [heq, Function.update_self]
    exact hpid
  · rw [Function.update_of_ne heq, hother _ fun hk => heq (stringItoa_injective hk)]
    exact h pid' hpid'

theorem getProceso_eq {pid : Int32} (h : EnRango pid) :
    getProceso m pid = m.procesos.lookup (stringItoa pid) := by
  rw [getProceso, claveBusqueda_eq h]

/-- A call changes nothing under the keys of other processes. -/
theorem llamar_lookup_of_ne {c : Llamada} (hc : c.EnRango) (h : llamar archivos m c = some m')
    {k : CString} (hk : k ≠ stringItoa c.pid) :
    m'.procesos.lookup k = m.procesos.lookup k := by
  cases c with
  | insertarProceso pid archivo tamProceso base =>
    obtain rfl := Option.some.inj h
    exact AList.lookup_insert_ne hk
  | crearHilo pid tid archivo prioridad =>
    obtain ⟨⟨exito, m''⟩, hcall, rfl⟩ := Option.map_eq_some_iff.mp h
    rcases crearHilo_eq_some hcall with ⟨-, rfl, -⟩ | ⟨proceso, instrucciones, -, -, -, rfl⟩
    · rfl
    · exact AList.lookup_insert_ne hk
  | finalizarHilo pid tid =>
    obtain ⟨⟨exito, m''⟩, hcall, rfl⟩ := Option.map_eq_some_iff.mp h
    obtain ⟨proceso, -, ⟨-, rfl, -⟩ | ⟨hilo, -, -, rfl⟩⟩ := finalizarHilo_eq_some hcall
    · rfl
    · exact AList.lookup_insert_ne (claveBusqueda_eq hc.1 ▸ hk)
  | finalizarProceso freeReturns pid =>
    obtain ⟨⟨exito, m''⟩, hcall, rfl⟩ := Option.map_eq_some_iff.mp h
    rcases finalizarProceso_eq_some hcall with ⟨-, rfl, -⟩ | ⟨proceso, -, -, hprocesos⟩
    · rfl
    · show m''.procesos.lookup k = _
      have hk' : k ≠ stringItoa pid := hk
      rw [hprocesos, AList.lookup_erase_ne hk']
      exact AList.lookup_insert_ne (claveBusqueda_eq hc.1 ▸ hk)

/-- What the insertion of a thread does to a process. -/
theorem ProcesoRepresenta.insertarHilo {proceso : TProceso} {P : ProcesoMapa}
    (h : ProcesoRepresenta proceso P) (tid : Int32) (hilo : THilo) :
    ProcesoRepresenta { proceso with hilos := proceso.hilos.insert (stringItoa tid) hilo }
      { P with hilos := Function.update P.hilos tid (some hilo) } where
  datos := h.datos
  vivo := h.vivo
  hilos := by
    intro tid' htid'
    show (proceso.hilos.insert (stringItoa tid) hilo).lookup (stringItoa tid') =
      Function.update P.hilos tid (some hilo) tid'
    by_cases heq : tid' = tid
    · rw [heq, Function.update_self]
      exact AList.lookup_insert _
    · rw [Function.update_of_ne heq, ← h.hilos tid' htid']
      exact AList.lookup_insert_ne fun hk => heq (stringItoa_injective hk)

/-- What the removal of a thread does to a process. -/
theorem ProcesoRepresenta.quitarHilo {proceso : TProceso} {P : ProcesoMapa}
    (h : ProcesoRepresenta proceso P) (tid : Int32) (hilo : THilo) :
    ProcesoRepresenta { proceso with
        hilos := (proceso.hilos.insert (stringItoa tid) hilo).erase (stringItoa tid) }
      { P with hilos := Function.update P.hilos tid none } where
  datos := h.datos
  vivo := h.vivo
  hilos := by
    intro tid' htid'
    show ((proceso.hilos.insert (stringItoa tid) hilo).erase (stringItoa tid)).lookup
      (stringItoa tid') = Function.update P.hilos tid none tid'
    by_cases heq : tid' = tid
    · rw [heq, Function.update_self]
      exact AList.lookup_erase _ _
    · have hk : stringItoa tid' ≠ stringItoa tid := fun hk => heq (stringItoa_injective hk)
      rw [Function.update_of_ne heq, ← h.hilos tid' htid', AList.lookup_erase_ne hk]
      exact AList.lookup_insert_ne hk

theorem Representa.exists_of_some (h : Representa m M) {pid : Int32} (hpid : EnRango pid)
    {proceso : TProceso} (hproceso : m.procesos.lookup (stringItoa pid) = some proceso) :
    ∃ P, M pid = some P ∧ ProcesoRepresenta proceso P := by
  have hrel := h pid hpid
  rw [hproceso] at hrel
  cases hM : M pid with
  | none => rw [hM] at hrel; cases hrel
  | some P =>
    rw [hM] at hrel
    cases hrel with
    | some hrep => exact ⟨P, rfl, hrep⟩

theorem Representa.eq_none (h : Representa m M) {pid : Int32} (hpid : EnRango pid)
    (hnone : m.procesos.lookup (stringItoa pid) = none) : M pid = none := by
  have hrel := h pid hpid
  rw [hnone] at hrel
  cases hM : M pid with
  | none => rfl
  | some P => rw [hM] at hrel; cases hrel

theorem insertarProceso_representa (hR : Representa m M) (pid : Int32) (archivo : CString)
    (tamProceso : Int32) (base : ℤ) :
    Representa (insertarProceso m pid archivo tamProceso base)
      (M.llamar archivos (.insertarProceso pid archivo tamProceso base)) := by
  apply hR.update
  · intro k hk
    exact AList.lookup_insert_ne hk
  · unfold insertarProceso
    rw [AList.lookup_insert]
    exact .some ⟨rfl, rfl, fun tid _ => rfl⟩

theorem crearHilo_representa (hR : Representa m M) {pid tid : Int32} (hpid : EnRango pid)
    {archivo : CString} {prioridad : Int32} {exito : Bool}
    (h : crearHilo archivos m pid tid archivo prioridad = some (exito, m')) :
    Representa m' (M.llamar archivos (.crearHilo pid tid archivo prioridad)) := by
  rcases crearHilo_eq_some h with
    ⟨-, rfl, hnone | hnone⟩ | ⟨proceso, instrucciones, hproceso, hinstrucciones, -, rfl⟩
  · -- there is no such process
    simp only [Mapa.llamar, hR.eq_none hpid hnone]
    exact hR
  · -- there is no such file
    have hsame : M.llamar archivos (.crearHilo pid tid archivo prioridad) = M := by
      simp only [Mapa.llamar, hnone]
      cases M pid <;> rfl
    rw [hsame]
    exact hR
  · obtain ⟨P, hM, hrep⟩ := hR.exists_of_some hpid hproceso
    simp only [Mapa.llamar, hM, hinstrucciones]
    apply hR.update
    · intro k hk
      exact AList.lookup_insert_ne hk
    · rw [AList.lookup_insert]
      exact .some (hrep.insertarHilo tid _)

theorem finalizarHilo_representa (hR : Representa m M) {pid tid : Int32} (hpid : EnRango pid)
    (htid : EnRango tid) {exito : Bool} (h : finalizarHilo m pid tid = some (exito, m')) :
    Representa m' (M.llamar archivos (.finalizarHilo pid tid)) := by
  obtain ⟨proceso, hproceso, hcases⟩ := finalizarHilo_eq_some h
  obtain ⟨P, hM, hrep⟩ := hR.exists_of_some hpid (getProceso_eq hpid ▸ hproceso)
  simp only [Mapa.llamar, hM]
  rcases hcases with ⟨-, rfl, hhilo⟩ | ⟨hilo, -, -, rfl⟩
  · -- there is no such thread in the map either
    rw [getHilo_of_some hproceso hrep.vivo, claveBusqueda_eq htid, hrep.hilos tid htid] at hhilo
    have hsame : Function.update P.hilos tid none = P.hilos := by
      rw [← Option.some.inj hhilo, Function.update_eq_self]
    rw [hsame, ← hM, Function.update_eq_self]
    exact hR
  · rw [claveBusqueda_eq hpid, claveBusqueda_eq htid]
    apply hR.update
    · intro k hk
      exact AList.lookup_insert_ne hk
    · rw [AList.lookup_insert]
      exact .some (hrep.quitarHilo tid _)

theorem finalizarProceso_representa (hR : Representa m M) {pid : Int32} (hpid : EnRango pid)
    {freeReturns : ℤ → Bool} {exito : Bool}
    (h : finalizarProceso freeReturns m pid = some (exito, m')) :
    Representa m' (M.llamar archivos (.finalizarProceso freeReturns pid)) := by
  rcases finalizarProceso_eq_some h with ⟨-, rfl, hnone⟩ | ⟨proceso, -, -, hprocesos⟩
  · -- there is no such process in the map either
    have hM := hR.eq_none hpid (getProceso_eq hpid ▸ hnone)
    show Representa m' (Function.update M pid none)
    rw [← hM, Function.update_eq_self]
    exact hR
  · apply hR.update
    · intro k hk
      rw [hprocesos, AList.lookup_erase_ne hk]
      exact AList.lookup_insert_ne (claveBusqueda_eq hpid ▸ hk)
    · rw [hprocesos, AList.lookup_erase]
      exact .none

/-- **One call** does the same to the dictionaries and to the map. -/
theorem llamar_representa (hR : Representa m M) {c : Llamada} (hc : c.EnRango)
    (h : llamar archivos m c = some m') : Representa m' (M.llamar archivos c) := by
  cases c with
  | insertarProceso pid archivo tamProceso base =>
    obtain rfl := Option.some.inj h
    exact insertarProceso_representa hR pid archivo tamProceso base
  | crearHilo pid tid archivo prioridad =>
    obtain ⟨r, hcall, rfl⟩ := Option.map_eq_some_iff.mp h
    exact crearHilo_representa hR hc.1 hcall
  | finalizarHilo pid tid =>
    obtain ⟨r, hcall, rfl⟩ := Option.map_eq_some_iff.mp h
    exact finalizarHilo_representa hR hc.1 (hc.2 tid rfl) hcall
  | finalizarProceso freeReturns pid =>
    obtain ⟨r, hcall, rfl⟩ := Option.map_eq_some_iff.mp h
    exact finalizarProceso_representa hR hc.1 hcall

/-! ## What the lookups find -/

theorem Representa.getProceso (h : Representa m M) {pid : Int32} (hpid : EnRango pid) :
    (getProceso m pid).map TProceso.datos = (M pid).map ProcesoMapa.datos := by
  rw [getProceso_eq hpid]
  cases hproceso : m.procesos.lookup (stringItoa pid) with
  | none => rw [h.eq_none hpid hproceso]; rfl
  | some proceso =>
    obtain ⟨P, hM, hrep⟩ := h.exists_of_some hpid hproceso
    rw [hM, Option.map_some, Option.map_some, hrep.datos]

theorem Representa.getHilo (h : Representa m M) {pid tid : Int32} (hpid : EnRango pid)
    (htid : EnRango tid) : getHilo m pid tid = (M pid).map fun P => P.hilos tid := by
  cases hproceso : Memoria.getProceso m pid with
  | none =>
    rw [getHilo_of_none hproceso, h.eq_none hpid (getProceso_eq hpid ▸ hproceso)]
    rfl
  | some proceso =>
    obtain ⟨P, hM, hrep⟩ := h.exists_of_some hpid (getProceso_eq hpid ▸ hproceso)
    rw [getHilo_of_some hproceso hrep.vivo, claveBusqueda_eq htid, hrep.hilos tid htid, hM]
    rfl

/-- A call about one thread leaves the other threads of the process in the map. -/
theorem Mapa.llamar_hilos_of_ne (M : Mapa) {c : Llamada} {tid tid' : Int32}
    (hc : c.tid = some tid) (hne : tid' ≠ tid) :
    ((M.llamar archivos c) c.pid).map (fun P => P.hilos tid') =
      (M c.pid).map fun P => P.hilos tid' := by
  cases c with
  | insertarProceso pid archivo tamProceso base => simp [Llamada.tid] at hc
  | crearHilo pid tid'' archivo prioridad =>
    obtain rfl : tid'' = tid := Option.some.inj hc
    simp only [Mapa.llamar, Llamada.pid]
    cases hM : M pid with
    | none => simp [hM]
    | some P =>
      cases obtenerInstrucciones archivos archivo with
      | none => simp [hM]
      | some instrucciones => simp [hne]
  | finalizarHilo pid tid'' =>
    obtain rfl : tid'' = tid := Option.some.inj hc
    simp only [Mapa.llamar, Llamada.pid]
    cases hM : M pid with
    | none => simp [hM]
    | some P => simp [hne]
  | finalizarProceso freeReturns pid => simp [Llamada.tid] at hc

theorem llamar_frame (hR : Representa m M) {c : Llamada} (hc : c.EnRango)
    (h : llamar archivos m c = some m') :
    (∀ pid, EnRango pid → pid ≠ c.pid → getProceso m' pid = getProceso m pid) ∧
      ∀ tid, c.tid = some tid → ∀ tid', EnRango tid' → tid' ≠ tid →
        getHilo m' c.pid tid' = getHilo m c.pid tid' := by
  constructor
  · intro pid hpid hne
    rw [getProceso_eq hpid, getProceso_eq hpid]
    exact llamar_lookup_of_ne hc h fun hk => hne (stringItoa_injective hk)
  · intro tid htid tid' htid' hne
    rw [(llamar_representa hR hc h).getHilo hc.1 htid', hR.getHilo hc.1 htid']
    exact M.llamar_hilos_of_ne htid hne

theorem representa_of_run (hR : Representa m M) {llamadas : List Llamada}
    (hllamadas : ∀ c ∈ llamadas, c.EnRango) (hrun : run (llamar archivos) m llamadas = some m') :
    Representa m' (llamadas.foldl (Mapa.llamar archivos) M) := by
  induction llamadas generalizing m M with
  | nil =>
    obtain rfl := Option.some.inj hrun
    exact hR
  | cons c llamadas ih =>
    obtain ⟨m₁, hm₁, hrun⟩ := run_cons_eq_some _ hrun
    exact ih (llamar_representa hR (hllamadas c List.mem_cons_self) hm₁)
      (fun c' hc' => hllamadas c' (List.mem_cons_of_mem _ hc')) hrun

end

/-- **The dictionaries are a map** where the ids print in at most seven characters.
After any sequence of calls `get_proceso` finds the process that the map holds, and
`get_hilo` its thread (following `NULL` where there is no process); one more call
changes nothing under other ids. -/
theorem run_representa (archivos : CString → Option (List UInt8)) (l : List TParticion)
    (llamadas : List Llamada) (m : Almacen) (hllamadas : ∀ c ∈ llamadas, c.EnRango)
    (hrun : run (llamar archivos) (almacenInicial l) llamadas = some m) :
    (∀ pid, EnRango pid → (getProceso m pid).map TProceso.datos =
        (Mapa.run archivos llamadas pid).map ProcesoMapa.datos) ∧
      (∀ pid tid, EnRango pid → EnRango tid →
        getHilo m pid tid = (Mapa.run archivos llamadas pid).map fun P => P.hilos tid) ∧
      ∀ (c : Llamada) (m' : Almacen), c.EnRango → llamar archivos m c = some m' →
        (∀ pid, EnRango pid → pid ≠ c.pid → getProceso m' pid = getProceso m pid) ∧
          ∀ tid, c.tid = some tid → ∀ tid', EnRango tid' → tid' ≠ tid →
            getHilo m' c.pid tid' = getHilo m c.pid tid' := by
  have hR : Representa m (Mapa.run archivos llamadas) :=
    representa_of_run (representa_inicial l) hllamadas hrun
  exact ⟨fun pid hpid => hR.getProceso hpid, fun pid tid hpid htid => hR.getHilo hpid htid,
    fun c m' hc h => llamar_frame hR hc h⟩

/-- Two processes, one of them with a thread. -/
theorem run_representa_dos :
    ∃ m, run (llamar fun _ => some (ascii "EXIT")) (almacenInicial [])
        [.insertarProceso 0 (CString.ofBytes (ascii "a")) 64 4096,
          .insertarProceso 1 (CString.ofBytes (ascii "b")) 32 8192,
          .crearHilo 0 0 (CString.ofBytes (ascii "a")) 3] = some m ∧
      (getProceso m 1).map TProceso.datos = some ⟨1, 8192, 32, CString.ofBytes (ascii "b")⟩ := by
  have hsome : (run (llamar fun _ => some (ascii "EXIT")) (almacenInicial [])
      [.insertarProceso 0 (CString.ofBytes (ascii "a")) 64 4096,
        .insertarProceso 1 (CString.ofBytes (ascii "b")) 32 8192,
        .crearHilo 0 0 (CString.ofBytes (ascii "a")) 3]).isSome := by decide
  obtain ⟨m, hm⟩ := Option.isSome_iff_exists.mp hsome
  refine ⟨m, hm, ?_⟩
  have hids : ∀ c ∈ ([.insertarProceso 0 (CString.ofBytes (ascii "a")) 64 4096,
      .insertarProceso 1 (CString.ofBytes (ascii "b")) 32 8192,
      .crearHilo 0 0 (CString.ofBytes (ascii "a")) 3] : List Llamada), c.EnRango := by
    simp [Llamada.EnRango, Llamada.pid, Llamada.tid, EnRango]
  rw [(run_representa _ [] _ m hids hm).1 1 (by simp [EnRango])]
  decide

/-- With one process, of id 1234567, `get_proceso(12345678)` finds it; with one of id
12345678 it finds nothing. -/
theorem not_run_representa :
    (∃ m, run (llamar fun _ => none) (almacenInicial [])
        [.insertarProceso 1234567 (CString.ofBytes (ascii "a")) 64 4096] = some m ∧
      (Mapa.run (fun _ => none)
        [.insertarProceso 1234567 (CString.ofBytes (ascii "a")) 64 4096] 12345678).isNone ∧
      (getProceso m 12345678).isSome) ∧
    ∃ m, run (llamar fun _ => none) (almacenInicial [])
        [.insertarProceso 12345678 (CString.ofBytes (ascii "a")) 64 4096] = some m ∧
      (Mapa.run (fun _ => none)
        [.insertarProceso 12345678 (CString.ofBytes (ascii "a")) 64 4096] 12345678).isSome ∧
      (getProceso m 12345678).isNone :=
  ⟨⟨_, rfl, by decide, by decide⟩, ⟨_, rfl, by decide, by decide⟩⟩

end SoTp.Memoria
