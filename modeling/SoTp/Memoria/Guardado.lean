import SoTp.Memoria.Enlace
import SoTp.Memoria.Mapa

/-!
# What memoria keeps of a thread

The requests of the kernel (`memoria/src/manejar_kernel.c`, lines 362–494) and of the CPU
(`memoria/src/manejar_cpu.c`, lines 61–211) on one store, in any order.

* `servir_representa`: one request does the same to the dictionaries and to a map of processes
  and threads.
* `run_guardado`: **what was last saved of a thread is what is read of it**, whatever is asked
  for other threads and processes in the meantime.
-/

namespace SoTp.Memoria

open SoTp.Lib SoTp.Utils

/-! ## Model -/

/-- A request: a call for the kernel, or a turn of `hilo_instrucciones_cpu`. -/
inductive Servicio where
  | kernel (c : Llamada)
  | cpu (cadenaEn : ℤ → CString) (g : Mem) (peticion : PeticionCpu)

/-- The store after a request, or `none` when memoria does not come back from it. -/
def servir (archivos : CString → Option (List UInt8)) (m : Almacen) : Servicio → Option Almacen
  | .kernel c => llamar archivos m c
  | .cpu cadenaEn g peticion => (atenderCpu cadenaEn g m peticion).map Prod.snd

/-- The ids of a request that changes the store print in at most seven characters. -/
def Servicio.EnRango : Servicio → Prop
  | .kernel c => c.EnRango
  | .cpu _ _ (.actualizarContexto pid tid _) => Memoria.EnRango pid ∧ Memoria.EnRango tid
  | .cpu _ _ _ => True

/-! ## Specification -/

/-- The request creates or ends the thread `tid` of `pid`, or its process, or saves its
context. -/
def Servicio.Toca (pid tid : Int32) : Servicio → Prop
  | .kernel (.insertarProceso pid' _ _ _) => pid' = pid
  | .kernel (.crearHilo pid' tid' _ _) => pid' = pid ∧ tid' = tid
  | .kernel (.finalizarHilo pid' tid') => pid' = pid ∧ tid' = tid
  | .kernel (.finalizarProceso _ pid') => pid' = pid
  | .cpu _ _ (.actualizarContexto pid' tid' _) => pid' = pid ∧ tid' = tid
  | .cpu _ _ _ => False

/-- What `obtener_contexto` and `obtener_instruccion_numero` read of a thread: the memory of its
process, its registers and its instructions. -/
structure Lee (m : Almacen) (pid tid : Int32) (datos : DatosProceso) (registros : TRegistrosHilo)
    (instrucciones : List CString) : Prop where
  contexto : ∀ cadenaEn, obtenerContexto cadenaEn m pid tid =
    some (some ⟨⟨cadenaEn datos.base, datos.limite⟩, registros⟩)
  instruccion : ∀ pc, obtenerInstruccionNumero m pid tid pc = some (listGet instrucciones pc)

/-- The registers of a thread of the map are replaced, if it exists. -/
def Mapa.actualizar (M : Mapa) (pid tid : Int32) (registros : TRegistrosHilo) : Mapa :=
  match M pid with
  | none => M
  | some P =>
    Function.update M pid (some { P with
      hilos := Function.update P.hilos tid
        ((P.hilos tid).map fun hilo => { hilo with registro := registros }) })

/-- A request on the map. -/
def Mapa.servir (archivos : CString → Option (List UInt8)) (M : Mapa) : Servicio → Mapa
  | .kernel c => M.llamar archivos c
  | .cpu _ _ (.actualizarContexto pid tid contexto) => M.actualizar pid tid contexto.registros
  | .cpu _ _ _ => M

/-- What the map holds for a thread, with the data of its process. -/
def Mapa.guardado (M : Mapa) (pid tid : Int32) : Option (DatosProceso × Option THilo) :=
  (M pid).map fun P => (P.datos, P.hilos tid)

/-! ## One request -/

section

variable {archivos : CString → Option (List UInt8)} {m m' : Almacen} {M : Mapa}
  {pid tid : Int32}

theorem actualizarContexto_representa (hR : Representa m M) (hpid : EnRango pid)
    (htid : EnRango tid) {contexto : TContextoCpu} {exito : Bool}
    (h : actualizarContexto m pid tid contexto = some (exito, m')) :
    Representa m' (M.actualizar pid tid contexto.registros) := by
  unfold actualizarContexto at h
  cases hproceso : getProceso m pid with
  | none =>
    rw [hproceso] at h
    obtain ⟨-, rfl⟩ := Prod.mk.inj (Option.some.inj h)
    have hM := hR.eq_none hpid (getProceso_eq hpid ▸ hproceso)
    unfold Mapa.actualizar
    rw [hM]
    exact hR
  | some proceso =>
    obtain ⟨P, hM, hrep⟩ := hR.exists_of_some hpid (getProceso_eq hpid ▸ hproceso)
    rw [hproceso] at h
    dsimp only at h
    rw [getHilo_of_some hproceso hrep.vivo, claveBusqueda_eq htid, claveBusqueda_eq hpid,
      hrep.hilos tid htid, Option.map_some] at h
    unfold Mapa.actualizar
    rw [hM]
    dsimp only
    cases hhilo : P.hilos tid with
    | none =>
      rw [hhilo] at h
      obtain ⟨-, rfl⟩ := Prod.mk.inj (Option.some.inj h)
      have hsame : Function.update P.hilos tid none = P.hilos := by
        rw [← hhilo, Function.update_eq_self]
      rw [Option.map_none, hsame, ← hM, Function.update_eq_self]
      exact hR
    | some hilo =>
      rw [hhilo] at h
      obtain ⟨-, rfl⟩ := Prod.mk.inj (Option.some.inj h)
      apply hR.update
      · intro k hk
        exact AList.lookup_insert_ne hk
      · rw [AList.lookup_insert]
        exact .some (hrep.insertarHilo tid _)

/-- **One request** does the same to the dictionaries and to the map. -/
theorem servir_representa (hR : Representa m M) {s : Servicio} (hs : s.EnRango)
    (h : servir archivos m s = some m') : Representa m' (M.servir archivos s) := by
  cases s with
  | kernel c => exact llamar_representa hR hs h
  | cpu cadenaEn g peticion =>
    obtain ⟨r, hr, rfl⟩ := Option.map_eq_some_iff.mp h
    cases peticion with
    | obtenerContexto pid tid =>
      obtain ⟨contexto, -, rfl⟩ := Option.map_eq_some_iff.mp hr
      exact hR
    | actualizarContexto pid tid contexto =>
      obtain ⟨⟨exito, m'⟩, hactualizar, rfl⟩ := Option.map_eq_some_iff.mp hr
      exact actualizarContexto_representa hR hs.1 hs.2 hactualizar
    | obtenerInstruccion pid tid pc =>
      obtain ⟨instruccion, -, hr⟩ := Option.bind_eq_some_iff.mp hr
      obtain ⟨respuesta, -, hr⟩ := Option.bind_eq_some_iff.mp hr
      obtain rfl := Option.some.inj hr
      exact hR
    | readMem =>
      obtain rfl := Option.some.inj hr
      exact hR
    | writeMem =>
      obtain rfl := Option.some.inj hr
      exact hR

/-! ## What a request leaves alone -/

@[simp] theorem Mapa.guardado_update_self (P : Option ProcesoMapa) :
    Mapa.guardado (Function.update M pid P) pid tid = P.map fun P => (P.datos, P.hilos tid) := by
  rw [Mapa.guardado, Function.update_self]

theorem Mapa.guardado_update_of_ne {pid' : Int32} (h : pid' ≠ pid) (P : Option ProcesoMapa) :
    Mapa.guardado (Function.update M pid' P) pid tid = M.guardado pid tid := by
  rw [Mapa.guardado, Function.update_of_ne (Ne.symm h), Mapa.guardado]

theorem Mapa.guardado_update_hilo {pid' tid' : Int32} (h : ¬ (pid' = pid ∧ tid' = tid))
    {P : ProcesoMapa} (hP : M pid' = some P) (hilo : Option THilo) :
    Mapa.guardado (Function.update M pid' (some { P with
      hilos := Function.update P.hilos tid' hilo })) pid tid = M.guardado pid tid := by
  by_cases hpid : pid' = pid
  · subst hpid
    have htid : tid ≠ tid' := fun heq => h ⟨rfl, heq.symm⟩
    rw [Mapa.guardado_update_self, Option.map_some, Mapa.guardado, hP, Option.map_some]
    dsimp only
    rw [Function.update_of_ne htid]
  · exact Mapa.guardado_update_of_ne hpid _

theorem Mapa.servir_guardado {s : Servicio} (h : ¬ s.Toca pid tid) :
    (M.servir archivos s).guardado pid tid = M.guardado pid tid := by
  cases s with
  | kernel c =>
    cases c with
    | insertarProceso pid' archivo tamProceso base => exact Mapa.guardado_update_of_ne h _
    | crearHilo pid' tid' archivo prioridad =>
      show (M.llamar archivos (.crearHilo pid' tid' archivo prioridad)).guardado pid tid = _
      unfold Mapa.llamar
      dsimp only
      split
      · rename_i P instrucciones hP hinstrucciones
        exact Mapa.guardado_update_hilo h hP _
      · rfl
    | finalizarHilo pid' tid' =>
      show (M.llamar archivos (.finalizarHilo pid' tid')).guardado pid tid = _
      unfold Mapa.llamar
      dsimp only
      split
      · rename_i P hP
        exact Mapa.guardado_update_hilo h hP none
      · rfl
    | finalizarProceso freeReturns pid' => exact Mapa.guardado_update_of_ne h none
  | cpu cadenaEn g peticion =>
    cases peticion with
    | actualizarContexto pid' tid' contexto =>
      show (M.actualizar pid' tid' contexto.registros).guardado pid tid = _
      unfold Mapa.actualizar
      split
      · rfl
      · rename_i P hP
        exact Mapa.guardado_update_hilo h hP _
    | obtenerContexto pid' tid' => rfl
    | obtenerInstruccion pid' tid' pc => rfl
    | readMem => rfl
    | writeMem => rfl

/-! ## Reading -/

/-- What the map holds for a thread that has not been freed is what is read. -/
theorem lee_of_guardado (hR : Representa m M) (hpid : EnRango pid) (htid : EnRango tid)
    {datos : DatosProceso} {hilo : THilo}
    (hguardado : M.guardado pid tid = some (datos, some hilo)) (hvivo : hilo.liberado = false) :
    Lee m pid tid datos hilo.registro hilo.instrucciones := by
  obtain ⟨P, hP, heq⟩ := Option.map_eq_some_iff.mp hguardado
  obtain ⟨hdatos, hhilo⟩ := Prod.mk.inj heq
  have hget : getHilo m pid tid = some (some hilo) := by
    rw [hR.getHilo hpid htid, hP, Option.map_some, hhilo]
  obtain ⟨proceso, hproceso, -, -⟩ := getHilo_eq_some hget
  have hproceso' := hR.getProceso hpid
  rw [hproceso, hP, Option.map_some, Option.map_some, hdatos] at hproceso'
  have hproceso' : proceso.datos = datos := Option.some.inj hproceso'
  constructor
  · intro cadenaEn
    rw [obtenerContexto, hproceso]
    dsimp only
    rw [hget, ← hproceso']
    rfl
  · intro pc
    simp [obtenerInstruccionNumero, hget, hvivo]

end

/-! ## Runs -/

/-- No thread of the map has been freed. -/
def Mapa.Vivo (M : Mapa) : Prop :=
  ∀ pid P tid hilo, M pid = some P → P.hilos tid = some hilo → hilo.liberado = false

section

variable {archivos : CString → Option (List UInt8)} {M : Mapa}

theorem Mapa.Vivo.update (h : M.Vivo) (pid : Int32) {P : Option ProcesoMapa}
    (hP : ∀ Q tid hilo, P = some Q → Q.hilos tid = some hilo → hilo.liberado = false) :
    Mapa.Vivo (Function.update M pid P) := by
  intro pid' Q tid hilo hQ hhilo
  by_cases hpid : pid' = pid
  · rw [hpid, Function.update_self] at hQ
    exact hP Q tid hilo hQ hhilo
  · rw [Function.update_of_ne hpid] at hQ
    exact h pid' Q tid hilo hQ hhilo

theorem Mapa.Vivo.update_hilo (h : M.Vivo) {pid : Int32} (tid : Int32) {P : ProcesoMapa}
    (hP : M pid = some P) {hilo : Option THilo} (hhilo : ∀ x, hilo = some x → x.liberado = false) :
    Mapa.Vivo (Function.update M pid (some { P with
      hilos := Function.update P.hilos tid hilo })) := by
  refine h.update pid fun Q tid' x hQ hx => ?_
  obtain rfl := Option.some.inj hQ
  dsimp only at hx
  by_cases htid : tid' = tid
  · rw [htid, Function.update_self] at hx
    exact hhilo x hx
  · rw [Function.update_of_ne htid] at hx
    exact h pid P tid' x hP hx

theorem Mapa.Vivo.servir (h : M.Vivo) (s : Servicio) : (M.servir archivos s).Vivo := by
  cases s with
  | kernel c =>
    cases c with
    | insertarProceso pid archivo tamProceso base =>
      refine h.update pid fun Q tid hilo hQ hhilo => ?_
      obtain rfl := Option.some.inj hQ
      cases hhilo
    | crearHilo pid tid archivo prioridad =>
      show (M.llamar archivos (.crearHilo pid tid archivo prioridad)).Vivo
      unfold Mapa.llamar
      dsimp only
      split
      · rename_i P instrucciones hP hinstrucciones
        exact h.update_hilo tid hP fun x hx => Option.some.inj hx ▸ rfl
      · exact h
    | finalizarHilo pid tid =>
      show (M.llamar archivos (.finalizarHilo pid tid)).Vivo
      unfold Mapa.llamar
      dsimp only
      split
      · rename_i P hP
        exact h.update_hilo tid hP fun x hx => by cases hx
      · exact h
    | finalizarProceso freeReturns pid =>
      exact h.update pid fun Q tid hilo hQ _ => by cases hQ
  | cpu cadenaEn g peticion =>
    cases peticion with
    | actualizarContexto pid tid contexto =>
      show (M.actualizar pid tid contexto.registros).Vivo
      unfold Mapa.actualizar
      split
      · exact h
      · rename_i P hP
        refine h.update_hilo tid hP fun x hx => ?_
        obtain ⟨hilo, hhilo, rfl⟩ := Option.map_eq_some_iff.mp hx
        exact h pid P tid hilo hP hhilo
    | obtenerContexto pid tid => exact h
    | obtenerInstruccion pid tid pc => exact h
    | readMem => exact h
    | writeMem => exact h

/-- What holds of the store in every run. -/
def Guardada (m : Almacen) (M : Mapa) : Prop := Representa m M ∧ M.Vivo

theorem servir_guardada {m m' : Almacen} (h : Guardada m M) {s : Servicio} (hs : s.EnRango)
    (hm' : servir archivos m s = some m') : Guardada m' (M.servir archivos s) :=
  ⟨servir_representa h.1 hs hm', h.2.servir s⟩

theorem exists_guardada_of_run {l : List TParticion} {m : Almacen} {servicios : List Servicio}
    (hrango : ∀ s ∈ servicios, s.EnRango)
    (hrun : run (servir archivos) (almacenInicial l) servicios = some m) :
    ∃ M, Guardada m M := by
  have hkeep (n : Almacen) (s : Servicio) (n' : Almacen) (hn : ∃ M, Guardada n M)
      (hs : s.EnRango) (hn' : servir archivos n s = some n') : ∃ M, Guardada n' M := by
    obtain ⟨M, hM⟩ := hn
    exact ⟨M.servir archivos s, servir_guardada hM hs hn'⟩
  have hinicial : Guardada (almacenInicial l) fun _ => none :=
    ⟨representa_inicial l, fun _ _ _ _ hM => by cases hM⟩
  exact run_invariant hkeep ⟨_, hinicial⟩ (along_of_forall hrango _) hrun

/-- What no request touches stays. -/
theorem guardado_of_run {m m' : Almacen} {pid tid : Int32} {servicios : List Servicio}
    (h : Guardada m M) (hrango : ∀ s ∈ servicios, s.EnRango)
    (hintacto : ∀ s ∈ servicios, ¬ s.Toca pid tid)
    (hrun : run (servir archivos) m servicios = some m') :
    ∃ M', Guardada m' M' ∧ M'.guardado pid tid = M.guardado pid tid := by
  have hkeep (n : Almacen) (s : Servicio) (n' : Almacen)
      (hn : ∃ N, Guardada n N ∧ N.guardado pid tid = M.guardado pid tid)
      (hs : s.EnRango ∧ ¬ s.Toca pid tid) (hn' : servir archivos n s = some n') :
      ∃ N, Guardada n' N ∧ N.guardado pid tid = M.guardado pid tid := by
    obtain ⟨N, hN, hguardado⟩ := hn
    exact ⟨N.servir archivos s, servir_guardada hN hs.1 hn',
      (Mapa.servir_guardado hs.2).trans hguardado⟩
  have hcondicion : ∀ s ∈ servicios, s.EnRango ∧ ¬ s.Toca pid tid := fun s hs =>
    ⟨hrango s hs, hintacto s hs⟩
  exact run_invariant hkeep ⟨M, h, rfl⟩ (along_of_forall hcondicion m) hrun

end

/-- **Last write wins.** After any requests `antes`, let `s` save the context of a thread that
exists, or create it in a process that exists from a file that can be read. However the
requests of the kernel and of the CPU follow, while none of them touches the thread, what is
read of it is the memory of its process, the registers that were saved (all 0 for a new
thread) and the instructions of its file. -/
theorem run_guardado (archivos : CString → Option (List UInt8)) (l : List TParticion)
    (antes despues : List Servicio) (s : Servicio) (m₁ m₂ m : Almacen) (pid tid : Int32)
    (proceso : TProceso) (hpid : EnRango pid) (htid : EnRango tid)
    (hantes : ∀ s ∈ antes, s.EnRango) (hdespues : ∀ s ∈ despues, s.EnRango)
    (hintacto : ∀ s ∈ despues, ¬ s.Toca pid tid)
    (hrun₁ : run (servir archivos) (almacenInicial l) antes = some m₁)
    (hs : servir archivos m₁ s = some m₂) (hrun₂ : run (servir archivos) m₂ despues = some m)
    (hproceso : getProceso m₁ pid = some proceso) :
    (∀ cadenaEn g contexto hilo, s = .cpu cadenaEn g (.actualizarContexto pid tid contexto) →
        getHilo m₁ pid tid = some (some hilo) →
        Lee m pid tid proceso.datos contexto.registros hilo.instrucciones) ∧
      ∀ archivo prioridad instrucciones, s = .kernel (.crearHilo pid tid archivo prioridad) →
        obtenerInstrucciones archivos archivo = some instrucciones →
        Lee m pid tid proceso.datos ⟨0, 0, 0, 0, 0, 0, 0, 0, 0⟩ instrucciones := by
  obtain ⟨M, hM⟩ := exists_guardada_of_run hantes hrun₁
  obtain ⟨P, hP, hrep⟩ := hM.1.exists_of_some hpid (getProceso_eq hpid ▸ hproceso)
  -- what the map holds once `s` has been served is there to the end
  have hlee (hrango : s.EnRango) (hilo : THilo) (hvivo : hilo.liberado = false)
      (hguardado : (M.servir archivos s).guardado pid tid = some (proceso.datos, some hilo)) :
      Lee m pid tid proceso.datos hilo.registro hilo.instrucciones := by
    obtain ⟨M', hM', heq⟩ :=
      guardado_of_run (servir_guardada hM hrango hs) hdespues hintacto hrun₂
    exact lee_of_guardado hM'.1 hpid htid (heq.trans hguardado) hvivo
  constructor
  · rintro cadenaEn g contexto hilo rfl hhilo
    rw [hM.1.getHilo hpid htid, hP, Option.map_some] at hhilo
    have hhilo := Option.some.inj hhilo
    refine hlee ⟨hpid, htid⟩ { hilo with registro := contexto.registros }
      (hM.2 pid P tid hilo hP hhilo) ?_
    show (M.actualizar pid tid contexto.registros).guardado pid tid = _
    simp [Mapa.actualizar, hP, hhilo, hrep.datos]
  · rintro archivo prioridad instrucciones rfl hinstrucciones
    have hids : (Llamada.crearHilo pid tid archivo prioridad).EnRango :=
      ⟨hpid, fun t ht => Option.some.inj ht ▸ htid⟩
    refine hlee hids (nuevoHilo tid archivo prioridad instrucciones) rfl ?_
    show (M.llamar archivos (.crearHilo pid tid archivo prioridad)).guardado pid tid = _
    simp [Mapa.llamar, hP, hinstrucciones, hrep.datos]

/-- The context of the only thread is saved, and then a process 1 is inserted. -/
theorem run_guardado_uno :
    ∃ m, run (servir fun _ => some (ascii "EXIT")) (almacenInicial [])
        [.kernel (.insertarProceso 0 (CString.ofBytes (ascii "a")) 64 4096),
          .kernel (.crearHilo 0 0 (CString.ofBytes (ascii "a")) 3),
          .cpu (fun _ => CString.ofBytes []) (fun _ => 0) (.actualizarContexto 0 0
            ⟨⟨CString.ofBytes [], 0⟩, ⟨1, 2, 3, 4, 5, 6, 7, 8, 9⟩⟩),
          .kernel (.insertarProceso 1 (CString.ofBytes (ascii "b")) 32 8192)] = some m ∧
      Lee m 0 0 ⟨0, 4096, 64, CString.ofBytes (ascii "a")⟩ ⟨1, 2, 3, 4, 5, 6, 7, 8, 9⟩
        [CString.ofBytes (ascii "EXIT")] := by
  have hids : ∀ s ∈ ([.kernel (.insertarProceso 0 (CString.ofBytes (ascii "a")) 64 4096),
      .kernel (.crearHilo 0 0 (CString.ofBytes (ascii "a")) 3)] : List Servicio), s.EnRango := by
    simp [Servicio.EnRango, Llamada.EnRango, Llamada.pid, Llamada.tid, EnRango]
  have hids' : ∀ s ∈ ([.kernel (.insertarProceso 1 (CString.ofBytes (ascii "b")) 32 8192)] :
      List Servicio), s.EnRango ∧ ¬ s.Toca 0 0 := by
    simp [Servicio.EnRango, Servicio.Toca, Llamada.EnRango, Llamada.pid, Llamada.tid, EnRango]
  have hsome : (run (servir fun _ => some (ascii "EXIT")) (almacenInicial [])
      ([.kernel (.insertarProceso 0 (CString.ofBytes (ascii "a")) 64 4096),
          .kernel (.crearHilo 0 0 (CString.ofBytes (ascii "a")) 3)] ++
        .cpu (fun _ => CString.ofBytes []) (fun _ => 0) (.actualizarContexto 0 0
          ⟨⟨CString.ofBytes [], 0⟩, ⟨1, 2, 3, 4, 5, 6, 7, 8, 9⟩⟩) ::
        [.kernel (.insertarProceso 1 (CString.ofBytes (ascii "b")) 32 8192)])).isSome := by decide
  have hdatos : ((run (servir fun _ => some (ascii "EXIT")) (almacenInicial [])
      [.kernel (.insertarProceso 0 (CString.ofBytes (ascii "a")) 64 4096),
        .kernel (.crearHilo 0 0 (CString.ofBytes (ascii "a")) 3)]).bind fun m =>
          (getProceso m 0).map TProceso.datos) =
      some ⟨0, 4096, 64, CString.ofBytes (ascii "a")⟩ := by decide
  have hhilo : ((run (servir fun _ => some (ascii "EXIT")) (almacenInicial [])
      [.kernel (.insertarProceso 0 (CString.ofBytes (ascii "a")) 64 4096),
        .kernel (.crearHilo 0 0 (CString.ofBytes (ascii "a")) 3)]).bind fun m => getHilo m 0 0) =
      some (some ⟨0, 3, ⟨0, 0, 0, 0, 0, 0, 0, 0, 0⟩, CString.ofBytes (ascii "a"),
        [CString.ofBytes (ascii "EXIT")], false⟩) := by decide
  obtain ⟨m, hm⟩ := Option.isSome_iff_exists.mp hsome
  refine ⟨m, hm, ?_⟩
  rw [run_append] at hm
  obtain ⟨m₁, hm₁, hresto⟩ := Option.bind_eq_some_iff.mp hm
  obtain ⟨m₂, hs, hdespues⟩ := run_cons_eq_some _ hresto
  rw [hm₁, Option.bind_some] at hdatos hhilo
  obtain ⟨proceso, hproceso, hdatos⟩ := Option.map_eq_some_iff.mp hdatos
  rw [← hdatos]
  exact (run_guardado _ [] _ _ _ m₁ m₂ m 0 0 proceso (by simp [EnRango]) (by simp [EnRango]) hids
    (fun s hs => (hids' s hs).1) (fun s hs => (hids' s hs).2) hm₁ hs hdespues hproceso).1
    _ _ _ _ rfl hhilo

end SoTp.Memoria
