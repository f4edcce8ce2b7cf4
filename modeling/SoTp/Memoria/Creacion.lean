import SoTp.Memoria.Mapa

/-!
# The creation of a thread in memoria

What `crear_hilo` (`memoria/src/manejar_kernel.c`, lines 399–436) does to any store.
The two levels of dictionaries hold one map, from a process id and a thread id to a
thread: `hiloEn`. Both keys are the whole number, so that no two pairs of ids share an
entry.

* `crearHilo_of_some`: with a process and a file it inserts `nuevoHilo`.
* `hiloEn_insertarHilo`: **the insertion changes the thread of one pair of ids**.
* `run_vivo`: no process is freed while a dictionary still has it, as long as the ids
  print in seven characters.
* `crearHilo_atomico`: the two outcomes of a call.
-/

namespace SoTp.Memoria

open SoTp.Lib SoTp.Utils

/-! ## Two levels as one map -/

/-- The process under `string_itoa(pid)`, freed or not. -/
def procesoEn (m : Almacen) (pid : Int32) : Option TProceso := m.procesos.lookup (stringItoa pid)

/-- The thread under `string_itoa(tid)` of the process under `string_itoa(pid)`. -/
def hiloEn (m : Almacen) (pid tid : Int32) : Option THilo :=
  (procesoEn m pid).bind fun proceso => proceso.hilos.lookup (stringItoa tid)

/-- `proceso` with `hilo` in its dictionary. -/
def TProceso.conHilo (proceso : TProceso) (tid : Int32) (hilo : THilo) : TProceso :=
  { proceso with hilos := proceso.hilos.insert (stringItoa tid) hilo }

/-- The store after the insertion of `hilo` into `proceso`, which is the one of `pid`. -/
def insertarHilo (m : Almacen) (pid tid : Int32) (proceso : TProceso) (hilo : THilo) : Almacen :=
  { m with procesos := m.procesos.insert (stringItoa pid) (proceso.conHilo tid hilo) }

section

variable {m : Almacen} {pid tid pid' tid' : Int32} {proceso : TProceso} {hilo : THilo}

@[simp] theorem procesoEn_insertarHilo :
    procesoEn (insertarHilo m pid tid proceso hilo) pid = some (proceso.conHilo tid hilo) :=
  AList.lookup_insert _

theorem procesoEn_insertarHilo_of_ne (h : pid' ≠ pid) :
    procesoEn (insertarHilo m pid tid proceso hilo) pid' = procesoEn m pid' :=
  AList.lookup_insert_ne fun hk => h (stringItoa_injective hk)

@[simp] theorem TProceso.conHilo_datos : (proceso.conHilo tid hilo).datos = proceso.datos := rfl

/-- The insertion changes the thread of one pair of ids, and of no other. -/
theorem hiloEn_insertarHilo (hproceso : procesoEn m pid = some proceso) :
    hiloEn (insertarHilo m pid tid proceso hilo) pid' tid' =
      if pid' = pid ∧ tid' = tid then some hilo else hiloEn m pid' tid' := by
  unfold hiloEn
  by_cases hpid : pid' = pid
  · rw [hpid, procesoEn_insertarHilo, hproceso]
    show (proceso.hilos.insert (stringItoa tid) hilo).lookup (stringItoa tid') = _
    by_cases htid : tid' = tid
    · rw [htid, if_pos ⟨rfl, rfl⟩]
      exact AList.lookup_insert _
    · rw [if_neg fun h => htid h.2]
      exact AList.lookup_insert_ne fun hk => htid (stringItoa_injective hk)
  · rw [if_neg fun h => hpid h.1, procesoEn_insertarHilo_of_ne hpid]

/-- The lookups find the thread that was inserted, when the ids print in seven
characters. -/
theorem getHilo_insertarHilo (hpid : EnRango pid) (htid : EnRango tid)
    (hvivo : proceso.liberado = false) :
    getHilo (insertarHilo m pid tid proceso hilo) pid tid = some (some hilo) := by
  have hget : getProceso (insertarHilo m pid tid proceso hilo) pid =
      some (proceso.conHilo tid hilo) := (getProceso_eq hpid).trans procesoEn_insertarHilo
  rw [getHilo_of_some hget hvivo, claveBusqueda_eq htid]
  exact congrArg some (AList.lookup_insert proceso.hilos)

end

/-! ## The two outcomes -/

section

variable {archivos : CString → Option (List UInt8)} {m : Almacen} {pid tid : Int32}
  {archivo : CString} {prioridad : Int32}

theorem crearHilo_of_some {proceso : TProceso} {instrucciones : List CString}
    (hproceso : procesoEn m pid = some proceso) (hvivo : proceso.liberado = false)
    (hinstrucciones : obtenerInstrucciones archivos archivo = some instrucciones) :
    crearHilo archivos m pid tid archivo prioridad = some (true,
      insertarHilo m pid tid proceso (nuevoHilo tid archivo prioridad instrucciones)) := by
  unfold procesoEn at hproceso
  simp [crearHilo, hproceso, hvivo, hinstrucciones, insertarHilo, TProceso.conHilo]

/-- While the ids print in seven characters, no process that is freed stays behind. -/
theorem run_vivo {llamadas : List Llamada} {l : List TParticion} {proceso : TProceso}
    (hllamadas : ∀ c ∈ llamadas, c.EnRango) (hpid : EnRango pid)
    (hrun : run (llamar archivos) (almacenInicial l) llamadas = some m)
    (hproceso : procesoEn m pid = some proceso) : proceso.liberado = false := by
  have hR := representa_of_run (representa_inicial l) hllamadas hrun
  obtain ⟨P, -, hrep⟩ := hR.exists_of_some hpid hproceso
  exact hrep.vivo

/-- So that `crear_hilo` comes back, whatever was called before. -/
theorem crearHilo_isSome_of_run {llamadas : List Llamada} {l : List TParticion}
    (hllamadas : ∀ c ∈ llamadas, c.EnRango) (hpid : EnRango pid)
    (hrun : run (llamar archivos) (almacenInicial l) llamadas = some m) :
    (crearHilo archivos m pid tid archivo prioridad).isSome := by
  cases hproceso : procesoEn m pid with
  | none =>
    rw [crearHilo_eq_false_iff.mpr (Or.inl hproceso)]
    rfl
  | some proceso =>
    cases hinstrucciones : obtenerInstrucciones archivos archivo with
    | none =>
      rw [crearHilo_eq_false_iff.mpr (Or.inr hinstrucciones)]
      rfl
    | some instrucciones =>
      rw [crearHilo_of_some hproceso (run_vivo hllamadas hpid hrun hproceso) hinstrucciones]
      rfl

end

/-- **The creation of a thread** either fails and leaves the store as it was, which it
does without a process or without a file, or puts a thread with its registers at 0 under
the two ids. It changes no process of another id and no thread of another pair of ids,
and nothing else of the process and of memoria. The process is one that has not been
freed: a dictionary that still has a freed one is followed into it. -/
theorem crearHilo_atomico (archivos : CString → Option (List UInt8)) (m : Almacen)
    (pid tid : Int32) (archivo : CString) (prioridad : Int32) :
    (crearHilo archivos m pid tid archivo prioridad = some (false, m) ↔
      procesoEn m pid = none ∨ obtenerInstrucciones archivos archivo = none) ∧
    ∀ proceso instrucciones, procesoEn m pid = some proceso → proceso.liberado = false →
      obtenerInstrucciones archivos archivo = some instrucciones →
      ∃ m', crearHilo archivos m pid tid archivo prioridad = some (true, m') ∧
        hiloEn m' pid tid =
          some ⟨tid, prioridad, ⟨0, 0, 0, 0, 0, 0, 0, 0, 0⟩, archivo, instrucciones, false⟩ ∧
        (∀ pid' tid', pid' ≠ pid ∨ tid' ≠ tid → hiloEn m' pid' tid' = hiloEn m pid' tid') ∧
        (∀ pid', pid' ≠ pid → procesoEn m' pid' = procesoEn m pid') ∧
        (procesoEn m' pid).map TProceso.datos = some proceso.datos ∧
        m'.listaParticiones = m.listaParticiones := by
  refine ⟨crearHilo_eq_false_iff, ?_⟩
  intro proceso instrucciones hproceso hvivo hinstrucciones
  refine ⟨_, crearHilo_of_some hproceso hvivo hinstrucciones, ?_, ?_, ?_, ?_, rfl⟩
  · rw [hiloEn_insertarHilo hproceso, if_pos ⟨rfl, rfl⟩]
    rfl
  · intro pid' tid' hne
    rw [hiloEn_insertarHilo hproceso, if_neg (by tauto)]
  · intro pid' hne
    exact procesoEn_insertarHilo_of_ne hne
  · rw [procesoEn_insertarHilo, Option.map_some, TProceso.conHilo_datos]

/-- A second thread of process 0, next to a process 1 with a thread of the same id. -/
theorem crearHilo_atomico_segundo :
    let archivos : CString → Option (List UInt8) := fun _ => some (ascii "EXIT")
    let archivo : CString := CString.ofBytes (ascii "a")
    let hilo : THilo := nuevoHilo 1 archivo 3 []
    let proceso : TProceso := ⟨0, 4096, 64, ∅, archivo, false⟩
    let otro : TProceso := ⟨1, 8192, 32, (∅ : Diccionario THilo).insert (stringItoa 1) hilo,
      archivo, false⟩
    let m : Almacen := ⟨((∅ : Diccionario TProceso).insert (stringItoa 1) otro).insert
      (stringItoa 0) proceso, []⟩
    ∃ m', crearHilo archivos m 0 1 archivo 7 = some (true, m') ∧ hiloEn m' 1 1 = hiloEn m 1 1 := by
  intro archivos archivo hilo proceso otro m
  obtain ⟨m', hm', -, hotros, -⟩ := (crearHilo_atomico archivos m 0 1 archivo 7).2 proceso
    [CString.ofBytes (ascii "EXIT")] (AList.lookup_insert _) rfl (by decide)
  exact ⟨m', hm', hotros 1 1 (Or.inl (by decide))⟩

end SoTp.Memoria
