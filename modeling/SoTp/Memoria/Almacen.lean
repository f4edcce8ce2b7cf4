import SoTp.Lib.Decimal
import SoTp.Memoria.Liberacion
import SoTp.Utils.Tipos

/-!
# The processes and threads of memoria

Models of the dictionary `procesos` and of the functions that use it: `get_proceso`
and `get_hilo` (`memoria/src/main.c`, lines 211–245), `liberar_proceso` and
`liberar_hilo` (lines 247–290), `crear_proceso`, `crear_hilo`,
`finalizar_proceso`, `finalizar_hilo` and `obtener_instrucciones`
(`memoria/src/manejar_kernel.c`, lines 362–535), `obtener_contexto`,
`actualizar_contexto` and `obtener_instruccion_numero`
(`memoria/src/manejar_cpu.c`, lines 127–205).

* A `t_dictionary` is a finite map from strings; `dictionary_put` replaces what
  was stored under the key.
* A result `none` is a function that does not come back: it follows `NULL`, or
  uses or frees what has been freed. `liberado` marks what `liberar_proceso` or
  `liberar_hilo` has freed while a dictionary still refers to it.
* `string_itoa` prints the whole number and is the key of every insertion and
  removal; the lookups print it into `char[8]`, which holds seven characters.
-/

namespace SoTp.Memoria

open SoTp.Lib SoTp.Utils

/-! ## Keys -/

/-- `string_itoa(n)`. -/
def stringItoa (n : Int32) : CString := ⟨decimal n.toInt, zero_notMem_decimal _⟩

/-- The key of the lookups: `snprintf(str, 8, "%d", n)`. -/
def claveBusqueda (n : Int32) : CString where
  bytes := (decimal n.toInt).take 7
  noNul h := zero_notMem_decimal _ (List.mem_of_mem_take h)

/-! ## Structures -/

/-- A `t_dictionary` with elements `α`. -/
abbrev Diccionario (α : Type) := AList fun _ : CString => α

/-- `t_hilo` (`commons.h`, lines 30–38). -/
structure THilo where
  tid : Int32
  prioridad : Int32
  registro : TRegistrosHilo
  archivoPseudocodigo : CString
  instrucciones : List CString
  liberado : Bool
  deriving DecidableEq

/-- `t_proceso` (`commons.h`, lines 40–47); `base` and `limite` are its `contexto`. -/
structure TProceso where
  pid : Int32
  base : ℤ
  limite : Int32
  hilos : Diccionario THilo
  archivoPseudocodigo : CString
  liberado : Bool

/-- What memoria keeps: the dictionary `procesos` and `lista_particiones`. -/
structure Almacen where
  procesos : Diccionario TProceso
  listaParticiones : List TParticion

/-! ## Lookups -/

/-- `get_proceso(pid)`. -/
def getProceso (m : Almacen) (pid : Int32) : Option TProceso :=
  m.procesos.lookup (claveBusqueda pid)

/-- `get_hilo(pid, tid)`, which follows the result of `get_proceso` whatever it is. -/
def getHilo (m : Almacen) (pid tid : Int32) : Option (Option THilo) := do
  let proceso ← getProceso m pid
  if proceso.liberado then none else some (proceso.hilos.lookup (claveBusqueda tid))

/-! ## The pseudocode files -/

/-- The bytes up to the first newline, which is the last of them. -/
def hastaSalto : List UInt8 → List UInt8
  | [] => []
  | b :: bs => if b = 10 then [b] else b :: hastaSalto bs

/-- `fgets(linea, 256, …)` when `s` is the rest of the file. -/
def fgets (s : List UInt8) : List UInt8 × List UInt8 :=
  let linea := hastaSalto (s.take 255)
  (linea, s.drop linea.length)

/-- The loop of `obtener_instrucciones`; every line takes a byte at least. -/
def instruccionesLoop : ℕ → List UInt8 → List CString
  | 0, _ => []
  | n + 1, s =>
    if s = [] then []
    else
      let (linea, s) := fgets s
      if linea.head? = some 10 then instruccionesLoop n s
      else CString.ofBytes (linea.takeWhile (· ≠ 10)) :: instruccionesLoop n s

/-- `obtener_instrucciones(filename)`; `archivos` are the files that `fopen` finds. -/
def obtenerInstrucciones (archivos : CString → Option (List UInt8)) (filename : CString) :
    Option (List CString) :=
  (archivos filename).map fun s => instruccionesLoop s.length s

/-! ## Requests of the kernel -/

/-- The insertion at the end of `crear_proceso` (lines 366–394), of a process whose
memory starts at `base`. -/
def insertarProceso (m : Almacen) (pid : Int32) (archivoPseudocodigo : CString)
    (tamProceso : Int32) (base : ℤ) : Almacen :=
  let nuevoProceso : TProceso :=
    { pid := pid
      base := base
      limite := tamProceso
      hilos := ∅
      archivoPseudocodigo := archivoPseudocodigo
      liberado := false }
  { m with procesos := m.procesos.insert (stringItoa pid) nuevoProceso }

/-- `asignar_memoria(tam_proceso)`, which is to be written and returns `NULL`. -/
def asignarMemoria (_tamProceso : Int32) : Option ℤ := none

/-- `crear_proceso(pid, archivo_pseudocodigo, tam_proceso)`. -/
def crearProceso (m : Almacen) (pid : Int32) (archivoPseudocodigo : CString) (tamProceso : Int32) :
    Bool × Almacen :=
  match asignarMemoria tamProceso with
  | none => (false, m)
  | some base => (true, insertarProceso m pid archivoPseudocodigo tamProceso base)

/-- `inicializar_registros`. -/
def inicializarRegistros : TRegistrosHilo := ⟨0, 0, 0, 0, 0, 0, 0, 0, 0⟩

/-- The thread that `crear_hilo` inserts. -/
def nuevoHilo (tid : Int32) (archivoPseudocodigo : CString) (prioridad : Int32)
    (instrucciones : List CString) : THilo where
  tid := tid
  prioridad := prioridad
  registro := inicializarRegistros
  archivoPseudocodigo := archivoPseudocodigo
  instrucciones := instrucciones
  liberado := false

/-- `crear_hilo(pid, tid, archivo_pseudocodigo, prioridad)`. -/
def crearHilo (archivos : CString → Option (List UInt8)) (m : Almacen) (pid tid : Int32)
    (archivoPseudocodigo : CString) (prioridad : Int32) : Option (Bool × Almacen) :=
  match m.procesos.lookup (stringItoa pid) with
  | none => some (false, m)
  | some proceso =>
    match obtenerInstrucciones archivos archivoPseudocodigo with
    | none => some (false, m)
    | some instrucciones =>
      if proceso.liberado then none
      else
        let hilo := nuevoHilo tid archivoPseudocodigo prioridad instrucciones
        let proceso := { proceso with hilos := proceso.hilos.insert (stringItoa tid) hilo }
        some (true, { m with procesos := m.procesos.insert (stringItoa pid) proceso })

/-- `liberar_proceso(proceso)`: the partitions it leaves. The memory of the process is
released and then passed to `free`; `freeReturns` says from which pointers the
allocator comes back. -/
def liberarProceso (freeReturns : ℤ → Bool) (proceso : TProceso) (l : List TParticion) :
    Option (List TParticion) :=
  if proceso.liberado || proceso.hilos.entries.any (fun hilo => hilo.2.liberado) then none
  else
    (liberarMemoria freeReturns proceso.base l).bind fun l =>
      if freeReturns proceso.base then some l else none

/-- `finalizar_proceso(pid)`: the process found by `get_proceso` is freed, and the
entry under the whole number removed. -/
def finalizarProceso (freeReturns : ℤ → Bool) (m : Almacen) (pid : Int32) :
    Option (Bool × Almacen) :=
  match getProceso m pid with
  | none => some (false, m)
  | some proceso =>
    (liberarProceso freeReturns proceso m.listaParticiones).map fun l =>
      let procesos := m.procesos.insert (claveBusqueda pid) { proceso with liberado := true }
      (true, { procesos := procesos.erase (stringItoa pid), listaParticiones := l })

/-- `finalizar_hilo(pid, tid)`: the thread found by `get_hilo` is freed, and the entry
under the whole number removed. -/
def finalizarHilo (m : Almacen) (pid tid : Int32) : Option (Bool × Almacen) := do
  let proceso ← getProceso m pid
  match ← getHilo m pid tid with
  | none => some (false, m)
  | some hilo =>
    if hilo.liberado then none
    else
      let hilos := proceso.hilos.insert (claveBusqueda tid) { hilo with liberado := true }
      let proceso := { proceso with hilos := hilos.erase (stringItoa tid) }
      some (true, { m with procesos := m.procesos.insert (claveBusqueda pid) proceso })

/-! ## Requests of the CPU -/

/-- `obtener_contexto(pid, tid)`; `strdup` finds the string `cadenaEn base` at an
address `base`. -/
def obtenerContexto (cadenaEn : ℤ → CString) (m : Almacen) (pid tid : Int32) :
    Option (Option TContextoCpu) :=
  match getProceso m pid with
  | none => some none
  | some proceso =>
    (getHilo m pid tid).map fun hilo => hilo.map fun hilo =>
      ⟨⟨cadenaEn proceso.base, proceso.limite⟩, hilo.registro⟩

/-- `actualizar_contexto(pid, tid, contexto)`. -/
def actualizarContexto (m : Almacen) (pid tid : Int32) (contexto : TContextoCpu) :
    Option (Bool × Almacen) :=
  match getProceso m pid with
  | none => some (false, m)
  | some proceso =>
    (getHilo m pid tid).map fun
      | none => (false, m)
      | some hilo =>
        let hilo := { hilo with registro := contexto.registros }
        let proceso := { proceso with hilos := proceso.hilos.insert (claveBusqueda tid) hilo }
        (true, { m with procesos := m.procesos.insert (claveBusqueda pid) proceso })

/-- `list_get(instrucciones, pc)`. -/
def listGet (instrucciones : List CString) (pc : Int32) : Option CString :=
  if pc < 0 then none else instrucciones[pc.toInt.toNat]?

/-- `obtener_instruccion_numero(pid, tid, pc)`, which follows the result of `get_hilo`
whatever it is. -/
def obtenerInstruccionNumero (m : Almacen) (pid tid pc : Int32) : Option (Option CString) := do
  let hilo ← (← getHilo m pid tid)
  if hilo.liberado then none else some (listGet hilo.instrucciones pc)

/-! ## What the functions do -/

section

variable {m m' : Almacen} {pid tid : Int32} {proceso : TProceso} {exito : Bool}

theorem getHilo_of_none (h : getProceso m pid = none) : getHilo m pid tid = none := by
  simp [getHilo, h]

theorem getHilo_of_some (h : getProceso m pid = some proceso) (hvivo : proceso.liberado = false) :
    getHilo m pid tid = some (proceso.hilos.lookup (claveBusqueda tid)) := by
  simp [getHilo, h, hvivo]

theorem getHilo_eq_some {hilo : Option THilo} (h : getHilo m pid tid = some hilo) :
    ∃ proceso, getProceso m pid = some proceso ∧ proceso.liberado = false ∧
      hilo = proceso.hilos.lookup (claveBusqueda tid) := by
  obtain ⟨proceso, hproceso, hif⟩ := Option.bind_eq_some_iff.mp h
  split at hif
  · simp at hif
  · rename_i hvivo
    exact ⟨proceso, hproceso, Bool.eq_false_iff.mpr hvivo, (Option.some.inj hif).symm⟩

/-- Everything `crear_hilo` can do. -/
theorem crearHilo_eq_some {archivos : CString → Option (List UInt8)} {archivo : CString}
    {prioridad : Int32} (h : crearHilo archivos m pid tid archivo prioridad = some (exito, m')) :
    (exito = false ∧ m' = m ∧ (m.procesos.lookup (stringItoa pid) = none ∨
        obtenerInstrucciones archivos archivo = none)) ∨
      ∃ proceso instrucciones, m.procesos.lookup (stringItoa pid) = some proceso ∧
        obtenerInstrucciones archivos archivo = some instrucciones ∧ exito = true ∧
        m' = { m with procesos := m.procesos.insert (stringItoa pid) { proceso with
          hilos := proceso.hilos.insert (stringItoa tid)
            (nuevoHilo tid archivo prioridad instrucciones) } } := by
  unfold crearHilo at h
  split at h
  · rename_i hproceso
    obtain ⟨rfl, rfl⟩ := Prod.mk.inj (Option.some.inj h)
    exact Or.inl ⟨rfl, rfl, Or.inl hproceso⟩
  · rename_i proceso hproceso
    split at h
    · rename_i hinstrucciones
      obtain ⟨rfl, rfl⟩ := Prod.mk.inj (Option.some.inj h)
      exact Or.inl ⟨rfl, rfl, Or.inr hinstrucciones⟩
    · rename_i instrucciones hinstrucciones
      split at h
      · simp at h
      · obtain ⟨rfl, rfl⟩ := Prod.mk.inj (Option.some.inj h)
        exact Or.inr ⟨proceso, instrucciones, hproceso, hinstrucciones, rfl, rfl⟩

theorem obtenerInstrucciones_eq_none_iff {archivos : CString → Option (List UInt8)}
    {archivo : CString} : obtenerInstrucciones archivos archivo = none ↔ archivos archivo = none :=
  Option.map_eq_none_iff

/-- `crear_hilo` fails without a process or without a file, and has touched nothing. -/
theorem crearHilo_eq_false_iff {archivos : CString → Option (List UInt8)} {archivo : CString}
    {prioridad : Int32} :
    crearHilo archivos m pid tid archivo prioridad = some (false, m) ↔
      m.procesos.lookup (stringItoa pid) = none ∨ obtenerInstrucciones archivos archivo = none := by
  constructor
  · intro h
    rcases crearHilo_eq_some h with ⟨-, -, hfalta⟩ | ⟨_, _, -, -, hexito, -⟩
    · exact hfalta
    · cases hexito
  · intro h
    unfold crearHilo
    cases hproceso : m.procesos.lookup (stringItoa pid) with
    | none => rfl
    | some proceso =>
      rcases h with hnone | hnone
      · rw [hproceso] at hnone
        cases hnone
      · simp only [hnone]

/-- Everything `finalizar_proceso` can do. -/
theorem finalizarProceso_eq_some {freeReturns : ℤ → Bool}
    (h : finalizarProceso freeReturns m pid = some (exito, m')) :
    (exito = false ∧ m' = m ∧ getProceso m pid = none) ∨
      ∃ proceso, getProceso m pid = some proceso ∧ exito = true ∧
        m'.procesos = (m.procesos.insert (claveBusqueda pid)
          { proceso with liberado := true }).erase (stringItoa pid) := by
  unfold finalizarProceso at h
  split at h
  · rename_i hproceso
    obtain ⟨rfl, rfl⟩ := Prod.mk.inj (Option.some.inj h)
    exact Or.inl ⟨rfl, rfl, hproceso⟩
  · rename_i proceso hproceso
    obtain ⟨l, -, heq⟩ := Option.map_eq_some_iff.mp h
    obtain ⟨rfl, rfl⟩ := Prod.mk.inj heq
    exact Or.inr ⟨proceso, hproceso, rfl, rfl⟩

/-- Everything `finalizar_hilo` can do. -/
theorem finalizarHilo_eq_some (h : finalizarHilo m pid tid = some (exito, m')) :
    ∃ proceso, getProceso m pid = some proceso ∧
      ((exito = false ∧ m' = m ∧ getHilo m pid tid = some none) ∨
        ∃ hilo, getHilo m pid tid = some (some hilo) ∧ exito = true ∧
          m' = { m with procesos := m.procesos.insert (claveBusqueda pid) { proceso with
            hilos := (proceso.hilos.insert (claveBusqueda tid)
              { hilo with liberado := true }).erase (stringItoa tid) } }) := by
  obtain ⟨proceso, hproceso, h⟩ := Option.bind_eq_some_iff.mp h
  obtain ⟨hilo, hhilo, h⟩ := Option.bind_eq_some_iff.mp h
  refine ⟨proceso, hproceso, ?_⟩
  cases hilo with
  | none =>
    obtain ⟨rfl, rfl⟩ := Prod.mk.inj (Option.some.inj h)
    exact Or.inl ⟨rfl, rfl, hhilo⟩
  | some hilo =>
    simp only at h
    split at h
    · simp at h
    · obtain ⟨rfl, rfl⟩ := Prod.mk.inj (Option.some.inj h)
      exact Or.inr ⟨hilo, hhilo, rfl, rfl⟩

end

end SoTp.Memoria
