import SoTp.Memoria.Instruccion

/-!
# Requests about objects that do not exist

`crear_hilo`, `finalizar_proceso` and `finalizar_hilo`
(`memoria/src/manejar_kernel.c`, lines 399–494), `obtener_contexto`,
`actualizar_contexto` and the request of an instruction
(`memoria/src/manejar_cpu.c`, lines 96–218) reach the store through `get_proceso` and
`get_hilo`. `get_hilo` follows the process whether or not there is one, and the
request of an instruction follows the thread and the text too.

A process or a thread exists when its dictionary has an entry under its id that has
not been freed (`procesoDe`, `hiloDe`).

* `resolver_eq_false_iff`: when a request is refused.
* `rechazoFiel_iff`: **a request about an object that does not exist is refused, with
  the store as it was, if and only if** the entries it looks up are those of
  `Rechaza`.
* `not_rechazoFiel_obtenerInstruccion`: a request of an instruction is never refused.
-/

namespace SoTp.Memoria

open SoTp.Lib SoTp.Utils

/-! ## Requests -/

/-- The six requests. -/
inductive Solicitud where
  | crearHilo (pid tid : Int32) (archivoPseudocodigo : CString) (prioridad : Int32)
  | finalizarProceso (pid : Int32)
  | finalizarHilo (pid tid : Int32)
  | obtenerContexto (pid tid : Int32)
  | actualizarContexto (pid tid : Int32) (contexto : TContextoCpu)
  | obtenerInstruccion (pid tid pc : Int32)

/-- What the functions find outside of the store: the files, the pointers that `free`
comes back from, the strings at an address and the contents of the heap. -/
structure Entorno where
  archivos : CString → Option (List UInt8)
  freeReturns : ℤ → Bool
  cadenaEn : ℤ → CString
  g : Mem

/-- Memoria serves a request: whether it succeeds, and the store after it. A context
that is `NULL` is a failure; the text of an instruction is sent whatever it is. -/
def resolver (e : Entorno) (m : Almacen) : Solicitud → Option (Bool × Almacen)
  | .crearHilo pid tid archivo prioridad => crearHilo e.archivos m pid tid archivo prioridad
  | .finalizarProceso pid => finalizarProceso e.freeReturns m pid
  | .finalizarHilo pid tid => finalizarHilo m pid tid
  | .obtenerContexto pid tid =>
    (obtenerContexto e.cadenaEn m pid tid).map fun contexto => (contexto.isSome, m)
  | .actualizarContexto pid tid contexto => actualizarContexto m pid tid contexto
  | .obtenerInstruccion pid tid pc => do
    let instruccion ← obtenerInstruccionNumero m pid tid pc
    let _ ← enviarInstruccion e.g instruccion
    some (true, m)

/-! ## Specification -/

/-- The process of an id, if it exists. -/
def procesoDe (m : Almacen) (pid : Int32) : Option TProceso :=
  (m.procesos.lookup (stringItoa pid)).filter fun proceso => !proceso.liberado

/-- The thread of an id in the process of another, if both exist. -/
def hiloDe (m : Almacen) (pid tid : Int32) : Option THilo :=
  (procesoDe m pid).bind fun proceso =>
    (proceso.hilos.lookup (stringItoa tid)).filter fun hilo => !hilo.liberado

/-- The instruction at an index of a thread, if there is one. -/
def instruccionDe (m : Almacen) (pid tid pc : Int32) : Option CString :=
  (hiloDe m pid tid).bind fun hilo => listGet hilo.instrucciones pc

/-- The request is about a process, a thread or an instruction that does not exist. -/
def Ausente (m : Almacen) : Solicitud → Prop
  | .crearHilo pid _ _ _ => procesoDe m pid = none
  | .finalizarProceso pid => procesoDe m pid = none
  | .finalizarHilo pid tid => hiloDe m pid tid = none
  | .obtenerContexto pid tid => hiloDe m pid tid = none
  | .actualizarContexto pid tid _ => hiloDe m pid tid = none
  | .obtenerInstruccion pid tid pc => instruccionDe m pid tid pc = none

/-- A request about an object that does not exist fails and leaves the store as it
was, without following what is missing. -/
def RechazoFiel (e : Entorno) (m : Almacen) (solicitud : Solicitud) : Prop :=
  Ausente m solicitud → resolver e m solicitud = some (false, m)

/-- There is a process under the seven characters of `pid`, not freed, and it has no
thread under those of `tid`. -/
def SinHilo (m : Almacen) (pid tid : Int32) : Prop :=
  ∃ proceso, m.procesos.lookup (claveBusqueda pid) = some proceso ∧ proceso.liberado = false ∧
    proceso.hilos.lookup (claveBusqueda tid) = none

/-- The states in which each request is refused. -/
def Rechaza (e : Entorno) (m : Almacen) : Solicitud → Prop
  | .crearHilo pid _ archivo _ =>
    m.procesos.lookup (stringItoa pid) = none ∨ e.archivos archivo = none
  | .finalizarProceso pid => m.procesos.lookup (claveBusqueda pid) = none
  | .finalizarHilo pid tid => SinHilo m pid tid
  | .obtenerContexto pid tid =>
    m.procesos.lookup (claveBusqueda pid) = none ∨ SinHilo m pid tid
  | .actualizarContexto pid tid _ =>
    m.procesos.lookup (claveBusqueda pid) = none ∨ SinHilo m pid tid
  | .obtenerInstruccion _ _ _ => False

/-! ## When a request is refused -/

section

variable {m : Almacen} {pid tid : Int32}

theorem getHilo_eq_some_none_iff : getHilo m pid tid = some none ↔ SinHilo m pid tid := by
  constructor
  · intro h
    obtain ⟨proceso, hproceso, hvivo, hhilo⟩ := getHilo_eq_some h
    exact ⟨proceso, hproceso, hvivo, hhilo.symm⟩
  · rintro ⟨proceso, hproceso, hvivo, hhilo⟩
    rw [getHilo_of_some hproceso hvivo, hhilo]

theorem finalizarProceso_eq_false_iff {freeReturns : ℤ → Bool} :
    finalizarProceso freeReturns m pid = some (false, m) ↔
      m.procesos.lookup (claveBusqueda pid) = none := by
  constructor
  · intro h
    rcases finalizarProceso_eq_some h with ⟨-, -, hnone⟩ | ⟨_, -, hexito, -⟩
    · exact hnone
    · cases hexito
  · intro h
    have hproceso : getProceso m pid = none := h
    simp only [finalizarProceso, hproceso]

theorem finalizarHilo_eq_false_iff :
    finalizarHilo m pid tid = some (false, m) ↔ SinHilo m pid tid := by
  constructor
  · intro h
    obtain ⟨_, -, ⟨-, -, hhilo⟩ | ⟨_, -, hexito, -⟩⟩ := finalizarHilo_eq_some h
    · exact getHilo_eq_some_none_iff.mp hhilo
    · cases hexito
  · intro h
    have hhilo := getHilo_eq_some_none_iff.mpr h
    obtain ⟨proceso, hproceso, -, -⟩ := h
    have hget : getProceso m pid = some proceso := hproceso
    simp only [finalizarHilo, hget, hhilo, Option.bind_eq_bind, Option.bind_some]

/-- `obtener_contexto` and `actualizar_contexto` look up the process first and then the
thread, and fail with `fallo` when either lookup fails. -/
theorem match_getProceso_eq_iff {α : Type} {fallo : α} {con : TProceso → Option THilo → α}
    (hsome : ∀ proceso hilo, con proceso (some hilo) ≠ fallo)
    (hnone : ∀ proceso, con proceso none = fallo) :
    (match getProceso m pid with
      | none => some fallo
      | some proceso => (getHilo m pid tid).map (con proceso)) = some fallo ↔
      m.procesos.lookup (claveBusqueda pid) = none ∨ SinHilo m pid tid := by
  rw [← getHilo_eq_some_none_iff]
  show _ ↔ getProceso m pid = none ∨ _
  cases hproceso : getProceso m pid with
  | none => simp
  | some proceso =>
    simp only [reduceCtorEq, false_or, Option.map_eq_some_iff]
    constructor
    · rintro ⟨hilo, hhilo, heq⟩
      cases hilo with
      | none => exact hhilo
      | some hilo => exact absurd heq (hsome proceso hilo)
    · intro hhilo
      exact ⟨none, hhilo, hnone proceso⟩

theorem obtenerContexto_eq_none_iff {cadenaEn : ℤ → CString} :
    obtenerContexto cadenaEn m pid tid = some none ↔
      m.procesos.lookup (claveBusqueda pid) = none ∨ SinHilo m pid tid := by
  unfold obtenerContexto
  apply match_getProceso_eq_iff
  · intro proceso hilo
    simp
  · intro proceso
    rfl

theorem actualizarContexto_eq_false_iff {contexto : TContextoCpu} :
    actualizarContexto m pid tid contexto = some (false, m) ↔
      m.procesos.lookup (claveBusqueda pid) = none ∨ SinHilo m pid tid := by
  unfold actualizarContexto
  apply match_getProceso_eq_iff
  · intro proceso hilo
    simp
  · intro proceso
    rfl

end

/-- **When a request is refused**, whatever the state of the store. -/
theorem resolver_eq_false_iff (e : Entorno) (m : Almacen) (solicitud : Solicitud) :
    resolver e m solicitud = some (false, m) ↔ Rechaza e m solicitud := by
  cases solicitud with
  | crearHilo pid tid archivo prioridad =>
    exact crearHilo_eq_false_iff.trans (or_congr_right obtenerInstrucciones_eq_none_iff)
  | finalizarProceso pid => exact finalizarProceso_eq_false_iff
  | finalizarHilo pid tid => exact finalizarHilo_eq_false_iff
  | obtenerContexto pid tid =>
    show (obtenerContexto e.cadenaEn m pid tid).map _ = _ ↔ _
    rw [Rechaza, ← @obtenerContexto_eq_none_iff m pid tid e.cadenaEn]
    cases obtenerContexto e.cadenaEn m pid tid with
    | none => simp
    | some contexto => cases contexto <;> simp
  | actualizarContexto pid tid contexto => exact actualizarContexto_eq_false_iff
  | obtenerInstruccion pid tid pc =>
    constructor
    · intro h
      obtain ⟨instruccion, -, h⟩ := Option.bind_eq_some_iff.mp h
      obtain ⟨respuesta, -, h⟩ := Option.bind_eq_some_iff.mp h
      cases h
    · intro h
      exact h.elim

/-- A request of an instruction that does not exist is never refused: memoria follows
what is missing, or answers with another text. -/
theorem not_rechazoFiel_obtenerInstruccion (e : Entorno) (m : Almacen) (pid tid pc : Int32)
    (h : instruccionDe m pid tid pc = none) :
    ¬ RechazoFiel e m (.obtenerInstruccion pid tid pc) := by
  intro hfiel
  exact (resolver_eq_false_iff e m _).mp (hfiel h)

/-- **A request about an object that does not exist is refused, with the store as it
was, if and only if** the lookups find what `Rechaza` says. -/
theorem rechazoFiel_iff (e : Entorno) (m : Almacen) (solicitud : Solicitud) :
    RechazoFiel e m solicitud ↔ (Ausente m solicitud → Rechaza e m solicitud) := by
  unfold RechazoFiel
  rw [resolver_eq_false_iff]

/-- With thread 0, of one instruction, in process 1: `finalizar_hilo` on a process that
does not exist, an instruction of a thread that does not exist and one past the end
of the program all follow `NULL`. -/
theorem not_rechazoFiel_proc :
    ∃ (e : Entorno) (m : Almacen), crearHilo (fun _ => some (ascii "EXIT"))
        (insertarProceso ⟨∅, []⟩ 1 (CString.ofBytes (ascii "proc")) 64 4096) 1 0
        (CString.ofBytes (ascii "proc")) 0 = some (true, m) ∧
      ¬ RechazoFiel e m (.finalizarHilo 9 0) ∧ finalizarHilo m 9 0 = none ∧
      instruccionDe m 1 9 0 = none ∧ resolver e m (.obtenerInstruccion 1 9 0) = none ∧
      instruccionDe m 1 0 1 = none ∧ resolver e m (.obtenerInstruccion 1 0 1) = none := by
  refine ⟨⟨fun _ => none, fun _ => true, fun _ => CString.ofBytes [], fun _ => 0⟩, _, rfl, ?_,
    by decide, by decide, rfl, by decide, rfl⟩
  intro h
  have hfalse := h (show hiloDe _ 9 0 = none by decide)
  cases hfalse

end SoTp.Memoria
