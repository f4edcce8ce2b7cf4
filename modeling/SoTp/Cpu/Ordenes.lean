import SoTp.Cpu.Ciclo
import SoTp.Cpu.Semantica
import SoTp.Lib.Simulation

/-!
# Programs as orders

The CPU executes texts: every turn of `EjecutarProceso` (`cpu/src/cpu.c`, lines 22–35) fetches
one, cuts it with `strtok`, compares it with the mnemonics and follows pointers into the
registers. `Maquina` is what it is for: a machine whose program is a list of orders and whose
state holds the values of the registers.

* `avanzar_abstraer`: one event on texts is one event on orders.
* `run_ordenes`: **the texts run as the orders they are written from**, whatever the spaces, the
  zeros in front of the numbers, the heap and the interruptions, and stop where those do.
-/

namespace SoTp.Cpu

open SoTp.Lib SoTp.Utils

/-! ## Specification -/

/-- The thread leaves the CPU: a syscall, or a write that memoria refuses. -/
def Renglon.desaloja (respuesta : UInt32) : Renglon → Bool
  | .writeMem _ _ => decide (respuesta.toInt32 < 0)
  | s => s.esSyscall

def Orden.desaloja (respuesta : UInt32) : Orden → Bool
  | .renglon s => s.desaloja respuesta
  | .vieja _ _ => false

/-- The values after an order, and whether the thread leaves the CPU. `THREAD_CREATE` follows a
null pointer. -/
def Orden.ejecutar (respuesta : UInt32) (R : Valores) : Orden → Option (Valores × Bool)
  | .renglon (.threadCreate _ _) => none
  | orden => some (orden.significado respuesta R, orden.desaloja respuesta)

/-- The order at an address; `list_get` takes it as an `int`. -/
def buscarOrden (ordenes : List Orden) (pc : UInt32) : Option Orden :=
  if pc.toInt32 < 0 then none else ordenes[pc.toNat]?

/-- `PC++`. -/
def incrementar (R : Valores) : Valores := Function.update R .PC (R .PC + 1)

theorem incrementar_of_ne (R : Valores) {r : Registro} (hr : r ≠ .PC) : incrementar R r = R r :=
  Function.update_of_ne hr _ _

theorem buscarOrden_mem {ordenes : List Orden} {pc : UInt32} {orden : Orden}
    (h : buscarOrden ordenes pc = some orden) : orden ∈ ordenes := by
  unfold buscarOrden at h
  split at h
  · cases h
  · exact List.mem_of_getElem? h

/-- A thread that executes orders. `contadores` holds the address of every order executed. -/
structure Maquina where
  punto : Punto
  valores : Valores
  interna : Bool
  recibida : Bool
  contadores : List UInt32

/-- What happens, without the heap. -/
inductive EventoOrden where
  | interrupcion
  | paso (respuesta : UInt32)

/-- The first dispatch. -/
def Maquina.inicial (R : Valores) : Maquina := ⟨.cabeza, R, false, false, []⟩

/-- One event. -/
def Maquina.avanzar (ordenes : List Orden) (s : Maquina) : EventoOrden → Option Maquina
  | .interrupcion => some { s with recibida := true }
  | .paso respuesta =>
    match s.punto with
    | .cabeza =>
      if s.interna || s.recibida then some { s with punto := .fin }
      else do
        let orden ← buscarOrden ordenes (s.valores .PC)
        let (R, interna) ← orden.ejecutar respuesta s.valores
        some
          { s with
            punto := .prueba
            valores := R
            interna := interna
            contadores := s.contadores ++ [s.valores .PC] }
    | .prueba =>
      some
        { s with
          punto := .cabeza
          valores := if s.interna || s.recibida then s.valores else incrementar s.valores }
    | .fin => some { s with punto := .cabeza, interna := false, recibida := false }

/-! ## Texts and orders -/

/-- The state of a thread in terms of orders. -/
def Ciclo.abstraer (s : Ciclo) : Maquina where
  punto := s.punto
  valores := valor s.registros
  interna := s.interrupcionInterna
  recibida := s.interrupcionRecibida
  contadores := s.traza.map Prod.fst

def Evento.abstraer : Evento → EventoOrden
  | interrupcion => .interrupcion
  | paso _ respuesta => .paso respuesta

theorem Evento.abstraer_surjective : Function.Surjective Evento.abstraer := by
  rintro (_ | respuesta)
  · exact ⟨.interrupcion, rfl⟩
  · exact ⟨.paso (fun _ => 0) respuesta, rfl⟩

theorem Renglon.desaloja_iff (respuesta : UInt32) (s : Renglon) :
    s.desaloja respuesta = true ↔ s.vuelve respuesta := by
  cases s with
  | writeMem r₁ r₂ => simp [Renglon.desaloja, Renglon.vuelve, Renglon.esSyscall]
  | _ => simp [Renglon.desaloja, Renglon.vuelve]

/-- What the decoder makes of an order. -/
def Orden.decodificada : Orden → TInstruccion
  | .renglon s => s.decodificada
  | .vieja v _ => { inicializarInstruccion with instruccion := v.instruccion }

/-- **Decoding a text of an order**, of the instruction set or an old one. -/
theorem decodeInstruccion_orden {orden : Orden} {texto : CString} (h : orden.Escrita texto) :
    decodeInstruccion texto = orden.decodificada := by
  cases orden with
  | vieja v operandos => exact decodeInstruccion_vieja h
  | renglon s =>
    have hstrtok := strtok_texto h
    rw [List.map_cons] at hstrtok
    rw [decodeInstruccion_eq hstrtok, obtenerInstruccion_mnemonico]
    cases s <;>
      simp [Orden.decodificada, Renglon.decodificada, Renglon.argumentos, leida, registroEn,
        numeroEn, obtenerRegistro_nombre, atoi_numeral]

section

variable (g : Mem) (respuesta PID TID : UInt32) (registros : Registros) (bufferRetorno : TBuffer)

/-- **Executing a text of an order** does what the order does, or goes where it goes. -/
theorem executeInstruccion_orden {orden : Orden} {texto : CString} (h : orden.Escrita texto) :
    (executeInstruccion g respuesta (decodeInstruccion texto) PID TID registros
      bufferRetorno).map (fun e => (valor e.registros, e.interrupcionInterna)) =
      orden.ejecutar respuesta (valor registros) := by
  rw [decodeInstruccion_orden h]
  cases orden with
  | vieja v operandos => cases v <;> rfl
  | renglon s =>
    by_cases hcreate : (Orden.renglon s).EsThreadCreate
    · cases s with
      | threadCreate f r => rfl
      | _ => exact hcreate.elim
    · obtain ⟨e, he, hvalor, hvuelve⟩ :=
        executeInstruccion_decodificada g respuesta PID TID registros bufferRetorno s hcreate
      have hinterna : e.interrupcionInterna = s.desaloja respuesta :=
        Bool.eq_iff_iff.mpr (hvuelve.trans (s.desaloja_iff respuesta).symm)
      have hejecutar : (Orden.renglon s).ejecutar respuesta (valor registros) =
          some (s.significado respuesta (valor registros), s.desaloja respuesta) := by
        cases s with
        | threadCreate f r => exact absurd trivial hcreate
        | _ => rfl
      show (executeInstruccion g respuesta s.decodificada PID TID registros bufferRetorno).map _ = _
      rw [he, Option.map_some, hvalor, hinterna, hejecutar]

end

section

variable {ordenes : List Orden} {programa : List CString}

/-- The text at an address is one of the order there, if there is one. -/
theorem fetchInstruccion_orden (h : List.Forall₂ Orden.Escrita ordenes programa) (pc : UInt32) :
    (buscarOrden ordenes pc = none ∧ fetchInstruccion programa pc = none) ∨
      ∃ orden texto, buscarOrden ordenes pc = some orden ∧
        fetchInstruccion programa pc = some texto ∧ orden.Escrita texto := by
  unfold buscarOrden fetchInstruccion
  by_cases hneg : pc.toInt32 < 0
  · rw [if_pos hneg, if_pos hneg]
    exact Or.inl ⟨rfl, rfl⟩
  rw [if_neg hneg, if_neg hneg]
  obtain ⟨hlen, hget⟩ := List.forall₂_iff_get.mp h
  by_cases hpc : pc.toNat < ordenes.length
  · have hpc' : pc.toNat < programa.length := hlen ▸ hpc
    exact Or.inr ⟨_, _, List.getElem?_eq_getElem hpc, List.getElem?_eq_getElem hpc',
      hget pc.toNat hpc hpc'⟩
  · have hpc' : programa.length ≤ pc.toNat := hlen ▸ Nat.le_of_not_lt hpc
    exact Or.inl ⟨List.getElem?_eq_none (Nat.le_of_not_lt hpc), List.getElem?_eq_none hpc'⟩

theorem valor_incrementar (registros : Registros) :
    valor { registros with PC := registros.PC + 1 } = incrementar (valor registros) :=
  valor_asignar_eq registros .PC (registros.PC + 1)

/-- **One event.** -/
theorem avanzar_abstraer (h : List.Forall₂ Orden.Escrita ordenes programa) (PID TID : UInt32)
    (s : Ciclo) (evento : Evento) :
    (avanzar programa PID TID s evento).map Ciclo.abstraer =
      s.abstraer.avanzar ordenes evento.abstraer := by
  cases evento with
  | interrupcion => rfl
  | paso g respuesta =>
    unfold avanzar Maquina.avanzar Evento.abstraer Ciclo.abstraer
    dsimp only
    cases s.punto with
    | fin => rfl
    | prueba =>
      dsimp only
      cases hflag : s.interrupcionInterna || s.interrupcionRecibida with
      | true => rfl
      | false =>
        rw [Option.map_some, if_neg Bool.false_ne_true, if_neg Bool.false_ne_true,
          ← valor_incrementar]
    | cabeza =>
      dsimp only
      cases hflag : s.interrupcionInterna || s.interrupcionRecibida with
      | true => rfl
      | false =>
        rw [if_neg Bool.false_ne_true, if_neg Bool.false_ne_true]
        obtain ⟨hno, hno'⟩ | ⟨orden, texto, horden, htexto, hescrita⟩ :=
          fetchInstruccion_orden h s.registros.PC
        · rw [hno', show buscarOrden ordenes (valor s.registros .PC) = none from hno]
          rfl
        · rw [htexto, show buscarOrden ordenes (valor s.registros .PC) = some orden from horden]
          dsimp only [Option.bind_eq_bind, Option.bind_some]
          rw [← executeInstruccion_orden g respuesta PID TID s.registros s.bufferRetorno hescrita,
            Option.map_bind, Option.bind_map]
          refine Option.bind_congr fun e _ => ?_
          dsimp only [Function.comp_apply, Option.map_some]
          rw [List.map_append]
          rfl

end

/-- **A program of texts runs as its orders.** For every list of orders, every list of texts of
them, every sequence of steps and interruptions and every heap: the run on the texts completes
exactly when the one on the orders does, at the same point, with the same values in the
registers, the same flags, and having executed the same addresses. -/
theorem run_ordenes (ordenes : List Orden) (programa : List CString)
    (h : List.Forall₂ Orden.Escrita ordenes programa) (PID TID : UInt32) (g : Mem)
    (registros : Registros) (eventos : List Evento) :
    (run (avanzar programa PID TID) (despacho g registros) eventos).map Ciclo.abstraer =
      run (Maquina.avanzar ordenes) (Maquina.inicial (valor registros))
        (eventos.map Evento.abstraer) :=
  run_map (avanzar_abstraer h PID TID) _ eventos

/-- `SUM  AX BX ` is interrupted before it is tested, and executed again. -/
theorem run_ordenes_sum :
    (run (avanzar [CString.ofBytes (ascii "SUM  AX BX ")] 1 0)
        (despacho (fun _ => 0) ⟨0, 1, 2, 0, 0, 0, 0, 0, 0, 0, 64⟩)
        [.paso (fun _ => 0) 0, .interrupcion, .paso (fun _ => 0) 0, .paso (fun _ => 0) 0,
          .paso (fun _ => 0) 0, .paso (fun _ => 0) 0]).map
        (fun s => (s.abstraer.valores .AX, s.abstraer.contadores)) = some (5, [0, 0]) := by
  have h := run_ordenes [.renglon (.sum .AX .BX)] [CString.ofBytes (ascii "SUM  AX BX ")]
    (.cons ⟨0, _, .token 1 (ascii "AX") (.token 0 (ascii "BX") (.fin 1)), rfl⟩ .nil) 1 0
    (fun _ => 0) ⟨0, 1, 2, 0, 0, 0, 0, 0, 0, 0, 64⟩ [.paso (fun _ => 0) 0, .interrupcion,
      .paso (fun _ => 0) 0, .paso (fun _ => 0) 0, .paso (fun _ => 0) 0, .paso (fun _ => 0) 0]
  have hmap := congrArg (Option.map fun s : Maquina => (s.valores .AX, s.contadores)) h
  rw [Option.map_map] at hmap
  exact hmap

end SoTp.Cpu
