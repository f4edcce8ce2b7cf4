import SoTp.Utils.Tipos

/-!
# The state of the kernel

The globals in which the kernel keeps its processes and threads (`kernel/src/main.c`,
lines 4–23, `kernel/src/k_largo_plazo.c`, lines 3–8), the blocks they point at, and the
functions of the commons on them. A pointer is a number, `NULL` is 0; `pcbs` and `tcbs`
say what is allocated where, and `malloc` returns `siguiente`, which is not in use.

`none` as the result of a function is a run that leaves the defined behaviour of C: an
access through `NULL` or through a pointer to nothing.
-/

namespace SoTp.Kernel

open SoTp.Lib SoTp.Utils

/-! ## Data -/

/-- An address of the heap. -/
abbrev Puntero := ℕ

/-- The null pointer. -/
def NULL : Puntero := 0

/-- `MAX_NIVELES_PRIORIDAD` (`kernel/include/main.h`, line 3). -/
def maxNivelesPrioridad : ℕ := 100

/-- `estados_proceso` (`commons.h`, lines 64–71). -/
inductive EstadoProceso where
  | new
  | ready
  | exec
  | blocked
  | exit
  deriving DecidableEq, Repr

/-- The value of a state. -/
def EstadoProceso.codigo : EstadoProceso → Int32
  | new => 0
  | ready => 1
  | exec => 2
  | blocked => 3
  | exit => 4

/-- `Algoritmo` (`kernel/include/main.h`, lines 31–36), and the −1 of `buscarAlgoritmo`. -/
inductive Algoritmo where
  | cmn
  | fifo
  | prioridades
  | colasMultinivel
  | desconocido
  deriving DecidableEq, Repr

/-- `PCB` (`commons.h`, lines 111–117); `mutex` holds pointers. -/
structure PCB where
  PID : UInt32
  estado : EstadoProceso
  TIDs : List UInt32
  mutex : List Puntero
  deriving DecidableEq, Repr

/-- `dependencia` (`kernel/include/main.h`, lines 38–42): `dependiente` waits for `hilo`. -/
structure Dependencia where
  hilo : Puntero
  dependiente : Puntero
  deriving DecidableEq, Repr

/-- The globals of the kernel and its heap. A ready queue that was not created is `none`. The source
creates none of the lists either, and here they are taken as created: `listaThreadId`,
`listaBloqHilo`, `listaDependencias`, and `listaExecHilo` of `Nucleo`. -/
structure EstadoKernel where
  algoritmo : Algoritmo
  processId : Int32
  siguiente : Puntero
  pcbs : Puntero → Option PCB
  tcbs : Puntero → Option TCB
  colaNew : List Puntero
  colaReady : List Puntero
  colaReadyFifoPrioridades : Option (List Puntero)
  colasReadyCmn : ℕ → Option (List Puntero)
  listaThreadId : List UInt32
  listaBloqHilo : List Puntero
  listaDependencias : List Dependencia

/-- The kernel when `main` hands over to the planners, with every collection created and empty. Of
these the source creates `cola_new` and `cola_ready` only (`kernel/src/main.c`, lines 152–153): the
ready queue, the levels and the lists are as its functions need them. -/
def kernelInicial (algoritmo : Algoritmo) : EstadoKernel where
  algoritmo := algoritmo
  processId := 0
  siguiente := 1
  pcbs := fun _ => none
  tcbs := fun _ => none
  colaNew := []
  colaReady := []
  colaReadyFifoPrioridades := some []
  colasReadyCmn := fun _ => some []
  listaThreadId := []
  listaBloqHilo := []
  listaDependencias := []

/-- The names that `buscarAlgoritmo` compares with, in order. -/
def nombresAlgoritmo : List (String × Algoritmo) :=
  [("CMN", .cmn), ("FIFO", .fifo), ("PRIORIDADES", .prioridades),
    ("COLAS MULTINIVEL", .colasMultinivel)]

/-- `buscarAlgoritmo(token)` (`kernel/src/main.c`, lines 564–577). -/
def buscarAlgoritmo (token : CString) : Algoritmo :=
  ((nombresAlgoritmo.find? fun nombre => token.bytes == ascii nombre.1).map Prod.snd).getD
    .desconocido

/-! ## Lists of the commons

`list_get`, `list_replace` and `list_add_in_index` on the list of counters. -/

/-- `list_get(lista, i)`: `NULL` outside of the list. -/
def listGet (lista : List UInt32) (i : ℤ) : UInt32 :=
  if 0 ≤ i then lista.getD i.toNat 0 else 0

/-- `list_replace(lista, i, x)`: nothing outside of the list. -/
def listReplace (lista : List UInt32) (i : ℤ) (x : UInt32) : List UInt32 :=
  if 0 ≤ i then lista.set i.toNat x else lista

/-- `list_add_in_index(lista, i, x)`: only at an index that is not larger than the size. -/
def listAddInIndex (lista : List UInt32) (i : ℤ) (x : UInt32) : List UInt32 :=
  if 0 ≤ i ∧ i.toNat ≤ lista.length then lista.insertIdx i.toNat x else lista

theorem listGet_length (lista : List UInt32) : listGet lista lista.length = 0 := by
  unfold listGet
  rw [if_pos (Int.natCast_nonneg _), Int.toNat_natCast]
  exact List.getD_eq_default _ _ le_rfl

theorem listGet_append_singleton (lista : List UInt32) (x : UInt32) :
    listGet (lista ++ [x]) lista.length = x := by
  unfold listGet
  rw [if_pos (Int.natCast_nonneg _), Int.toNat_natCast,
    List.getD_append_right _ _ _ _ le_rfl, Nat.sub_self]
  rfl

theorem listAddInIndex_length (lista : List UInt32) (x : UInt32) :
    listAddInIndex lista lista.length x = lista ++ [x] := by
  unfold listAddInIndex
  rw [if_pos ⟨Int.natCast_nonneg _, le_of_eq (Int.toNat_natCast _)⟩, Int.toNat_natCast,
    List.insertIdx_length_self]

/-! ## Threads in lists -/

/-- `quitar_TCB_de_lista_exec_hilo(lista, PID, TID)` (`kernel/src/main.c`, lines 670–677):
the first thread with that identity goes. -/
def quitarTCBDeLista (tcbs : Puntero → Option TCB) (PID TID : UInt32) :
    List Puntero → Option (List Puntero)
  | [] => some []
  | p :: lista => do
    let tcb ← tcbs p
    if tcb.PID = PID ∧ tcb.TID = TID then some lista
    else (quitarTCBDeLista tcbs PID TID lista).map (p :: ·)

end SoTp.Kernel
