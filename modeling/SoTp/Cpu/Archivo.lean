import SoTp.Cpu.Ordenes
import SoTp.Memoria.Programa

/-!
# From the file to the registers

What happens to a program on its way: `crear_hilo` of memoria (`memoria/src/manejar_kernel.c`,
lines 399–436, 503–535) reads the file of the pseudocode line by line and keeps the texts with the
thread, `obtener_instruccion_numero` (`memoria/src/manejar_cpu.c`, lines 200–205) counts them, and
the CPU executes the one of its program counter (`cpu/src/cpu.c`, lines 5–38).

* `obtenerInstruccionNumero_fetch`: memoria has for a program counter what the CPU fetches of the
  texts.
* `crearHilo_run`: **a file is executed as the orders that its lines are texts of**, where the CPU
  gets the texts that memoria has.

The messages in between (`solicitar_instruccion`, `enviar_instruccion`) are not part of this, and
those of the repository do not bring the texts: that they arrive is an assumption, `Entregada`.
-/

namespace SoTp.Cpu

open SoTp.Lib SoTp.Utils SoTp.Memoria

/-- Each fetch of the CPU, which runs `programa`, gets what memoria has for the program counter. -/
def Entregada (m : Almacen) (pid tid : Int32) (programa : List CString) : Prop :=
  ∀ pc : UInt32, obtenerInstruccionNumero m pid tid pc.toInt32 = some (fetchInstruccion programa pc)

/-- `list_get` of memoria and the index of the CPU. -/
theorem listGet_fetchInstruccion (instrucciones : List CString) (pc : UInt32) :
    listGet instrucciones pc.toInt32 = fetchInstruccion instrucciones pc := by
  unfold listGet fetchInstruccion
  by_cases hneg : pc.toInt32 < 0
  · rw [if_pos hneg, if_pos hneg]
  · have hlt : pc.toNat < 2 ^ 31 := by
      by_contra hge
      have hpc := toNat_toInt_toInt32_of_le (Nat.le_of_not_lt hge)
      rw [Int32.lt_iff_toInt_lt, not_lt] at hneg
      have hzero : pc.toInt32.toInt = 0 := le_antisymm (Int.toNat_eq_zero.mp hpc) hneg
      have hnil : pc.toInt32 = 0 := Int32.toInt.inj hzero
      rw [← UInt32.toUInt32_toInt32 pc, hnil] at hge
      exact hge (by decide)
    rw [if_neg hneg, if_neg hneg, toInt_toInt32_of_lt hlt, Int.toNat_natCast]

theorem obtenerInstruccionNumero_fetch {m : Almacen} {pid tid : Int32} {hilo : THilo}
    (hget : getHilo m pid tid = some (some hilo)) (hvivo : hilo.liberado = false) :
    Entregada m pid tid hilo.instrucciones := by
  intro pc
  rw [obtenerInstruccionNumero_of_some hget hvivo, listGet_fetchInstruccion]

theorem avanzar_congr {programa programa' : List CString}
    (h : ∀ pc, fetchInstruccion programa pc = fetchInstruccion programa' pc) (PID TID : UInt32) :
    avanzar programa PID TID = avanzar programa' PID TID := by
  funext s evento
  cases evento with
  | interrupcion => rfl
  | paso g respuesta =>
    unfold avanzar
    rw [h]

theorem Entregada.avanzar_eq {m : Almacen} {pid tid : Int32} {programa programa' : List CString}
    (h : Entregada m pid tid programa) (h' : Entregada m pid tid programa') (PID TID : UInt32) :
    avanzar programa PID TID = avanzar programa' PID TID :=
  avanzar_congr (fun pc => Option.some.inj ((h pc).symm.trans (h' pc))) PID TID

/-- The lines of a file are the texts of orders, and so are the instructions read from it. -/
theorem escritas_of_lineas {ordenes : List Orden} {instrucciones : List CString}
    {lineas : List (List UInt8)} (hbytes : instrucciones.map CString.bytes = lineas)
    (h : List.Forall₂ (fun orden linea => ∀ texto : CString, texto.bytes = linea →
      orden.Escrita texto) ordenes lineas) : List.Forall₂ Orden.Escrita ordenes instrucciones := by
  subst hbytes
  exact (List.forall₂_map_right_iff.mp h).imp fun orden texto htexto => htexto texto rfl

/-- **A file is executed as its orders.** When memoria has made a thread from a file whose lines
are texts of orders, of at most 255 bytes each, then it has a text or nothing for each program
counter of that thread, and a CPU that gets just these runs, under any interruptions and answers,
as the orders do. -/
theorem crearHilo_run (archivos : CString → Option (List UInt8)) (filename : CString)
    (s : List UInt8) (ordenes : List Orden) (m m' : Almacen) (pid tid prioridad : Int32)
    (hpid : EnRango pid) (htid : EnRango tid)
    (hvivo : ∀ proceso, procesoEn m pid = some proceso → proceso.liberado = false)
    (harchivo : archivos filename = some s) (hnul : (0 : UInt8) ∉ s)
    (hfit : ∀ linea ∈ s.splitOn 10, linea.length ≤ 255)
    (hordenes : List.Forall₂ (fun orden linea => ∀ texto : CString, texto.bytes = linea →
      orden.Escrita texto) ordenes (lineasDe s))
    (hcrear : crearHilo archivos m pid tid filename prioridad = some (true, m')) :
    (∃ programa, Entregada m' pid tid programa) ∧
      ∀ programa, Entregada m' pid tid programa → ∀ PID TID g registros eventos,
        (run (avanzar programa PID TID) (despacho g registros) eventos).map Ciclo.abstraer =
          run (Maquina.avanzar ordenes) (Maquina.inicial (valor registros))
            (eventos.map Evento.abstraer) := by
  rcases crearHilo_eq_some hcrear with
    ⟨hexito, -⟩ | ⟨proceso, instrucciones, hproceso, hinstr, -, rfl⟩
  · cases hexito
  obtain rfl := Option.some.inj (hinstr.symm.trans (obtenerInstrucciones_of_some harchivo))
  have hget : getHilo (insertarHilo m pid tid proceso
      (nuevoHilo tid filename prioridad (instruccionesLoop s.length s))) pid tid = _ :=
    getHilo_insertarHilo hpid htid (hvivo proceso hproceso)
  have hmemoria := obtenerInstruccionNumero_fetch hget rfl
  have hescritas : List.Forall₂ Orden.Escrita ordenes (instruccionesLoop s.length s) :=
    escritas_of_lineas ((map_bytes_eq_lineasDe_iff hnul).mpr hfit) hordenes
  refine ⟨⟨_, hmemoria⟩, fun programa hentrega PID TID g registros eventos => ?_⟩
  rw [hentrega.avanzar_eq hmemoria]
  exact run_map (avanzar_abstraer hescritas PID TID) _ eventos

/-- The file of two lines, in the memoria of one process: what it has, and a run on the CPU that
gets it. -/
theorem crearHilo_run_dos : ∃ m' programa,
    crearHilo (fun _ => some (ascii "SUM AX BX\nPROCESS_EXIT"))
        (insertarProceso (almacenInicial []) 1 (CString.ofBytes (ascii "a")) 10 0) 1 0
        (CString.ofBytes (ascii "a")) 0 = some (true, m') ∧
      Entregada m' 1 0 programa ∧ ∀ g registros eventos,
        (run (avanzar programa 1 0) (despacho g registros) eventos).map Ciclo.abstraer =
          run (Maquina.avanzar [Orden.renglon (.sum .AX .BX), .renglon .processExit])
            (Maquina.inicial (valor registros)) (eventos.map Evento.abstraer) := by
  obtain ⟨m', hm'⟩ : ∃ m', crearHilo (fun _ => some (ascii "SUM AX BX\nPROCESS_EXIT"))
      (insertarProceso (almacenInicial []) 1 (CString.ofBytes (ascii "a")) 10 0) 1 0
      (CString.ofBytes (ascii "a")) 0 = some (true, m') := ⟨_, rfl⟩
  have hvivo : ∀ proceso, procesoEn (insertarProceso (almacenInicial []) 1
      (CString.ofBytes (ascii "a")) 10 0) 1 = some proceso → proceso.liberado = false := by
    intro proceso hproceso
    obtain rfl := Option.some.inj hproceso
    rfl
  have hordenes : List.Forall₂ (fun orden linea => ∀ texto : CString, texto.bytes = linea →
      orden.Escrita texto) [Orden.renglon (.sum .AX .BX), .renglon .processExit]
      (lineasDe (ascii "SUM AX BX\nPROCESS_EXIT")) := by
    rw [show lineasDe (ascii "SUM AX BX\nPROCESS_EXIT") =
      [ascii "SUM AX BX", ascii "PROCESS_EXIT"] by decide]
    refine .cons (fun texto htexto => ?_) (.cons (fun texto htexto => ?_) .nil)
    · exact ⟨0, _, .token 0 (ascii "AX") (.token 0 (ascii "BX") (.fin 0)), htexto⟩
    · exact ⟨0, _, .fin 0, htexto⟩
  obtain ⟨⟨programa, hprograma⟩, hcorre⟩ := crearHilo_run _ _ _ _ _ m' 1 0 0
    ⟨by decide, by decide⟩ ⟨by decide, by decide⟩ hvivo rfl (by decide) (by decide) hordenes hm'
  exact ⟨m', programa, hm', hprograma, hcorre programa hprograma 1 0⟩

end SoTp.Cpu
