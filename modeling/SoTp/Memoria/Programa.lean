import SoTp.Lib.Chunks
import SoTp.Memoria.Creacion

/-!
# The program of a thread

`obtener_instrucciones` (`memoria/src/manejar_kernel.c`, lines 503–535) reads the
pseudocode with `fgets` into `char linea[BUFF_SIZE]`, which takes 255 bytes at a time
(`BUFF_SIZE` is 256, `manejar_cpu.h`, line 7). The instructions are the pieces of the
file for a buffer of that size.

Specification: the instructions of a file are its lines that are not empty, in order,
and `pc` counts them.

* `map_bytes_instruccionesLoop`: what is read, in terms of chunks.
* `programaFiel_iff`: **the program is that of the file** if and only if no line has
  more than 255 bytes.
* `not_programaFiel_lineaLarga`: a line of 256 bytes is two instructions, and the next
  line is the third.
* `obtenerInstruccionNumero_crearHilo`: what the CPU is then sent.
-/

namespace SoTp.Memoria

open SoTp.Lib SoTp.Utils

/-! ## The lines as pieces -/

theorem hastaSalto_eq (s : List UInt8) : hastaSalto s = upTo 10 s := by
  induction s with
  | nil => rfl
  | cons b s ih => rw [hastaSalto, upTo, ih]

/-- A chunk that the loop skips has nothing in front of its newline. -/
theorem head?_eq_salto_iff {c : List UInt8} (hc : c ≠ []) :
    c.head? = some 10 ↔ c.takeWhile (· ≠ 10) = [] := by
  obtain ⟨b, bs, rfl⟩ := List.exists_cons_of_ne_nil hc
  by_cases hb : b = 10 <;> simp [hb]

theorem instruccionesLoop_eq (n : ℕ) (s : List UInt8) :
    instruccionesLoop n s = (pieces 10 255 n s).map CString.ofBytes := by
  induction n generalizing s with
  | zero => rfl
  | succ n ih =>
    unfold instruccionesLoop pieces
    by_cases hs : s = []
    · rw [if_pos hs, if_pos hs]
      rfl
    have hfgets : fgets s = (chunk 10 255 s, s.drop (chunk 10 255 s).length) := by
      unfold fgets chunk
      rw [hastaSalto_eq]
    have hne : chunk 10 255 s ≠ [] := chunk_ne_nil hs (by omega)
    rw [if_neg hs, if_neg hs, hfgets, List.map_append, ← ih]
    by_cases hskip : (chunk 10 255 s).head? = some 10
    · have hnil := (head?_eq_salto_iff hne).mp hskip
      simp only [hskip, if_true, hnil]
      rfl
    · have hcons := mt (head?_eq_salto_iff hne).mpr hskip
      have hfilter := List.filter_cons_of_pos (l := []) (p := fun t => decide (t ≠ []))
        (decide_eq_true hcons)
      simp only [hskip, if_false]
      rw [hfilter]
      rfl

theorem map_bytes_instruccionesLoop {n : ℕ} {s : List UInt8} (hnul : (0 : UInt8) ∉ s) :
    (instruccionesLoop n s).map CString.bytes = pieces 10 255 n s := by
  have hbytes : ∀ p ∈ pieces 10 255 n s, (CString.ofBytes p).bytes = p := fun p hp =>
    CString.bytes_ofBytes fun h => hnul ((pieces_bound hp).1.subset h)
  rw [instruccionesLoop_eq, List.map_map]
  exact (List.map_congr_left hbytes).trans (List.map_id _)

/-! ## The program of a file -/

/-- The lines of the file that are not empty. -/
def lineasDe (s : List UInt8) : List (List UInt8) := (s.splitOn 10).filter (· ≠ [])

/-- The instructions read from a file of the bytes `s` are its lines, and the one of a
program counter is the line of that number. -/
def ProgramaFiel (archivos : CString → Option (List UInt8)) (filename : CString)
    (s : List UInt8) : Prop :=
  ∃ instrucciones, obtenerInstrucciones archivos filename = some instrucciones ∧
    instrucciones.map CString.bytes = lineasDe s ∧
    ∀ pc : Int32, 0 ≤ pc →
      (listGet instrucciones pc).map CString.bytes = (lineasDe s)[pc.toInt.toNat]?

section

variable {archivos : CString → Option (List UInt8)} {filename : CString} {s : List UInt8}

theorem map_bytes_listGet {instrucciones : List CString} {pc : Int32} (hpc : 0 ≤ pc) :
    (listGet instrucciones pc).map CString.bytes =
      (instrucciones.map CString.bytes)[pc.toInt.toNat]? := by
  rw [listGet, if_neg (Int32.not_lt.mpr hpc), List.getElem?_map]

theorem obtenerInstruccionNumero_of_some {m : Almacen} {pid tid pc : Int32} {hilo : THilo}
    (hget : getHilo m pid tid = some (some hilo)) (hvivo : hilo.liberado = false) :
    obtenerInstruccionNumero m pid tid pc = some (listGet hilo.instrucciones pc) := by
  simp [obtenerInstruccionNumero, hget, hvivo]

theorem obtenerInstrucciones_of_some (harchivo : archivos filename = some s) :
    obtenerInstrucciones archivos filename = some (instruccionesLoop s.length s) := by
  rw [obtenerInstrucciones, harchivo, Option.map_some]

theorem map_bytes_eq_lineasDe_iff (hnul : (0 : UInt8) ∉ s) :
    (instruccionesLoop s.length s).map CString.bytes = lineasDe s ↔
      ∀ linea ∈ s.splitOn 10, linea.length ≤ 255 := by
  rw [map_bytes_instruccionesLoop hnul]
  exact pieces_eq_tokens_iff (le_refl _) (by omega)

end

/-- **Loading a program keeps its instructions** exactly where `fgets` reads every line
in one go: no line of the file has more than 255 bytes without its newline. -/
theorem programaFiel_iff (archivos : CString → Option (List UInt8)) (filename : CString)
    (s : List UInt8) (harchivo : archivos filename = some s) (hnul : (0 : UInt8) ∉ s) :
    ProgramaFiel archivos filename s ↔ ∀ linea ∈ s.splitOn 10, linea.length ≤ 255 := by
  rw [← map_bytes_eq_lineasDe_iff hnul]
  constructor
  · rintro ⟨instrucciones, hinstrucciones, hlineas, -⟩
    rw [obtenerInstrucciones_of_some harchivo] at hinstrucciones
    obtain rfl := Option.some.inj hinstrucciones
    exact hlineas
  · intro hlineas
    refine ⟨_, obtenerInstrucciones_of_some harchivo, hlineas, ?_⟩
    intro pc hpc
    rw [map_bytes_listGet hpc, hlineas]

/-- An empty line is no instruction, and the last one needs no newline. -/
theorem programaFiel_iff_dos :
    ProgramaFiel (fun _ => some (ascii "SUM AX BX\n\nEXIT")) (CString.ofBytes (ascii "a"))
      (ascii "SUM AX BX\n\nEXIT") :=
  (programaFiel_iff _ _ _ rfl (by decide)).mpr (by decide)

/-- A line of 256 bytes. The first instruction has 255 of them, the second the last one,
and the next line is not the second instruction. -/
theorem not_programaFiel_lineaLarga :
    let s := List.replicate 256 65 ++ 10 :: ascii "EXIT"
    ¬ ProgramaFiel (fun _ => some s) (CString.ofBytes (ascii "a")) s ∧
      (lineasDe s)[1]? = some (ascii "EXIT") ∧
      (instruccionesLoop s.length s).map CString.bytes =
        [List.replicate 255 65, [65], ascii "EXIT"] := by
  intro s
  have hsegunda : (lineasDe s)[1]? = some (ascii "EXIT") := by decide +kernel
  have hloop : (instruccionesLoop s.length s).map CString.bytes =
      [List.replicate 255 65, [65], ascii "EXIT"] := by decide +kernel
  refine ⟨?_, hsegunda, hloop⟩
  rintro ⟨instrucciones, hinstrucciones, hlineas, -⟩
  rw [obtenerInstrucciones_of_some rfl] at hinstrucciones
  obtain rfl := Option.some.inj hinstrucciones
  rw [← hlineas, hloop] at hsegunda
  exact absurd (Option.some.inj hsegunda) (by decide)

/-- What the CPU is sent of a thread that was just created, when the ids print in seven
characters: the line of the file that its program counter counts. -/
theorem obtenerInstruccionNumero_crearHilo {archivos : CString → Option (List UInt8)}
    {filename : CString} {s : List UInt8} {m m' : Almacen} {pid tid prioridad pc : Int32}
    (hpid : EnRango pid) (htid : EnRango tid) (hvivo : ∀ proceso, procesoEn m pid = some proceso →
      proceso.liberado = false) (harchivo : archivos filename = some s)
    (hnul : (0 : UInt8) ∉ s) (hfit : ∀ linea ∈ s.splitOn 10, linea.length ≤ 255)
    (h : crearHilo archivos m pid tid filename prioridad = some (true, m')) (hpc : 0 ≤ pc) :
    (obtenerInstruccionNumero m' pid tid pc).map (Option.map CString.bytes) =
      some (lineasDe s)[pc.toInt.toNat]? := by
  rcases crearHilo_eq_some h with ⟨hexito, -⟩ | ⟨proceso, instrucciones, hproceso, hinstr, -, rfl⟩
  · cases hexito
  obtain rfl := Option.some.inj (hinstr.symm.trans (obtenerInstrucciones_of_some harchivo))
  let hilo := nuevoHilo tid filename prioridad (instruccionesLoop s.length s)
  have hget : getHilo (insertarHilo m pid tid proceso hilo) pid tid = some (some hilo) :=
    getHilo_insertarHilo hpid htid (hvivo proceso hproceso)
  show (obtenerInstruccionNumero (insertarHilo m pid tid proceso hilo) pid tid pc).map _ = _
  rw [obtenerInstruccionNumero_of_some hget rfl, Option.map_some, map_bytes_listGet hpc]
  exact congrArg (fun lineas => some lineas[pc.toInt.toNat]?)
    ((map_bytes_eq_lineasDe_iff hnul).mpr hfit)

end SoTp.Memoria
