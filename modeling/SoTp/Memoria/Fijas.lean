import SoTp.Memoria.Arranque
import SoTp.Memoria.Liberacion

/-!
# Fixed partitions over a run

Models of `first_fit`, `best_fit` and `worst_fit` (`memoria/src/manejar_kernel.c`,
lines 145–243), and runs of them with `liberar_memoria`, which serves both
schemes and joins free neighbours in both.

* `liberarMemoria_pares`, `liberarMemoria_length_lt`: a release keeps the pairs
  (base, size) when it meets no free neighbour, and shortens the list when it does.
* `run_pares_iff`: **over a run the table stays the same exactly when no release
  meets a free neighbour**.
-/

namespace SoTp.Memoria

open SoTp.Lib SoTp.Cpu

/-! ## Model -/

/-- The partition at the chosen index is marked as occupied and its base is
returned; `NULL` when there is none. -/
def ocuparElegida (l : List TParticion) : Option ℕ → Option ℤ × List TParticion
  | none => (none, l)
  | some i =>
    match l[i]? with
    | none => (none, l)
    | some particion => (some particion.base, l.set i { particion with estado := 1 })

/-- `peor_ajuste` at the end of the loop of `worst_fit`, where a partition must be
larger than what is asked for. -/
def peorAjusteFijo (l : List TParticion) (tamProceso : Int32) : Option ℕ :=
  (ajusteLoop (fun tamanio tam => decide (tamanio > tam))
    (fun espacio maximo => decide (espacio > maximo)) tamProceso 0 l (none, -1)).1

/-- `first_fit(tam_proceso)` (lines 145–164). -/
def firstFit (l : List TParticion) (tamProceso : Int32) : Option ℤ × List TParticion :=
  ocuparElegida l (primerAjuste l tamProceso)

/-- `best_fit(tam_proceso)` (lines 167–204). -/
def bestFit (l : List TParticion) (tamProceso : Int32) : Option ℤ × List TParticion :=
  ocuparElegida l (mejorAjuste l tamProceso)

/-- `worst_fit(tam_proceso)` (lines 207–243). -/
def worstFit (l : List TParticion) (tamProceso : Int32) : Option ℤ × List TParticion :=
  ocuparElegida l (peorAjusteFijo l tamProceso)

/-- A call on a table of fixed partitions. `freeReturns` belongs to the release
(`quitarYDestruir`). -/
inductive LlamadaFija where
  | firstFit (tamProceso : Int32)
  | bestFit (tamProceso : Int32)
  | worstFit (tamProceso : Int32)
  | liberar (freeReturns : ℤ → Bool) (base : ℤ)

/-- The table after a call, or `none` when the call does not complete. -/
def llamarFija (l : List TParticion) : LlamadaFija → Option (List TParticion)
  | .firstFit tamProceso => some (firstFit l tamProceso).2
  | .bestFit tamProceso => some (bestFit l tamProceso).2
  | .worstFit tamProceso => some (worstFit l tamProceso).2
  | .liberar freeReturns base => liberarMemoria freeReturns base l

/-- The pair (`base`, `tamanio`) of a partition. -/
def TParticion.par (particion : TParticion) : ℤ × Int32 := (particion.base, particion.tamanio)

/-! ## One call -/

theorem map_par_set {l : List TParticion} {i : ℕ} {particion nueva : TParticion}
    (hget : l[i]? = some particion) (hpar : nueva.par = particion.par) :
    (l.set i nueva).map TParticion.par = l.map TParticion.par := by
  obtain ⟨hi, hget⟩ := List.getElem?_eq_some_iff.mp hget
  have hi' : i < (l.map TParticion.par).length := by rwa [List.length_map]
  have heq : nueva.par = (l.map TParticion.par)[i] := by
    rw [List.getElem_map, hget, hpar]
  rw [List.map_set, heq, List.set_getElem_self]

theorem ocuparElegida_pares (l : List TParticion) (elegida : Option ℕ) :
    (ocuparElegida l elegida).2.map TParticion.par = l.map TParticion.par := by
  unfold ocuparElegida
  split
  · rfl
  · split
    · rfl
    · rename_i hget
      exact map_par_set hget rfl

/-- `liberar_memoria(base)` meets no free neighbour of the partition it finds. -/
def SinFusion (l : List TParticion) (base : ℤ) : Prop :=
  ∀ i, buscarBase l base = some i →
    ¬ AnteriorLibre l i ∧
      ∀ siguiente : TParticion, l[i + 1]? = some siguiente → siguiente.estado ≠ 0

theorem liberarMemoria_pares {freeReturns : ℤ → Bool} {base : ℤ} {l l' : List TParticion}
    (h : liberarMemoria freeReturns base l = some l') (hsin : SinFusion l base) :
    l'.map TParticion.par = l.map TParticion.par := by
  rcases liberarMemoria_cases h with rfl | ⟨i, particion, hbuscar, hget, hliberada⟩
  · rfl
  · obtain ⟨hanterior, hsiguiente⟩ := hsin i hbuscar
    cases hliberada with
    | marcada => exact map_par_set hget rfl
    | conSiguiente siguiente hsig hlibre _ => exact absurd hlibre (hsiguiente siguiente hsig)
    | conAnterior anterior hi hant hlibre => exact absurd ⟨anterior, hi, hant, hlibre⟩ hanterior
    | conAnteriorYSiguiente anterior hi hant hlibre =>
      exact absurd ⟨anterior, hi, hant, hlibre⟩ hanterior

theorem fusionarSiguiente_length_le {freeReturns : ℤ → Bool} {particion : TParticion}
    {l l' : List TParticion} {i : ℕ} {destruida : Bool}
    (h : fusionarSiguiente freeReturns particion (l, i, destruida) = some l') :
    l'.length ≤ l.length := by
  rcases fusionarSiguiente_eq_some h with rfl | ⟨siguiente, -, -, rfl⟩
  · exact le_refl _
  · refine le_trans (List.length_eraseIdx_le _ _) ?_
    split
    · exact le_refl _
    · rw [List.length_set]

theorem fusionarSiguiente_length_lt {freeReturns : ℤ → Bool} {particion siguiente : TParticion}
    {l l' : List TParticion} {i : ℕ}
    (h : fusionarSiguiente freeReturns particion (l, i, false) = some l')
    (hsig : l[i + 1]? = some siguiente) (hlibre : siguiente.estado = 0) :
    l'.length < l.length := by
  have hlt : i + 1 < l.length := (List.getElem?_eq_some_iff.mp hsig).1
  unfold fusionarSiguiente at h
  dsimp only at h
  rw [if_pos (by omega), hsig, Option.bind_some, if_pos hlibre] at h
  rw [quitarYDestruir_eq_some h, if_neg Bool.false_ne_true, List.length_eraseIdx, List.length_set,
    if_pos hlt]
  omega

/-- With a free neighbour the release removes a partition. -/
theorem liberarMemoria_length_lt {freeReturns : ℤ → Bool} {base : ℤ} {l l' : List TParticion}
    (h : liberarMemoria freeReturns base l = some l') (hcon : ¬ SinFusion l base) :
    l'.length < l.length := by
  unfold SinFusion at hcon
  push Not at hcon
  obtain ⟨i, hbuscar, hlibre⟩ := hcon
  unfold liberarMemoria at h
  rw [hbuscar] at h
  obtain ⟨particion, hget, h⟩ := Option.bind_eq_some_iff.mp h
  obtain ⟨r, hr, h⟩ := Option.bind_eq_some_iff.mp h
  have hi : i < l.length := (List.getElem?_eq_some_iff.mp hget).1
  rcases fusionarAnterior_eq_some hr with ⟨hant, rfl⟩ | ⟨anterior, hpos, -, -, rfl⟩
  · rw [anteriorLibre_set] at hant
    obtain ⟨siguiente, hsig, hestado⟩ := hlibre hant
    have hsig' : (l.set i { particion with estado := 0 })[i + 1]? = some siguiente := by
      rw [List.getElem?_set_ne (by omega)]
      exact hsig
    have hlt := fusionarSiguiente_length_lt h hsig' hestado
    rwa [List.length_set] at hlt
  · have hle := fusionarSiguiente_length_le h
    rw [List.length_eraseIdx, List.length_set, List.length_set, if_pos hi] at hle
    omega

/-! ## Runs -/

/-- The call is not a release that meets a free neighbour. -/
def LlamadaSinFusion (l : List TParticion) : LlamadaFija → Prop
  | .liberar _ base => SinFusion l base
  | _ => True

theorem llamarFija_pares {l l' : List TParticion} {llamada : LlamadaFija}
    (h : llamarFija l llamada = some l') (hsin : LlamadaSinFusion l llamada) :
    l'.map TParticion.par = l.map TParticion.par := by
  cases llamada with
  | firstFit tamProceso => exact Option.some.inj h ▸ ocuparElegida_pares l _
  | bestFit tamProceso => exact Option.some.inj h ▸ ocuparElegida_pares l _
  | worstFit tamProceso => exact Option.some.inj h ▸ ocuparElegida_pares l _
  | liberar freeReturns base => exact liberarMemoria_pares h hsin

theorem llamarFija_length_lt {l l' : List TParticion} {llamada : LlamadaFija}
    (h : llamarFija l llamada = some l') (hcon : ¬ LlamadaSinFusion l llamada) :
    l'.length < l.length := by
  cases llamada with
  | firstFit tamProceso => exact absurd trivial hcon
  | bestFit tamProceso => exact absurd trivial hcon
  | worstFit tamProceso => exact absurd trivial hcon
  | liberar freeReturns base => exact liberarMemoria_length_lt h hcon

theorem llamarFija_length_le {l l' : List TParticion} {llamada : LlamadaFija}
    (h : llamarFija l llamada = some l') : l'.length ≤ l.length := by
  by_cases hsin : LlamadaSinFusion l llamada
  · have hlength := congrArg List.length (llamarFija_pares h hsin)
    rw [List.length_map, List.length_map] at hlength
    exact le_of_eq hlength
  · exact le_of_lt (llamarFija_length_lt h hsin)

theorem run_length_le {l t : List TParticion} {llamadas : List LlamadaFija}
    (h : run llamarFija l llamadas = some t) : t.length ≤ l.length :=
  run_invariant
    (fun _ _ _ hle _ hs => le_trans (llamarFija_length_le hs) hle) (le_refl _)
    (along_true l llamadas) h

/-- **Fixed partitions stay fixed exactly while no release meets a free
neighbour.** In every run that completes, of any calls on any table, the pairs
(base, size) at the end are those at the start if and only if every release of
the run meets none. -/
theorem run_pares_iff (l t : List TParticion) (llamadas : List LlamadaFija)
    (h : run llamarFija l llamadas = some t) :
    t.map TParticion.par = l.map TParticion.par ↔ Along llamarFija LlamadaSinFusion l llamadas := by
  induction llamadas generalizing l with
  | nil =>
    obtain rfl := Option.some.inj h
    exact ⟨fun _ => trivial, fun _ => rfl⟩
  | cons llamada llamadas ih =>
    obtain ⟨l', hl', ht⟩ := run_cons_eq_some llamarFija h
    by_cases hsin : LlamadaSinFusion l llamada
    · rw [← llamarFija_pares hl' hsin, ih l' ht]
      exact ⟨fun hafter => along_cons hl' hsin hafter, fun halong => halong.tail hl'⟩
    · -- the list is shorter from here on
      refine ⟨fun hpares => ?_, fun halong => absurd halong.head hsin⟩
      have hlength := congrArg List.length hpares
      rw [List.length_map, List.length_map] at hlength
      have hle := run_length_le ht
      have hlt := llamarFija_length_lt hl' hsin
      omega

/-- Three partitions occupied in turn, and the one in the middle released. -/
theorem run_pares_iff_media :
    (([⟨16, 1, 4096⟩, ⟨32, 0, 4112⟩, ⟨64, 1, 4144⟩] : List TParticion).map TParticion.par =
        ([⟨16, 0, 4096⟩, ⟨32, 0, 4112⟩, ⟨64, 0, 4144⟩] : List TParticion).map TParticion.par ↔
      Along llamarFija LlamadaSinFusion [⟨16, 0, 4096⟩, ⟨32, 0, 4112⟩, ⟨64, 0, 4144⟩]
        [.firstFit 16, .bestFit 20, .worstFit 60, .liberar (fun _ => false) 4112]) :=
  run_pares_iff [⟨16, 0, 4096⟩, ⟨32, 0, 4112⟩, ⟨64, 0, 4144⟩]
    [⟨16, 1, 4096⟩, ⟨32, 0, 4112⟩, ⟨64, 1, 4144⟩]
    [.firstFit 16, .bestFit 20, .worstFit 60, .liberar (fun _ => false) 4112] (by decide)

/-- Partitions of 0, 16 and 32 bytes. A process of 0 bytes takes the first one and
ends: the second one is free and is joined to it. Here `free` only comes back
from the base of the user memory. -/
theorem not_run_pares :
    ∃ l t, gestionarParticiones (CString.ofBytes (ascii "FIJAS")) 4096 48
        [CString.ofBytes (ascii "0"), CString.ofBytes (ascii "16"), CString.ofBytes (ascii "32")] =
          some l ∧
      run llamarFija l [.firstFit 0, .liberar (fun base => base == 4096) 4096] = some t ∧
      t.map TParticion.par ≠ l.map TParticion.par :=
  ⟨[⟨0, 0, 4096⟩, ⟨16, 0, 4096⟩, ⟨32, 0, 4112⟩], [⟨16, 0, 4096⟩, ⟨32, 0, 4112⟩],
    by decide, by decide, by decide⟩

end SoTp.Memoria
