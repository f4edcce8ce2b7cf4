import SoTp.Memoria.Fusion

/-!
# The bytes of the table

The sum of the sizes in `lista_particiones`, over a call of `liberar_memoria`
(`memoria/src/main.c`, lines 292–329).

* `sumaConservada_iff`: **exactly when a release keeps the sum of the sizes.** With both
  neighbours free the first merge destroys `particion`, and the second one adds the size of
  `siguiente` to it all the same: the bytes of `siguiente` belong to no partition afterwards.
-/

namespace SoTp.Memoria

open SoTp.Lib

/-! ## Specification -/

/-- The sum of the sizes of the partitions in the list. -/
def sumaTamanios (l : List TParticion) : ℤ :=
  (l.map fun particion => particion.tamanio.toInt).sum

/-- `liberar_memoria(base)` comes back, and the sum of the sizes is the one before. -/
def SumaConservada (freeReturns : ℤ → Bool) (base : ℤ) (l : List TParticion) : Prop :=
  ∃ l', liberarMemoria freeReturns base l = some l' ∧ sumaTamanios l' = sumaTamanios l

/-- The sum of the two sizes is an `int`. -/
def SinDesborde (a b : Int32) : Prop :=
  -2 ^ 31 ≤ a.toInt + b.toInt ∧ a.toInt + b.toInt < 2 ^ 31

/-- What the free neighbours of `particion`, at index `i`, must be like. `free` comes back
from the bases of the partitions that are removed, the sizes that are added up fit in an
`int`, and where the partition in front is free too, the next one has no bytes. -/
structure FusionExacta (freeReturns : ℤ → Bool) (l : List TParticion) (i : ℕ)
    (particion : TParticion) : Prop where
  anterior : ∀ anterior : TParticion, 0 < i → l[i - 1]? = some anterior → anterior.estado = 0 →
    freeReturns particion.base = true ∧ SinDesborde anterior.tamanio particion.tamanio
  siguiente : ∀ siguiente : TParticion, l[i + 1]? = some siguiente → siguiente.estado = 0 →
    freeReturns siguiente.base = true ∧
      (AnteriorLibre l i → siguiente.tamanio = 0) ∧
      (¬ AnteriorLibre l i → SinDesborde particion.tamanio siguiente.tamanio)

/-! ## Adding two sizes -/

/-- The sum of two `int`s is off by nothing or by `2 ^ 32`, so no third `int` makes up for
it. -/
theorem toInt_add_eq_iff (a b c : Int32) :
    (a + b).toInt = a.toInt + b.toInt + c.toInt ↔ SinDesborde a b ∧ c = 0 := by
  have hmin : -2 ^ 31 ≤ (a + b).toInt := (a + b).le_toInt
  have hmax : (a + b).toInt < 2 ^ 31 := (a + b).toInt_lt
  have hminA : -2 ^ 31 ≤ a.toInt := a.le_toInt
  have hmaxA : a.toInt < 2 ^ 31 := a.toInt_lt
  have hminB : -2 ^ 31 ≤ b.toInt := b.le_toInt
  have hmaxB : b.toInt < 2 ^ 31 := b.toInt_lt
  have hminC : -2 ^ 31 ≤ c.toInt := c.le_toInt
  have hmaxC : c.toInt < 2 ^ 31 := c.toInt_lt
  have hsum : (a + b).toInt = (a.toInt + b.toInt).bmod (2 ^ 32) := Int32.toInt_add a b
  have hcero : c = 0 ↔ c.toInt = 0 := by
    rw [← Int32.toInt_inj, Int32.toInt_zero]
  rw [hcero]
  unfold SinDesborde
  constructor
  · intro h
    have hdesborde := Int.bmod_add_bdiv (a.toInt + b.toInt) (2 ^ 32)
    rw [← hsum] at hdesborde
    generalize (a.toInt + b.toInt).bdiv (2 ^ 32) = k at hdesborde
    omega
  · rintro ⟨⟨hlo, hhi⟩, hc⟩
    rw [hsum, Int.bmod_eq_of_le (by omega) (by omega), hc, add_zero]

theorem toInt_add_eq_iff_sinDesborde (a b : Int32) :
    (a + b).toInt = a.toInt + b.toInt ↔ SinDesborde a b := by
  have h := toInt_add_eq_iff a b 0
  rw [Int32.toInt_zero, add_zero] at h
  exact h.trans (and_iff_left rfl)

/-! ## The sum after each of the merges -/

section

variable {freeReturns : ℤ → Bool} {l : List TParticion} {i : ℕ}
  {particion otra : TParticion}

theorem sumaTamanios_libre (hget : l[i]? = some particion) :
    sumaTamanios (l.set i particion.libre) = sumaTamanios l := by
  have hset := sum_map_set_add (b := particion.libre) (fun p : TParticion => p.tamanio.toInt) hget
  exact add_right_cancel hset

theorem sumaTamanios_fusion (nueva : TParticion) {j : ℕ} (hij : i ≠ j) (hi : l[i]? = some particion)
    (hj : l[j]? = some otra) :
    sumaTamanios ((l.set i nueva).eraseIdx j) + particion.tamanio.toInt + otra.tamanio.toInt =
      sumaTamanios l + nueva.tamanio.toInt := by
  have hset := sum_map_set_add (b := nueva) (fun p : TParticion => p.tamanio.toInt) hi
  have herase := sum_map_eraseIdx_add (fun p : TParticion => p.tamanio.toInt)
    ((List.getElem?_set_ne hij (a := nueva)).trans hj)
  unfold sumaTamanios
  omega

theorem sumaConservada_of_eq {base : ℤ} {r : Option (List TParticion)}
    (heq : liberarMemoria freeReturns base l = r) :
    SumaConservada freeReturns base l ↔
      ∃ l', r = some l' ∧ sumaTamanios l' = sumaTamanios l := by
  unfold SumaConservada
  rw [heq]

/-- What `FusionExacta` says without a free partition in front. -/
theorem fusionExacta_sinAnterior_iff (freeReturns : ℤ → Bool) {siguiente : TParticion}
    (hant : ¬ AnteriorLibre l i) (hsig : l[i + 1]? = some siguiente) :
    FusionExacta freeReturns l i particion ↔ (siguiente.estado = 0 →
      freeReturns siguiente.base = true ∧ SinDesborde particion.tamanio siguiente.tamanio) := by
  constructor
  · intro h hlibre
    obtain ⟨hfree, -, hsuma⟩ := h.siguiente siguiente hsig hlibre
    exact ⟨hfree, hsuma hant⟩
  · intro h
    refine ⟨fun a hpos ha he => absurd ⟨a, hpos, ha, he⟩ hant, fun s hs he => ?_⟩
    obtain rfl := Option.some.inj (hsig.symm.trans hs)
    exact ⟨(h he).1, fun hno => absurd hno hant, fun _ => (h he).2⟩

/-- And with one. -/
theorem fusionExacta_conAnterior_iff (freeReturns : ℤ → Bool) {anterior siguiente : TParticion}
    (hpos : 0 < i) (hant : l[i - 1]? = some anterior) (hlibreAnt : anterior.estado = 0)
    (hsig : l[i + 1]? = some siguiente) :
    FusionExacta freeReturns l i particion ↔
      (freeReturns particion.base = true ∧ SinDesborde anterior.tamanio particion.tamanio) ∧
        (siguiente.estado = 0 → freeReturns siguiente.base = true ∧ siguiente.tamanio = 0) := by
  have hanterior : AnteriorLibre l i := ⟨anterior, hpos, hant, hlibreAnt⟩
  constructor
  · intro h
    refine ⟨h.anterior anterior hpos hant hlibreAnt, fun hlibre => ?_⟩
    obtain ⟨hfree, hcero, -⟩ := h.siguiente siguiente hsig hlibre
    exact ⟨hfree, hcero hanterior⟩
  · rintro ⟨hprev, hnext⟩
    refine ⟨fun a _ ha _ => ?_, fun s hs he => ?_⟩
    · obtain rfl := Option.some.inj (hant.symm.trans ha)
      exact hprev
    · obtain rfl := Option.some.inj (hsig.symm.trans hs)
      exact ⟨(hnext he).1, fun _ => (hnext he).2, fun hno => absurd hanterior hno⟩

/-- Without a free partition in front. -/
theorem sumaConservada_sinAnterior (hbuscar : buscarBase l particion.base = some i)
    (hget : l[i]? = some particion) (hlt : i + 1 < l.length) (hant : ¬ AnteriorLibre l i) :
    SumaConservada freeReturns particion.base l ↔ FusionExacta freeReturns l i particion := by
  have hsig : l[i + 1]? = some l[i + 1] := List.getElem?_eq_getElem hlt
  generalize l[i + 1] = siguiente at hsig
  rw [fusionExacta_sinAnterior_iff freeReturns hant hsig,
    sumaConservada_of_eq (liberarMemoria_sinAnterior hbuscar hget hant), hsig, Option.bind_some]
  by_cases hlibre : siguiente.estado = 0
  · rw [if_pos hlibre]
    by_cases hfree : freeReturns siguiente.base = true
    · have hsuma := sumaTamanios_fusion (particion.libre.mas siguiente) (j := i + 1)
        (by omega) hget hsig
      have hmas : (particion.libre.mas siguiente).tamanio =
          particion.tamanio + siguiente.tamanio := rfl
      rw [hmas] at hsuma
      rw [if_pos hfree, exists_some_eq_iff, ← toInt_add_eq_iff_sinDesborde]
      constructor
      · intro h _
        exact ⟨hfree, by omega⟩
      · intro h
        have hint := (h hlibre).2
        omega
    · rw [if_neg hfree]
      exact iff_of_false not_exists_eq_none fun h => hfree (h hlibre).1
  · rw [if_neg hlibre, exists_some_eq_iff]
    exact iff_of_true (sumaTamanios_libre hget) fun he => absurd he hlibre

/-- With a free partition in front. -/
theorem sumaConservada_conAnterior {anterior : TParticion}
    (hbuscar : buscarBase l particion.base = some i) (hget : l[i]? = some particion)
    (hlt : i + 1 < l.length) (hpos : 0 < i) (hant : l[i - 1]? = some anterior)
    (hlibreAnt : anterior.estado = 0) :
    SumaConservada freeReturns particion.base l ↔ FusionExacta freeReturns l i particion := by
  have hsig : l[i + 1]? = some l[i + 1] := List.getElem?_eq_getElem hlt
  generalize l[i + 1] = siguiente at hsig
  have hsuma := sumaTamanios_fusion (anterior.mas particion) (i := i - 1)
    (by omega) hant hget
  have hmas : (anterior.mas particion).tamanio = anterior.tamanio + particion.tamanio := rfl
  rw [hmas] at hsuma
  rw [fusionExacta_conAnterior_iff freeReturns hpos hant hlibreAnt hsig, sumaConservada_of_eq
    (liberarMemoria_conAnterior hbuscar hget hpos hant hlibreAnt)]
  by_cases hfreeAnt : freeReturns particion.base = true
  · rw [if_pos hfreeAnt, hsig, Option.bind_some]
    by_cases hlibre : siguiente.estado = 0
    · rw [if_pos hlibre]
      by_cases hfree : freeReturns siguiente.base = true
      · have hnext : ((l.set (i - 1) (anterior.mas particion)).eraseIdx i)[i]? =
            some siguiente := by
          rw [List.getElem?_eraseIdx, if_neg (lt_irrefl i), List.getElem?_set_ne (by omega)]
          exact hsig
        -- the next partition is removed without its size being added to any other
        have hperdida := sum_map_eraseIdx_add (fun p : TParticion => p.tamanio.toInt) hnext
        have htotal : sumaTamanios
              (((l.set (i - 1) (anterior.mas particion)).eraseIdx i).eraseIdx i) =
            sumaTamanios l ↔
            (anterior.tamanio + particion.tamanio).toInt =
              anterior.tamanio.toInt + particion.tamanio.toInt + siguiente.tamanio.toInt := by
          unfold sumaTamanios at hsuma ⊢
          omega
        rw [if_pos hfree, exists_some_eq_iff, htotal, toInt_add_eq_iff]
        constructor
        · rintro ⟨hsin, hcero⟩
          exact ⟨⟨hfreeAnt, hsin⟩, fun _ => ⟨hfree, hcero⟩⟩
        · rintro ⟨⟨-, hsin⟩, hcero⟩
          exact ⟨hsin, (hcero hlibre).2⟩
      · rw [if_neg hfree]
        exact iff_of_false not_exists_eq_none fun h => hfree (h.2 hlibre).1
    · rw [if_neg hlibre, exists_some_eq_iff, ← toInt_add_eq_iff_sinDesborde]
      constructor
      · intro h
        exact ⟨⟨hfreeAnt, by omega⟩, fun he => absurd he hlibre⟩
      · rintro ⟨⟨-, hint⟩, -⟩
        omega
  · rw [if_neg hfreeAnt]
    exact iff_of_false not_exists_eq_none fun h => hfreeAnt h.1.1

end

/-- **Exactly when a release keeps the sum of the sizes**: for every list and every partition
of it with another one behind, whatever the states of the neighbours and whatever `free`
does with the bases it gets. `i` is the index at which the search stops, the first one with
the base of `particion`. -/
theorem sumaConservada_iff (freeReturns : ℤ → Bool) (l : List TParticion) (k : ℕ)
    (particion : TParticion) (hget : l[k]? = some particion) (hlt : k + 1 < l.length) :
    SumaConservada freeReturns particion.base l ↔
      ∃ i primera, buscarBase l particion.base = some i ∧ l[i]? = some primera ∧
        FusionExacta freeReturns l i primera := by
  have hsome : buscarBase l particion.base ≠ none := by
    intro hnone
    have hno := List.findIdx?_eq_none_iff.mp hnone particion (List.mem_of_getElem? hget)
    exact of_decide_eq_false hno rfl
  obtain ⟨i, hbuscar⟩ := Option.ne_none_iff_exists'.mp hsome
  obtain ⟨⟨primera, hprimera, hbase⟩, hfirst⟩ := buscarBase_eq_some_iff.mp hbuscar
  have hik : i ≤ k := by
    by_contra hki
    exact hfirst k particion (by omega) hget rfl
  have hexacta : SumaConservada freeReturns primera.base l ↔
      FusionExacta freeReturns l i primera := by
    rw [← hbase] at hbuscar
    by_cases hant : AnteriorLibre l i
    · obtain ⟨anterior, hpos, ha, hlibre⟩ := hant
      exact sumaConservada_conAnterior hbuscar hprimera (by omega) hpos ha hlibre
    · exact sumaConservada_sinAnterior hbuscar hprimera (by omega) hant
  rw [← hbase, hexacta]
  constructor
  · intro h
    exact ⟨i, primera, hbase ▸ hbuscar, hprimera, h⟩
  · rintro ⟨i', primera', hbuscar', hprimera', h⟩
    obtain rfl := Option.some.inj (hbuscar.symm.trans (hbase ▸ hbuscar'))
    obtain rfl := Option.some.inj (hprimera.symm.trans hprimera')
    exact h

/-- The partition in the middle of three, with a free one behind it. -/
theorem sumaConservada_media :
    SumaConservada (fun _ => true) 4112 [⟨16, 1, 4096⟩, ⟨32, 1, 4112⟩, ⟨64, 0, 4144⟩] := by
  refine (sumaConservada_iff (fun _ => true) _ 1 ⟨32, 1, 4112⟩ rfl (by decide)).mpr
    ⟨1, ⟨32, 1, 4112⟩, by decide, rfl, fun a _ ha he => ?_, fun s hs _ => ⟨rfl, ?_, fun _ => ?_⟩⟩
  · exact absurd he (Option.some.inj ha ▸ by decide)
  · rintro ⟨a, -, ha, he⟩
    exact absurd he (Option.some.inj ha ▸ by decide)
  · obtain rfl := Option.some.inj hs
    exact ⟨by decide, by decide⟩

/-- The partition in the middle of three with both neighbours free: of 112 bytes, 48 are left
in the table. -/
theorem not_sumaConservada_libres :
    liberarMemoria (fun _ => true) 4112 [⟨16, 0, 4096⟩, ⟨32, 1, 4112⟩, ⟨64, 0, 4144⟩] =
        some [⟨48, 0, 4096⟩] ∧
      ¬ SumaConservada (fun _ => true) 4112
        [⟨16, 0, 4096⟩, ⟨32, 1, 4112⟩, ⟨64, 0, 4144⟩] := by
  have hlista : liberarMemoria (fun _ => true) 4112
      [⟨16, 0, 4096⟩, ⟨32, 1, 4112⟩, ⟨64, 0, 4144⟩] = some [⟨48, 0, 4096⟩] := by decide
  refine ⟨hlista, ?_⟩
  rintro ⟨l', hl', hsuma⟩
  obtain rfl := Option.some.inj (hlista.symm.trans hl')
  exact absurd hsuma (by decide)

end SoTp.Memoria
