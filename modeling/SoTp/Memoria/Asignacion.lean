import SoTp.Memoria.Particiones

/-!
# Dynamic allocation

Whatever the order of the list, a call of `first_fit_din`, `best_fit_din` or
`worst_fit_din` exchanges one free partition for an occupied one of the size
asked for and, when there is a rest, a free one: see `asignar_cases`. From this
one fact:

* `asignar_tiling`: the partitions go on making up the user memory.
* `asignar_frame`: an occupied partition is not touched.
* `asignaciones_tiling`: **both hold over any sequence of calls**.
-/

namespace SoTp.Memoria

open SoTp.Lib

/-! ## One call -/

/-- The free partition made of what `tamProceso` leaves of `particion`. -/
def resto (particion : TParticion) (tamProceso : Int32) : List TParticion :=
  if particion.tamanio > tamProceso then
    [{ base := particion.base + tamProceso.toInt
       tamanio := particion.tamanio - tamProceso
       estado := 0 }]
  else []

/-- `particion` given to a process of `tamProceso` bytes. -/
def TParticion.ocupada (particion : TParticion) (tamProceso : Int32) : TParticion :=
  { particion with tamanio := tamProceso, estado := 1 }

theorem eq_of_le_of_not_gt {tamProceso tamanio : Int32} (hle : tamProceso ≤ tamanio)
    (hgt : ¬ tamanio > tamProceso) : tamanio = tamProceso := by
  rw [← Int32.toInt_inj]
  rw [Int32.le_iff_toInt_le] at hle
  rw [gt_iff_lt, Int32.lt_iff_toInt_lt] at hgt
  omega

theorem asignarEn_eq {l : List TParticion} {tamProceso : Int32} {i : ℕ} {particion : TParticion}
    (hget : l[i]? = some particion) (hle : tamProceso ≤ particion.tamanio) :
    asignarEn l tamProceso i = (some particion.base,
      l.set i (particion.ocupada tamProceso) ++ resto particion tamProceso) := by
  unfold asignarEn resto TParticion.ocupada
  simp only [hget]
  by_cases hgt : particion.tamanio > tamProceso
  · rw [if_pos hgt, if_pos hgt]
  · rw [if_neg hgt, if_neg hgt, List.append_nil, eq_of_le_of_not_gt hle hgt]

theorem EstrategiaDin.asignar_cases (e : EstrategiaDin) (l : List TParticion) (tamProceso : Int32) :
    e.asignar l tamProceso = (none, l) ∨
      ∃ i particion, l[i]? = some particion ∧ particion.estado = 0 ∧
        tamProceso ≤ particion.tamanio ∧
        e.asignar l tamProceso = (some particion.base,
          l.set i (particion.ocupada tamProceso) ++ resto particion tamProceso) := by
  rw [e.asignar_eq]
  cases helegida : e.elegida l tamProceso with
  | none => exact Or.inl rfl
  | some i =>
    obtain ⟨particion, hget, hlibre, hle⟩ := EstrategiaDin.elegida_candidata helegida
    exact Or.inr ⟨i, particion, hget, hlibre, hle, asignarEn_eq hget hle⟩

/-! ## Ranges -/

/-- The partitions make up `memoria`, and no size is negative. -/
structure Tiled (memoria : Set ℤ) (l : List TParticion) : Prop where
  tiling : Tiling memoria (l.map TParticion.range)
  nonneg : ∀ particion ∈ l, 0 ≤ particion.tamanio

theorem toInt_sub_of_le {tamProceso tamanio : Int32} (h0 : 0 ≤ tamProceso)
    (hle : tamProceso ≤ tamanio) :
    (tamanio - tamProceso).toInt = tamanio.toInt - tamProceso.toInt :=
  Int32.toInt_sub_of_le tamanio tamProceso h0 hle

/-- The two parts of a partition that is cut. -/
theorem range_eq_union {particion : TParticion} {tamProceso : Int32} (h0 : 0 ≤ tamProceso)
    (hle : tamProceso ≤ particion.tamanio) :
    particion.range = (particion.ocupada tamProceso).range ∪
      Set.Ico (particion.base + tamProceso.toInt)
        (particion.base + tamProceso.toInt + (particion.tamanio - tamProceso).toInt) := by
  have hsub := toInt_sub_of_le h0 hle
  rw [Int32.le_iff_toInt_le] at h0 hle
  have h0' : 0 ≤ tamProceso.toInt := h0
  unfold TParticion.range TParticion.ocupada
  dsimp only
  rw [hsub, Set.Ico_union_Ico_eq_Ico (by omega) (by omega)]
  congr 1
  omega

theorem range_ocupada_of_eq {particion : TParticion} {tamProceso : Int32}
    (h : particion.tamanio = tamProceso) :
    (particion.ocupada tamProceso).range = particion.range := by
  rw [TParticion.range, TParticion.range, TParticion.ocupada, h]

theorem map_range_set (l : List TParticion) (i : ℕ) (particion : TParticion)
    (resto : List TParticion) : (l.set i particion ++ resto).map TParticion.range =
      (l.map TParticion.range).set i particion.range ++ resto.map TParticion.range := by
  rw [List.map_append, List.map_set]

/-- What an allocation does to the list of ranges: nothing, or one range cut in
two. -/
theorem map_range_asignar {l : List TParticion} {tamProceso : Int32} {i : ℕ}
    {particion : TParticion} (hget : l[i]? = some particion) (h0 : 0 ≤ tamProceso)
    (hle : tamProceso ≤ particion.tamanio) :
    (l.set i (particion.ocupada tamProceso) ++ resto particion tamProceso).map TParticion.range =
        l.map TParticion.range ∨
      ∃ (hi : i < (l.map TParticion.range).length) (s t : Set ℤ), Disjoint s t ∧
        (l.map TParticion.range)[i] = s ∪ t ∧
        (l.set i (particion.ocupada tamProceso) ++ resto particion tamProceso).map
          TParticion.range = (l.map TParticion.range).set i s ++ [t] := by
  obtain ⟨hi, hget'⟩ := List.getElem?_eq_some_iff.mp hget
  have hi' : i < (l.map TParticion.range).length := by rwa [List.length_map]
  have hrange : (l.map TParticion.range)[i] = particion.range := by rw [List.getElem_map, hget']
  rw [map_range_set, resto]
  by_cases hgt : particion.tamanio > tamProceso
  · refine Or.inr ⟨hi', _, _, Set.Ico_disjoint_Ico_same, hrange.trans (range_eq_union h0 hle), ?_⟩
    rw [if_pos hgt]
    rfl
  · refine Or.inl ?_
    rw [if_neg hgt, List.map_nil, List.append_nil, range_ocupada_of_eq (eq_of_le_of_not_gt hle hgt),
      ← hrange, List.set_getElem_self]

/-- The sizes after an allocation. -/
theorem nonneg_asignar {l : List TParticion} {tamProceso : Int32} (i : ℕ) {particion : TParticion}
    (hl : ∀ p ∈ l, 0 ≤ p.tamanio) (h0 : 0 ≤ tamProceso) (hle : tamProceso ≤ particion.tamanio) :
    ∀ p ∈ l.set i (particion.ocupada tamProceso) ++ resto particion tamProceso, 0 ≤ p.tamanio := by
  intro p hp
  rcases List.mem_append.mp hp with hp | hp
  · rcases List.mem_or_eq_of_mem_set hp with hp | rfl
    · exact hl p hp
    · exact h0
  · unfold resto at hp
    split at hp
    · rw [List.mem_singleton.mp hp, Int32.le_iff_toInt_le, toInt_sub_of_le h0 hle]
      rw [Int32.le_iff_toInt_le] at hle
      show (0 : ℤ) ≤ _
      omega
    · simp at hp

/-! ## Invariants -/

theorem asignar_tiling {memoria : Set ℤ} {l : List TParticion} (h : Tiled memoria l)
    (e : EstrategiaDin) {tamProceso : Int32} (h0 : 0 ≤ tamProceso) :
    Tiled memoria (e.asignar l tamProceso).2 := by
  rcases e.asignar_cases l tamProceso with hnone | ⟨i, particion, hget, -, hle, hsome⟩
  · rw [hnone]
    exact h
  · rw [hsome]
    refine ⟨?_, nonneg_asignar i h.nonneg h0 hle⟩
    rcases map_range_asignar hget h0 hle with hsame | ⟨hi, s, t, hdisjoint, hunion, hcut⟩
    · exact hsame ▸ h.tiling
    · exact hcut ▸ h.tiling.split hi hdisjoint hunion

section

variable {l : List TParticion} {i j : ℕ}

theorem getElem?_asignada (hi : i < l.length) (particion : TParticion) (tamProceso : Int32) :
    (l.set i (particion.ocupada tamProceso) ++ resto particion tamProceso)[i]? =
      some (particion.ocupada tamProceso) := by
  rw [List.getElem?_append_left (by rwa [List.length_set]), List.getElem?_set_self hi]

theorem getElem?_asignada_ne (hne : i ≠ j) (hj : j < l.length) (particion : TParticion)
    (tamProceso : Int32) :
    (l.set i (particion.ocupada tamProceso) ++ resto particion tamProceso)[j]? = l[j]? := by
  rw [List.getElem?_append_left (by rwa [List.length_set]), List.getElem?_set_ne hne]

end

/-- An occupied partition stays where it is, as it is. -/
theorem asignar_frame {l : List TParticion} {j : ℕ} {ocupada : TParticion}
    (hget : l[j]? = some ocupada) (hocupada : ocupada.estado ≠ 0) (e : EstrategiaDin)
    (tamProceso : Int32) : (e.asignar l tamProceso).2[j]? = some ocupada := by
  rcases e.asignar_cases l tamProceso with hnone | ⟨i, particion, hlibre, hestado, -, hsome⟩
  · rw [hnone]
    exact hget
  · have hne : i ≠ j := by
      intro heq
      subst heq
      rw [hget] at hlibre
      exact hocupada (Option.some.inj hlibre ▸ hestado)
    have hj : j < l.length := (List.getElem?_eq_some_iff.mp hget).1
    rw [hsome]
    exact (getElem?_asignada_ne hne hj particion tamProceso).trans hget

/-- A successful call returns the base of a partition that was free and is now
occupied, of exactly the size asked for. -/
theorem asignar_grant {l : List TParticion} {e : EstrategiaDin} {tamProceso : Int32} {base : ℤ}
    (h : (e.asignar l tamProceso).1 = some base) :
    ∃ (i : ℕ) (particion : TParticion), l[i]? = some particion ∧ particion.estado = 0 ∧
      particion.base = base ∧ (e.asignar l tamProceso).2[i]? = some ⟨tamProceso, 1, base⟩ := by
  rcases e.asignar_cases l tamProceso with hnone | ⟨i, particion, hget, hlibre, -, hsome⟩
  · rw [hnone] at h
    simp at h
  · rw [hsome] at h
    obtain rfl : particion.base = base := Option.some.inj h
    have hi : i < l.length := (List.getElem?_eq_some_iff.mp hget).1
    refine ⟨i, particion, hget, hlibre, rfl, ?_⟩
    rw [hsome]
    exact getElem?_asignada hi particion tamProceso

/-! ## Sequences of calls -/

/-- The list after a sequence of calls. -/
def asignaciones (l : List TParticion) (llamadas : List (EstrategiaDin × Int32)) :
    List TParticion :=
  llamadas.foldl (fun l llamada => (llamada.1.asignar l llamada.2).2) l

theorem tiled_asignaciones {memoria : Set ℤ} {l : List TParticion} (h : Tiled memoria l)
    {llamadas : List (EstrategiaDin × Int32)} (h0 : ∀ llamada ∈ llamadas, 0 ≤ llamada.2) :
    Tiled memoria (asignaciones l llamadas) := by
  induction llamadas generalizing l with
  | nil => exact h
  | cons llamada llamadas ih =>
    exact ih (asignar_tiling h llamada.1 (h0 llamada List.mem_cons_self))
      (fun c hc => h0 c (List.mem_cons_of_mem _ hc))

theorem asignaciones_frame {l : List TParticion} {j : ℕ} {ocupada : TParticion}
    (hget : l[j]? = some ocupada) (hocupada : ocupada.estado ≠ 0)
    (llamadas : List (EstrategiaDin × Int32)) :
    (asignaciones l llamadas)[j]? = some ocupada := by
  induction llamadas generalizing l with
  | nil => exact hget
  | cons llamada llamadas ih => exact ih (asignar_frame hget hocupada llamada.1 llamada.2)

/-- **Dynamic allocation neither overlaps nor loses memory.** Let the ranges of
`l` be disjoint and make up the user memory. After any calls `antes`, a further
call leaves a list whose ranges are disjoint and make up the user memory; when it
succeeds it returns the base of a partition that was free and is now an occupied
one of `tamProceso` bytes; and what was occupied before it is unchanged by it and
by any calls `despues`. -/
theorem asignaciones_tiling (memoriaUsuario : ℤ) (tamTotalMemoria : Int32) (l : List TParticion)
    (htiling : Tiling (userMemory memoriaUsuario tamTotalMemoria) (l.map TParticion.range))
    (hnonneg : ∀ particion ∈ l, 0 ≤ particion.tamanio)
    (antes despues : List (EstrategiaDin × Int32)) (hantes : ∀ llamada ∈ antes, 0 ≤ llamada.2)
    (e : EstrategiaDin) (tamProceso : Int32) (h0 : 0 ≤ tamProceso) :
    let previa := asignaciones l antes
    let r := e.asignar previa tamProceso
    Tiling (userMemory memoriaUsuario tamTotalMemoria) (r.2.map TParticion.range) ∧
      (∀ base, r.1 = some base →
        ∃ (i : ℕ) (particion : TParticion), previa[i]? = some particion ∧
          particion.estado = 0 ∧ particion.base = base ∧ r.2[i]? = some ⟨tamProceso, 1, base⟩) ∧
      ∀ (j : ℕ) (ocupada : TParticion), previa[j]? = some ocupada → ocupada.estado ≠ 0 →
        r.2[j]? = some ocupada ∧ (asignaciones r.2 despues)[j]? = some ocupada := by
  intro previa r
  have hprevia : Tiled (userMemory memoriaUsuario tamTotalMemoria) previa :=
    tiled_asignaciones ⟨htiling, hnonneg⟩ hantes
  refine ⟨(asignar_tiling hprevia e h0).tiling, fun base hbase => asignar_grant hbase, ?_⟩
  intro j ocupada hget hocupada
  have hframe := asignar_frame hget hocupada e tamProceso
  exact ⟨hframe, asignaciones_frame hframe hocupada despues⟩

theorem particionInicial_tiling (memoriaUsuario : ℤ) (tamTotalMemoria : Int32) :
    Tiling (userMemory memoriaUsuario tamTotalMemoria)
      ((particionInicial memoriaUsuario tamTotalMemoria).map TParticion.range) where
  disjoint := List.pairwise_singleton _ _
  inside := by
    intro s hs
    rw [List.mem_singleton.mp hs]
    exact subset_rfl
  cover := covered_singleton _

/-- From start-up with 64 bytes at address 1000: after 10 bytes by first fit, a
call for 20 by worst fit, then one for 4 by best fit. -/
theorem asignaciones_tiling_inicial :
    let previa := asignaciones (particionInicial 1000 64) [(.firstFit, 10)]
    let r := EstrategiaDin.worstFit.asignar previa 20
    Tiling (userMemory 1000 64) (r.2.map TParticion.range) ∧
      (∀ base, r.1 = some base →
        ∃ (i : ℕ) (particion : TParticion), previa[i]? = some particion ∧
          particion.estado = 0 ∧ particion.base = base ∧ r.2[i]? = some ⟨20, 1, base⟩) ∧
      ∀ (j : ℕ) (ocupada : TParticion), previa[j]? = some ocupada → ocupada.estado ≠ 0 →
        r.2[j]? = some ocupada ∧ (asignaciones r.2 [(.bestFit, 4)])[j]? = some ocupada :=
  asignaciones_tiling 1000 64 (particionInicial 1000 64) (particionInicial_tiling 1000 64)
    (by decide) [(.firstFit, 10)] [(.bestFit, 4)] (by decide) .worstFit 20 (by decide)

end SoTp.Memoria
