import SoTp.Lib.Edit
import SoTp.Memoria.Liberacion

/-!
# What a release changes

`liberar_memoria` (`memoria/src/main.c`, lines 292–329) marks a partition as free and joins
it to its neighbours in the list.

* `liberarMemoria_ocupadas`: **the occupied partitions that are not released stay**, in
  their order.
* `liberacionSegura_iff`: **exactly when a release completes and leaves its bytes in a free
  partition**. The test of line 315 is `i < cant_particiones`, which the last index meets
  too, so behind the last partition the code follows `NULL`.
-/

namespace SoTp.Memoria

open SoTp.Lib

/-! ## The occupied partitions -/

/-- The occupied partitions of a list, in order. -/
def ocupadas (l : List TParticion) : List TParticion :=
  l.filter fun particion => decide (particion.estado ≠ 0)

theorem ocupadas_eraseIdx {l : List TParticion} {i : ℕ} {particion : TParticion}
    (hget : l[i]? = some particion) (hlibre : particion.estado = 0) :
    ocupadas (l.eraseIdx i) = ocupadas l :=
  filter_eraseIdx_of_not hget (decide_eq_false fun h => h hlibre)

theorem ocupadas_set {l : List TParticion} {i : ℕ} {particion : TParticion}
    (hi : i < l.length) (hlibre : particion.estado = 0) :
    ocupadas (l.set i particion) = ocupadas (l.eraseIdx i) :=
  filter_set_of_not hi (decide_eq_false fun h => h hlibre)

theorem ocupadas_set_of_libre {l : List TParticion} {i : ℕ} {vieja nueva : TParticion}
    (hget : l[i]? = some vieja) (hvieja : vieja.estado = 0) (hnueva : nueva.estado = 0) :
    ocupadas (l.set i nueva) = ocupadas l :=
  (ocupadas_set (List.getElem?_eq_some_iff.mp hget).1 hnueva).trans
    (ocupadas_eraseIdx hget hvieja)

theorem fusionarAnterior_ocupadas {freeReturns : ℤ → Bool} {l : List TParticion} {i : ℕ}
    {particion : TParticion} {r : List TParticion × ℕ × Bool} (hget : l[i]? = some particion)
    (hlibre : particion.estado = 0) (h : fusionarAnterior freeReturns l i particion = some r) :
    ocupadas r.1 = ocupadas l := by
  rcases fusionarAnterior_eq_some h with ⟨-, rfl⟩ | ⟨anterior, hi, hant, hestado, rfl⟩
  · rfl
  · have hget' : (l.set (i - 1) (anterior.mas particion))[i]? = some particion := by
      rw [List.getElem?_set_ne (by omega)]
      exact hget
    show ocupadas ((l.set (i - 1) (anterior.mas particion)).eraseIdx i) = ocupadas l
    rw [ocupadas_eraseIdx hget' hlibre]
    exact ocupadas_set_of_libre hant hestado hestado

/-- The second merge joins two free partitions, or removes one. -/
theorem fusionarSiguiente_ocupadas {freeReturns : ℤ → Bool} {particion : TParticion}
    {l l' : List TParticion} {i : ℕ} {destruida : Bool} (hlibre : particion.estado = 0)
    (hget : destruida = false → l[i]? = some particion)
    (h : fusionarSiguiente freeReturns particion (l, i, destruida) = some l') :
    ocupadas l' = ocupadas l := by
  rcases fusionarSiguiente_eq_some h with rfl | ⟨siguiente, hsig, hestado, rfl⟩
  · rfl
  · cases destruida with
    | true => exact ocupadas_eraseIdx hsig hestado
    | false =>
      have hsig' : (l.set i (particion.mas siguiente))[i + 1]? = some siguiente := by
        rw [List.getElem?_set_ne (by omega)]
        exact hsig
      show ocupadas ((l.set i (particion.mas siguiente)).eraseIdx (i + 1)) = ocupadas l
      rw [ocupadas_eraseIdx hsig' hestado]
      exact ocupadas_set_of_libre (hget rfl) hlibre hlibre

/-- **A release disturbs no one else.** Whenever it completes, for every list and every base,
the occupied partitions afterwards are those before it other than the first one with that
base, with base, size and mark and in the same order; without a partition with that base the
list is unchanged. -/
theorem liberarMemoria_ocupadas (freeReturns : ℤ → Bool) (base : ℤ) (l l' : List TParticion)
    (h : liberarMemoria freeReturns base l = some l') :
    (∀ i particion, l[i]? = some particion → particion.base = base →
        (∀ j q, j < i → l[j]? = some q → q.base ≠ base) →
        ocupadas l' = ocupadas (l.eraseIdx i)) ∧
      ((∀ particion ∈ l, particion.base ≠ base) → l' = l) := by
  constructor
  · intro i particion hget hbase hfirst
    have hbuscar : buscarBase l base = some i :=
      buscarBase_eq_some_iff.mpr ⟨⟨particion, hget, hbase⟩, hfirst⟩
    unfold liberarMemoria at h
    rw [hbuscar] at h
    dsimp only at h
    rw [hget, Option.bind_some] at h
    obtain ⟨r, hr, h⟩ := Option.bind_eq_some_iff.mp h
    have hi : i < l.length := (List.getElem?_eq_some_iff.mp hget).1
    have hself : (l.set i particion.libre)[i]? = some particion.libre :=
      List.getElem?_set_self hi
    have hanterior : ocupadas r.1 = ocupadas (l.set i particion.libre) :=
      fusionarAnterior_ocupadas hself rfl hr
    have hsiguiente : ocupadas l' = ocupadas r.1 := by
      rcases fusionarAnterior_eq_some hr with ⟨-, rfl⟩ | ⟨anterior, -, -, -, rfl⟩
      · exact fusionarSiguiente_ocupadas rfl (fun _ => hself) h
      · exact fusionarSiguiente_ocupadas rfl (fun hd => by cases hd) h
    rw [hsiguiente, hanterior]
    exact ocupadas_set hi rfl
  · intro hno
    have hbuscar : buscarBase l base = none :=
      List.findIdx?_eq_none_iff.mpr fun particion hp => decide_eq_false (hno particion hp)
    unfold liberarMemoria at h
    rw [hbuscar] at h
    exact (Option.some.inj h).symm

/-- The third of five partitions is released between two free ones: both are joined or lost,
and the occupied ones stay. -/
theorem liberarMemoria_ocupadas_media :
    ocupadas [⟨16, 1, 4096⟩, ⟨64, 0, 4112⟩, ⟨32, 1, 4192⟩] =
      ocupadas (List.eraseIdx
        [⟨16, 1, 4096⟩, ⟨32, 0, 4112⟩, ⟨32, 1, 4144⟩, ⟨16, 0, 4176⟩, ⟨32, 1, 4192⟩] 2) :=
  (liberarMemoria_ocupadas (fun _ => true) 4144
    [⟨16, 1, 4096⟩, ⟨32, 0, 4112⟩, ⟨32, 1, 4144⟩, ⟨16, 0, 4176⟩, ⟨32, 1, 4192⟩]
    [⟨16, 1, 4096⟩, ⟨64, 0, 4112⟩, ⟨32, 1, 4192⟩] (by decide)).1 2 ⟨32, 1, 4144⟩ rfl rfl
    (by
      intro j q hj hget
      match j, hj with
      | 0, _ => exact Option.some.inj hget ▸ by decide
      | 1, _ => exact Option.some.inj hget ▸ by decide)

/-! ## What a release makes of its neighbours -/

section

variable {freeReturns : ℤ → Bool} {base : ℤ} {l : List TParticion} {i : ℕ}
  {particion : TParticion}

theorem liberarMemoria_eq (hbuscar : buscarBase l base = some i)
    (hget : l[i]? = some particion) :
    liberarMemoria freeReturns base l =
      (fusionarAnterior freeReturns (l.set i particion.libre) i particion.libre).bind
        (fusionarSiguiente freeReturns particion.libre) := by
  unfold liberarMemoria
  rw [hbuscar]
  dsimp only
  rw [hget, Option.bind_some]
  rfl

theorem fusionarSiguiente_eq {destruida : Bool} (hi : i < l.length) :
    fusionarSiguiente freeReturns particion (l, i, destruida) =
      l[i + 1]?.bind fun siguiente =>
        if siguiente.estado = 0 then
          quitarYDestruir freeReturns
            (if destruida then l else l.set i (particion.mas siguiente)) (i + 1)
        else some l := by
  unfold fusionarSiguiente
  dsimp only
  rw [if_pos hi]
  rfl

theorem quitarYDestruir_eq {p : TParticion} (hget : l[i]? = some p) :
    quitarYDestruir freeReturns l i =
      if freeReturns p.base then some (l.eraseIdx i) else none := by
  unfold quitarYDestruir
  rw [hget, Option.bind_some]

/-- Without a free partition in front. -/
theorem liberarMemoria_sinAnterior (hbuscar : buscarBase l base = some i)
    (hget : l[i]? = some particion) (hant : ¬ AnteriorLibre l i) :
    liberarMemoria freeReturns base l =
      l[i + 1]?.bind fun siguiente =>
        if siguiente.estado = 0 then
          if freeReturns siguiente.base then
            some ((l.set i (particion.libre.mas siguiente)).eraseIdx (i + 1))
          else none
        else some (l.set i particion.libre) := by
  have hi : i < l.length := (List.getElem?_eq_some_iff.mp hget).1
  have hanterior : fusionarAnterior freeReturns (l.set i particion.libre) i particion.libre =
      some (l.set i particion.libre, i, false) := by
    unfold fusionarAnterior
    split
    · rename_i hpos
      have hprev : (l.set i particion.libre)[i - 1]? = some l[i - 1] := by
        rw [List.getElem?_set_ne (by omega)]
        exact List.getElem?_eq_getElem (by omega)
      rw [hprev, Option.bind_some, if_neg fun hlibre => ?_]
      exact hant ⟨l[i - 1], hpos, List.getElem?_eq_getElem (by omega), hlibre⟩
    · rfl
  rw [liberarMemoria_eq hbuscar hget, hanterior, Option.bind_some,
    fusionarSiguiente_eq (by rwa [List.length_set]), List.getElem?_set_ne (by omega)]
  cases hsig : l[i + 1]? with
  | none => rfl
  | some siguiente =>
    rw [Option.bind_some, Option.bind_some, if_neg Bool.false_ne_true, List.set_set,
      quitarYDestruir_eq (p := siguiente) (by rwa [List.getElem?_set_ne (by omega)])]

/-- With a free partition in front, which takes the released one over. -/
theorem liberarMemoria_conAnterior {anterior : TParticion} (hbuscar : buscarBase l base = some i)
    (hget : l[i]? = some particion) (hpos : 0 < i) (hant : l[i - 1]? = some anterior)
    (hlibre : anterior.estado = 0) :
    liberarMemoria freeReturns base l =
      if freeReturns particion.base then
        l[i + 1]?.bind fun siguiente =>
          if siguiente.estado = 0 then
            if freeReturns siguiente.base then
              some (((l.set (i - 1) (anterior.mas particion)).eraseIdx i).eraseIdx i)
            else none
          else some ((l.set (i - 1) (anterior.mas particion)).eraseIdx i)
      else none := by
  have hi : i < l.length := (List.getElem?_eq_some_iff.mp hget).1
  have herase : ((l.set i particion.libre).set (i - 1) (anterior.mas particion)).eraseIdx i =
      (l.set (i - 1) (anterior.mas particion)).eraseIdx i := by
    rw [List.set_comm _ _ (by omega), List.eraseIdx_set_eq]
  have hself : ((l.set i particion.libre).set (i - 1) (anterior.mas particion))[i]? =
      some particion.libre := by
    rw [List.getElem?_set_ne (by omega), List.getElem?_set_self hi]
  have hanterior : fusionarAnterior freeReturns (l.set i particion.libre) i particion.libre =
      if freeReturns particion.base then
        some ((l.set (i - 1) (anterior.mas particion)).eraseIdx i, i - 1, true)
      else none := by
    unfold fusionarAnterior
    rw [if_pos hpos, List.getElem?_set_ne (by omega), hant, Option.bind_some, if_pos hlibre]
    show (quitarYDestruir freeReturns
      ((l.set i particion.libre).set (i - 1) (anterior.mas particion)) i).map _ = _
    rw [quitarYDestruir_eq hself, herase]
    show (if freeReturns particion.base then _ else _ : Option _).map _ = _
    split <;> rfl
  rw [liberarMemoria_eq hbuscar hget, hanterior]
  split
  · have hlt : i - 1 < ((l.set (i - 1) (anterior.mas particion)).eraseIdx i).length := by
      rw [List.length_eraseIdx, List.length_set, if_pos hi]
      omega
    -- the next partition has moved to the place of the released one
    have hnext : ((l.set (i - 1) (anterior.mas particion)).eraseIdx i)[i]? = l[i + 1]? := by
      rw [List.getElem?_eraseIdx, if_neg (lt_irrefl i), List.getElem?_set_ne (by omega)]
    rw [Option.bind_some, fusionarSiguiente_eq hlt, Nat.sub_add_cancel hpos, hnext]
    cases hsig : l[i + 1]? with
    | none => rfl
    | some siguiente =>
      rw [Option.bind_some, Option.bind_some, if_pos rfl,
        quitarYDestruir_eq (hnext.trans hsig)]
  · rfl

/-! ## A release that completes -/

/-- The bytes of `particion` lie in `nueva`, or in a free partition that is neither the one
at `i` nor a neighbour of it. -/
def Cubierta (l : List TParticion) (i : ℕ) (particion nueva : TParticion) : Prop :=
  particion.range ⊆ nueva.range ∨
    ∃ j q, (j + 1 ≠ i ∧ j ≠ i ∧ j ≠ i + 1) ∧ l[j]? = some q ∧ q.estado = 0 ∧
      particion.range ⊆ q.range

/-- The release of `particion` completes, and its bytes belong to a free partition. -/
def LiberacionSegura (freeReturns : ℤ → Bool) (l : List TParticion) (particion : TParticion) :
    Prop :=
  ∃ l', liberarMemoria freeReturns particion.base l = some l' ∧
    ∃ p ∈ l', p.estado = 0 ∧ particion.range ⊆ p.range

/-- `particion`, at index `i`, is not the last one; `free` comes back from the bases of the
partitions that are removed; and the free neighbour that is joined makes up one partition
with it. -/
structure LiberacionBuena (freeReturns : ℤ → Bool) (l : List TParticion) (i : ℕ)
    (particion : TParticion) : Prop where
  noUltima : i + 1 < l.length
  anterior : ∀ anterior : TParticion, 0 < i → l[i - 1]? = some anterior → anterior.estado = 0 →
    freeReturns particion.base = true ∧ Cubierta l i particion (anterior.mas particion)
  siguiente : ∀ siguiente : TParticion, l[i + 1]? = some siguiente → siguiente.estado = 0 →
    freeReturns siguiente.base = true ∧
      (¬ AnteriorLibre l i → Cubierta l i particion (particion.libre.mas siguiente))

/-- In a list with `nueva` and the free partitions away from `i`. -/
theorem exists_cubre_iff (particion nueva : TParticion) {l' : List TParticion}
    (hnueva : nueva.estado = 0)
    (hl' : ∀ p : TParticion, p.estado = 0 →
      (p ∈ l' ↔ p = nueva ∨
        ∃ k, (k + 1 ≠ i ∧ k ≠ i ∧ k ≠ i + 1) ∧ l[k]? = some p)) :
    (∃ p ∈ l', p.estado = 0 ∧ particion.range ⊆ p.range) ↔ Cubierta l i particion nueva := by
  constructor
  · rintro ⟨p, hp, hlibre, hsub⟩
    rcases (hl' p hlibre).mp hp with rfl | ⟨k, hk, hget⟩
    · exact Or.inl hsub
    · exact Or.inr ⟨k, p, hk, hget, hlibre, hsub⟩
  · rintro (hsub | ⟨k, q, hk, hget, hlibre, hsub⟩)
    · exact ⟨nueva, (hl' nueva hnueva).mpr (Or.inl rfl), hnueva, hsub⟩
    · exact ⟨q, (hl' q hlibre).mpr (Or.inr ⟨k, hk, hget⟩), hlibre, hsub⟩

theorem mem_conSiguiente (hi : i < l.length) (hant : ¬ AnteriorLibre l i) (nueva : TParticion)
    {p : TParticion} (hp : p.estado = 0) :
    p ∈ (l.set i nueva).eraseIdx (i + 1) ↔
      p = nueva ∨ ∃ k, (k + 1 ≠ i ∧ k ≠ i ∧ k ≠ i + 1) ∧ l[k]? = some p := by
  rw [List.mem_eraseIdx_iff_getElem?, exists_getElem?_set_iff hi (Nat.lt_succ_self i).ne]
  refine or_congr_right ⟨?_, ?_⟩
  · rintro ⟨k, hki, hk, hget⟩
    refine ⟨k, ⟨fun heq => ?_, hki, hk⟩, hget⟩
    subst heq
    exact hant ⟨p, Nat.succ_pos k, hget, hp⟩
  · rintro ⟨k, ⟨-, hki, hk⟩, hget⟩
    exact ⟨k, hki, hk, hget⟩

/-- The free partitions after the released one has been joined to the previous one. -/
theorem mem_conAnterior {siguiente : TParticion} (hi : i < l.length) (hpos : 0 < i)
    (hsig : l[i + 1]? = some siguiente) (hocupada : siguiente.estado ≠ 0) (nueva : TParticion)
    {p : TParticion} (hp : p.estado = 0) :
    p ∈ (l.set (i - 1) nueva).eraseIdx i ↔
      p = nueva ∨ ∃ k, (k + 1 ≠ i ∧ k ≠ i ∧ k ≠ i + 1) ∧ l[k]? = some p := by
  rw [List.mem_eraseIdx_iff_getElem?, exists_getElem?_set_iff (by omega) (by omega)]
  refine or_congr_right ⟨?_, ?_⟩
  · rintro ⟨k, hprev, hki, hget⟩
    refine ⟨k, ⟨by omega, hki, fun heq => ?_⟩, hget⟩
    subst heq
    rw [hsig] at hget
    exact hocupada (Option.some.inj hget ▸ hp)
  · rintro ⟨k, ⟨hprev, hki, -⟩, hget⟩
    exact ⟨k, by omega, hki, hget⟩

theorem mem_conAnteriorYSiguiente (hi : i < l.length) (hpos : 0 < i) (nueva : TParticion)
    {p : TParticion} :
    p ∈ ((l.set (i - 1) nueva).eraseIdx i).eraseIdx i ↔
      p = nueva ∨ ∃ k, (k + 1 ≠ i ∧ k ≠ i ∧ k ≠ i + 1) ∧ l[k]? = some p := by
  rw [mem_eraseIdx_eraseIdx_iff, exists_getElem?_set_iff (by omega) (by omega)]
  refine or_congr_right ⟨?_, ?_⟩
  · rintro ⟨k, hprev, ⟨hki, hk⟩, hget⟩
    exact ⟨k, ⟨by omega, hki, hk⟩, hget⟩
  · rintro ⟨k, ⟨hprev, hki, hk⟩, hget⟩
    exact ⟨k, by omega, ⟨hki, hk⟩, hget⟩

theorem liberacionSegura_of_eq {l' : Option (List TParticion)}
    (heq : liberarMemoria freeReturns particion.base l = l') :
    LiberacionSegura freeReturns l particion ↔
      ∃ t, l' = some t ∧ ∃ p ∈ t, p.estado = 0 ∧ particion.range ⊆ p.range := by
  unfold LiberacionSegura
  rw [heq]

theorem not_exists_eq_none {P : List TParticion → Prop} :
    ¬ ∃ t, (none : Option (List TParticion)) = some t ∧ P t := by
  rintro ⟨t, h, -⟩
  cases h

theorem exists_some_eq_iff {P : List TParticion → Prop} {l' : List TParticion} :
    (∃ t, some l' = some t ∧ P t) ↔ P l' := by
  simp only [Option.some.injEq, exists_eq_left']

theorem LiberacionBuena.siguiente_ne_none (h : LiberacionBuena freeReturns l i particion) :
    l[i + 1]? ≠ none := by
  rw [List.getElem?_eq_getElem h.noUltima]
  exact Option.some_ne_none _

/-- Without a free partition in front. -/
theorem liberacionSegura_sinAnterior (hbuscar : buscarBase l particion.base = some i)
    (hget : l[i]? = some particion) (hant : ¬ AnteriorLibre l i) :
    LiberacionSegura freeReturns l particion ↔
      LiberacionBuena freeReturns l i particion := by
  have hi : i < l.length := (List.getElem?_eq_some_iff.mp hget).1
  rw [liberacionSegura_of_eq (liberarMemoria_sinAnterior hbuscar hget hant)]
  cases hsig : l[i + 1]? with
  | none => exact iff_of_false not_exists_eq_none fun h => h.siguiente_ne_none hsig
  | some siguiente =>
    have hlt : i + 1 < l.length := (List.getElem?_eq_some_iff.mp hsig).1
    have hprev (anterior : TParticion) (hpos : 0 < i) (ha : l[i - 1]? = some anterior)
        (hestado : anterior.estado = 0) : False := hant ⟨anterior, hpos, ha, hestado⟩
    rw [Option.bind_some]
    by_cases hlibre : siguiente.estado = 0
    · rw [if_pos hlibre]
      by_cases hfree : freeReturns siguiente.base = true
      · rw [if_pos hfree]
        rw [exists_some_eq_iff, exists_cubre_iff particion (particion.libre.mas siguiente) rfl
          fun p hp => mem_conSiguiente hi hant (particion.libre.mas siguiente) hp]
        constructor
        · intro hcubre
          refine ⟨hlt, fun a hpos ha he => (hprev a hpos ha he).elim, fun s hs _ => ?_⟩
          obtain rfl := Option.some.inj (hsig.symm.trans hs)
          exact ⟨hfree, fun _ => hcubre⟩
        · intro h
          exact (h.siguiente siguiente hsig hlibre).2 hant
      · rw [if_neg hfree]
        exact iff_of_false not_exists_eq_none fun h => hfree (h.siguiente siguiente hsig hlibre).1
    · rw [if_neg hlibre, exists_some_eq_iff]
      refine iff_of_true ⟨particion.libre, List.mem_set hi _, rfl, subset_rfl⟩
        ⟨hlt, fun a hpos ha he => (hprev a hpos ha he).elim, fun s hs he => ?_⟩
      obtain rfl := Option.some.inj (hsig.symm.trans hs)
      exact absurd he hlibre

/-- With a free partition in front. -/
theorem liberacionSegura_conAnterior {anterior : TParticion}
    (hbuscar : buscarBase l particion.base = some i) (hget : l[i]? = some particion)
    (hpos : 0 < i) (hant : l[i - 1]? = some anterior) (hlibreAnt : anterior.estado = 0) :
    LiberacionSegura freeReturns l particion ↔
      LiberacionBuena freeReturns l i particion := by
  have hi : i < l.length := (List.getElem?_eq_some_iff.mp hget).1
  have hanterior : AnteriorLibre l i := ⟨anterior, hpos, hant, hlibreAnt⟩
  rw [liberacionSegura_of_eq (liberarMemoria_conAnterior hbuscar hget hpos hant hlibreAnt)]
  by_cases hfreeAnt : freeReturns particion.base = true
  · rw [if_pos hfreeAnt]
    cases hsig : l[i + 1]? with
    | none => exact iff_of_false not_exists_eq_none fun h => h.siguiente_ne_none hsig
    | some siguiente =>
      have hlt : i + 1 < l.length := (List.getElem?_eq_some_iff.mp hsig).1
      have hbuena (hcubre : Cubierta l i particion (anterior.mas particion))
          (hfree : siguiente.estado = 0 → freeReturns siguiente.base = true) :
          LiberacionBuena freeReturns l i particion := by
        refine ⟨hlt, fun a _ ha _ => ?_, fun s hs he => ?_⟩
        · obtain rfl := Option.some.inj (hant.symm.trans ha)
          exact ⟨hfreeAnt, hcubre⟩
        · obtain rfl := Option.some.inj (hsig.symm.trans hs)
          exact ⟨hfree he, fun hno => absurd hanterior hno⟩
      rw [Option.bind_some]
      by_cases hlibre : siguiente.estado = 0
      · rw [if_pos hlibre]
        by_cases hfree : freeReturns siguiente.base = true
        · rw [if_pos hfree]
          rw [exists_some_eq_iff, exists_cubre_iff particion (anterior.mas particion) hlibreAnt
            fun p _ => mem_conAnteriorYSiguiente hi hpos (anterior.mas particion)]
          constructor
          · intro hcubre
            exact hbuena hcubre fun _ => hfree
          · intro h
            exact (h.anterior anterior hpos hant hlibreAnt).2
        · rw [if_neg hfree]
          exact iff_of_false not_exists_eq_none fun h =>
            hfree (h.siguiente siguiente hsig hlibre).1
      · rw [if_neg hlibre, exists_some_eq_iff,
          exists_cubre_iff particion (anterior.mas particion) hlibreAnt
            fun p hp => mem_conAnterior hi hpos hsig hlibre (anterior.mas particion) hp]
        constructor
        · intro hcubre
          exact hbuena hcubre fun he => absurd he hlibre
        · intro h
          exact (h.anterior anterior hpos hant hlibreAnt).2
  · rw [if_neg hfreeAnt]
    exact iff_of_false not_exists_eq_none fun h =>
      hfreeAnt (h.anterior anterior hpos hant hlibreAnt).1

end

/-- **Exactly when a release completes and leaves its bytes in a free partition**: for every
list, every partition in it whose base is its own, every state of the neighbours, and
whatever `free` does with the bases that it gets. -/
theorem liberacionSegura_iff (freeReturns : ℤ → Bool) (l : List TParticion) (i : ℕ)
    (particion : TParticion) (hget : l[i]? = some particion)
    (hunica : ∀ j q, l[j]? = some q → q.base = particion.base → j = i) :
    LiberacionSegura freeReturns l particion ↔ LiberacionBuena freeReturns l i particion := by
  have hbuscar : buscarBase l particion.base = some i :=
    buscarBase_eq_some_iff.mpr ⟨⟨particion, hget, rfl⟩, fun j q hj hq hbase =>
      hj.ne (hunica j q hq hbase)⟩
  by_cases hant : AnteriorLibre l i
  · obtain ⟨anterior, hpos, ha, hlibre⟩ := hant
    exact liberacionSegura_conAnterior hbuscar hget hpos ha hlibre
  · exact liberacionSegura_sinAnterior hbuscar hget hant

/-- Neighbours in the list that are neighbours in memory make up one partition. -/
theorem liberacionBuena_of_contigua {freeReturns : ℤ → Bool} {memoriaUsuario : ℤ}
    {tamTotalMemoria : Int32} {l : List TParticion} {i : ℕ} {particion : TParticion}
    (hpacked : Packed memoriaUsuario tamTotalMemoria l)
    (hbuscar : buscarBase l particion.base = some i) (hget : l[i]? = some particion)
    (hcontigua : FusionContigua l particion.base) (hultima : i + 1 < l.length)
    (hfree : ∀ base, freeReturns base = true) :
    LiberacionBuena freeReturns l i particion := by
  obtain ⟨hanterior, hsiguiente⟩ := hcontigua i particion hbuscar hget
  have hdentro := hpacked.dentro particion (List.mem_of_getElem? hget)
  refine ⟨hultima, fun a hpos ha hestado => ⟨hfree _, Or.inl ?_⟩,
    fun s hs hestado => ⟨hfree _, fun hant => Or.inl ?_⟩⟩
  · have hunion := ((hpacked.dentro a (List.mem_of_getElem? ha)).mas hdentro
      (hanterior a hpos ha hestado)).2
    exact hunion ▸ Set.subset_union_right
  · have hunion := (hdentro.mas (hpacked.dentro s (List.mem_of_getElem? hs))
      (hsiguiente s hant hs hestado)).2
    show particion.range ⊆ (particion.mas s).range
    exact hunion ▸ Set.subset_union_left

/-- The partition in the middle of three, with a free one behind it. -/
theorem liberacionSegura_media :
    LiberacionSegura (fun _ => true) [⟨16, 1, 4096⟩, ⟨32, 1, 4112⟩, ⟨64, 0, 4144⟩]
      ⟨32, 1, 4112⟩ := by
  refine (liberacionSegura_iff (fun _ => true) _ 1 ⟨32, 1, 4112⟩ rfl ?_).mpr ?_
  · intro j q hget hbase
    match j, hget with
    | 0, hget => exact absurd hbase (Option.some.inj hget ▸ by decide)
    | 1, _ => rfl
    | 2, hget => exact absurd hbase (Option.some.inj hget ▸ by decide)
  · refine ⟨by decide, fun a _ ha he => ?_, fun s hs _ => ⟨rfl, fun _ => Or.inl ?_⟩⟩
    · exact absurd he (Option.some.inj ha ▸ by decide)
    · obtain rfl := Option.some.inj hs
      exact Set.Ico_subset_Ico le_rfl (by decide)

/-- The only partition of a list: `list_get(lista_particiones, 1)` is `NULL`, and it is
followed. -/
theorem not_liberacionSegura_unica :
    liberarMemoria (fun _ => true) 4096 [⟨1024, 1, 4096⟩] = none ∧
      ¬ LiberacionSegura (fun _ => true) [⟨1024, 1, 4096⟩] ⟨1024, 1, 4096⟩ := by
  have hnone : liberarMemoria (fun _ => true) 4096 [⟨1024, 1, 4096⟩] = none := by decide
  refine ⟨hnone, ?_⟩
  rintro ⟨l', hl', -⟩
  cases hnone.symm.trans hl'

end SoTp.Memoria
