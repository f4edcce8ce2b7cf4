import SoTp.Lib.Run
import SoTp.Memoria.Asignacion

/-!
# Releasing memory

Model of `liberar_memoria` and `liberar_particion` (`memoria/src/main.c`, lines
292–338), and of the histories of allocations and releases of `DINAMICAS`.

`liberar_memoria` merges the partition with its neighbours in the list. The
allocators append what they cut off at the end, so a neighbour in the list need
not be one in memory: `FusionContigua` says that it is, in a given call.

* `liberarMemoria_packed`: a call with `FusionContigua` keeps the ranges disjoint
  and inside the user memory, and every range it makes is made of old ranges.
* `historia_packing`: **so does every history of such calls**.
* `not_historia_packing`: seven calls after which two ranges overlap.
-/

namespace SoTp.Memoria

open SoTp.Lib

/-! ## Model -/

/-- `list_remove_and_destroy_element(lista_particiones, i, liberar_particion)`.
`liberar_particion` also passes the base to `free`, and `freeReturns` says
whether the allocator comes back from that: no base is a pointer that `malloc`
returned, except the first of user memory. -/
def quitarYDestruir (freeReturns : ℤ → Bool) (l : List TParticion) (i : ℕ) :
    Option (List TParticion) :=
  l[i]?.bind fun particion => if freeReturns particion.base then some (l.eraseIdx i) else none

/-- The merge with the previous partition (lines 304–312): the list, the index,
and whether `particion` is gone. -/
def fusionarAnterior (freeReturns : ℤ → Bool) (l : List TParticion) (i : ℕ)
    (particion : TParticion) : Option (List TParticion × ℕ × Bool) :=
  if i > 0 then
    l[i - 1]?.bind fun anterior =>
      if anterior.estado = 0 then
        (quitarYDestruir freeReturns
          (l.set (i - 1) { anterior with tamanio := anterior.tamanio + particion.tamanio }) i).map
            fun l => (l, i - 1, true)
      else some (l, i, false)
  else some (l, i, false)

/-- The merge with the next partition (lines 315–322). Past the end of the list
`list_get` is `NULL`, which is followed. When `particion` is gone its new size is
written to memory no longer in the list. -/
def fusionarSiguiente (freeReturns : ℤ → Bool) (particion : TParticion) :
    List TParticion × ℕ × Bool → Option (List TParticion)
  | (l, i, destruida) =>
    if i < l.length then
      l[i + 1]?.bind fun siguiente =>
        if siguiente.estado = 0 then
          quitarYDestruir freeReturns
            (if destruida then l
              else l.set i { particion with tamanio := particion.tamanio + siguiente.tamanio })
            (i + 1)
        else some l
    else some l

/-- The index of the first partition with that base. -/
def buscarBase (l : List TParticion) (base : ℤ) : Option ℕ :=
  l.findIdx? fun particion => decide (particion.base = base)

/-- `liberar_memoria(base)` (lines 292–329): the list it leaves, or `none` when it
follows `NULL` or `free` does not come back. -/
def liberarMemoria (freeReturns : ℤ → Bool) (base : ℤ) (l : List TParticion) :
    Option (List TParticion) :=
  match buscarBase l base with
  | none => some l
  | some i =>
    l[i]?.bind fun particion =>
      let particion := { particion with estado := 0 }
      (fusionarAnterior freeReturns (l.set i particion) i particion).bind
        (fusionarSiguiente freeReturns particion)

/-! ## What a call does -/

/-- The search stops at the first partition with the base. -/
theorem buscarBase_eq_some_iff {l : List TParticion} {base : ℤ} {i : ℕ} :
    buscarBase l base = some i ↔
      (∃ p, l[i]? = some p ∧ p.base = base) ∧
        ∀ j q, j < i → l[j]? = some q → q.base ≠ base := by
  unfold buscarBase
  rw [List.findIdx?_eq_some_iff_getElem]
  constructor
  · rintro ⟨hi, hbase, hfirst⟩
    refine ⟨⟨l[i], List.getElem?_eq_getElem hi, of_decide_eq_true hbase⟩, fun j q hj hq heq => ?_⟩
    obtain ⟨hjlt, rfl⟩ := List.getElem?_eq_some_iff.mp hq
    exact hfirst j hj (decide_eq_true heq)
  · rintro ⟨⟨p, hp, hbase⟩, hfirst⟩
    obtain ⟨hi, rfl⟩ := List.getElem?_eq_some_iff.mp hp
    refine ⟨hi, decide_eq_true hbase, fun j hj heq => ?_⟩
    exact hfirst j l[j] hj (List.getElem?_eq_getElem (hj.trans hi)) (of_decide_eq_true heq)

/-- `particion` marked as free. -/
def TParticion.libre (particion : TParticion) : TParticion := { particion with estado := 0 }

/-- `particion` with the size of `otra` added to its own. -/
def TParticion.mas (particion otra : TParticion) : TParticion :=
  { particion with tamanio := particion.tamanio + otra.tamanio }

/-- The partition before index `i` exists and is free. -/
def AnteriorLibre (l : List TParticion) (i : ℕ) : Prop :=
  ∃ anterior : TParticion, 0 < i ∧ l[i - 1]? = some anterior ∧ anterior.estado = 0

/-- The lists that a release at index `i` can leave. -/
inductive Liberada (l : List TParticion) (i : ℕ) (particion : TParticion) :
    List TParticion → Prop where
  /-- The partition is marked as free. -/
  | marcada : Liberada l i particion (l.set i particion.libre)
  /-- The next one is joined to it. -/
  | conSiguiente (siguiente : TParticion) (hsig : l[i + 1]? = some siguiente)
      (hlibre : siguiente.estado = 0) (hant : ¬ AnteriorLibre l i) :
      Liberada l i particion ((l.set i (particion.libre.mas siguiente)).eraseIdx (i + 1))
  /-- It is joined to the previous one. -/
  | conAnterior (anterior : TParticion) (hi : 0 < i) (hant : l[i - 1]? = some anterior)
      (hlibre : anterior.estado = 0) :
      Liberada l i particion ((l.set (i - 1) (anterior.mas particion)).eraseIdx i)
  /-- It is joined to the previous one and the next one is lost. -/
  | conAnteriorYSiguiente (anterior : TParticion) (hi : 0 < i)
      (hant : l[i - 1]? = some anterior) (hlibre : anterior.estado = 0) :
      Liberada l i particion
        (((l.set (i - 1) (anterior.mas particion)).eraseIdx i).eraseIdx i)

theorem quitarYDestruir_eq_some {freeReturns : ℤ → Bool} {l l' : List TParticion} {i : ℕ}
    (h : quitarYDestruir freeReturns l i = some l') : l' = l.eraseIdx i := by
  obtain ⟨particion, -, hif⟩ := Option.bind_eq_some_iff.mp h
  split at hif
  · exact (Option.some.inj hif).symm
  · simp at hif

/-- Everything the first merge can do. -/
theorem fusionarAnterior_eq_some {freeReturns : ℤ → Bool} {l : List TParticion} {i : ℕ}
    {particion : TParticion} {r : List TParticion × ℕ × Bool}
    (h : fusionarAnterior freeReturns l i particion = some r) :
    (¬ AnteriorLibre l i ∧ r = (l, i, false)) ∨
      ∃ anterior : TParticion, 0 < i ∧ l[i - 1]? = some anterior ∧ anterior.estado = 0 ∧
        r = ((l.set (i - 1) (anterior.mas particion)).eraseIdx i, i - 1, true) := by
  unfold fusionarAnterior at h
  split at h
  · rename_i hi
    obtain ⟨anterior, hget, hif⟩ := Option.bind_eq_some_iff.mp h
    split at hif
    · rename_i hlibre
      obtain ⟨l', hl', rfl⟩ := Option.map_eq_some_iff.mp hif
      rw [quitarYDestruir_eq_some hl']
      exact Or.inr ⟨anterior, hi, hget, hlibre, rfl⟩
    · rename_i hlibre
      refine Or.inl ⟨?_, (Option.some.inj hif).symm⟩
      rintro ⟨a, -, ha, hestado⟩
      rw [hget] at ha
      exact hlibre (Option.some.inj ha ▸ hestado)
  · rename_i hi
    refine Or.inl ⟨?_, (Option.some.inj h).symm⟩
    rintro ⟨-, hpos, -⟩
    exact hi hpos

/-- Everything the second merge can do. -/
theorem fusionarSiguiente_eq_some {freeReturns : ℤ → Bool} {particion : TParticion}
    {l l' : List TParticion} {i : ℕ} {destruida : Bool}
    (h : fusionarSiguiente freeReturns particion (l, i, destruida) = some l') :
    l' = l ∨ ∃ siguiente : TParticion, l[i + 1]? = some siguiente ∧ siguiente.estado = 0 ∧
      l' = (if destruida then l else l.set i (particion.mas siguiente)).eraseIdx (i + 1) := by
  unfold fusionarSiguiente at h
  simp only at h
  split at h
  · obtain ⟨siguiente, hget, hif⟩ := Option.bind_eq_some_iff.mp h
    split at hif
    · rename_i hlibre
      exact Or.inr ⟨siguiente, hget, hlibre, quitarYDestruir_eq_some hif⟩
    · exact Or.inl (Option.some.inj hif).symm
  · exact Or.inl (Option.some.inj h).symm

theorem anteriorLibre_set {l : List TParticion} {i : ℕ} (particion : TParticion) :
    AnteriorLibre (l.set i particion) i ↔ AnteriorLibre l i := by
  unfold AnteriorLibre
  constructor
  · rintro ⟨anterior, hi, hget, hlibre⟩
    rw [List.getElem?_set_ne (by omega)] at hget
    exact ⟨anterior, hi, hget, hlibre⟩
  · rintro ⟨anterior, hi, hget, hlibre⟩
    refine ⟨anterior, hi, ?_, hlibre⟩
    rw [List.getElem?_set_ne (by omega)]
    exact hget

/-- Everything a call can do. -/
theorem liberarMemoria_cases {freeReturns : ℤ → Bool} {base : ℤ} {l l' : List TParticion}
    (h : liberarMemoria freeReturns base l = some l') :
    l' = l ∨ ∃ (i : ℕ) (particion : TParticion), buscarBase l base = some i ∧
      l[i]? = some particion ∧ Liberada l i particion l' := by
  unfold liberarMemoria at h
  split at h
  · exact Or.inl (Option.some.inj h).symm
  · rename_i i hbuscar
    obtain ⟨particion, hget, h⟩ := Option.bind_eq_some_iff.mp h
    obtain ⟨r, hr, h⟩ := Option.bind_eq_some_iff.mp h
    refine Or.inr ⟨i, particion, hbuscar, hget, ?_⟩
    rcases fusionarAnterior_eq_some hr with ⟨hant, rfl⟩ | ⟨anterior, hi, hant, hlibre, rfl⟩
    · -- the previous one stays
      rw [anteriorLibre_set] at hant
      rcases fusionarSiguiente_eq_some h with rfl | ⟨siguiente, hsig, hlibre, rfl⟩
      · exact .marcada
      · rw [List.getElem?_set_ne (by omega)] at hsig
        simp only [Bool.false_eq_true, ite_false, List.set_set]
        exact .conSiguiente siguiente hsig hlibre hant
    · -- the previous one takes it over
      rw [List.getElem?_set_ne (by omega)] at hant
      have herase : (((l.set i particion.libre).set (i - 1) (anterior.mas particion)).eraseIdx i) =
          (l.set (i - 1) (anterior.mas particion)).eraseIdx i := by
        rw [List.set_comm _ _ (by omega), List.eraseIdx_set_eq]
      rcases fusionarSiguiente_eq_some h with rfl | ⟨siguiente, -, -, rfl⟩
      · show Liberada l i particion
          (((l.set i particion.libre).set (i - 1) (anterior.mas particion)).eraseIdx i)
        rw [herase]
        exact .conAnterior anterior hi hant hlibre
      · simp only [ite_true]
        show Liberada l i particion
          ((((l.set i particion.libre).set (i - 1) (anterior.mas particion)).eraseIdx i).eraseIdx
            (i - 1 + 1))
        rw [herase, Nat.sub_add_cancel hi]
        exact .conAnteriorYSiguiente anterior hi hant hlibre

/-! ## Ranges -/

/-- A partition with a non-negative size whose ends are ends of user memory or
between them. -/
structure Dentro (memoriaUsuario : ℤ) (tamTotalMemoria : Int32) (particion : TParticion) : Prop where
  nonneg : 0 ≤ particion.tamanio
  lower : memoriaUsuario ≤ particion.base
  upper : particion.base + particion.tamanio.toInt ≤ memoriaUsuario + tamTotalMemoria.toInt

/-- The partitions are disjoint and inside the user memory. -/
structure Packed (memoriaUsuario : ℤ) (tamTotalMemoria : Int32) (l : List TParticion) : Prop where
  packing : Packing (userMemory memoriaUsuario tamTotalMemoria) (l.map TParticion.range)
  dentro : ∀ particion ∈ l, Dentro memoriaUsuario tamTotalMemoria particion

/-- When the first free neighbour that `liberar_memoria(base)` joins is in the
list, it is a neighbour in memory. -/
def FusionContigua (l : List TParticion) (base : ℤ) : Prop :=
  ∀ (i : ℕ) (particion : TParticion), buscarBase l base = some i → l[i]? = some particion →
    (∀ anterior : TParticion, 0 < i → l[i - 1]? = some anterior → anterior.estado = 0 →
      anterior.base + anterior.tamanio.toInt = particion.base) ∧
    (∀ siguiente : TParticion, ¬ AnteriorLibre l i → l[i + 1]? = some siguiente →
      siguiente.estado = 0 → particion.base + particion.tamanio.toInt = siguiente.base)

/-- Every range of `l'` is made of ranges of `l`. -/
def MadeOf (l l' : List TParticion) : Prop :=
  ∀ particion ∈ l', ∃ ps : List TParticion, ps ⊆ l ∧
    particion.range = covered (ps.map TParticion.range)

section

variable {memoriaUsuario : ℤ} {tamTotalMemoria : Int32} {l : List TParticion}

theorem packed_particionInicial (h0 : 0 ≤ tamTotalMemoria) :
    Packed memoriaUsuario tamTotalMemoria (particionInicial memoriaUsuario tamTotalMemoria) where
  packing := (particionInicial_tiling memoriaUsuario tamTotalMemoria).toPacking
  dentro := by
    intro particion hp
    rw [List.mem_singleton.mp hp]
    exact ⟨h0, le_refl _, le_refl _⟩

/-- A contiguous pair: its size is the sum of the two and its range their union. -/
theorem Dentro.mas {particion otra : TParticion}
    (h₁ : Dentro memoriaUsuario tamTotalMemoria particion)
    (h₂ : Dentro memoriaUsuario tamTotalMemoria otra)
    (hcontigua : particion.base + particion.tamanio.toInt = otra.base) :
    Dentro memoriaUsuario tamTotalMemoria (particion.mas otra) ∧
      (particion.mas otra).range = particion.range ∪ otra.range := by
  obtain ⟨hn₁, hl₁, hu₁⟩ := h₁
  obtain ⟨hn₂, hl₂, hu₂⟩ := h₂
  rw [Int32.le_iff_toInt_le, Int32.toInt_zero] at hn₁ hn₂
  have hmax := tamTotalMemoria.toInt_lt
  -- both sizes are part of the user memory, so the sum does not overflow
  have hsum : (particion.tamanio + otra.tamanio).toInt =
      particion.tamanio.toInt + otra.tamanio.toInt := by
    rw [Int32.toInt_add]
    exact Int.bmod_eq_of_le (by omega) (by omega)
  refine ⟨⟨?_, hl₁, ?_⟩, ?_⟩
  · rw [Int32.le_iff_toInt_le, Int32.toInt_zero]
    show 0 ≤ (particion.tamanio + otra.tamanio).toInt
    omega
  · show particion.base + (particion.tamanio + otra.tamanio).toInt ≤ _
    omega
  · unfold TParticion.range TParticion.mas
    dsimp only
    rw [hsum, ← hcontigua, Set.Ico_union_Ico_eq_Ico (by omega) (by omega), add_assoc]

/-- Joining the partition at `j` to the contiguous one at `i`. -/
theorem Packed.merge (h : Packed memoriaUsuario tamTotalMemoria l) {i j : ℕ} (hij : i < j)
    {particion otra nueva : TParticion} (hi : l[i]? = some particion) (hj : l[j]? = some otra)
    (hcontigua : particion.base + particion.tamanio.toInt = otra.base)
    (hrange : nueva.range = (particion.mas otra).range)
    (hdentro : Dentro memoriaUsuario tamTotalMemoria (particion.mas otra) →
      Dentro memoriaUsuario tamTotalMemoria nueva) :
    Packed memoriaUsuario tamTotalMemoria ((l.set i nueva).eraseIdx j) ∧
      MadeOf l ((l.set i nueva).eraseIdx j) := by
  have hparticion := h.dentro particion (List.mem_of_getElem? hi)
  have hotra := h.dentro otra (List.mem_of_getElem? hj)
  obtain ⟨hdentroMas, hunion⟩ := hparticion.mas hotra hcontigua
  obtain ⟨hilt, hi'⟩ := List.getElem?_eq_some_iff.mp hi
  obtain ⟨hjlt, hj'⟩ := List.getElem?_eq_some_iff.mp hj
  have hmem : ∀ p ∈ (l.set i nueva).eraseIdx j, p ∈ l ∨ p = nueva := fun p hp =>
    List.mem_or_eq_of_mem_set (List.mem_of_mem_eraseIdx hp)
  refine ⟨⟨?_, ?_⟩, ?_⟩
  · rw [← List.eraseIdx_map, List.map_set]
    refine h.packing.merge hij (by rwa [List.length_map]) ?_
    rw [List.getElem_map, List.getElem_map, hi', hj', hrange, hunion]
  · intro p hp
    rcases hmem p hp with hp | rfl
    · exact h.dentro p hp
    · exact hdentro hdentroMas
  · intro p hp
    rcases hmem p hp with hp | rfl
    · exact ⟨[p], by simpa using hp, (covered_singleton _).symm⟩
    · refine ⟨[particion, otra], ?_, ?_⟩
      · simp [List.mem_of_getElem? hi, List.mem_of_getElem? hj]
      · rw [hrange, hunion]
        exact (covered_pair _ _).symm

theorem Packed.erase (h : Packed memoriaUsuario tamTotalMemoria l) (i : ℕ) :
    Packed memoriaUsuario tamTotalMemoria (l.eraseIdx i) where
  packing := by
    rw [← List.eraseIdx_map]
    exact h.packing.erase i
  dentro := fun p hp => h.dentro p (List.mem_of_mem_eraseIdx hp)

/-- Marking a partition changes no range. -/
theorem Packed.marcar (h : Packed memoriaUsuario tamTotalMemoria l) {i : ℕ}
    {particion : TParticion} (hi : l[i]? = some particion) :
    Packed memoriaUsuario tamTotalMemoria (l.set i particion.libre) ∧
      MadeOf l (l.set i particion.libre) := by
  have hmem : ∀ p ∈ l.set i particion.libre, p ∈ l ∨ p = particion.libre := fun p hp =>
    List.mem_or_eq_of_mem_set hp
  obtain ⟨hilt, hi'⟩ := List.getElem?_eq_some_iff.mp hi
  have hmap : (l.set i particion.libre).map TParticion.range = l.map TParticion.range := by
    have hilt' : i < (l.map TParticion.range).length := by rwa [List.length_map]
    have hrange : particion.libre.range = (l.map TParticion.range)[i] := by
      rw [List.getElem_map, hi']
      rfl
    rw [List.map_set, hrange, List.set_getElem_self]
  refine ⟨⟨hmap ▸ h.packing, ?_⟩, ?_⟩
  · intro p hp
    rcases hmem p hp with hp | rfl
    · exact h.dentro p hp
    · have hd := h.dentro particion (List.mem_of_getElem? hi)
      exact ⟨hd.nonneg, hd.lower, hd.upper⟩
  · intro p hp
    rcases hmem p hp with hp | rfl
    · exact ⟨[p], by simpa using hp, (covered_singleton _).symm⟩
    · exact ⟨[particion], by simpa using List.mem_of_getElem? hi, (covered_singleton _).symm⟩

/-- A release that only joins contiguous partitions keeps the partitions disjoint
and inside the user memory. -/
theorem liberarMemoria_packed (h : Packed memoriaUsuario tamTotalMemoria l)
    {freeReturns : ℤ → Bool} {base : ℤ} {l' : List TParticion} (hcontigua : FusionContigua l base)
    (hl' : liberarMemoria freeReturns base l = some l') :
    Packed memoriaUsuario tamTotalMemoria l' ∧ MadeOf l l' := by
  rcases liberarMemoria_cases hl' with rfl | ⟨i, particion, hbuscar, hget, hliberada⟩
  · exact ⟨h, fun p hp => ⟨[p], by simpa using hp, (covered_singleton _).symm⟩⟩
  · obtain ⟨hanterior, hsiguiente⟩ := hcontigua i particion hbuscar hget
    cases hliberada with
    | marcada => exact h.marcar hget
    | conSiguiente siguiente hsig hlibre hant =>
      exact h.merge (Nat.lt_succ_self i) hget hsig (hsiguiente siguiente hant hsig hlibre) rfl
        fun hd => ⟨hd.nonneg, hd.lower, hd.upper⟩
    | conAnterior anterior hi hant hlibre =>
      exact h.merge (Nat.sub_lt hi Nat.one_pos) hant hget (hanterior anterior hi hant hlibre) rfl id
    | conAnteriorYSiguiente anterior hi hant hlibre =>
      obtain ⟨hpacked, hmade⟩ := h.merge (Nat.sub_lt hi Nat.one_pos) hant hget
        (hanterior anterior hi hant hlibre) rfl id
      exact ⟨hpacked.erase i, fun p hp => hmade p (List.mem_of_mem_eraseIdx hp)⟩

/-- An allocation keeps the partitions disjoint and inside the user memory. -/
theorem asignar_packed (h : Packed memoriaUsuario tamTotalMemoria l) (e : EstrategiaDin)
    {tamProceso : Int32} (h0 : 0 ≤ tamProceso) :
    Packed memoriaUsuario tamTotalMemoria (e.asignar l tamProceso).2 := by
  rcases e.asignar_cases l tamProceso with hnone | ⟨i, particion, hget, -, hle, hsome⟩
  · rw [hnone]
    exact h
  · rw [hsome]
    refine ⟨?_, ?_⟩
    · rcases map_range_asignar hget h0 hle with hsame | ⟨hi, s, t, hdisjoint, hunion, hcut⟩
      · exact hsame ▸ h.packing
      · exact hcut ▸ h.packing.split hi hdisjoint hunion
    · intro p hp
      have hnonneg := nonneg_asignar i (fun p hp => (h.dentro p hp).nonneg) h0 hle p hp
      obtain ⟨-, hlower, hupper⟩ := h.dentro particion (List.mem_of_getElem? hget)
      have hsub := toInt_sub_of_le h0 hle
      rw [Int32.le_iff_toInt_le] at h0 hle
      rw [Int32.toInt_zero] at h0
      rcases List.mem_append.mp hp with hp | hp
      · rcases List.mem_or_eq_of_mem_set hp with hp | rfl
        · exact h.dentro p hp
        · exact ⟨hnonneg, hlower, by unfold TParticion.ocupada; dsimp only; omega⟩
      · unfold resto at hp
        split at hp
        · rw [List.mem_singleton.mp hp] at hnonneg ⊢
          exact ⟨hnonneg, by dsimp only; omega, by dsimp only; omega⟩
        · simp at hp

end

/-! ## Histories -/

/-- The partition list and the bases handed out and not yet released. -/
structure EstadoDin where
  lista : List TParticion
  vivas : List ℤ
  deriving DecidableEq, Repr

/-- What is asked of the memory: room for a process, or the release of a base. -/
inductive Pedido where
  | asignar (e : EstrategiaDin) (tamProceso : Int32)
  | liberar (freeReturns : ℤ → Bool) (base : ℤ)

/-- A call with a positive size, or with a base that is live. -/
def atender (m : EstadoDin) : Pedido → Option EstadoDin
  | .asignar e tamProceso =>
    if 0 < tamProceso then
      let r := e.asignar m.lista tamProceso
      some ⟨r.2, r.1.toList ++ m.vivas⟩
    else none
  | .liberar freeReturns base =>
    if base ∈ m.vivas then
      (liberarMemoria freeReturns base m.lista).map fun l => ⟨l, m.vivas.erase base⟩
    else none

/-- The state at start-up. -/
def estadoInicial (memoriaUsuario : ℤ) (tamTotalMemoria : Int32) : EstadoDin :=
  ⟨particionInicial memoriaUsuario tamTotalMemoria, []⟩

/-- The releases join contiguous partitions only. -/
def PedidoContiguo (m : EstadoDin) : Pedido → Prop
  | .asignar _ _ => True
  | .liberar _ base => FusionContigua m.lista base

/-- One request. -/
theorem atender_packed {memoriaUsuario : ℤ} {tamTotalMemoria : Int32} {m m' : EstadoDin}
    {pedido : Pedido} (h : Packed memoriaUsuario tamTotalMemoria m.lista)
    (hcontiguo : PedidoContiguo m pedido) (hm' : atender m pedido = some m') :
    Packed memoriaUsuario tamTotalMemoria m'.lista := by
  cases pedido with
  | asignar e tamProceso =>
    simp only [atender] at hm'
    split at hm'
    · rename_i hpos
      obtain rfl := Option.some.inj hm'
      refine asignar_packed h e ?_
      rw [Int32.lt_iff_toInt_lt] at hpos
      rw [Int32.le_iff_toInt_le]
      omega
    · simp at hm'
  | liberar freeReturns base =>
    simp only [atender] at hm'
    split at hm'
    · obtain ⟨l', hl', rfl⟩ := Option.map_eq_some_iff.mp hm'
      exact (liberarMemoria_packed h hcontiguo hl').1
    · simp at hm'

/-- **Releasing does not create overlaps** where it joins contiguous partitions
only. In every history from start-up whose releases do, the partitions are
disjoint and inside the user memory; and so they are after one more release that
does, which makes every range out of ranges of the list before it. -/
theorem historia_packing (memoriaUsuario : ℤ) (tamTotalMemoria : Int32) (h0 : 0 ≤ tamTotalMemoria)
    (pedidos : List Pedido) (m : EstadoDin)
    (hcontiguos : Along atender PedidoContiguo (estadoInicial memoriaUsuario tamTotalMemoria) pedidos)
    (hrun : run atender (estadoInicial memoriaUsuario tamTotalMemoria) pedidos = some m) :
    Packing (userMemory memoriaUsuario tamTotalMemoria) (m.lista.map TParticion.range) ∧
      ∀ (freeReturns : ℤ → Bool) (base : ℤ) (l' : List TParticion), base ∈ m.vivas →
        FusionContigua m.lista base → liberarMemoria freeReturns base m.lista = some l' →
        Packing (userMemory memoriaUsuario tamTotalMemoria) (l'.map TParticion.range) ∧
          MadeOf m.lista l' := by
  have hpacked : Packed memoriaUsuario tamTotalMemoria m.lista :=
    run_invariant (fun _ _ _ h hP hs => atender_packed h hP hs)
      (packed_particionInicial h0) hcontiguos hrun
  refine ⟨hpacked.packing, fun freeReturns base l' _ hcontigua hl' => ?_⟩
  obtain ⟨hpacked', hmade⟩ := liberarMemoria_packed hpacked hcontigua hl'
  exact ⟨hpacked'.packing, hmade⟩

/-- Two processes of 160 and 64 bytes; the first ends, then the second, whose two
neighbours in the list are its neighbours in memory. -/
theorem historia_packing_dos :
    Packing (userMemory 4096 320)
        (([⟨160, 0, 4096⟩, ⟨64, 1, 4256⟩, ⟨96, 0, 4320⟩] : List TParticion).map
          TParticion.range) ∧
      ∀ (freeReturns : ℤ → Bool) (base : ℤ) (l' : List TParticion), base ∈ [4256] →
        FusionContigua [⟨160, 0, 4096⟩, ⟨64, 1, 4256⟩, ⟨96, 0, 4320⟩] base →
        liberarMemoria freeReturns base [⟨160, 0, 4096⟩, ⟨64, 1, 4256⟩, ⟨96, 0, 4320⟩] = some l' →
        Packing (userMemory 4096 320) (l'.map TParticion.range) ∧
          MadeOf [⟨160, 0, 4096⟩, ⟨64, 1, 4256⟩, ⟨96, 0, 4320⟩] l' := by
  have hcontigua : FusionContigua [⟨160, 1, 4096⟩, ⟨64, 1, 4256⟩, ⟨96, 0, 4320⟩] 4096 := by
    intro i particion hbuscar hget
    obtain rfl : i = 0 := by
      have h : buscarBase [⟨160, 1, 4096⟩, ⟨64, 1, 4256⟩, ⟨96, 0, 4320⟩] 4096 = some 0 := by decide
      exact Option.some.inj (hbuscar.symm.trans h)
    refine ⟨fun _ hi _ _ => absurd hi (lt_irrefl 0), fun siguiente _ hsig hlibre => ?_⟩
    obtain rfl := Option.some.inj hsig
    simp at hlibre
  have h₁ : atender (estadoInicial 4096 320) (.asignar .firstFit 160) =
      some ⟨[⟨160, 1, 4096⟩, ⟨160, 0, 4256⟩], [4096]⟩ := by decide
  have h₂ : atender ⟨[⟨160, 1, 4096⟩, ⟨160, 0, 4256⟩], [4096]⟩ (.asignar .firstFit 64) =
      some ⟨[⟨160, 1, 4096⟩, ⟨64, 1, 4256⟩, ⟨96, 0, 4320⟩], [4256, 4096]⟩ := by decide
  have h₃ : atender ⟨[⟨160, 1, 4096⟩, ⟨64, 1, 4256⟩, ⟨96, 0, 4320⟩], [4256, 4096]⟩
      (.liberar (fun _ => true) 4096) =
      some ⟨[⟨160, 0, 4096⟩, ⟨64, 1, 4256⟩, ⟨96, 0, 4320⟩], [4256]⟩ := by decide
  exact historia_packing 4096 320 (by decide)
    [.asignar .firstFit 160, .asignar .firstFit 64, .liberar (fun _ => true) 4096]
    ⟨[⟨160, 0, 4096⟩, ⟨64, 1, 4256⟩, ⟨96, 0, 4320⟩], [4256]⟩
    (along_cons h₁ trivial (along_cons h₂ trivial (along_cons h₃ hcontigua trivial))) (by decide)

/-- Two processes of 160 bytes, the first ends, two of 64 and 32 bytes take its
place, the second of 160 ends. When the one of 64 ends, its next partition in the
list is the free one of 160 bytes at 4256: the result, `[4096, 4320)`, overlaps
the 32 live bytes at 4160. -/
theorem not_historia_packing :
    ∃ m l', run atender (estadoInicial 4096 320)
        [.asignar .firstFit 160, .asignar .firstFit 160, .liberar (fun _ => true) 4096,
          .asignar .firstFit 64, .asignar .firstFit 32, .liberar (fun _ => true) 4256] = some m ∧
      4096 ∈ m.vivas ∧ liberarMemoria (fun _ => true) 4096 m.lista = some l' ∧
      ¬ Packing (userMemory 4096 320) (l'.map TParticion.range) := by
  refine ⟨⟨[⟨64, 1, 4096⟩, ⟨160, 0, 4256⟩, ⟨32, 1, 4160⟩, ⟨64, 0, 4192⟩], [4160, 4096]⟩,
    [⟨224, 0, 4096⟩, ⟨32, 1, 4160⟩, ⟨64, 0, 4192⟩], by decide, by decide, by decide, ?_⟩
  intro h
  have hdisjoint : Disjoint (TParticion.range ⟨224, 0, 4096⟩) (TParticion.range ⟨32, 1, 4160⟩) :=
    (List.pairwise_cons.mp h.disjoint).1 _ List.mem_cons_self
  have hleft : (4160 : ℤ) ∈ TParticion.range ⟨224, 0, 4096⟩ := by
    constructor <;> decide
  have hright : (4160 : ℤ) ∈ TParticion.range ⟨32, 1, 4160⟩ := by
    constructor <;> decide
  exact Set.disjoint_left.mp hdisjoint hleft hright

end SoTp.Memoria
