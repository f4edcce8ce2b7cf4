import SoTp.Lib.Allocator
import SoTp.Memoria.Fijas
import SoTp.Memoria.Fusion

/-!
# What is granted

The strategies of `memoria/src/manejar_kernel.c` (lines 144–360) with `liberar_memoria`
(`memoria/src/main.c`, lines 292–329) as one allocator: a grant is the base that a strategy
returns with the size that was asked for, and it is live until its base is released.

* `Reparto.Fiel`: the invariant of both schemes. The partitions do not overlap, none is empty,
  and **the occupied ones are the live grants, one for each**.
* `conceder_fiel`, `liberar_fiel`: what a grant and a release keep of it.
-/

namespace SoTp.Memoria

open SoTp.Lib

/-! ## Model -/

/-- `lista_particiones`, and the live grants: a base and the size asked for. -/
structure Reparto where
  lista : List TParticion
  vivas : List (ℤ × Int32)
  deriving DecidableEq

/-- The bytes of a grant. -/
def bloque (viva : ℤ × Int32) : Set ℤ := Set.Ico viva.1 (viva.1 + viva.2.toInt)

/-- After a strategy has been asked for `tamProceso` bytes and has done `r`. -/
def Reparto.conceder (m : Reparto) (tamProceso : Int32) (r : Option ℤ × List TParticion) :
    Reparto :=
  ⟨r.2, (r.1.map fun base => (base, tamProceso)).toList ++ m.vivas⟩

/-- After `liberar_memoria(base)`. -/
def Reparto.liberar (m : Reparto) (freeReturns : ℤ → Bool) (base : ℤ) : Option Reparto :=
  (liberarMemoria freeReturns base m.lista).map fun l =>
    ⟨l, m.vivas.eraseP fun viva => decide (viva.1 = base)⟩

/-- A call on fixed partitions. -/
def Reparto.fija (m : Reparto) : LlamadaFija → Option Reparto
  | .firstFit tamProceso => some (m.conceder tamProceso (firstFit m.lista tamProceso))
  | .bestFit tamProceso => some (m.conceder tamProceso (bestFit m.lista tamProceso))
  | .worstFit tamProceso => some (m.conceder tamProceso (worstFit m.lista tamProceso))
  | .liberar freeReturns base => m.liberar freeReturns base

/-- A call on dynamic partitions. -/
def Reparto.dinamica (m : Reparto) : Pedido → Option Reparto
  | .asignar e tamProceso => some (m.conceder tamProceso (e.asignar m.lista tamProceso))
  | .liberar freeReturns base => m.liberar freeReturns base

/-! ## Invariant -/

/-- The partitions are disjoint, inside the user memory and not empty. -/
structure Sana (memoriaUsuario : ℤ) (tamTotalMemoria : Int32) (l : List TParticion) : Prop
    extends Packed memoriaUsuario tamTotalMemoria l where
  pos : ∀ particion ∈ l, 0 < particion.tamanio

/-- The partition starts where the grant does, and is large enough. -/
def Aloja (particion : TParticion) (viva : ℤ × Int32) : Prop :=
  particion.base = viva.1 ∧ viva.2 ≤ particion.tamanio

/-- The partitions are sound, and the occupied ones hold the live grants, each its own. -/
structure Reparto.Fiel (memoriaUsuario : ℤ) (tamTotalMemoria : Int32) (m : Reparto) : Prop where
  sana : Sana memoriaUsuario tamTotalMemoria m.lista
  alojadas : Multiset.Rel Aloja (ocupadas m.lista : Multiset TParticion) m.vivas

theorem Aloja.subset {particion : TParticion} {viva : ℤ × Int32} (h : Aloja particion viva) :
    bloque viva ⊆ particion.range := by
  obtain ⟨hbase, hle⟩ := h
  rw [Int32.le_iff_toInt_le] at hle
  unfold bloque TParticion.range
  rw [hbase]
  exact Set.Ico_subset_Ico_right (by omega)

section

variable {memoriaUsuario : ℤ} {tamTotalMemoria : Int32} {l : List TParticion} {i : ℕ}
  {particion : TParticion}

theorem base_mem_range_iff : particion.base ∈ particion.range ↔ 0 < particion.tamanio := by
  rw [Int32.lt_iff_toInt_lt, Int32.toInt_zero, TParticion.range, Set.mem_Ico]
  omega

theorem Sana.nodup (h : Sana memoriaUsuario tamTotalMemoria l) :
    (l.map TParticion.base).Nodup := by
  refine List.pairwise_map.mpr ((List.pairwise_map.mp h.packing.disjoint).imp_of_mem ?_)
  intro p q hp hq hdisjoint heq
  have hmem := base_mem_range_iff.mpr (h.pos q hq)
  rw [← heq] at hmem
  exact Set.disjoint_left.mp hdisjoint (base_mem_range_iff.mpr (h.pos p hp)) hmem

theorem Sana.eq_of_base (h : Sana memoriaUsuario tamTotalMemoria l) {p q : TParticion}
    (hp : p ∈ l) (hq : q ∈ l) (hbase : p.base = q.base) : p = q :=
  List.inj_on_of_nodup_map h.nodup hp hq hbase

theorem Sana.disjoint (h : Sana memoriaUsuario tamTotalMemoria l) {p q : TParticion}
    (hp : p ∈ l) (hq : q ∈ l) (hne : p ≠ q) : Disjoint p.range q.range := by
  have : Std.Symm fun p q : TParticion => Disjoint p.range q.range := ⟨fun _ _ hpq => hpq.symm⟩
  exact (List.pairwise_map.mp h.packing.disjoint).forall hp hq hne

theorem mem_ocupadas {p : TParticion} : p ∈ ocupadas l ↔ p ∈ l ∧ p.estado ≠ 0 := by
  rw [ocupadas, List.mem_filter, decide_eq_true_iff]

theorem ocupadas_perm (hget : l[i]? = some particion) (hocupada : particion.estado ≠ 0) :
    (ocupadas l).Perm (particion :: ocupadas (l.eraseIdx i)) := by
  obtain ⟨hi, rfl⟩ := List.getElem?_eq_some_iff.mp hget
  have hperm := (List.getElem_cons_eraseIdx_perm hi).symm.filter
    fun p : TParticion => decide (p.estado ≠ 0)
  rwa [List.filter_cons_of_pos (by simpa using hocupada)] at hperm

theorem ocupadas_append_libres (l resto : List TParticion) (hresto : ∀ p ∈ resto, p.estado = 0) :
    ocupadas (l ++ resto) = ocupadas l := by
  have hnil : resto.filter (fun p => decide (p.estado ≠ 0)) = [] := by
    rw [List.filter_eq_nil_iff]
    intro p hp
    simpa using hresto p hp
  rw [ocupadas, List.filter_append, hnil, List.append_nil, ocupadas]

/-! ## Grants -/

/-- What a strategy can do: nothing, or an occupied partition of `tamProceso` bytes or more
takes the place of a free one, at its base, and what is left over is free. -/
inductive Concesion (l : List TParticion) (tamProceso : Int32) :
    Option ℤ × List TParticion → Prop where
  /-- `NULL` is returned. -/
  | ninguna : Concesion l tamProceso (none, l)
  /-- The base of the partition is returned. -/
  | en (i : ℕ) (libre tomada : TParticion) (resto : List TParticion) (hget : l[i]? = some libre)
      (hlibre : libre.estado = 0) (hcabe : tamProceso ≤ libre.tamanio)
      (htomada : tomada.estado ≠ 0) (haloja : Aloja tomada (libre.base, tamProceso))
      (hresto : ∀ p ∈ resto, p.estado = 0) :
      Concesion l tamProceso (some libre.base, l.set i tomada ++ resto)

theorem ocupadas_concedida {libre tomada : TParticion} {resto : List TParticion}
    (hget : l[i]? = some libre) (hlibre : libre.estado = 0) (htomada : tomada.estado ≠ 0)
    (hresto : ∀ p ∈ resto, p.estado = 0) :
    (ocupadas (l.set i tomada ++ resto)).Perm (tomada :: ocupadas l) := by
  have hi : i < l.length := (List.getElem?_eq_some_iff.mp hget).1
  rw [ocupadas_append_libres _ _ hresto]
  have hperm := ocupadas_perm (List.getElem?_set_self (a := tomada) hi) htomada
  rwa [List.eraseIdx_set_eq, ocupadas_eraseIdx hget hlibre] at hperm

/-- **A grant serves**: its bytes are apart from those of every live grant. -/
theorem conceder_fiel {m : Reparto} (h : m.Fiel memoriaUsuario tamTotalMemoria)
    {tamProceso : Int32} {r : Option ℤ × List TParticion}
    (hr : Concesion m.lista tamProceso r) (hsana : Sana memoriaUsuario tamTotalMemoria r.2) :
    (m.conceder tamProceso r).Fiel memoriaUsuario tamTotalMemoria ∧
      Serves (userMemory memoriaUsuario tamTotalMemoria) bloque m.vivas
        (m.conceder tamProceso r).vivas := by
  cases hr with
  | ninguna => exact ⟨h, .idle m.vivas⟩
  | en i libre tomada resto hget hlibre hcabe htomada haloja hresto =>
    have hmem : libre ∈ m.lista := List.mem_of_getElem? hget
    have hsub : bloque (libre.base, tamProceso) ⊆ libre.range := Aloja.subset ⟨rfl, hcabe⟩
    refine ⟨⟨hsana, ?_⟩, .grant _ ?_ ?_⟩
    · have hperm := ocupadas_concedida hget hlibre htomada hresto
      show Multiset.Rel Aloja (ocupadas (m.lista.set i tomada ++ resto) : Multiset TParticion)
        ((libre.base, tamProceso) :: m.vivas : List (ℤ × Int32))
      rw [Multiset.coe_eq_coe.mpr hperm, ← Multiset.cons_coe, ← Multiset.cons_coe]
      exact .cons haloja h.alojadas
    · exact hsub.trans (h.sana.packing.inside _ (List.mem_map_of_mem hmem))
    · -- the partition was free, so that it is none of those that hold the live grants
      refine apart_of_held (fun p c hp => hp.subset) h.alojadas (fun p hp => ?_) hsub
      obtain ⟨hp, hocupada⟩ := mem_ocupadas.mp hp
      refine h.sana.disjoint hmem hp ?_
      rintro rfl
      exact hocupada hlibre

/-! ## Releases -/

/-- The occupied partitions after a release. -/
theorem ocupadas_liberarMemoria {freeReturns : ℤ → Bool} {base : ℤ} {l' : List TParticion}
    (hbuscar : buscarBase l base = some i) (hget : l[i]? = some particion)
    (h : liberarMemoria freeReturns base l = some l') :
    ocupadas l' = ocupadas (l.eraseIdx i) := by
  have hi : i < l.length := (List.getElem?_eq_some_iff.mp hget).1
  have hself : (l.set i particion.libre)[i]? = some particion.libre := List.getElem?_set_self hi
  rw [liberarMemoria_eq hbuscar hget] at h
  obtain ⟨r, hr, h⟩ := Option.bind_eq_some_iff.mp h
  have hsiguiente : ocupadas l' = ocupadas r.1 := by
    rcases fusionarAnterior_eq_some hr with ⟨-, rfl⟩ | ⟨anterior, -, -, -, rfl⟩
    · exact fusionarSiguiente_ocupadas rfl (fun _ => hself) h
    · exact fusionarSiguiente_ocupadas rfl (fun hd => by cases hd) h
  rw [hsiguiente, fusionarAnterior_ocupadas hself rfl hr]
  exact ocupadas_set hi rfl

theorem Reparto.Fiel.bases {m : Reparto} (h : m.Fiel memoriaUsuario tamTotalMemoria) :
    (m.vivas.map Prod.fst).Nodup := by
  have heq : ((ocupadas m.lista).map TParticion.base).Perm (m.vivas.map Prod.fst) := by
    refine Multiset.coe_eq_coe.mp (Multiset.rel_eq.mp ?_)
    rw [← Multiset.map_coe, ← Multiset.map_coe, Multiset.rel_map]
    exact h.alojadas.mono fun _ _ _ _ hpv => hpv.1
  exact heq.nodup_iff.mp (h.sana.nodup.sublist (List.filter_sublist.map _))

theorem Reparto.Fiel.eraseP_eq {m : Reparto} (h : m.Fiel memoriaUsuario tamTotalMemoria)
    (base : ℤ) (hno : ∀ p ∈ ocupadas m.lista, p.base ≠ base) :
    m.vivas.eraseP (fun viva => decide (viva.1 = base)) = m.vivas := by
  refine List.eraseP_of_forall_not fun viva hviva => ?_
  obtain ⟨p, hp, haloja⟩ := Multiset.exists_mem_of_rel_of_mem (Multiset.rel_flip.mpr h.alojadas)
    (Multiset.mem_coe.mpr hviva)
  rw [decide_eq_true_iff, ← haloja.1]
  exact hno p (Multiset.mem_coe.mp hp)

/-- **A release serves**: it takes back the grant with that base, when there is one. -/
theorem liberar_fiel {m m' : Reparto} (h : m.Fiel memoriaUsuario tamTotalMemoria)
    {freeReturns : ℤ → Bool} {base : ℤ} (hm' : m.liberar freeReturns base = some m')
    (hsana : Sana memoriaUsuario tamTotalMemoria m'.lista) :
    m'.Fiel memoriaUsuario tamTotalMemoria ∧
      Serves (userMemory memoriaUsuario tamTotalMemoria) bloque m.vivas m'.vivas := by
  obtain ⟨l', hl', rfl⟩ := Option.map_eq_some_iff.mp hm'
  cases hbuscar : buscarBase m.lista base with
  | none =>
    have hno := List.findIdx?_eq_none_iff.mp hbuscar
    have heq := h.eraseP_eq base fun p hp => of_decide_eq_false (hno p (mem_ocupadas.mp hp).1)
    unfold liberarMemoria at hl'
    rw [hbuscar] at hl'
    obtain rfl := Option.some.inj hl'
    rw [heq]
    exact ⟨h, .idle m.vivas⟩
  | some i =>
    obtain ⟨⟨p, hget, hbase⟩, -⟩ := buscarBase_eq_some_iff.mp hbuscar
    have hocupadas := ocupadas_liberarMemoria hbuscar hget hl'
    by_cases hlibre : p.estado = 0
    · -- a partition that is free already is joined to its neighbours
      have heq := h.eraseP_eq base fun q hq hqbase => by
        obtain ⟨hq, hocupada⟩ := mem_ocupadas.mp hq
        obtain rfl := h.sana.eq_of_base hq (List.mem_of_getElem? hget) (hqbase.trans hbase.symm)
        exact hocupada hlibre
      rw [heq]
      refine ⟨⟨hsana, ?_⟩, .idle m.vivas⟩
      rw [hocupadas, ocupadas_eraseIdx hget hlibre]
      exact h.alojadas
    · have hrel := h.alojadas
      rw [Multiset.coe_eq_coe.mpr (ocupadas_perm hget hlibre), ← Multiset.cons_coe] at hrel
      obtain ⟨viva, resto, haloja, hresto, hvivas⟩ := Multiset.rel_cons_left.mp hrel
      rw [← Multiset.coe_toList resto, Multiset.cons_coe, Multiset.coe_eq_coe] at hvivas
      have hviva : decide (viva.1 = base) := decide_eq_true (haloja.1.symm.trans hbase)
      -- it is the only one with the base, so that the first one with the base is it
      have hquitada : (m.vivas.eraseP fun v => decide (v.1 = base)).Perm resto.toList := by
        refine (List.Perm.eraseP _ ?_ hvivas).trans (.of_eq (List.eraseP_cons_of_pos hviva))
        refine (List.pairwise_map.mp h.bases).imp fun hne hv hw => ?_
        exact hne ((of_decide_eq_true hv).trans (of_decide_eq_true hw).symm)
      refine ⟨⟨hsana, ?_⟩, .release viva (hvivas.trans (hquitada.symm.cons viva))⟩
      rw [hocupadas, Multiset.coe_eq_coe.mpr hquitada, Multiset.coe_toList]
      exact hresto

end

end SoTp.Memoria
