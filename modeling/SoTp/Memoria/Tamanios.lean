import SoTp.Memoria.Ajuste
import SoTp.Memoria.Liberacion
import SoTp.Utils.Buffer

/-!
# Sizes from the wire

The kernel sends the size of a process as a `uint32_t` (`kernel/src/main.c`, line 499) and
memoria reads it with `buffer_read_int` (`memoria/src/manejar_kernel.c`, lines 62–72), so
from 2^31 on it is negative. A negative size passes the comparisons of the allocators with
every free partition, and a size of 0 cuts off a partition of no bytes, which shares its
base with the rest.

* `tamanioSeguro_iff`: **exactly when a grant is sound** on a list that makes up the user
  memory.
* `tamanioBueno_of_pos`: where no partition is empty, every size below 2^31 is sound.
-/

namespace SoTp.Memoria

open SoTp.Lib SoTp.Utils

/-! ## The property -/

/-- In the list `l` the `s` bytes from `base` on are granted: they lie in `memoria` and in
the occupied partition `p`, at index `i`, which is the only occupied one with that base, and
the one that the search of `liberar_memoria(base)` stops at. -/
structure Concedida (memoria : Set ℤ) (s : UInt32) (base : ℤ) (l : List TParticion) (i : ℕ)
    (p : TParticion) : Prop where
  get : l[i]? = some p
  ocupada : p.estado ≠ 0
  base_eq : p.base = base
  memoria : Set.Ico base (base + s.toNat) ⊆ memoria
  particion : Set.Ico base (base + s.toNat) ⊆ p.range
  unica : ∀ j q, j ≠ i → l[j]? = some q → q.estado ≠ 0 → q.base ≠ base
  buscada : buscarBase l base = some i

/-- Whatever base the strategy returns for the size `s`, read as an `int`, is granted. -/
def TamanioSeguro (e : EstrategiaDin) (memoria : Set ℤ) (l : List TParticion) (s : UInt32) :
    Prop :=
  ∀ base, (e.asignar l s.toInt32).1 = some base →
    ∃ i p, Concedida memoria s base (e.asignar l s.toInt32).2 i p

/-- Either no free partition has the size, read as an `int`, or the size is below 2^31 and
every other partition with the base of the one that the strategy prefers is free and stands
behind it. -/
def TamanioBueno (e : EstrategiaDin) (l : List TParticion) (s : UInt32) : Prop :=
  ∀ i p, e.Elige l s.toInt32 i p →
    s.toNat < 2 ^ 31 ∧
      ∀ j q, l[j]? = some q → q.base = p.base → j ≠ i → q.estado = 0 ∧ i < j

/-! ## One grant -/

section

variable {e : EstrategiaDin} {memoriaUsuario : ℤ} {tamTotalMemoria : Int32}
  {l : List TParticion} {s : UInt32}

theorem zero_le_toInt32 (hs : s.toNat < 2 ^ 31) : 0 ≤ s.toInt32 := by
  rw [Int32.le_iff_toInt_le, toInt_toInt32_of_lt hs]
  exact Int.natCast_nonneg _

/-- Another partition of the list after a grant at `i` is one of the list before it, or what
was left over. -/
theorem getElem?_concedida {i j : ℕ} {p q : TParticion} {tamProceso : Int32} (hne : j ≠ i)
    (hq : (l.set i (p.ocupada tamProceso) ++ resto p tamProceso)[j]? = some q) :
    l[j]? = some q ∨ q.estado = 0 ∧ l.length ≤ j := by
  by_cases hj : j < l.length
  · exact Or.inl ((getElem?_asignada_ne hne.symm hj p tamProceso).symm.trans hq)
  · have hle : l.length ≤ j := not_lt.mp hj
    rw [List.getElem?_append_right (by rwa [List.length_set])] at hq
    have hmem := List.mem_of_getElem? hq
    unfold resto at hmem
    split at hmem
    · rw [List.mem_singleton.mp hmem]
      exact Or.inr ⟨rfl, hle⟩
    · exact absurd hmem List.not_mem_nil

theorem not_subset_userMemory {base : ℤ} (hs : 2 ^ 31 ≤ s.toNat) :
    ¬ Set.Ico base (base + s.toNat) ⊆ userMemory memoriaUsuario tamTotalMemoria := by
  intro hsub
  have hmax := tamTotalMemoria.toInt_lt
  have hfirst := hsub (show base ∈ Set.Ico base (base + s.toNat) from ⟨le_rfl, by omega⟩)
  have hlast := hsub (show base + s.toNat - 1 ∈ Set.Ico base (base + s.toNat) from
    ⟨by omega, by omega⟩)
  unfold userMemory at hfirst hlast
  have hlow := hfirst.1
  have hhigh := hlast.2
  omega

/-- A sound grant is made under the condition. -/
theorem tamanioBueno_of_seguro
    (h : TamanioSeguro e (userMemory memoriaUsuario tamTotalMemoria) l s) :
    TamanioBueno e l s := by
  intro i p helige
  by_cases hs : s.toNat < 2 ^ 31
  · refine ⟨hs, ?_⟩
    have heq := EstrategiaDin.asignar_elige (zero_le_toInt32 hs) helige
    obtain ⟨k, b, hconcedida⟩ := h p.base (congrArg Prod.fst heq)
    rw [heq] at hconcedida
    have hself := getElem?_asignada helige.lt_length p s.toInt32
    -- the partition granted is the one that the strategy prefers
    have hki : k = i := by
      by_contra hne
      exact hconcedida.unica i _ (fun hik => hne hik.symm) hself
        (show (1 : Int32) ≠ 0 by decide) rfl
    subst hki
    intro j q hget hbase hne
    have hget' : (l.set k (p.ocupada s.toInt32) ++ resto p s.toInt32)[j]? = some q := by
      have hj := (List.getElem?_eq_some_iff.mp hget).1
      rw [getElem?_asignada_ne hne.symm hj]
      exact hget
    refine ⟨?_, ?_⟩
    · by_contra hocupada
      exact hconcedida.unica j q hne hget' hocupada hbase
    · have hfirst := (buscarBase_eq_some_iff.mp hconcedida.buscada).2 j q
      by_contra hlt
      exact hfirst (lt_of_le_of_ne (not_lt.mp hlt) hne) hget' hbase
  · -- a negative size is granted where there is any free partition, and lies nowhere
    exfalso
    cases helegida : e.elegida l s.toInt32 with
    | none => exact EstrategiaDin.not_suficiente_of_elegida helegida p helige.mem helige.ok
    | some k =>
      obtain ⟨b, hget, -, hle⟩ := EstrategiaDin.elegida_candidata helegida
      have heq : e.asignar l s.toInt32 = (some b.base,
          l.set k (b.ocupada s.toInt32) ++ resto b s.toInt32) := by
        rw [e.asignar_eq, helegida]
        exact asignarEn_eq hget hle
      obtain ⟨_, _, hconcedida⟩ := h b.base (congrArg Prod.fst heq)
      exact not_subset_userMemory (not_lt.mp hs) hconcedida.memoria

/-- And the condition is enough. -/
theorem tamanioSeguro_of_bueno (htiled : Tiled (userMemory memoriaUsuario tamTotalMemoria) l)
    (h : TamanioBueno e l s) :
    TamanioSeguro e (userMemory memoriaUsuario tamTotalMemoria) l s := by
  intro base hbase
  have hsuf : ∃ p ∈ l, Suficiente s.toInt32 p := by
    rcases e.asignar_cases l s.toInt32 with hnone | ⟨k, b, hget, hlibre, hle, -⟩
    · rw [hnone] at hbase
      cases hbase
    · exact ⟨b, List.mem_of_getElem? hget, hlibre, hle⟩
  obtain ⟨i, p, helige⟩ : ∃ i p, e.Elige l s.toInt32 i p := exists_firstLeast_iff.mpr hsuf
  obtain ⟨hs, hotras⟩ := h i p helige
  have heq := EstrategiaDin.asignar_elige (zero_le_toInt32 hs) helige
  rw [heq] at hbase ⊢
  obtain rfl := Option.some.inj hbase
  have hrange : (p.ocupada s.toInt32).range = Set.Ico p.base (p.base + s.toNat) := by
    unfold TParticion.range TParticion.ocupada
    rw [toInt_toInt32_of_lt hs]
  have hcortada : (p.ocupada s.toInt32).range ⊆ p.range := by
    rw [range_eq_union (zero_le_toInt32 hs) helige.ok.2]
    exact Set.subset_union_left
  have hself := getElem?_asignada helige.lt_length p s.toInt32
  refine ⟨i, p.ocupada s.toInt32, hself, show (1 : Int32) ≠ 0 by decide, rfl, ?_, ?_, ?_, ?_⟩
  · rw [← hrange]
    exact hcortada.trans (htiled.tiling.inside _ (List.mem_map_of_mem helige.mem))
  · rw [hrange]
  · intro j q hne hq hocupada hqbase
    rcases getElem?_concedida hne hq with hq | ⟨hlibre, -⟩
    · exact hocupada (hotras j q hq hqbase hne).1
    · exact hocupada hlibre
  · refine buscarBase_eq_some_iff.mpr ⟨⟨_, hself, rfl⟩, fun j q hj hq hqbase => ?_⟩
    rcases getElem?_concedida hj.ne hq with hq | ⟨-, hle⟩
    · exact absurd (hotras j q hq hqbase hj.ne).2 (not_lt_of_gt hj)
    · exact absurd (hj.trans helige.lt_length) (not_lt_of_ge hle)

end

/-- **Exactly when a size from the wire is handled soundly.** For every size, every
strategy and every list that makes up the user memory. -/
theorem tamanioSeguro_iff (e : EstrategiaDin) (memoriaUsuario : ℤ) (tamTotalMemoria : Int32)
    (l : List TParticion) (s : UInt32)
    (htiled : Tiled (userMemory memoriaUsuario tamTotalMemoria) l) :
    TamanioSeguro e (userMemory memoriaUsuario tamTotalMemoria) l s ↔ TamanioBueno e l s :=
  ⟨tamanioBueno_of_seguro, tamanioSeguro_of_bueno htiled⟩

/-- Partitions that are not empty and do not overlap have different bases. -/
theorem tamanioBueno_of_pos {e : EstrategiaDin} {memoria : Set ℤ} {l : List TParticion}
    {s : UInt32} (htiled : Tiled memoria l) (hpos : ∀ p ∈ l, 0 < p.tamanio)
    (hs : s.toNat < 2 ^ 31) : TamanioBueno e l s := by
  intro i p helige
  refine ⟨hs, fun j q hget hbase hne => ?_⟩
  have hmem (b : TParticion) (hb : b ∈ l) : b.base ∈ b.range := by
    have hlt := Int32.lt_iff_toInt_lt.mp (hpos b hb)
    exact ⟨le_rfl, by rw [Int32.toInt_zero] at hlt; omega⟩
  have hdisjoint : Disjoint q.range p.range := by
    have hpairwise := List.pairwise_map.mp htiled.tiling.disjoint
    obtain ⟨hi, hi'⟩ := List.getElem?_eq_some_iff.mp helige.get
    obtain ⟨hj, hj'⟩ := List.getElem?_eq_some_iff.mp hget
    rw [← hi', ← hj']
    rcases lt_or_gt_of_ne hne with hlt | hlt
    · exact List.pairwise_iff_getElem.mp hpairwise j i hj hi hlt
    · exact (List.pairwise_iff_getElem.mp hpairwise i j hi hj hlt).symm
  have hp := hmem p helige.mem
  have hq := hmem q (List.mem_of_getElem? hget)
  rw [hbase] at hq
  exact absurd hp (Set.disjoint_left.mp hdisjoint hq)

/-- A size of 64 bytes in the list of start-up. -/
theorem tamanioSeguro_inicial :
    TamanioSeguro .firstFit (userMemory 4096 1024) (particionInicial 4096 1024) 64 := by
  have htiled : Tiled (userMemory 4096 1024) (particionInicial 4096 1024) :=
    ⟨particionInicial_tiling 4096 1024, by decide⟩
  refine (tamanioSeguro_iff .firstFit 4096 1024 (particionInicial 4096 1024) 64 htiled).mpr ?_
  exact tamanioBueno_of_pos htiled (by decide) (by decide)

/-- A size of 2^32 − 16 is granted at start-up, and the rest begins before the user
memory. A size of 0 cuts off nothing, and the next grant has the same base. -/
theorem not_tamanioSeguro :
    (Tiled (userMemory 4096 1024) (particionInicial 4096 1024) ∧
      EstrategiaDin.firstFit.asignar (particionInicial 4096 1024) (4294967280 : UInt32).toInt32 =
        (some 4096, [⟨-16, 1, 4096⟩, ⟨1040, 0, 4080⟩]) ∧
      ¬ TamanioSeguro .firstFit (userMemory 4096 1024) (particionInicial 4096 1024) 4294967280) ∧
    EstrategiaDin.firstFit.asignar (particionInicial 4096 1024) (0 : UInt32).toInt32 =
        (some 4096, [⟨0, 1, 4096⟩, ⟨1024, 0, 4096⟩]) ∧
      ¬ TamanioSeguro .firstFit (userMemory 4096 1024) [⟨0, 1, 4096⟩, ⟨1024, 0, 4096⟩] 64 := by
  refine ⟨⟨⟨particionInicial_tiling 4096 1024, by decide⟩, by decide, fun h => ?_⟩, by decide,
    fun h => ?_⟩
  · obtain ⟨_, _, hconcedida⟩ := h 4096 (by decide)
    exact not_subset_userMemory (by decide) hconcedida.memoria
  · obtain ⟨i, p, hconcedida⟩ := h 4096 (by decide)
    have hbuscada : buscarBase (EstrategiaDin.firstFit.asignar
        [⟨0, 1, 4096⟩, ⟨1024, 0, 4096⟩] (64 : UInt32).toInt32).2 4096 = some 0 := by decide
    obtain rfl : 0 = i := Option.some.inj (hbuscada.symm.trans hconcedida.buscada)
    exact hconcedida.unica 1 ⟨64, 1, 4096⟩ (by decide) (by decide) (by decide) rfl

end SoTp.Memoria
