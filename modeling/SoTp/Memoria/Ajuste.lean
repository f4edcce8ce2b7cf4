import SoTp.Lib.Least
import SoTp.Memoria.Asignacion

/-!
# Which partition the strategies choose

`first_fit_din`, `best_fit_din` and `worst_fit_din` (`memoria/src/manejar_kernel.c`, lines
246–360) look for a free partition that is large enough. Each of them prefers some: the
first one, a small one or a large one, and among equals the first one.

* `ajusteLoop_llevado`: what the scan of `best_fit_din` and `worst_fit_din` carries along.
* `EstrategiaDin.elegida_cases`: the index at which a strategy allocates.
* `asignarDin_optima`: **each strategy fails exactly when no free partition is large
  enough, and takes the one that it prefers.**
-/

namespace SoTp.Memoria

open SoTp.Lib

/-! ## What is preferred -/

/-- A free partition of at least `tamProceso` bytes. -/
def Suficiente (tamProceso : Int32) (particion : TParticion) : Prop :=
  particion.estado = 0 ∧ tamProceso ≤ particion.tamanio

/-- Of two partitions a strategy prefers the one with the smaller `clave`. -/
def EstrategiaDin.clave : EstrategiaDin → TParticion → ℤ
  | firstFit, _ => 0
  | bestFit, particion => particion.tamanio.toInt
  | worstFit, particion => -particion.tamanio.toInt

/-- `particion`, at index `i`, is the first of the sufficient partitions that the strategy
prefers to all others: the first one, the first of the smallest, the first of the
largest. -/
def EstrategiaDin.Elige (e : EstrategiaDin) (l : List TParticion) (tamProceso : Int32) (i : ℕ)
    (particion : TParticion) : Prop :=
  FirstLeast (Suficiente tamProceso) e.clave l i particion

theorem candidata_iff {tamProceso : Int32} {particion : TParticion} :
    candidata (fun tamanio tam => decide (tamanio ≥ tam)) tamProceso particion = true ↔
      Suficiente tamProceso particion := by
  unfold candidata Suficiente
  rw [Bool.and_eq_true_iff, decide_eq_true_eq, decide_eq_true_eq]

theorem not_suficiente_iff {tamProceso : Int32} {particion : TParticion} :
    ¬ Suficiente tamProceso particion ↔
      (particion.estado = 0 → particion.tamanio < tamProceso) := by
  unfold Suficiente
  rw [not_and, Int32.not_le]

/-! ## The scan -/

section Recorrido

variable {cabe mejor : Int32 → Int32 → Bool} {tamProceso : Int32} {q : TParticion → Prop}
  {f : TParticion → ℤ}

/-- The two accumulators after the partitions of `antes`: nothing, or the index of the best
of them and the space that it leaves. -/
def Llevado (q : TParticion → Prop) (f : TParticion → ℤ) (tamProceso : Int32)
    (antes : List TParticion) (ajuste : Option ℕ × Int32) : Prop :=
  (ajuste.1 = none ∧ ∀ particion ∈ antes, ¬ q particion) ∨
    ∃ i particion, FirstLeast q f antes i particion ∧
      ajuste = (some i, particion.tamanio - tamProceso)

/-- An iteration. -/
theorem Llevado.paso {antes : List TParticion} {ajuste : Option ℕ × Int32}
    (h : Llevado q f tamProceso antes ajuste) (particion : TParticion)
    (hcabe : candidata cabe tamProceso particion = true ↔ q particion)
    (hmejor : ∀ p p', q p → q p' →
      (mejor (p.tamanio - tamProceso) (p'.tamanio - tamProceso) = true ↔ f p < f p')) :
    Llevado q f tamProceso (antes ++ [particion])
      (if candidata cabe tamProceso particion &&
          (ajuste.1.isNone || mejor (particion.tamanio - tamProceso) ajuste.2)
        then (some antes.length, particion.tamanio - tamProceso) else ajuste) := by
  by_cases hq : q particion
  · rw [hcabe.mpr hq, Bool.true_and]
    rcases h with ⟨hnone, hantes⟩ | ⟨i, a, hmin, rfl⟩
    · -- the first one
      rw [hnone, Option.isNone_none, Bool.true_or, if_pos rfl]
      exact Or.inr ⟨_, particion, firstLeast_append_new hantes hq, rfl⟩
    · rw [Option.isNone_some, Bool.false_or]
      by_cases hlt : f particion < f a
      · rw [if_pos ((hmejor _ _ hq hmin.ok).mpr hlt)]
        exact Or.inr ⟨_, particion, hmin.append_better hq hlt, rfl⟩
      · rw [if_neg fun hm => hlt ((hmejor _ _ hq hmin.ok).mp hm)]
        exact Or.inr ⟨i, a, hmin.append_keep fun _ => not_lt.mp hlt, rfl⟩
  · have hno : candidata cabe tamProceso particion = false :=
      Bool.eq_false_iff.mpr fun hsi => hq (hcabe.mp hsi)
    rw [hno, Bool.false_and, if_neg Bool.false_ne_true]
    rcases h with ⟨hnone, hantes⟩ | ⟨i, a, hmin, rfl⟩
    · refine Or.inl ⟨hnone, fun p hp => ?_⟩
      rcases List.mem_append.mp hp with hp | hp
      · exact hantes p hp
      · rwa [List.mem_singleton.mp hp]
    · exact Or.inr ⟨i, a, hmin.append_keep fun hpq => absurd hpq hq, rfl⟩

/-- The whole scan. -/
theorem ajusteLoop_llevado (hcabe : ∀ p, candidata cabe tamProceso p = true ↔ q p)
    (hmejor : ∀ p p', q p → q p' →
      (mejor (p.tamanio - tamProceso) (p'.tamanio - tamProceso) = true ↔ f p < f p'))
    (l antes : List TParticion) (ajuste : Option ℕ × Int32)
    (h : Llevado q f tamProceso antes ajuste) :
    Llevado q f tamProceso (antes ++ l)
      (ajusteLoop cabe mejor tamProceso antes.length l ajuste) := by
  induction l generalizing antes ajuste with
  | nil =>
    rw [List.append_nil]
    exact h
  | cons particion l ih =>
    have hpaso := ih (antes ++ [particion]) _ (h.paso particion (hcabe particion) hmejor)
    rw [List.append_assoc, List.singleton_append, List.length_append, List.length_singleton]
      at hpaso
    exact hpaso

theorem ajusteLoop_inicio (hcabe : ∀ p, candidata cabe tamProceso p = true ↔ q p)
    (hmejor : ∀ p p', q p → q p' →
      (mejor (p.tamanio - tamProceso) (p'.tamanio - tamProceso) = true ↔ f p < f p'))
    (l : List TParticion) :
    Llevado q f tamProceso l (ajusteLoop cabe mejor tamProceso 0 l (none, -1)) :=
  ajusteLoop_llevado hcabe hmejor l [] (none, -1)
    (Or.inl ⟨rfl, fun _ h => absurd h List.not_mem_nil⟩)

end Recorrido

theorem sub_lt_sub_iff {tamProceso tamanio tamanio' : Int32} (h0 : 0 ≤ tamProceso)
    (hle : tamProceso ≤ tamanio) (hle' : tamProceso ≤ tamanio') :
    tamanio - tamProceso < tamanio' - tamProceso ↔ tamanio.toInt < tamanio'.toInt := by
  rw [Int32.lt_iff_toInt_lt, toInt_sub_of_le h0 hle, toInt_sub_of_le h0 hle']
  exact sub_lt_sub_iff_right _

/-! ## The chosen index -/

section Elegida

variable {l : List TParticion} {tamProceso : Int32}

/-- `first_fit_din` takes the first partition that is sufficient. -/
theorem primerAjuste_cases (l : List TParticion) (tamProceso : Int32) :
    (primerAjuste l tamProceso = none ∧ ∀ p ∈ l, ¬ Suficiente tamProceso p) ∨
      ∃ i p, EstrategiaDin.firstFit.Elige l tamProceso i p ∧
        primerAjuste l tamProceso = some i := by
  cases h : primerAjuste l tamProceso with
  | none =>
    refine Or.inl ⟨rfl, fun p hp hsuf => ?_⟩
    have hno := List.findIdx?_eq_none_iff.mp h p hp
    rw [candidata_iff.mpr hsuf] at hno
    cases hno
  | some i =>
    obtain ⟨hlt, hi, hfirst⟩ := List.findIdx?_eq_some_iff_getElem.mp h
    refine Or.inr ⟨i, l[i], ?_, rfl⟩
    refine firstLeast_const_iff.mpr ⟨List.getElem?_eq_getElem hlt, candidata_iff.mp hi, ?_⟩
    intro j hj b hget hsuf
    obtain ⟨hjlt, rfl⟩ := List.getElem?_eq_some_iff.mp hget
    exact hfirst j hj (candidata_iff.mpr hsuf)

/-- **What a strategy chooses**: nothing when no partition is sufficient, and the one that
it prefers otherwise. -/
theorem EstrategiaDin.elegida_cases (e : EstrategiaDin) (l : List TParticion)
    (h0 : 0 ≤ tamProceso) :
    (e.elegida l tamProceso = none ∧ ∀ p ∈ l, ¬ Suficiente tamProceso p) ∨
      ∃ i p, e.Elige l tamProceso i p ∧ e.elegida l tamProceso = some i := by
  cases e with
  | firstFit => exact primerAjuste_cases l tamProceso
  | bestFit =>
    have hscan : Llevado (Suficiente tamProceso) EstrategiaDin.bestFit.clave tamProceso l
        (ajusteLoop (fun tamanio tam => decide (tamanio ≥ tam))
          (fun espacio minimo => decide (espacio < minimo)) tamProceso 0 l (none, -1)) := by
      refine ajusteLoop_inicio (fun _ => candidata_iff) (fun p p' hp hp' => ?_) l
      rw [decide_eq_true_eq]
      exact sub_lt_sub_iff h0 hp.2 hp'.2
    rcases hscan with ⟨hnone, hno⟩ | ⟨i, p, hmin, hsome⟩
    · exact Or.inl ⟨hnone, hno⟩
    · exact Or.inr ⟨i, p, hmin, congrArg Prod.fst hsome⟩
  | worstFit =>
    have hscan : Llevado (Suficiente tamProceso) EstrategiaDin.worstFit.clave tamProceso l
        (ajusteLoop (fun tamanio tam => decide (tamanio ≥ tam))
          (fun espacio maximo => decide (espacio > maximo)) tamProceso 0 l (none, -1)) := by
      refine ajusteLoop_inicio (fun _ => candidata_iff) (fun p p' hp hp' => ?_) l
      rw [decide_eq_true_eq, gt_iff_lt, sub_lt_sub_iff h0 hp'.2 hp.2]
      exact neg_lt_neg_iff.symm
    rcases hscan with ⟨hnone, hno⟩ | ⟨i, p, hmin, hsome⟩
    · exact Or.inl ⟨hnone, hno⟩
    · exact Or.inr ⟨i, p, hmin, congrArg Prod.fst hsome⟩

end Elegida

/-- Whatever the sizes, a scan that comes back with nothing has met no candidate. -/
theorem ajusteLoop_eq_none {cabe mejor : Int32 → Int32 → Bool} {tamProceso : Int32}
    (l : List TParticion) (i : ℕ) (ajuste : Option ℕ × Int32)
    (h : (ajusteLoop cabe mejor tamProceso i l ajuste).1 = none) :
    ajuste.1 = none ∧ ∀ p ∈ l, candidata cabe tamProceso p = false := by
  induction l generalizing i ajuste with
  | nil => exact ⟨h, fun _ hp => absurd hp List.not_mem_nil⟩
  | cons particion l ih =>
    unfold ajusteLoop at h
    obtain ⟨hajuste, hl⟩ := ih _ _ h
    split at hajuste
    · cases hajuste
    · rename_i hno
      rw [hajuste, Option.isNone_none, Bool.true_or, Bool.and_true] at hno
      refine ⟨hajuste, fun p hp => ?_⟩
      rcases List.mem_cons.mp hp with rfl | hp
      · exact Bool.eq_false_iff.mpr hno
      · exact hl p hp

/-- A strategy that chooses nothing has no sufficient partition, also for a negative
`tamProceso`. -/
theorem EstrategiaDin.not_suficiente_of_elegida {e : EstrategiaDin} {l : List TParticion}
    {tamProceso : Int32} (h : e.elegida l tamProceso = none) :
    ∀ p ∈ l, ¬ Suficiente tamProceso p := by
  intro p hp hsuf
  have hno : candidata (fun tamanio tam => decide (tamanio ≥ tam)) tamProceso p = false := by
    cases e with
    | firstFit => exact List.findIdx?_eq_none_iff.mp h p hp
    | bestFit => exact (ajusteLoop_eq_none l 0 (none, -1) h).2 p hp
    | worstFit => exact (ajusteLoop_eq_none l 0 (none, -1) h).2 p hp
  rw [candidata_iff.mpr hsuf] at hno
  cases hno

/-! ## The grant -/

theorem EstrategiaDin.asignar_elige {e : EstrategiaDin} {l : List TParticion}
    {tamProceso : Int32} {i : ℕ} {p : TParticion} (h0 : 0 ≤ tamProceso)
    (helige : e.Elige l tamProceso i p) :
    e.asignar l tamProceso =
      (some p.base, l.set i (p.ocupada tamProceso) ++ resto p tamProceso) := by
  rw [e.asignar_eq]
  rcases e.elegida_cases l h0 with ⟨-, hno⟩ | ⟨j, b, helige', hsome⟩
  · exact absurd helige.ok (hno p helige.mem)
  · rw [hsome, ← (helige.unique helige').1]
    exact asignarEn_eq helige.get helige.ok.2

/-- **The dynamic strategies agree on what is feasible and take the partition that they
prefer.** For every list and every `tamProceso` that is not negative, `NULL` is returned
exactly when no free partition is large enough, and then the list stays as it is; otherwise
the partition granted is the first one, the first of the smallest or the first of the
largest, cut to the size asked for, and what is left over is a free one at the end. -/
theorem asignarDin_optima (e : EstrategiaDin) (l : List TParticion) (tamProceso : Int32)
    (h0 : 0 ≤ tamProceso) :
    ((e.asignar l tamProceso).1 = none ↔
        ∀ p ∈ l, p.estado = 0 → p.tamanio < tamProceso) ∧
      ((e.asignar l tamProceso).1 = none → (e.asignar l tamProceso).2 = l) ∧
      ∀ base, (e.asignar l tamProceso).1 = some base →
        ∃ i p, e.Elige l tamProceso i p ∧ base = p.base ∧
          (e.asignar l tamProceso).2 = l.set i (p.ocupada tamProceso) ++ resto p tamProceso := by
  rcases e.elegida_cases l h0 with ⟨hnone, hno⟩ | ⟨i, p, helige, -⟩
  · rw [e.asignar_eq, hnone]
    refine ⟨⟨fun _ p hp => not_suficiente_iff.mp (hno p hp), fun _ => rfl⟩, fun _ => rfl, ?_⟩
    intro base hbase
    cases hbase
  · rw [EstrategiaDin.asignar_elige h0 helige]
    refine ⟨⟨fun h => (Option.some_ne_none _ h).elim, fun h => ?_⟩,
      fun h => (Option.some_ne_none _ h).elim, ?_⟩
    · exact absurd helige.ok (not_suficiente_iff.mpr (h p helige.mem))
    · intro base hbase
      exact ⟨i, p, helige, (Option.some.inj hbase).symm, rfl⟩

/-- Ten bytes by best fit: of the free partitions of 64, 16, 8 and 16 bytes the second one
is taken, and six bytes are left over. -/
theorem asignarDin_optima_bestFit :
    ∃ i p, EstrategiaDin.bestFit.Elige
        [⟨64, 0, 1000⟩, ⟨16, 0, 1064⟩, ⟨8, 0, 1080⟩, ⟨16, 0, 1088⟩] 10 i p ∧
      (1064 : ℤ) = p.base ∧
      (EstrategiaDin.bestFit.asignar
          [⟨64, 0, 1000⟩, ⟨16, 0, 1064⟩, ⟨8, 0, 1080⟩, ⟨16, 0, 1088⟩] 10).2 =
        List.set [⟨64, 0, 1000⟩, ⟨16, 0, 1064⟩, ⟨8, 0, 1080⟩, ⟨16, 0, 1088⟩] i (p.ocupada 10) ++
          resto p 10 :=
  (asignarDin_optima .bestFit [⟨64, 0, 1000⟩, ⟨16, 0, 1064⟩, ⟨8, 0, 1080⟩, ⟨16, 0, 1088⟩] 10
    (by decide)).2.2 1064 (by decide)

end SoTp.Memoria
