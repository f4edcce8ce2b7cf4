import SoTp.Memoria.Ajuste
import SoTp.Memoria.Fijas

/-!
# Which fixed partition is chosen

`first_fit`, `best_fit` and `worst_fit` (`memoria/src/manejar_kernel.c`, lines 145–243) mark
a free partition that is large enough. The scans of the first two are those of
`first_fit_din` and `best_fit_din`; `worst_fit` asks for a partition that is larger than
`tam_proceso`, where all the others are content with one that is as large.

* `asignarFija_optima`: **first fit and best fit take the partition that they prefer, and no
  partition is granted twice** without a release.
* `peorFiel_iff`: **worst fit does what the others do exactly when** none of the free
  partitions is large enough, or one of them is larger than the process.
-/

namespace SoTp.Memoria

open SoTp.Lib

/-! ## First fit and best fit -/

/-- The strategies for fixed partitions that scan as the dynamic ones do. -/
inductive EstrategiaFija where
  | firstFit
  | bestFit
  deriving DecidableEq, Repr

/-- The dynamic strategy with the same scan. -/
def EstrategiaFija.din : EstrategiaFija → EstrategiaDin
  | firstFit => .firstFit
  | bestFit => .bestFit

/-- The call of a strategy. -/
def EstrategiaFija.asignar : EstrategiaFija → List TParticion → Int32 → Option ℤ × List TParticion
  | firstFit => SoTp.Memoria.firstFit
  | bestFit => SoTp.Memoria.bestFit

theorem EstrategiaFija.asignar_eq (e : EstrategiaFija) (l : List TParticion)
    (tamProceso : Int32) :
    e.asignar l tamProceso = ocuparElegida l (e.din.elegida l tamProceso) := by
  cases e <;> rfl

/-- `particion` marked as occupied. -/
def TParticion.tomada (particion : TParticion) : TParticion := { particion with estado := 1 }

theorem tomada_estado_ne (particion : TParticion) : particion.tomada.estado ≠ 0 := by
  show (1 : Int32) ≠ 0
  decide

theorem ocuparElegida_eq {l : List TParticion} {i : ℕ} {particion : TParticion}
    (hget : l[i]? = some particion) :
    ocuparElegida l (some i) = (some particion.base, l.set i particion.tomada) := by
  unfold ocuparElegida
  simp only [hget]
  rfl

/-- The indices of the partitions that a sequence of calls grants, in order. -/
def concesiones : List TParticion → List (EstrategiaFija × Int32) → List ℕ
  | _, [] => []
  | l, (e, tamProceso) :: llamadas =>
    (e.din.elegida l tamProceso).toList ++ concesiones (e.asignar l tamProceso).2 llamadas

theorem EstrategiaFija.elegida_libre {e : EstrategiaFija} {l : List TParticion}
    {tamProceso : Int32} {i : ℕ} (h : e.din.elegida l tamProceso = some i) :
    ∃ particion, l[i]? = some particion ∧ particion.estado = 0 ∧
      (e.asignar l tamProceso).2 = l.set i particion.tomada := by
  obtain ⟨particion, hget, hlibre, -⟩ := EstrategiaDin.elegida_candidata h
  refine ⟨particion, hget, hlibre, ?_⟩
  rw [e.asignar_eq, h, ocuparElegida_eq hget]

/-- A call frees nothing. -/
theorem EstrategiaFija.asignar_libre {e : EstrategiaFija} {l : List TParticion}
    {tamProceso : Int32} {j : ℕ} {particion : TParticion}
    (hget : (e.asignar l tamProceso).2[j]? = some particion) (hlibre : particion.estado = 0) :
    l[j]? = some particion := by
  cases h : e.din.elegida l tamProceso with
  | none =>
    rw [e.asignar_eq, h] at hget
    exact hget
  | some i =>
    obtain ⟨p, hp, -, heq⟩ := EstrategiaFija.elegida_libre h
    rw [heq] at hget
    by_cases hij : i = j
    · subst hij
      rw [List.getElem?_set_self (List.getElem?_eq_some_iff.mp hp).1] at hget
      rw [← Option.some.inj hget] at hlibre
      exact absurd hlibre (tomada_estado_ne p)
    · rwa [List.getElem?_set_ne hij] at hget

/-- Every partition that the calls grant is free before them. -/
theorem libre_of_mem_concesiones {llamadas : List (EstrategiaFija × Int32)}
    {l : List TParticion} {i : ℕ} (h : i ∈ concesiones l llamadas) :
    ∃ particion, l[i]? = some particion ∧ particion.estado = 0 := by
  induction llamadas generalizing l with
  | nil => exact absurd h List.not_mem_nil
  | cons llamada llamadas ih =>
    obtain ⟨e, tamProceso⟩ := llamada
    rcases List.mem_append.mp h with h | h
    · obtain ⟨particion, hget, hlibre, -⟩ :=
        EstrategiaFija.elegida_libre (Option.mem_toList.mp h)
      exact ⟨particion, hget, hlibre⟩
    · obtain ⟨particion, hget, hlibre⟩ := ih h
      exact ⟨particion, EstrategiaFija.asignar_libre hget hlibre, hlibre⟩

theorem concesiones_nodup (llamadas : List (EstrategiaFija × Int32)) (l : List TParticion) :
    (concesiones l llamadas).Nodup := by
  induction llamadas generalizing l with
  | nil => exact List.nodup_nil
  | cons llamada llamadas ih =>
    obtain ⟨e, tamProceso⟩ := llamada
    unfold concesiones
    cases h : e.din.elegida l tamProceso with
    | none => exact ih _
    | some i =>
      refine List.nodup_cons.mpr ⟨fun hmem => ?_, ih _⟩
      -- what the first call has granted is not free any more
      obtain ⟨p, hp, -, heq⟩ := EstrategiaFija.elegida_libre h
      obtain ⟨particion, hget, hlibre⟩ := libre_of_mem_concesiones hmem
      rw [heq, List.getElem?_set_self (List.getElem?_eq_some_iff.mp hp).1] at hget
      rw [← Option.some.inj hget] at hlibre
      exact absurd hlibre (tomada_estado_ne p)

/-- **First fit and best fit for fixed partitions.** For every list and every `tamProceso`
that is not negative, `NULL` is returned exactly when no free partition is large enough, and
then the list stays as it is; otherwise the first sufficient partition, or the first of the
smallest, is granted, and the only change is its mark. In a sequence of calls, each granted
at the index that it chooses, no index comes twice. -/
theorem asignarFija_optima (l : List TParticion) :
    (∀ (e : EstrategiaFija) (tamProceso : Int32), 0 ≤ tamProceso →
      ((e.asignar l tamProceso).1 = none ↔
          ∀ p ∈ l, p.estado = 0 → p.tamanio < tamProceso) ∧
        ((e.asignar l tamProceso).1 = none → (e.asignar l tamProceso).2 = l) ∧
        ∀ base, (e.asignar l tamProceso).1 = some base →
          ∃ i p, e.din.Elige l tamProceso i p ∧ e.din.elegida l tamProceso = some i ∧
            base = p.base ∧ (e.asignar l tamProceso).2 = l.set i p.tomada) ∧
      ∀ llamadas, (concesiones l llamadas).Nodup := by
  refine ⟨fun e tamProceso h0 => ?_, fun llamadas => concesiones_nodup llamadas l⟩
  rw [e.asignar_eq]
  rcases e.din.elegida_cases l h0 with ⟨hnone, hno⟩ | ⟨i, p, helige, hsome⟩
  · rw [hnone]
    refine ⟨⟨fun _ p hp => not_suficiente_iff.mp (hno p hp), fun _ => rfl⟩, fun _ => rfl, ?_⟩
    intro base hbase
    cases hbase
  · rw [hsome, ocuparElegida_eq helige.get]
    refine ⟨⟨fun h => (Option.some_ne_none _ h).elim, fun h => ?_⟩,
      fun h => (Option.some_ne_none _ h).elim, ?_⟩
    · exact absurd helige.ok (not_suficiente_iff.mpr (h p helige.mem))
    · intro base hbase
      exact ⟨i, p, helige, rfl, (Option.some.inj hbase).symm, rfl⟩

/-- Three calls on two free partitions: each is granted once, and the third call fails. -/
theorem asignarFija_optima_tres :
    (∃ i p, EstrategiaDin.bestFit.Elige [⟨64, 0, 4096⟩, ⟨16, 0, 4160⟩] 10 i p ∧
      EstrategiaDin.bestFit.elegida [⟨64, 0, 4096⟩, ⟨16, 0, 4160⟩] 10 = some i ∧
      (4160 : ℤ) = p.base ∧
      (EstrategiaFija.bestFit.asignar [⟨64, 0, 4096⟩, ⟨16, 0, 4160⟩] 10).2 =
        List.set [⟨64, 0, 4096⟩, ⟨16, 0, 4160⟩] i p.tomada) ∧
      (concesiones [⟨64, 0, 4096⟩, ⟨16, 0, 4160⟩]
        [(.bestFit, 10), (.firstFit, 10), (.firstFit, 10)]) = [1, 0] ∧
      (concesiones [⟨64, 0, 4096⟩, ⟨16, 0, 4160⟩]
        [(.bestFit, 10), (.firstFit, 10), (.firstFit, 10)]).Nodup :=
  ⟨((asignarFija_optima [⟨64, 0, 4096⟩, ⟨16, 0, 4160⟩]).1 .bestFit 10 (by decide)).2.2 4160
      (by decide),
    by decide, (asignarFija_optima _).2 _⟩

/-! ## Worst fit -/

/-- `worst_fit` returns `NULL` only when `first_fit` does, and what it grants is the first of
the largest sufficient partitions, which is the one that `worst_fit_din` takes. -/
def PeorFiel (l : List TParticion) (tamProceso : Int32) : Prop :=
  ((worstFit l tamProceso).1 = none → (firstFit l tamProceso).1 = none) ∧
    ∀ base, (worstFit l tamProceso).1 = some base →
      ∃ i p, EstrategiaDin.worstFit.Elige l tamProceso i p ∧
        EstrategiaDin.worstFit.elegida l tamProceso = some i ∧
        base = p.base ∧ (worstFit l tamProceso).2 = l.set i p.tomada

/-- A free partition that is larger than `tamProceso`. -/
def Sobra (tamProceso : Int32) (particion : TParticion) : Prop :=
  particion.estado = 0 ∧ tamProceso < particion.tamanio

theorem Sobra.suficiente {tamProceso : Int32} {particion : TParticion}
    (h : Sobra tamProceso particion) : Suficiente tamProceso particion :=
  ⟨h.1, Int32.le_of_lt h.2⟩

/-- The scan of `worst_fit` takes the first of the largest partitions, if one is larger. -/
theorem peorAjusteFijo_cases {l : List TParticion} {tamProceso : Int32} (h0 : 0 ≤ tamProceso) :
    (peorAjusteFijo l tamProceso = none ∧ ∀ p ∈ l, ¬ Sobra tamProceso p) ∨
      ∃ i p, FirstLeast (Sobra tamProceso) EstrategiaDin.worstFit.clave l i p ∧
        peorAjusteFijo l tamProceso = some i := by
  have hscan : Llevado (Sobra tamProceso) EstrategiaDin.worstFit.clave tamProceso l
      (ajusteLoop (fun tamanio tam => decide (tamanio > tam))
        (fun espacio maximo => decide (espacio > maximo)) tamProceso 0 l (none, -1)) := by
    refine ajusteLoop_inicio (fun p => ?_) (fun p p' hp hp' => ?_) l
    · unfold candidata Sobra
      rw [Bool.and_eq_true_iff, decide_eq_true_eq, decide_eq_true_eq, gt_iff_lt]
    · rw [decide_eq_true_eq, gt_iff_lt, sub_lt_sub_iff h0 hp'.suficiente.2 hp.suficiente.2]
      exact neg_lt_neg_iff.symm
  rcases hscan with ⟨hnone, hno⟩ | ⟨i, p, hmin, hsome⟩
  · exact Or.inl ⟨hnone, hno⟩
  · exact Or.inr ⟨i, p, hmin, congrArg Prod.fst hsome⟩

/-- Partitions of exactly `tamProceso` bytes are not the largest when one is larger. -/
theorem elige_of_sobra {l : List TParticion} {tamProceso : Int32} {i : ℕ} {p : TParticion}
    (h : FirstLeast (Sobra tamProceso) EstrategiaDin.worstFit.clave l i p) :
    EstrategiaDin.worstFit.Elige l tamProceso i p := by
  have hexacta : ∀ b, Suficiente tamProceso b → ¬ Sobra tamProceso b →
      EstrategiaDin.worstFit.clave p < EstrategiaDin.worstFit.clave b := by
    intro b hb hno
    have heq : b.tamanio = tamProceso := eq_of_le_of_not_gt hb.2 fun hgt => hno ⟨hb.1, hgt⟩
    show -p.tamanio.toInt < -b.tamanio.toInt
    rw [heq]
    exact neg_lt_neg (Int32.lt_iff_toInt_lt.mp h.ok.2)
  refine ⟨h.get, h.ok.suficiente, fun b hb hsuf => ?_, fun j hj b hget hsuf => ?_⟩
  · by_cases hsobra : Sobra tamProceso b
    · exact h.least b hb hsobra
    · exact (hexacta b hsuf hsobra).le
  · by_cases hsobra : Sobra tamProceso b
    · exact h.first j hj b hget hsobra
    · exact hexacta b hsuf hsobra

/-- **Fixed worst fit agrees with the other strategies exactly when** no free partition is
large enough, or some free partition is larger than `tamProceso`: it misses the partitions
that fit exactly. -/
theorem peorFiel_iff (l : List TParticion) (tamProceso : Int32) (h0 : 0 ≤ tamProceso) :
    PeorFiel l tamProceso ↔
      (∀ p ∈ l, p.estado = 0 → p.tamanio < tamProceso) ∨
        ∃ p ∈ l, p.estado = 0 ∧ tamProceso < p.tamanio := by
  have hfirst := ((asignarFija_optima l).1 .firstFit tamProceso h0).1
  rcases peorAjusteFijo_cases (l := l) h0 with ⟨hnone, hno⟩ | ⟨i, p, hmin, hsome⟩
  · have hworst : worstFit l tamProceso = (none, l) := by
      unfold worstFit
      rw [hnone]
      rfl
    constructor
    · intro h
      exact Or.inl (hfirst.mp (h.1 (congrArg Prod.fst hworst)))
    · rintro (h | ⟨p, hp, hsobra⟩)
      · refine ⟨fun _ => hfirst.mpr h, fun base hbase => ?_⟩
        rw [hworst] at hbase
        cases hbase
      · exact absurd hsobra (hno p hp)
  · have hworst : worstFit l tamProceso = (some p.base, l.set i p.tomada) := by
      unfold worstFit
      rw [hsome]
      exact ocuparElegida_eq hmin.get
    have helige := elige_of_sobra hmin
    refine ⟨fun _ => Or.inr ⟨p, hmin.mem, hmin.ok⟩, fun _ => ⟨fun h => ?_, fun base hbase => ?_⟩⟩
    · rw [hworst] at h
      cases h
    · rw [hworst] at hbase ⊢
      refine ⟨i, p, helige, ?_, (Option.some.inj hbase).symm, rfl⟩
      rcases EstrategiaDin.worstFit.elegida_cases l h0 with ⟨-, hno⟩ | ⟨j, b, helige', helegida⟩
      · exact absurd helige.ok (hno p helige.mem)
      · rw [(helige.unique helige').1, helegida]

/-- Of 16, 64 and 64 bytes worst fit takes the second partition for 16 bytes. -/
theorem peorFiel_dieciseis :
    PeorFiel [⟨16, 0, 4096⟩, ⟨64, 0, 4112⟩, ⟨64, 0, 4176⟩] 16 :=
  (peorFiel_iff _ 16 (by decide)).mpr (Or.inr ⟨⟨64, 0, 4112⟩, by decide, by decide, by decide⟩)

/-- With one free partition of exactly 16 bytes `worst_fit(16)` returns `NULL`, and
`first_fit(16)` its base. -/
theorem not_peorFiel_exacta :
    (worstFit [⟨16, 0, 4096⟩, ⟨64, 1, 4112⟩] 16).1 = none ∧
      (firstFit [⟨16, 0, 4096⟩, ⟨64, 1, 4112⟩] 16).1 = some 4096 ∧
      ¬ PeorFiel [⟨16, 0, 4096⟩, ⟨64, 1, 4112⟩] 16 := by
  have hworst : (worstFit [⟨16, 0, 4096⟩, ⟨64, 1, 4112⟩] 16).1 = none := by decide
  have hfirst : (firstFit [⟨16, 0, 4096⟩, ⟨64, 1, 4112⟩] 16).1 = some 4096 := by decide
  refine ⟨hworst, hfirst, fun h => ?_⟩
  have hnone := h.1 hworst
  rw [hfirst] at hnone
  cases hnone

end SoTp.Memoria
