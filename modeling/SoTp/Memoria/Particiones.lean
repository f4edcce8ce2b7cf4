import SoTp.Lib.Tiling

/-!
# The partition list of memoria

Models of the strategies for dynamic partitions of
`memoria/src/manejar_kernel.c` (lines 246–360).

* A pointer into user memory is an integer; `lista_particiones` is the list of
  the structures its elements point to, all different.
* A partition occupies `[base, base + tamanio)`, its `range`.
-/

namespace SoTp.Memoria

open SoTp.Lib

/-! ## Model -/

/-- `t_particion` (`memoria/src/main.h`, lines 50–56). -/
structure TParticion where
  tamanio : Int32
  estado : Int32
  base : ℤ
  deriving DecidableEq, Repr

/-- The addresses of a partition. -/
def TParticion.range (particion : TParticion) : Set ℤ :=
  Set.Ico particion.base (particion.base + particion.tamanio.toInt)

/-- The block `memoria_usuario` of `tam_total_memoria` bytes. -/
def userMemory (memoriaUsuario : ℤ) (tamTotalMemoria : Int32) : Set ℤ :=
  Set.Ico memoriaUsuario (memoriaUsuario + tamTotalMemoria.toInt)

/-- The list `gestionar_particiones` makes for dynamic partitions: one free
partition (`main.c`, lines 186–194). -/
def particionInicial (memoriaUsuario : ℤ) (tamTotalMemoria : Int32) : List TParticion :=
  [⟨tamTotalMemoria, 0, memoriaUsuario⟩]

/-- A free partition into which `tamProceso` fits, by the comparison `cabe`. -/
def candidata (cabe : Int32 → Int32 → Bool) (tamProceso : Int32) (particion : TParticion) : Bool :=
  decide (particion.estado = 0) && cabe particion.tamanio tamProceso

/-- The loop of `best_fit_din` and `worst_fit_din` from index `i` on: the index
chosen so far with the space it leaves, replaced when `mejor` prefers the new
space. -/
def ajusteLoop (cabe mejor : Int32 → Int32 → Bool) (tamProceso : Int32) :
    ℕ → List TParticion → Option ℕ × Int32 → Option ℕ × Int32
  | _, [], ajuste => ajuste
  | i, particion :: l, ajuste =>
    let espacioSobrante := particion.tamanio - tamProceso
    ajusteLoop cabe mejor tamProceso (i + 1) l
      (if candidata cabe tamProceso particion &&
          (ajuste.1.isNone || mejor espacioSobrante ajuste.2)
        then (some i, espacioSobrante) else ajuste)

/-- The partition at `i` becomes occupied, cut to `tamProceso` bytes when it has
more; the rest is a new free partition at the end of the list. -/
def asignarEn (l : List TParticion) (tamProceso : Int32) (i : ℕ) : Option ℤ × List TParticion :=
  match l[i]? with
  | none => (none, l)
  | some particion =>
    if particion.tamanio > tamProceso then
      let nuevaParticion : TParticion :=
        { base := particion.base + tamProceso.toInt
          tamanio := particion.tamanio - tamProceso
          estado := 0 }
      (some particion.base,
        l.set i { particion with tamanio := tamProceso, estado := 1 } ++ [nuevaParticion])
    else (some particion.base, l.set i { particion with estado := 1 })

/-- The allocation at the chosen index, or `NULL` and the list unchanged. -/
def asignarElegida (l : List TParticion) (tamProceso : Int32) :
    Option ℕ → Option ℤ × List TParticion
  | none => (none, l)
  | some i => asignarEn l tamProceso i

/-- The index at which `first_fit_din` stops. -/
def primerAjuste (l : List TParticion) (tamProceso : Int32) : Option ℕ :=
  l.findIdx? (candidata (fun tamanio tam => decide (tamanio ≥ tam)) tamProceso)

/-- `mejor_ajuste` at the end of the loop of `best_fit_din`. -/
def mejorAjuste (l : List TParticion) (tamProceso : Int32) : Option ℕ :=
  (ajusteLoop (fun tamanio tam => decide (tamanio ≥ tam))
    (fun espacio minimo => decide (espacio < minimo)) tamProceso 0 l (none, -1)).1

/-- `peor_ajuste` at the end of the loop of `worst_fit_din`. -/
def peorAjuste (l : List TParticion) (tamProceso : Int32) : Option ℕ :=
  (ajusteLoop (fun tamanio tam => decide (tamanio ≥ tam))
    (fun espacio maximo => decide (espacio > maximo)) tamProceso 0 l (none, -1)).1

/-- `first_fit_din(tam_proceso)` (lines 246–278): the base returned and the list
it leaves. -/
def firstFitDin (l : List TParticion) (tamProceso : Int32) : Option ℤ × List TParticion :=
  asignarElegida l tamProceso (primerAjuste l tamProceso)

/-- `best_fit_din(tam_proceso)` (lines 280–319). -/
def bestFitDin (l : List TParticion) (tamProceso : Int32) : Option ℤ × List TParticion :=
  asignarElegida l tamProceso (mejorAjuste l tamProceso)

/-- `worst_fit_din(tam_proceso)` (lines 321–360). -/
def worstFitDin (l : List TParticion) (tamProceso : Int32) : Option ℤ × List TParticion :=
  asignarElegida l tamProceso (peorAjuste l tamProceso)

/-- The three strategies for dynamic partitions. -/
inductive EstrategiaDin where
  | firstFit
  | bestFit
  | worstFit
  deriving DecidableEq, Repr

/-- The call of a strategy. -/
def EstrategiaDin.asignar : EstrategiaDin → List TParticion → Int32 → Option ℤ × List TParticion
  | firstFit => firstFitDin
  | bestFit => bestFitDin
  | worstFit => worstFitDin

/-! ## The chosen partition -/

/-- The loop only chooses free partitions that are large enough. -/
theorem ajusteLoop_candidata {cabe mejor : Int32 → Int32 → Bool} {tamProceso : Int32} {k : ℕ}
    (l : List TParticion) (i : ℕ) (ajuste : Option ℕ × Int32)
    (h : (ajusteLoop cabe mejor tamProceso i l ajuste).1 = some k) :
    ajuste.1 = some k ∨
      ∃ particion, i ≤ k ∧ l[k - i]? = some particion ∧ candidata cabe tamProceso particion := by
  induction l generalizing i ajuste with
  | nil => exact Or.inl h
  | cons particion l ih =>
    unfold ajusteLoop at h
    rcases ih _ _ h with hk | ⟨p, hle, hget, hp⟩
    · split at hk
      · rename_i hif
        obtain rfl : i = k := Option.some.inj hk
        refine Or.inr ⟨particion, le_refl i, ?_, (Bool.and_eq_true_iff.mp hif).1⟩
        rw [Nat.sub_self, List.getElem?_cons_zero]
      · exact Or.inl hk
    · refine Or.inr ⟨p, by omega, ?_, hp⟩
      rw [show k - i = (k - (i + 1)) + 1 by omega, List.getElem?_cons_succ]
      exact hget

/-- The index at which a strategy allocates. -/
def EstrategiaDin.elegida : EstrategiaDin → List TParticion → Int32 → Option ℕ
  | firstFit => primerAjuste
  | bestFit => mejorAjuste
  | worstFit => peorAjuste

theorem EstrategiaDin.asignar_eq (e : EstrategiaDin) (l : List TParticion) (tamProceso : Int32) :
    e.asignar l tamProceso = asignarElegida l tamProceso (e.elegida l tamProceso) := by
  cases e <;> rfl

/-- Every strategy allocates in a free partition that is large enough. -/
theorem EstrategiaDin.elegida_candidata {e : EstrategiaDin} {l : List TParticion}
    {tamProceso : Int32} {k : ℕ} (h : e.elegida l tamProceso = some k) :
    ∃ particion, l[k]? = some particion ∧ particion.estado = 0 ∧
      tamProceso ≤ particion.tamanio := by
  have hcandidata : ∃ particion, l[k]? = some particion ∧
      candidata (fun tamanio tam => decide (tamanio ≥ tam)) tamProceso particion := by
    cases e with
    | firstFit =>
      obtain ⟨hlt, hk, -⟩ := List.findIdx?_eq_some_iff_getElem.mp h
      exact ⟨l[k], List.getElem?_eq_getElem hlt, hk⟩
    | bestFit =>
      rcases ajusteLoop_candidata l 0 (none, -1) h with hnone | ⟨p, -, hget, hp⟩
      · simp at hnone
      · exact ⟨p, hget, hp⟩
    | worstFit =>
      rcases ajusteLoop_candidata l 0 (none, -1) h with hnone | ⟨p, -, hget, hp⟩
      · simp at hnone
      · exact ⟨p, hget, hp⟩
  obtain ⟨particion, hget, hp⟩ := hcandidata
  unfold candidata at hp
  rw [Bool.and_eq_true_iff] at hp
  exact ⟨particion, hget, of_decide_eq_true hp.1, of_decide_eq_true hp.2⟩

end SoTp.Memoria
