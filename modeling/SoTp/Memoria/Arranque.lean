import SoTp.Cpu.Decode
import SoTp.Memoria.Particiones

/-!
# The partition table at start-up

Model of `gestionar_particiones` (`memoria/src/main.c`, lines 126–207). Each test
of `esquema` is a `strcmp`: the first is compared with `0`, the second is not, so
its branch is taken by every string other than `DINAMICAS`.

* `agregarParticiones_eq`: the loop of `FIJAS` exits, or builds the table that the
  sizes describe.
* `arranquePedido_iff`: **the table is the one asked for exactly under `FIJAS`**.
-/

namespace SoTp.Memoria

open SoTp.Lib SoTp.Cpu

/-! ## Model -/

/-- The loop of `FIJAS` (lines 152–177) on the sizes that are left, with
`ptr_base_particion` and the list so far; `none` is the exit. -/
def agregarParticiones (memoriaUsuario : ℤ) (tamTotalMemoria : Int32) :
    ℤ → List TParticion → List CString → Option (List TParticion)
  | _, listaParticiones, [] => some listaParticiones
  | ptrBaseParticion, listaParticiones, elemento :: elementos =>
    let particion : TParticion :=
      { estado := 0
        tamanio := atoi elemento
        base := ptrBaseParticion }
    if particion.base + (atoi elemento).toInt > memoriaUsuario + tamTotalMemoria.toInt ∨
        particion.base < memoriaUsuario then none
    else
      agregarParticiones memoriaUsuario tamTotalMemoria
        (ptrBaseParticion + (atoi elemento).toInt) (listaParticiones ++ [particion]) elementos

/-- `gestionar_particiones()` (lines 126–207) on the fields `esquema`,
`tam_total_memoria` and `lista_particiones` of the configuration: the list of
partitions, or `none` when it exits. -/
def gestionarParticiones (esquema : CString) (memoriaUsuario : ℤ) (tamTotalMemoria : Int32)
    (elementos : List CString) : Option (List TParticion) :=
  if esquema.bytes = ascii "FIJAS" then
    agregarParticiones memoriaUsuario tamTotalMemoria memoriaUsuario [] elementos
  -- `strcmp` alone: the branch of every other string
  else if esquema.bytes ≠ ascii "DINAMICAS" then
    some (particionInicial memoriaUsuario tamTotalMemoria)
  else none

/-! ## The table of `FIJAS` -/

/-- One free partition for each size, each from where the previous one ends. -/
def tablaFija : ℤ → List CString → List TParticion
  | _, [] => []
  | base, elemento :: elementos =>
    ⟨atoi elemento, 0, base⟩ :: tablaFija (base + (atoi elemento).toInt) elementos

/-- A partition that starts and ends in the user memory. -/
def EnMemoria (memoriaUsuario : ℤ) (tamTotalMemoria : Int32) (particion : TParticion) : Prop :=
  memoriaUsuario ≤ particion.base ∧
    particion.base + particion.tamanio.toInt ≤ memoriaUsuario + tamTotalMemoria.toInt

instance (memoriaUsuario : ℤ) (tamTotalMemoria : Int32) (particion : TParticion) :
    Decidable (EnMemoria memoriaUsuario tamTotalMemoria particion) :=
  inferInstanceAs (Decidable (_ ∧ _))

/-- The loop appends the table of the sizes when all of it is in the user memory,
and exits when some partition is not. -/
theorem agregarParticiones_eq (memoriaUsuario : ℤ) (tamTotalMemoria : Int32)
    (elementos : List CString) (base : ℤ) (l : List TParticion) :
    agregarParticiones memoriaUsuario tamTotalMemoria base l elementos =
      if ∀ particion ∈ tablaFija base elementos, EnMemoria memoriaUsuario tamTotalMemoria particion
      then some (l ++ tablaFija base elementos) else none := by
  induction elementos generalizing base l with
  | nil => simp [agregarParticiones, tablaFija]
  | cons elemento elementos ih =>
    rw [agregarParticiones, tablaFija]
    simp only [List.forall_mem_cons]
    by_cases hrango : EnMemoria memoriaUsuario tamTotalMemoria ⟨atoi elemento, 0, base⟩
    · have hguard : ¬ (base + (atoi elemento).toInt > memoriaUsuario + tamTotalMemoria.toInt ∨
          base < memoriaUsuario) := by
        obtain ⟨hbase, hfin⟩ := hrango
        dsimp only at hbase hfin
        omega
      rw [if_neg hguard, ih, List.append_assoc, List.singleton_append]
      simp only [hrango, true_and]
    · have hguard : base + (atoi elemento).toInt > memoriaUsuario + tamTotalMemoria.toInt ∨
          base < memoriaUsuario := by
        unfold EnMemoria at hrango
        dsimp only at hrango
        omega
      rw [if_pos hguard, if_neg fun h => hrango h.1]

theorem tablaFija_map_tamanio (base : ℤ) (elementos : List CString) :
    (tablaFija base elementos).map TParticion.tamanio = elementos.map atoi := by
  induction elementos generalizing base with
  | nil => rfl
  | cons elemento elementos ih =>
    rw [tablaFija, List.map_cons, List.map_cons, ih]

theorem tablaFija_libre (base : ℤ) (elementos : List CString) :
    ∀ particion ∈ tablaFija base elementos, particion.estado = 0 := by
  induction elementos generalizing base with
  | nil => simp [tablaFija]
  | cons elemento elementos ih =>
    rw [tablaFija, List.forall_mem_cons]
    exact ⟨rfl, ih _⟩

theorem tablaFija_head (base : ℤ) (elementos : List CString) :
    ∀ particion ∈ (tablaFija base elementos).head?, particion.base = base := by
  cases elementos with
  | nil => simp [tablaFija]
  | cons elemento elementos => simp [tablaFija]

theorem tablaFija_seguidas (base : ℤ) (elementos : List CString) :
    (tablaFija base elementos).IsChain fun anterior siguiente =>
      siguiente.base = anterior.base + anterior.tamanio.toInt := by
  induction elementos generalizing base with
  | nil => exact List.isChain_nil
  | cons elemento elementos ih =>
    rw [tablaFija, List.isChain_cons]
    exact ⟨fun siguiente hsig => tablaFija_head _ _ siguiente hsig, ih _⟩

/-! ## What the configuration asks for -/

/-- One free partition per configured size, in order, the first at the start of
the user memory and each of the others where the previous one ends. -/
structure TablaPedida (memoriaUsuario : ℤ) (elementos : List CString) (l : List TParticion) :
    Prop where
  tamanios : l.map TParticion.tamanio = elementos.map atoi
  libres : ∀ particion ∈ l, particion.estado = 0
  primera : ∀ particion ∈ l.head?, particion.base = memoriaUsuario
  seguidas : l.IsChain fun anterior siguiente =>
    siguiente.base = anterior.base + anterior.tamanio.toInt

/-- What start-up owes to each value of `esquema`, for the list `r` it builds or
its exit. -/
structure ArranquePedido (esquema : CString) (memoriaUsuario : ℤ) (tamTotalMemoria : Int32)
    (elementos : List CString) (r : Option (List TParticion)) : Prop where
  fijas : esquema.bytes = ascii "FIJAS" → ∀ l, r = some l → TablaPedida memoriaUsuario elementos l
  dinamicas : esquema.bytes = ascii "DINAMICAS" →
    ∃ particion, r = some [particion] ∧ particion.estado = 0 ∧
      particion.range = userMemory memoriaUsuario tamTotalMemoria
  otro : esquema.bytes ≠ ascii "FIJAS" → esquema.bytes ≠ ascii "DINAMICAS" → r = none

theorem tablaPedida_tablaFija (memoriaUsuario : ℤ) (elementos : List CString) :
    TablaPedida memoriaUsuario elementos (tablaFija memoriaUsuario elementos) where
  tamanios := tablaFija_map_tamanio _ _
  libres := tablaFija_libre _ _
  primera := tablaFija_head _ _
  seguidas := tablaFija_seguidas _ _

theorem gestionarParticiones_fijas {esquema : CString} {memoriaUsuario : ℤ}
    {tamTotalMemoria : Int32} {elementos : List CString} {l : List TParticion}
    (hesquema : esquema.bytes = ascii "FIJAS")
    (h : gestionarParticiones esquema memoriaUsuario tamTotalMemoria elementos = some l) :
    l = tablaFija memoriaUsuario elementos := by
  unfold gestionarParticiones at h
  rw [if_pos hesquema, agregarParticiones_eq, List.nil_append] at h
  split at h
  · exact (Option.some.inj h).symm
  · simp at h

/-- **Start-up builds the table the configuration asks for exactly under `FIJAS`.**
`DINAMICAS` exits, and every other string builds the partition of `DINAMICAS`. -/
theorem arranquePedido_iff (esquema : CString) (memoriaUsuario : ℤ) (tamTotalMemoria : Int32)
    (elementos : List CString) :
    ArranquePedido esquema memoriaUsuario tamTotalMemoria elementos
        (gestionarParticiones esquema memoriaUsuario tamTotalMemoria elementos) ↔
      esquema.bytes = ascii "FIJAS" := by
  constructor
  · intro h
    by_contra hfijas
    by_cases hdinamicas : esquema.bytes = ascii "DINAMICAS"
    · obtain ⟨particion, hr, -⟩ := h.dinamicas hdinamicas
      unfold gestionarParticiones at hr
      rw [if_neg hfijas, if_neg (not_not_intro hdinamicas)] at hr
      simp at hr
    · have hr := h.otro hfijas hdinamicas
      unfold gestionarParticiones at hr
      rw [if_neg hfijas, if_pos hdinamicas] at hr
      simp at hr
  · intro hfijas
    refine ⟨fun _ l hl => ?_, fun hdinamicas => ?_, fun hotro => absurd hfijas hotro⟩
    · rw [gestionarParticiones_fijas hfijas hl]
      exact tablaPedida_tablaFija memoriaUsuario elementos
    · rw [hfijas] at hdinamicas
      exact absurd hdinamicas (by decide)

/-- `DINAMICAS` with 1024 bytes: start-up exits. -/
theorem not_arranquePedido_dinamicas :
    ¬ ArranquePedido (CString.ofBytes (ascii "DINAMICAS")) 4096 1024 []
      (gestionarParticiones (CString.ofBytes (ascii "DINAMICAS")) 4096 1024 []) := by
  intro h
  obtain ⟨particion, hr, -⟩ := h.dinamicas (by decide)
  have hexit : gestionarParticiones (CString.ofBytes (ascii "DINAMICAS")) 4096 1024 [] = none := by
    decide
  rw [hexit] at hr
  simp at hr

end SoTp.Memoria
