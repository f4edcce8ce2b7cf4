import SoTp.Lib.Walk
import SoTp.Memoria.Arranque

/-!
# The partitions of `FIJAS` in the user memory

The loop of `gestionar_particiones` (`memoria/src/main.c`, lines 152–177) moves
`ptr_base_particion` by each configured size, and checks that a partition does not start
before the user memory nor end behind it. It does not check the sign of a size.

* `tablaSana_iff`: **exactly when an accepted table is sound**: no positive size comes after a
  negative one, and the sizes do not add up to less than 0.
-/

namespace SoTp.Memoria

open SoTp.Lib SoTp.Cpu

/-! ## Specification -/

/-- The partition starts and ends in the user memory, at its limits or between them. -/
def Contenida (memoriaUsuario : ℤ) (tamTotalMemoria : Int32) (particion : TParticion) : Prop :=
  particion.base ∈ Set.Icc memoriaUsuario (memoriaUsuario + tamTotalMemoria.toInt) ∧
    particion.base + particion.tamanio.toInt ∈
      Set.Icc memoriaUsuario (memoriaUsuario + tamTotalMemoria.toInt)

/-- All partitions lie inside the user memory, and no two of them share a byte. -/
structure TablaSana (memoriaUsuario : ℤ) (tamTotalMemoria : Int32) (l : List TParticion) :
    Prop where
  dentro : ∀ particion ∈ l, Contenida memoriaUsuario tamTotalMemoria particion
  disjuntas : (l.map TParticion.range).Pairwise Disjoint

/-- The configured sizes, as `atoi` reads them. -/
def tamaniosFijos (elementos : List CString) : List ℤ :=
  elementos.map fun elemento => (atoi elemento).toInt

/-! ## The table as a walk -/

theorem tablaFija_bases (base : ℤ) (elementos : List CString) :
    (tablaFija base elementos).map TParticion.base = starts base (tamaniosFijos elementos) := by
  induction elementos generalizing base with
  | nil => rfl
  | cons elemento elementos ih =>
    rw [tablaFija, List.map_cons, ih]
    rfl

theorem tablaFija_fines (base : ℤ) (elementos : List CString) :
    (tablaFija base elementos).map (fun particion => particion.base + particion.tamanio.toInt) =
      ends base (tamaniosFijos elementos) := by
  induction elementos generalizing base with
  | nil => rfl
  | cons elemento elementos ih =>
    rw [tablaFija, List.map_cons, ih]
    rfl

theorem tablaFija_rangos (base : ℤ) (elementos : List CString) :
    (tablaFija base elementos).map TParticion.range =
      stretches base (tamaniosFijos elementos) := by
  induction elementos generalizing base with
  | nil => rfl
  | cons elemento elementos ih =>
    rw [tablaFija, List.map_cons, ih]
    rfl

theorem enMemoria_of_gestionarParticiones {esquema : CString} {memoriaUsuario : ℤ}
    {tamTotalMemoria : Int32} {elementos : List CString} {l : List TParticion}
    (hesquema : esquema.bytes = ascii "FIJAS")
    (h : gestionarParticiones esquema memoriaUsuario tamTotalMemoria elementos = some l) :
    ∀ particion ∈ l, EnMemoria memoriaUsuario tamTotalMemoria particion := by
  obtain rfl := gestionarParticiones_fijas hesquema h
  unfold gestionarParticiones at h
  rw [if_pos hesquema, agregarParticiones_eq] at h
  by_contra hfuera
  rw [if_neg hfuera] at h
  cases h

/-- The partitions of an accepted table end in the user memory when the last one does. -/
theorem contenida_tablaFija_iff {memoriaUsuario : ℤ} {tamTotalMemoria : Int32}
    {elementos : List CString} (h0 : 0 < tamTotalMemoria)
    (hrango : ∀ particion ∈ tablaFija memoriaUsuario elementos,
      EnMemoria memoriaUsuario tamTotalMemoria particion) :
    (∀ particion ∈ tablaFija memoriaUsuario elementos,
        Contenida memoriaUsuario tamTotalMemoria particion) ↔
      0 ≤ (tamaniosFijos elementos).sum := by
  have hbases : ∀ y ∈ starts memoriaUsuario (tamaniosFijos elementos), memoriaUsuario ≤ y := by
    rw [← tablaFija_bases, List.forall_mem_map]
    exact fun particion hp => (hrango particion hp).1
  have hfines : ∀ y ∈ ends memoriaUsuario (tamaniosFijos elementos),
      y ≤ memoriaUsuario + tamTotalMemoria.toInt := by
    rw [← tablaFija_fines, List.forall_mem_map]
    exact fun particion hp => (hrango particion hp).2
  have hmemoria : memoriaUsuario ≤ memoriaUsuario + tamTotalMemoria.toInt := by
    rw [Int32.lt_iff_toInt_lt, Int32.toInt_zero] at h0
    omega
  have hbases' := forall_starts_le _ _ hfines hmemoria
  rw [← tablaFija_bases, List.forall_mem_map] at hbases'
  have hsuma := forall_ends_ge_iff _ _ hbases le_rfl
  rw [← tablaFija_fines, List.forall_mem_map, le_add_iff_nonneg_right] at hsuma
  rw [← hsuma]
  constructor
  · intro h particion hp
    exact (h particion hp).2.1
  · intro h particion hp
    obtain ⟨hbase, hfin⟩ := hrango particion hp
    exact ⟨⟨hbase, hbases' particion hp⟩, h particion hp, hfin⟩

/-! ## When an accepted table is sound -/

/-- **Exactly when an accepted table of `FIJAS` is sound**: for every list of configured
strings, every position of the user memory and every positive size of it. -/
theorem tablaSana_iff (esquema : CString) (memoriaUsuario : ℤ) (tamTotalMemoria : Int32)
    (elementos : List CString) (l : List TParticion) (hesquema : esquema.bytes = ascii "FIJAS")
    (h0 : 0 < tamTotalMemoria)
    (h : gestionarParticiones esquema memoriaUsuario tamTotalMemoria elementos = some l) :
    TablaSana memoriaUsuario tamTotalMemoria l ↔
      NoReturn (tamaniosFijos elementos) ∧ 0 ≤ (tamaniosFijos elementos).sum := by
  have hrango := enMemoria_of_gestionarParticiones hesquema h
  obtain rfl := gestionarParticiones_fijas hesquema h
  have hbases : ∀ y ∈ starts memoriaUsuario (tamaniosFijos elementos), memoriaUsuario ≤ y := by
    rw [← tablaFija_bases, List.forall_mem_map]
    exact fun particion hp => (hrango particion hp).1
  have hdisjuntas := pairwise_disjoint_stretches_iff memoriaUsuario _ hbases
  rw [← tablaFija_rangos] at hdisjuntas
  rw [← contenida_tablaFija_iff h0 hrango, ← hdisjuntas]
  constructor
  · intro hsana
    exact ⟨hsana.disjuntas, hsana.dentro⟩
  · rintro ⟨hdisj, hdentro⟩
    exact ⟨hdentro, hdisj⟩

/-- Partitions of 64 and 128 bytes in a memory of 1024. -/
theorem tablaSana_dos :
    TablaSana 4096 1024 [⟨64, 0, 4096⟩, ⟨128, 0, 4160⟩] :=
  (tablaSana_iff (CString.ofBytes (ascii "FIJAS")) 4096 1024
    [CString.ofBytes (ascii "64"), CString.ofBytes (ascii "128")]
    [⟨64, 0, 4096⟩, ⟨128, 0, 4160⟩] (by decide) (by decide) (by decide)).mpr (by decide)

/-- `PARTICIONES=[64,-32,64]`: the third partition starts in the middle of the first one. -/
theorem not_tablaSana_negativa :
    gestionarParticiones (CString.ofBytes (ascii "FIJAS")) 4096 1024
        ([ascii "64", ascii "-32", ascii "64"].map CString.ofBytes) =
      some [⟨64, 0, 4096⟩, ⟨-32, 0, 4160⟩, ⟨64, 0, 4128⟩] ∧
      ¬ TablaSana 4096 1024 [⟨64, 0, 4096⟩, ⟨-32, 0, 4160⟩, ⟨64, 0, 4128⟩] := by
  refine ⟨by decide, fun h => ?_⟩
  obtain ⟨hprimera, -⟩ := List.pairwise_cons.mp h.disjuntas
  have hdisjuntas : Disjoint (TParticion.range ⟨64, 0, 4096⟩) (TParticion.range ⟨64, 0, 4128⟩) :=
    hprimera _ (List.mem_cons_of_mem _ List.mem_cons_self)
  have hleft : (4128 : ℤ) ∈ TParticion.range ⟨64, 0, 4096⟩ := by
    constructor <;> decide
  have hright : (4128 : ℤ) ∈ TParticion.range ⟨64, 0, 4128⟩ := by
    constructor <;> decide
  exact Set.disjoint_left.mp hdisjuntas hleft hright

end SoTp.Memoria
