import SoTp.Memoria.AjusteFijo
import SoTp.Memoria.Reparto
import SoTp.Memoria.TablaFija

/-!
# The two schemes as allocators

Both schemes of memoria refine the allocator of `SoTp.Lib.Allocator`: no two live grants share
a byte, and the occupied partitions are the live grants.

* `run_fija`: **`FIJAS`, over every run of any calls.** `liberar_memoria` joins neighbours there
  too, and loses the bytes of one of them between two free ones; it keeps the order of the
  partitions in memory all the same, and that is enough.
* `run_dinamica`: **`DINAMICAS`, over every run whose sizes are positive and whose releases join
  neighbours in memory only.** The allocators append what they cut off, so that the list is in
  no order.
-/

namespace SoTp.Memoria

open SoTp.Lib SoTp.Cpu

/-! ## Fixed partitions stay in order -/

/-- `particion` ends where `otra` starts, or before. -/
def Antes (particion otra : TParticion) : Prop :=
  particion.base + particion.tamanio.toInt ≤ otra.base

/-- The partitions stand in the order of their addresses, inside the user memory, and none is
empty. -/
structure Ordenada (memoriaUsuario : ℤ) (tamTotalMemoria : Int32) (l : List TParticion) :
    Prop where
  orden : l.Pairwise Antes
  dentro : ∀ particion ∈ l, Dentro memoriaUsuario tamTotalMemoria particion
  pos : ∀ particion ∈ l, 0 < particion.tamanio

section

variable {memoriaUsuario : ℤ} {tamTotalMemoria : Int32} {l : List TParticion} {i : ℕ}
  {particion otra nueva : TParticion}

theorem Antes.disjoint (h : Antes particion otra) : Disjoint particion.range otra.range := by
  unfold Antes at h
  refine Set.disjoint_left.mpr fun x hx hx' => ?_
  have hfin := hx.2
  have hinicio := hx'.1
  omega

theorem Dentro.subset (h : Dentro memoriaUsuario tamTotalMemoria particion) :
    particion.range ⊆ userMemory memoriaUsuario tamTotalMemoria :=
  Set.Ico_subset_Ico h.lower h.upper

theorem Ordenada.sana (h : Ordenada memoriaUsuario tamTotalMemoria l) :
    Sana memoriaUsuario tamTotalMemoria l where
  packing := ⟨List.pairwise_map.mpr (h.orden.imp Antes.disjoint),
    List.forall_mem_map.mpr fun p hp => (h.dentro p hp).subset⟩
  dentro := h.dentro
  pos := h.pos

/-- Another mark. -/
theorem Ordenada.set (h : Ordenada memoriaUsuario tamTotalMemoria l) (hget : l[i]? = some particion)
    (hpar : nueva.par = particion.par) :
    Ordenada memoriaUsuario tamTotalMemoria (l.set i nueva) := by
  obtain ⟨hbase, htamanio⟩ := Prod.mk.inj hpar
  have hmem : particion ∈ l := List.mem_of_getElem? hget
  have hforall {P : TParticion → Prop} (hl : ∀ p ∈ l, P p) (hnueva : P nueva) :
      ∀ p ∈ l.set i nueva, P p := fun p hp =>
    (List.mem_or_eq_of_mem_set hp).elim (hl p) fun heq => heq ▸ hnueva
  refine ⟨?_, hforall h.dentro ?_, hforall h.pos (htamanio ▸ h.pos particion hmem)⟩
  · refine pairwise_set h.orden hget (fun x hx => ?_) fun y hy => ?_
    · unfold Antes at hx ⊢
      rwa [hbase]
    · have hantes := rel_of_mem_drop_succ h.orden hget y hy
      unfold Antes at hantes ⊢
      rwa [hbase, htamanio]
  · obtain ⟨hnonneg, hlower, hupper⟩ := h.dentro particion hmem
    exact ⟨htamanio ▸ hnonneg, hbase ▸ hlower, by rwa [hbase, htamanio]⟩

/-- Two neighbours in the list joined to one partition that starts where the first one does
and has as many bytes as both: what lies between them may be more. -/
theorem Ordenada.fusion (h : Ordenada memoriaUsuario tamTotalMemoria l)
    (hget : l[i]? = some particion) (hnext : l[i + 1]? = some otra)
    (hpar : nueva.par = (particion.mas otra).par) :
    Ordenada memoriaUsuario tamTotalMemoria ((l.set i nueva).eraseIdx (i + 1)) := by
  obtain ⟨hbase, htamanio⟩ := Prod.mk.inj hpar
  have hmem : particion ∈ l := List.mem_of_getElem? hget
  have hmem' : otra ∈ l := List.mem_of_getElem? hnext
  obtain ⟨-, hlower, -⟩ := h.dentro particion hmem
  obtain ⟨-, -, hupper⟩ := h.dentro otra hmem'
  have hpos := Int32.lt_iff_toInt_lt.mp (h.pos particion hmem)
  have hpos' := Int32.lt_iff_toInt_lt.mp (h.pos otra hmem')
  rw [Int32.toInt_zero] at hpos hpos'
  have hmax := tamTotalMemoria.toInt_lt
  have hantes : particion.base + particion.tamanio.toInt ≤ otra.base := by
    obtain ⟨hlt, rfl⟩ := List.getElem?_eq_some_iff.mp hnext
    refine rel_of_mem_drop_succ h.orden hget _ ?_
    rw [List.drop_eq_getElem_cons hlt]
    exact List.mem_cons_self
  -- both sizes are part of the user memory, so that the sum does not overflow
  have hsuma : nueva.tamanio.toInt = particion.tamanio.toInt + otra.tamanio.toInt := by
    rw [htamanio]
    show (particion.tamanio + otra.tamanio).toInt = _
    rw [Int32.toInt_add]
    exact Int.bmod_eq_of_le (by omega) (by omega)
  have hbase' : nueva.base = particion.base := hbase
  have hforall {P : TParticion → Prop} (hl : ∀ p ∈ l, P p) (hnueva : P nueva) :
      ∀ p ∈ (l.set i nueva).eraseIdx (i + 1), P p := fun p hp =>
    (List.mem_or_eq_of_mem_set (List.mem_of_mem_eraseIdx hp)).elim (hl p) fun heq => heq ▸ hnueva
  refine ⟨?_, hforall h.dentro ⟨?_, ?_, ?_⟩, hforall h.pos ?_⟩
  · refine pairwise_set_eraseIdx h.orden hget hnext (fun x hx => ?_) fun y hy => ?_
    · unfold Antes at hx ⊢
      rwa [hbase']
    · unfold Antes at hy ⊢
      omega
  · rw [Int32.le_iff_toInt_le, Int32.toInt_zero]
    omega
  · omega
  · omega
  · rw [Int32.lt_iff_toInt_lt, Int32.toInt_zero]
    omega

theorem Ordenada.erase (h : Ordenada memoriaUsuario tamTotalMemoria l) (i : ℕ) :
    Ordenada memoriaUsuario tamTotalMemoria (l.eraseIdx i) where
  orden := h.orden.sublist (List.eraseIdx_sublist l i)
  dentro := fun p hp => h.dentro p (List.mem_of_mem_eraseIdx hp)
  pos := fun p hp => h.pos p (List.mem_of_mem_eraseIdx hp)

/-- **Whatever a release joins or loses, the partitions stay in order.** -/
theorem liberarMemoria_ordenada (h : Ordenada memoriaUsuario tamTotalMemoria l)
    {freeReturns : ℤ → Bool} {base : ℤ} {l' : List TParticion}
    (hl' : liberarMemoria freeReturns base l = some l') :
    Ordenada memoriaUsuario tamTotalMemoria l' := by
  rcases liberarMemoria_cases hl' with rfl | ⟨i, particion, -, hget, hliberada⟩
  · exact h
  · -- the partition in front of `i`, when there is one, and the one at `i`
    have hfusion (anterior : TParticion) (hi : 0 < i) (hant : l[i - 1]? = some anterior) :
        Ordenada memoriaUsuario tamTotalMemoria
          ((l.set (i - 1) (anterior.mas particion)).eraseIdx i) := by
      obtain ⟨k, rfl⟩ : ∃ k, i = k + 1 := ⟨i - 1, by omega⟩
      exact h.fusion hant hget rfl
    cases hliberada with
    | marcada => exact h.set hget rfl
    | conSiguiente siguiente hsig hlibre hant => exact h.fusion hget hsig rfl
    | conAnterior anterior hi hant hlibre => exact hfusion anterior hi hant
    | conAnteriorYSiguiente anterior hi hant hlibre => exact (hfusion anterior hi hant).erase i

section

variable {tamProceso : Int32} {elegida : Option ℕ}

theorem concesion_ocuparElegida (h : ∀ k, elegida = some k → ∃ p : TParticion, l[k]? = some p ∧
    p.estado = 0 ∧ tamProceso ≤ p.tamanio) : Concesion l tamProceso (ocuparElegida l elegida) := by
  cases elegida with
  | none => exact .ninguna
  | some k =>
    obtain ⟨p, hget, hlibre, hle⟩ := h k rfl
    have hnil : ∀ q ∈ ([] : List TParticion), q.estado = 0 := fun q hq =>
      absurd hq List.not_mem_nil
    have hen := Concesion.en k p p.tomada [] hget hlibre hle (tomada_estado_ne p) ⟨rfl, hle⟩ hnil
    rw [List.append_nil] at hen
    rw [ocuparElegida_eq hget]
    exact hen

theorem Ordenada.ocuparElegida (h : Ordenada memoriaUsuario tamTotalMemoria l)
    (elegida : Option ℕ) :
    Ordenada memoriaUsuario tamTotalMemoria (Memoria.ocuparElegida l elegida).2 := by
  unfold Memoria.ocuparElegida
  split
  · exact h
  · split
    · exact h
    · rename_i hget
      exact h.set hget rfl

end

/-- One call on fixed partitions. -/
theorem fija_fiel {m m' : Reparto} {llamada : LlamadaFija}
    (hl : Ordenada memoriaUsuario tamTotalMemoria m.lista)
    (h : m.Fiel memoriaUsuario tamTotalMemoria) (hm' : m.fija llamada = some m') :
    (Ordenada memoriaUsuario tamTotalMemoria m'.lista ∧
        m'.Fiel memoriaUsuario tamTotalMemoria) ∧
      Serves (userMemory memoriaUsuario tamTotalMemoria) bloque m.vivas m'.vivas := by
  have hconceder (tamProceso : Int32) (elegida : Option ℕ)
      (helegida : ∀ k, elegida = some k → ∃ p : TParticion, m.lista[k]? = some p ∧
        p.estado = 0 ∧ tamProceso ≤ p.tamanio)
      (heq : m' = m.conceder tamProceso (ocuparElegida m.lista elegida)) :
      (Ordenada memoriaUsuario tamTotalMemoria m'.lista ∧
          m'.Fiel memoriaUsuario tamTotalMemoria) ∧
        Serves (userMemory memoriaUsuario tamTotalMemoria) bloque m.vivas m'.vivas := by
    have hordenada := hl.ocuparElegida elegida
    obtain ⟨hfiel, hserves⟩ := conceder_fiel h (concesion_ocuparElegida helegida) hordenada.sana
    rw [heq]
    exact ⟨⟨hordenada, hfiel⟩, hserves⟩
  cases llamada with
  | firstFit tamProceso =>
    exact hconceder tamProceso _ (fun k => EstrategiaDin.elegida_candidata (e := .firstFit))
      (Option.some.inj hm').symm
  | bestFit tamProceso =>
    exact hconceder tamProceso _ (fun k => EstrategiaDin.elegida_candidata (e := .bestFit))
      (Option.some.inj hm').symm
  | worstFit tamProceso =>
    refine hconceder tamProceso _ (fun k hk => ?_) (Option.some.inj hm').symm
    rcases ajusteLoop_candidata m.lista 0 (none, -1) hk with hnone | ⟨p, -, hget, hp⟩
    · cases hnone
    · unfold candidata at hp
      rw [Bool.and_eq_true, decide_eq_true_iff, decide_eq_true_iff] at hp
      exact ⟨p, hget, hp.1, Int32.le_of_lt hp.2⟩
  | liberar freeReturns base =>
    obtain ⟨l', hl', rfl⟩ := Option.map_eq_some_iff.mp hm'
    have hordenada := liberarMemoria_ordenada hl hl'
    obtain ⟨hfiel, hserves⟩ := liberar_fiel h hm' hordenada.sana
    exact ⟨⟨hordenada, hfiel⟩, hserves⟩

end

theorem base_le_of_mem_tablaFija {elementos : List CString} (hpos : ∀ e ∈ elementos, 0 < atoi e)
    {base : ℤ} : ∀ p ∈ tablaFija base elementos, base ≤ p.base ∧ 0 < p.tamanio := by
  induction elementos generalizing base with
  | nil => exact fun p hp => absurd hp List.not_mem_nil
  | cons e elementos ih =>
    obtain ⟨he, hpos⟩ := List.forall_mem_cons.mp hpos
    refine List.forall_mem_cons.mpr ⟨⟨le_rfl, he⟩, fun p hp => ?_⟩
    obtain ⟨hbase, hp⟩ := ih hpos p hp
    rw [Int32.lt_iff_toInt_lt, Int32.toInt_zero] at he
    exact ⟨by omega, hp⟩

theorem pairwise_antes_tablaFija {elementos : List CString} (hpos : ∀ e ∈ elementos, 0 < atoi e)
    (base : ℤ) : (tablaFija base elementos).Pairwise Antes := by
  induction elementos generalizing base with
  | nil => exact List.Pairwise.nil
  | cons e elementos ih =>
    obtain ⟨-, hpos⟩ := List.forall_mem_cons.mp hpos
    exact List.pairwise_cons.mpr
      ⟨fun p hp => (base_le_of_mem_tablaFija hpos p hp).1, ih hpos _⟩

theorem fiel_inicial {memoriaUsuario : ℤ} {tamTotalMemoria : Int32} {l : List TParticion}
    (hsana : Sana memoriaUsuario tamTotalMemoria l) (hlibre : ∀ p ∈ l, p.estado = 0) :
    (⟨l, []⟩ : Reparto).Fiel memoriaUsuario tamTotalMemoria := by
  refine ⟨hsana, ?_⟩
  have hnil : ocupadas l = [] := by
    refine List.filter_eq_nil_iff.mpr fun p hp => ?_
    simpa using hlibre p hp
  rw [hnil]
  exact .zero

/-- **`FIJAS` is an allocator, whatever is called.** From a table of positive sizes that start-up
accepts, after every run of calls that completes, with releases of any bases and whatever
partitions they have joined or lost: the live grants came about by the steps of the allocator,
they lie inside the user memory and no two of them share a byte, and the occupied partitions
are one for each live grant, at its base and large enough. -/
theorem run_fija (memoriaUsuario : ℤ) (tamTotalMemoria : Int32) (elementos : List CString)
    (l : List TParticion) (llamadas : List LlamadaFija) (m : Reparto)
    (hpos : ∀ elemento ∈ elementos, 0 < atoi elemento)
    (hl : gestionarParticiones (CString.ofBytes (ascii "FIJAS")) memoriaUsuario tamTotalMemoria
      elementos = some l)
    (hrun : run Reparto.fija ⟨l, []⟩ llamadas = some m) :
    Relation.ReflTransGen (Serves (userMemory memoriaUsuario tamTotalMemoria) bloque) [] m.vivas ∧
      Packing (userMemory memoriaUsuario tamTotalMemoria) (m.vivas.map bloque) ∧
      Multiset.Rel Aloja (ocupadas m.lista : Multiset TParticion) m.vivas ∧
      m.lista.Pairwise Antes := by
  have hesquema : (CString.ofBytes (ascii "FIJAS")).bytes = ascii "FIJAS" := by decide
  have hrango := enMemoria_of_gestionarParticiones hesquema hl
  obtain rfl := gestionarParticiones_fijas hesquema hl
  have hordenada :
      Ordenada memoriaUsuario tamTotalMemoria (tablaFija memoriaUsuario elementos) := by
    refine ⟨pairwise_antes_tablaFija hpos _, fun p hp => ?_,
      fun p hp => (base_le_of_mem_tablaFija hpos p hp).2⟩
    exact ⟨Int32.le_of_lt (base_le_of_mem_tablaFija hpos p hp).2, (hrango p hp).1,
      (hrango p hp).2⟩
  have hfiel := fiel_inicial hordenada.sana (tablaFija_libre memoriaUsuario elementos)
  obtain ⟨⟨hordenada', hfiel'⟩, hserves⟩ := run_serves
    (fun m : Reparto => Ordenada memoriaUsuario tamTotalMemoria m.lista ∧
      m.Fiel memoriaUsuario tamTotalMemoria) Reparto.vivas
    (fun _ _ _ hm _ hm' => fija_fiel hm.1 hm.2 hm') ⟨hordenada, hfiel⟩ (along_true _ _) hrun
  exact ⟨hserves, serves_packing hserves, hfiel'.alojadas, hordenada'.orden⟩

/-- Partitions of 16, 32 and 64 bytes and one that stays free. All three are granted, the second
one is released, then the first one, which is joined to it, and 40 bytes are granted in the
48 of both. -/
theorem run_fija_tres :
    Relation.ReflTransGen (Serves (userMemory 4096 256) bloque) [] [(4096, 40), (4144, 60)] ∧
      Packing (userMemory 4096 256) (([(4096, 40), (4144, 60)] : List (ℤ × Int32)).map bloque) ∧
      Multiset.Rel Aloja
        (ocupadas [⟨48, 1, 4096⟩, ⟨64, 1, 4144⟩, ⟨128, 0, 4208⟩] : Multiset TParticion)
        ([(4096, 40), (4144, 60)] : List (ℤ × Int32)) ∧
      ([⟨48, 1, 4096⟩, ⟨64, 1, 4144⟩, ⟨128, 0, 4208⟩] : List TParticion).Pairwise Antes :=
  run_fija 4096 256
    [CString.ofBytes (ascii "16"), CString.ofBytes (ascii "32"), CString.ofBytes (ascii "64"),
      CString.ofBytes (ascii "128")]
    [⟨16, 0, 4096⟩, ⟨32, 0, 4112⟩, ⟨64, 0, 4144⟩, ⟨128, 0, 4208⟩]
    [.firstFit 10, .bestFit 20, .firstFit 60, .liberar (fun _ => true) 4112,
      .liberar (fun _ => true) 4096, .bestFit 40]
    ⟨[⟨48, 1, 4096⟩, ⟨64, 1, 4144⟩, ⟨128, 0, 4208⟩], [(4096, 40), (4144, 60)]⟩
    (by decide) (by decide) (by decide)

/-! ## Dynamic partitions -/

section

variable {memoriaUsuario : ℤ} {tamTotalMemoria : Int32} {l : List TParticion}

/-- What a strategy does to a dynamic list is a grant. -/
theorem EstrategiaDin.concesion (e : EstrategiaDin) (l : List TParticion) (tamProceso : Int32) :
    Concesion l tamProceso (e.asignar l tamProceso) := by
  rcases e.asignar_cases l tamProceso with hnone | ⟨i, particion, hget, hlibre, hle, hsome⟩
  · rw [hnone]
    exact .ninguna
  · rw [hsome]
    refine .en i particion _ _ hget hlibre hle ?_ ⟨rfl, Int32.le_refl _⟩ fun p hp => ?_
    · show (1 : Int32) ≠ 0
      decide
    · unfold resto at hp
      split at hp
      · rw [List.mem_singleton.mp hp]
      · exact absurd hp List.not_mem_nil

/-- A grant of a positive size leaves no partition empty. -/
theorem asignar_sana (h : Sana memoriaUsuario tamTotalMemoria l) (e : EstrategiaDin)
    {tamProceso : Int32} (hpos : 0 < tamProceso) :
    Sana memoriaUsuario tamTotalMemoria (e.asignar l tamProceso).2 := by
  refine ⟨asignar_packed h.toPacked e (Int32.le_of_lt hpos), ?_⟩
  rcases e.asignar_cases l tamProceso with hnone | ⟨i, particion, -, -, hle, hsome⟩
  · rw [hnone]
    exact h.pos
  · rw [hsome]
    intro p hp
    rcases List.mem_append.mp hp with hp | hp
    · rcases List.mem_or_eq_of_mem_set hp with hp | rfl
      · exact h.pos p hp
      · exact hpos
    · unfold resto at hp
      split at hp
      · rename_i hgt
        have hsub := toInt_sub_of_le (Int32.le_of_lt hpos) hle
        rw [gt_iff_lt, Int32.lt_iff_toInt_lt] at hgt
        rw [List.mem_singleton.mp hp, Int32.lt_iff_toInt_lt, Int32.toInt_zero]
        show 0 < (particion.tamanio - tamProceso).toInt
        omega
      · exact absurd hp List.not_mem_nil

theorem Sana.mas_pos (h : Sana memoriaUsuario tamTotalMemoria l) {particion otra : TParticion}
    (hp : particion ∈ l) (ho : otra ∈ l)
    (hcontigua : particion.base + particion.tamanio.toInt = otra.base) :
    0 < (particion.mas otra).tamanio := by
  rw [← base_mem_range_iff, ((h.dentro particion hp).mas (h.dentro otra ho) hcontigua).2]
  exact Or.inl (base_mem_range_iff.mpr (h.pos particion hp))

/-- A release that joins neighbours in memory leaves no partition empty. -/
theorem liberarMemoria_sana (h : Sana memoriaUsuario tamTotalMemoria l) {freeReturns : ℤ → Bool}
    {base : ℤ} {l' : List TParticion} (hcontigua : FusionContigua l base)
    (hl' : liberarMemoria freeReturns base l = some l') :
    Sana memoriaUsuario tamTotalMemoria l' := by
  refine ⟨(liberarMemoria_packed h.toPacked hcontigua hl').1, ?_⟩
  rcases liberarMemoria_cases hl' with rfl | ⟨i, particion, hbuscar, hget, hliberada⟩
  · exact h.pos
  · obtain ⟨hanterior, hsiguiente⟩ := hcontigua i particion hbuscar hget
    have hmem : particion ∈ l := List.mem_of_getElem? hget
    have hset (k : ℕ) (nueva : TParticion) (hnueva : 0 < nueva.tamanio) :
        ∀ p ∈ l.set k nueva, 0 < p.tamanio := fun p hp =>
      (List.mem_or_eq_of_mem_set hp).elim (h.pos p) fun heq => heq ▸ hnueva
    cases hliberada with
    | marcada => exact hset i particion.libre (h.pos particion hmem)
    | conSiguiente siguiente hsig hlibre hant =>
      have hmas := h.mas_pos hmem (List.mem_of_getElem? hsig)
        (hsiguiente siguiente hant hsig hlibre)
      exact fun p hp => hset i (particion.libre.mas siguiente) hmas p (List.mem_of_mem_eraseIdx hp)
    | conAnterior anterior hi hant hlibre =>
      have hmas := h.mas_pos (List.mem_of_getElem? hant) hmem (hanterior anterior hi hant hlibre)
      exact fun p hp => hset _ _ hmas p (List.mem_of_mem_eraseIdx hp)
    | conAnteriorYSiguiente anterior hi hant hlibre =>
      have hmas := h.mas_pos (List.mem_of_getElem? hant) hmem (hanterior anterior hi hant hlibre)
      exact fun p hp => hset _ _ hmas p (List.mem_of_mem_eraseIdx (List.mem_of_mem_eraseIdx hp))

/-- The size asked for is positive, and what a release joins are neighbours in memory. -/
def PedidoSano (m : Reparto) : Pedido → Prop
  | .asignar _ tamProceso => 0 < tamProceso
  | .liberar _ base => FusionContigua m.lista base

theorem dinamica_fiel {m m' : Reparto} {pedido : Pedido}
    (h : m.Fiel memoriaUsuario tamTotalMemoria) (hsano : PedidoSano m pedido)
    (hm' : m.dinamica pedido = some m') :
    m'.Fiel memoriaUsuario tamTotalMemoria ∧
      Serves (userMemory memoriaUsuario tamTotalMemoria) bloque m.vivas m'.vivas := by
  cases pedido with
  | asignar e tamProceso =>
    obtain rfl := Option.some.inj hm'
    exact conceder_fiel h (e.concesion m.lista tamProceso) (asignar_sana h.sana e hsano)
  | liberar freeReturns base =>
    obtain ⟨l', hl', rfl⟩ := Option.map_eq_some_iff.mp hm'
    exact liberar_fiel h hm' (liberarMemoria_sana h.sana hsano hl')

end

/-- **`DINAMICAS` is an allocator while releases join neighbours in memory.** After every run
from start-up that completes, of grants of positive sizes by any strategies and of such
releases: the live grants came about by the steps of the allocator, they lie inside the user
memory and no two of them share a byte, and the occupied partitions are one for each live
grant, at its base and large enough. -/
theorem run_dinamica (memoriaUsuario : ℤ) (tamTotalMemoria : Int32) (h0 : 0 < tamTotalMemoria)
    (pedidos : List Pedido) (m : Reparto)
    (hsanos : Along Reparto.dinamica PedidoSano
      ⟨particionInicial memoriaUsuario tamTotalMemoria, []⟩ pedidos)
    (hrun : run Reparto.dinamica ⟨particionInicial memoriaUsuario tamTotalMemoria, []⟩ pedidos =
      some m) :
    Relation.ReflTransGen (Serves (userMemory memoriaUsuario tamTotalMemoria) bloque) [] m.vivas ∧
      Packing (userMemory memoriaUsuario tamTotalMemoria) (m.vivas.map bloque) ∧
      Multiset.Rel Aloja (ocupadas m.lista : Multiset TParticion) m.vivas := by
  have hsana : Sana memoriaUsuario tamTotalMemoria
      (particionInicial memoriaUsuario tamTotalMemoria) := by
    refine ⟨packed_particionInicial (Int32.le_of_lt h0), fun p hp => ?_⟩
    rw [List.mem_singleton.mp hp]
    exact h0
  have hlibre : ∀ p ∈ particionInicial memoriaUsuario tamTotalMemoria, p.estado = 0 := by
    intro p hp
    rw [List.mem_singleton.mp hp]
  obtain ⟨hfiel, hserves⟩ := run_serves
    (fun m : Reparto => m.Fiel memoriaUsuario tamTotalMemoria) Reparto.vivas
    (fun _ _ _ hm hsano hm' => dinamica_fiel hm hsano hm') (fiel_inicial hsana hlibre) hsanos hrun
  exact ⟨hserves, serves_packing hserves, hfiel.alojadas⟩

/-- Two processes of 160 and 64 bytes; the first one ends, and its neighbour in the list is the
occupied one. -/
theorem run_dinamica_dos :
    Relation.ReflTransGen (Serves (userMemory 4096 320) bloque) [] [(4256, 64)] ∧
      Packing (userMemory 4096 320) (([(4256, 64)] : List (ℤ × Int32)).map bloque) ∧
      Multiset.Rel Aloja
        (ocupadas [⟨160, 0, 4096⟩, ⟨64, 1, 4256⟩, ⟨96, 0, 4320⟩] : Multiset TParticion)
        ([(4256, 64)] : List (ℤ × Int32)) := by
  have hcontigua : FusionContigua [⟨160, 1, 4096⟩, ⟨64, 1, 4256⟩, ⟨96, 0, 4320⟩] 4096 := by
    intro i particion hbuscar hget
    have hcero : buscarBase [⟨160, 1, 4096⟩, ⟨64, 1, 4256⟩, ⟨96, 0, 4320⟩] 4096 = some 0 := by
      decide
    obtain rfl := Option.some.inj (hcero.symm.trans hbuscar)
    refine ⟨fun _ hi _ _ => absurd hi (lt_irrefl 0), fun siguiente _ hsig hlibre => ?_⟩
    obtain rfl := Option.some.inj hsig
    exact absurd hlibre (by decide)
  have h₁ : Reparto.dinamica ⟨particionInicial 4096 320, []⟩ (.asignar .firstFit 160) =
      some ⟨[⟨160, 1, 4096⟩, ⟨160, 0, 4256⟩], [(4096, 160)]⟩ := by decide
  have h₂ : Reparto.dinamica ⟨[⟨160, 1, 4096⟩, ⟨160, 0, 4256⟩], [(4096, 160)]⟩
      (.asignar .firstFit 64) = some ⟨[⟨160, 1, 4096⟩, ⟨64, 1, 4256⟩, ⟨96, 0, 4320⟩],
        [(4256, 64), (4096, 160)]⟩ := by decide
  have h₃ : Reparto.dinamica ⟨[⟨160, 1, 4096⟩, ⟨64, 1, 4256⟩, ⟨96, 0, 4320⟩],
      [(4256, 64), (4096, 160)]⟩ (.liberar (fun _ => true) 4096) =
      some ⟨[⟨160, 0, 4096⟩, ⟨64, 1, 4256⟩, ⟨96, 0, 4320⟩], [(4256, 64)]⟩ := by decide
  exact run_dinamica 4096 320 (by decide)
    [.asignar .firstFit 160, .asignar .firstFit 64, .liberar (fun _ => true) 4096]
    ⟨[⟨160, 0, 4096⟩, ⟨64, 1, 4256⟩, ⟨96, 0, 4320⟩], [(4256, 64)]⟩
    (along_cons h₁ (show (0 : Int32) < 160 by decide)
      (along_cons h₂ (show (0 : Int32) < 64 by decide) (along_cons h₃ hcontigua trivial)))
    (by decide)

end SoTp.Memoria
