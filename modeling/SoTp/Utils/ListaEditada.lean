import SoTp.Lib.Run
import SoTp.Utils.ListaTexto

/-!
# The list that a text stands for

`insertAtEnd` and `deleteValue` should append a value to a list and remove its first element equal
to one, and leave the text of the new list. `"["` and `"[]"` both stand for the empty list.

* `renderiza_insertado_iff`: appending goes wrong on `"[]"`, where it writes `"[,a]"`.
* `renderiza_borrado_iff`: removing goes wrong where `strstr` finds the value inside of
  another element first: `"[ab,a]"` without `"a"` is `"[b,a]"`.
* `edicion_iff`: **any sequence of calls** on `"["`.
-/

namespace SoTp.Utils

open SoTp.Lib

/-! ## The text of a list -/

/-- A value: not empty, without commas and without brackets. -/
structure Valor extends CString where
  ne_nil : bytes ≠ []
  noComa : (44 : UInt8) ∉ bytes
  noAbre : (91 : UInt8) ∉ bytes
  noCierra : (93 : UInt8) ∉ bytes
deriving DecidableEq

/-- The text of a list, like `"[a,b]"`. -/
def texto (l : List (List UInt8)) : List UInt8 := [91] ++ [44].intercalate l ++ [93]

/-- The text `s` stands for the list `l`. The list without elements has two texts. -/
def Renderiza (s : List UInt8) (l : List Valor) : Prop :=
  s = texto (l.map (·.bytes)) ∨ (l = [] ∧ s = [91])

instance (s : List UInt8) (l : List Valor) : Decidable (Renderiza s l) :=
  inferInstanceAs (Decidable (_ ∨ _))

/-- The part of a text in front of an element. -/
def cabeza (xs : List (List UInt8)) : List UInt8 := [91] ++ xs.flatMap (· ++ [44])

/-- The part behind it. -/
def cola (ys : List (List UInt8)) : List UInt8 := ys.flatMap (44 :: ·) ++ [93]

theorem texto_append_cons (xs : List (List UInt8)) (w : List UInt8) (ys : List (List UInt8)) :
    texto (xs ++ w :: ys) = cabeza xs ++ w ++ cola ys := by
  rw [texto, cabeza, cola, intercalate_append_cons]
  simp only [List.append_assoc]

theorem texto_inj {xs ys : List (List UInt8)} (hxs : ∀ x ∈ xs, 44 ∉ x) (hys : ∀ y ∈ ys, 44 ∉ y)
    (hx : xs ≠ []) (hy : ys ≠ []) (h : texto xs = texto ys) : xs = ys :=
  intercalate_singleton_inj hxs hys hx hy
    (List.append_cancel_left (List.append_cancel_right h))

theorem noComa_append_cons {xs ys : List (List UInt8)} {w : List UInt8} (hxs : ∀ x ∈ xs, 44 ∉ x)
    (hw : 44 ∉ w) (hys : ∀ y ∈ ys, 44 ∉ y) : ∀ x ∈ xs ++ w :: ys, 44 ∉ x :=
  List.forall_mem_append.mpr ⟨hxs, List.forall_mem_cons.mpr ⟨hw, hys⟩⟩

theorem eq_of_texto_eq {xs ys zs : List (List UInt8)} {w z : List UInt8}
    (hw : ∀ x ∈ xs ++ w :: ys, 44 ∉ x) (hz : ∀ x ∈ xs ++ z :: zs, 44 ∉ x)
    (h : texto (xs ++ w :: ys) = texto (xs ++ z :: zs)) : w = z := by
  have hlist := texto_inj hw hz (by simp) (by simp) h
  exact (List.cons.inj (List.append_cancel_left hlist)).1

theorem cabeza_concat (xs : List (List UInt8)) (x : List UInt8) :
    cabeza (xs ++ [x]) = cabeza xs ++ x ++ [44] := by
  rw [cabeza, List.flatMap_append, List.flatMap_singleton]
  simp only [cabeza, List.append_assoc]

theorem cola_cons (y : List UInt8) (ys : List (List UInt8)) :
    cola (y :: ys) = 44 :: (y ++ cola ys) := by
  rw [cola, List.flatMap_cons]
  simp only [cola, List.cons_append, List.append_assoc]

/-! ## Where the value is found -/

section

variable (v : Valor) {xs ys : List (List UInt8)} {w p q : List UInt8}

theorem strstr_cabeza (h : ∀ x ∈ xs, strstr v.bytes x = none) (rest : List UInt8) :
    strstr v.bytes (cabeza xs ++ rest) =
      (strstr v.bytes rest).map (· + (cabeza xs).length) := by
  rw [cabeza, List.append_assoc, List.singleton_append]
  have hnil := strstr_append_cons_of_none v.noAbre (strstr_nil v.ne_nil)
    (xs.flatMap (· ++ [44]) ++ rest)
  rw [List.nil_append] at hnil
  rw [hnil, strstr_flatMap v.noComa h, Option.map_map]
  congr 1

theorem strstr_texto_of_some {i : ℕ} (h : ∀ x ∈ xs, strstr v.bytes x = none)
    (hw : strstr v.bytes w = some i) :
    strstr v.bytes (texto (xs ++ w :: ys)) = some ((cabeza xs).length + i) := by
  have hrest : strstr v.bytes (w ++ cola ys) = some i := by
    cases ys with
    | nil => exact strstr_append_cons_of_some v.noCierra hw []
    | cons y ys =>
      rw [cola_cons]
      exact strstr_append_cons_of_some v.noComa hw _
  rw [texto_append_cons, List.append_assoc, strstr_cabeza v h, hrest, Option.map_some,
    Nat.add_comm]

theorem strstr_texto_of_none {l : List (List UInt8)} (h : ∀ x ∈ l, strstr v.bytes x = none) :
    strstr v.bytes (texto l) = none := by
  have hfin : ∀ {w : List UInt8}, strstr v.bytes w = none → strstr v.bytes (w ++ [93]) = none := by
    intro w hw
    rw [strstr_append_cons_of_none v.noCierra hw, strstr_nil v.ne_nil, Option.map_none]
  rcases List.eq_nil_or_concat' l with rfl | ⟨xs, w, rfl⟩
  · rw [show texto [] = cabeza [] ++ ([] ++ [93]) from rfl, strstr_cabeza v h,
      hfin (strstr_nil v.ne_nil), Option.map_none]
  · obtain ⟨hxs, hw⟩ := List.forall_mem_append.mp h
    rw [texto_append_cons, List.append_assoc, strstr_cabeza v hxs,
      show cola [] = [93] from rfl, hfin (hw w (List.mem_singleton_self w)), Option.map_none]

/-! ## What is left -/

theorem head?_append_cola {w : List UInt8} (hw : 44 ∉ w) :
    (w ++ cola ys).head? = some 44 ↔ w = [] ∧ ys ≠ [] := by
  cases w with
  | nil =>
    cases ys with
    | nil => exact iff_of_false (by decide) (by simp)
    | cons y ys => simp [cola_cons]
  | cons b w =>
    refine iff_of_false (fun h => hw ?_) (by simp)
    rw [List.cons_append, List.head?_cons, Option.some.injEq] at h
    rw [h]
    exact List.mem_cons_self

theorem getLast?_cabeza_append {w : List UInt8} (hw : 44 ∉ w) :
    (1 < (cabeza xs ++ w).length ∧ (cabeza xs ++ w).getLast? = some 44) ↔ w = [] ∧ xs ≠ [] := by
  rcases List.eq_nil_or_concat' w with rfl | ⟨w, b, rfl⟩
  · rcases List.eq_nil_or_concat' xs with rfl | ⟨xs, x, rfl⟩
    · exact iff_of_false (by decide) (by simp)
    · rw [cabeza_concat, List.append_nil]
      refine iff_of_true ⟨?_, List.getLast?_concat⟩ ⟨rfl, by simp⟩
      simp only [cabeza, List.length_append, List.length_singleton]
      omega
  · refine iff_of_false (fun h => hw ?_) (by simp)
    rw [← List.append_assoc, List.getLast?_concat, Option.some.injEq] at h
    rw [h.2]
    simp

theorem strstr_texto (ys : List (List UInt8)) (hxs : ∀ x ∈ xs, strstr v.bytes x = none)
    (hw : strstr v.bytes (p ++ v.bytes ++ q) = some p.length) :
    texto (xs ++ (p ++ v.bytes ++ q) :: ys) = (cabeza xs ++ p) ++ v.bytes ++ (q ++ cola ys) ∧
      strstr v.bytes ((cabeza xs ++ p) ++ v.bytes ++ (q ++ cola ys)) =
        some (cabeza xs ++ p).length := by
  have htexto : texto (xs ++ (p ++ v.bytes ++ q) :: ys) =
      (cabeza xs ++ p) ++ v.bytes ++ (q ++ cola ys) := by
    rw [texto_append_cons]
    simp only [List.append_assoc]
  refine ⟨htexto, ?_⟩
  rw [← htexto, strstr_texto_of_some v hxs hw, List.length_append]

/-- What is left of a text, by what is around the value in the element: the elements may be
joined by the comma that goes with the value. -/
theorem borrado_texto (ys : List (List UInt8)) (hxs : ∀ x ∈ xs, strstr v.bytes x = none)
    (hp : 44 ∉ p) (hq : 44 ∉ q) (hw : strstr v.bytes (p ++ v.bytes ++ q) = some p.length) :
    borrado (texto (xs ++ (p ++ v.bytes ++ q) :: ys)) v.bytes =
      if q = [] ∧ ys ≠ [] then cabeza xs ++ p ++ (cola ys).tail
      else if p = [] ∧ xs ≠ [] then (cabeza xs).dropLast ++ q ++ cola ys
      else cabeza xs ++ p ++ q ++ cola ys := by
  obtain ⟨htexto, hpos⟩ := strstr_texto v ys hxs hw
  rw [htexto, borrado_of_some hpos]
  simp only [head?_append_cola hq, getLast?_cabeza_append hp]
  split_ifs with hcoma hprevia
  · rw [hcoma.1, List.nil_append]
  · rw [hprevia.1, List.append_nil, List.append_assoc]
  · simp only [List.append_assoc]

/-- An element that is the value goes with one of its commas. -/
theorem borrado_texto_igual (hxs : ∀ x ∈ xs, strstr v.bytes x = none) :
    borrado (texto (xs ++ v.bytes :: ys)) v.bytes = texto (xs ++ ys) := by
  have hw : strstr v.bytes ([] ++ v.bytes ++ []) = some ([] : List UInt8).length := by
    rw [List.nil_append, List.append_nil, strstr_self, List.length_nil]
  have h := borrado_texto v ys hxs List.not_mem_nil List.not_mem_nil hw
  rw [List.nil_append, List.append_nil] at h
  rw [h]
  cases ys with
  | cons y ys =>
    rw [if_pos ⟨rfl, List.cons_ne_nil y ys⟩, cola_cons, texto_append_cons]
    simp only [List.append_nil, List.tail_cons, List.append_assoc]
  | nil =>
    rw [if_neg (by simp)]
    rcases List.eq_nil_or_concat' xs with rfl | ⟨xs, x, rfl⟩
    · rfl
    · rw [if_pos ⟨rfl, by simp⟩, cabeza_concat, List.dropLast_concat, List.append_nil,
        List.append_nil, texto_append_cons]

/-- An element that ends in the value is joined with the next one. -/
theorem borrado_texto_final {y : List UInt8} (hxs : ∀ x ∈ xs, strstr v.bytes x = none)
    (hpv : 44 ∉ p ++ v.bytes) (hw : strstr v.bytes (p ++ v.bytes) = some p.length) :
    borrado (texto (xs ++ (p ++ v.bytes) :: y :: ys)) v.bytes = texto (xs ++ (p ++ y) :: ys) := by
  have hp : 44 ∉ p := fun hmem => hpv (List.mem_append_left _ hmem)
  rw [← List.append_nil (p ++ v.bytes)] at hw ⊢
  rw [borrado_texto v _ hxs hp List.not_mem_nil hw, if_pos ⟨rfl, List.cons_ne_nil y ys⟩, cola_cons,
    texto_append_cons]
  simp only [List.tail_cons, List.append_assoc]

/-- That leaves the right text only where the next one is the value. -/
theorem borrado_texto_final_inj {y : List UInt8} {zs : List (List UInt8)}
    (hxs : ∀ x ∈ xs, strstr v.bytes x = none) (hw : strstr v.bytes (p ++ v.bytes) = some p.length)
    (hantes : ∀ x ∈ xs ++ (p ++ v.bytes) :: y :: ys, 44 ∉ x)
    (hluego : ∀ x ∈ xs ++ (p ++ v.bytes) :: zs, 44 ∉ x)
    (h : borrado (texto (xs ++ (p ++ v.bytes) :: y :: ys)) v.bytes =
      texto (xs ++ (p ++ v.bytes) :: zs)) : y = v.bytes := by
  obtain ⟨hcomas, hdesde⟩ := List.forall_mem_append.mp hantes
  obtain ⟨hpv, hdesde⟩ := List.forall_mem_cons.mp hdesde
  obtain ⟨hy, hys⟩ := List.forall_mem_cons.mp hdesde
  have hp : 44 ∉ p := fun hmem => hpv (List.mem_append_left _ hmem)
  rw [borrado_texto_final v hxs hpv hw] at h
  exact List.append_cancel_left
    (eq_of_texto_eq (noComa_append_cons hcomas (List.not_mem_append hp hy) hys) hluego h)

/-- Any other element that has the value loses it, or is joined with the one in front. -/
theorem borrado_texto_parte {zs : List (List UInt8)} (hxs : ∀ x ∈ xs, strstr v.bytes x = none)
    (hw : strstr v.bytes (p ++ v.bytes ++ q) = some p.length)
    (hantes : ∀ x ∈ xs ++ (p ++ v.bytes ++ q) :: ys, 44 ∉ x)
    (hluego : ∀ x ∈ xs ++ (p ++ v.bytes ++ q) :: zs, 44 ∉ x) (hpq : p ++ q ≠ [])
    (hsigue : ¬ (q = [] ∧ ys ≠ [])) :
    borrado (texto (xs ++ (p ++ v.bytes ++ q) :: ys)) v.bytes ≠
      texto (xs ++ (p ++ v.bytes ++ q) :: zs) := by
  obtain ⟨hcomas, hdesde⟩ := List.forall_mem_append.mp hantes
  obtain ⟨hpvq, hys⟩ := List.forall_mem_cons.mp hdesde
  simp only [List.mem_append, not_or] at hpvq
  obtain ⟨⟨hp, -⟩, hq⟩ := hpvq
  rw [borrado_texto v _ hxs hp hq hw, if_neg hsigue]
  intro heq
  split_ifs at heq with hprevia
  · obtain ⟨rfl, hne⟩ := hprevia
    obtain ⟨xs, x, rfl⟩ := (List.eq_nil_or_concat' xs).resolve_left hne
    obtain ⟨hcomas, hx⟩ := List.forall_mem_append.mp hcomas
    have hunido : ∀ y ∈ xs ++ (x ++ q) :: ys, 44 ∉ y :=
      noComa_append_cons hcomas (List.not_mem_append (hx x (List.mem_singleton_self x)) hq) hys
    rw [cabeza_concat, List.dropLast_concat, List.append_assoc _ x, ← texto_append_cons,
      List.append_assoc xs] at heq
    rw [List.append_assoc xs] at hluego
    exact hpq (List.append_right_eq_self.mp (eq_of_texto_eq hunido hluego heq))
  · rw [List.append_assoc _ p, ← texto_append_cons] at heq
    have hlen := congrArg List.length (eq_of_texto_eq
      (noComa_append_cons hcomas (List.not_mem_append hp hq) hys) hluego heq)
    have hpos := List.length_pos_of_ne_nil v.ne_nil
    simp only [List.length_append] at hlen
    omega

end

/-! ## One call -/

/-- The elements from the first one on in which `strstr` finds `v`. -/
def desdeHallado (v : Valor) (l : List Valor) : List Valor :=
  l.dropWhile fun w => (strstr v.bytes w.bytes).isNone

/-- `strstr` finds `v`, if anywhere, first in an element that is `v`, or else at the end of one
that has an element `v` behind it. -/
def Borrable (v : Valor) (l : List Valor) : Prop :=
  match desdeHallado v l with
  | [] => True
  | w :: ws =>
    w = v ∨ (strstr v.bytes w.bytes = some (w.length - v.length) ∧ ws.head? = some v)

variable {s : List UInt8} {l : List Valor}

theorem Valor.bytes_inj {v w : Valor} (h : v.bytes = w.bytes) : v = w := by
  cases v
  cases w
  congr
  exact CString.ext h

theorem noComa_map (l : List Valor) : ∀ x ∈ l.map (·.bytes), 44 ∉ x := by
  intro x hx
  obtain ⟨v, -, rfl⟩ := List.mem_map.mp hx
  exact v.noComa

theorem notMem_of_strstr {v : Valor} (h : ∀ x ∈ l, strstr v.bytes x.bytes = none) : v ∉ l := by
  intro hv
  have hnone := h v hv
  rw [strstr_self] at hnone
  cases hnone

/-- What is in front of them. -/
theorem desdeHallado_eq_cons {v w : Valor} {ws : List Valor} (h : desdeHallado v l = w :: ws) :
    ∃ xs, l = xs ++ w :: ws ∧ (∀ x ∈ xs, strstr v.bytes x.bytes = none) ∧
      strstr v.bytes w.bytes ≠ none := by
  have hsplit := List.takeWhile_append_dropWhile (p := fun w : Valor =>
    (strstr v.bytes w.bytes).isNone) (l := l)
  rw [show l.dropWhile _ = w :: ws from h] at hsplit
  refine ⟨_, hsplit.symm, fun x hx => ?_, fun hnone => ?_⟩
  · exact Option.isNone_iff_eq_none.mp
      (List.mem_takeWhile_imp (p := fun w : Valor => (strstr v.bytes w.bytes).isNone) hx)
  · have hhead := List.head?_dropWhile_not (fun w : Valor => (strstr v.bytes w.bytes).isNone) l
    rw [show l.dropWhile _ = w :: ws from h, List.head?_cons] at hhead
    have hsome : (strstr v.bytes w.bytes).isNone = false := hhead
    exact absurd hsome (by rw [hnone]; decide)

/-- Appending goes wrong on the text `"[]"` only. -/
theorem renderiza_insertado_iff (h : Renderiza s l) (v : Valor) :
    Renderiza (insertado s v.bytes) (l ++ [v]) ↔ s ≠ [91, 93] := by
  have hne : ¬ (l ++ [v] = [] ∧ insertado s v.bytes = [91]) := fun h => by simp at h
  rw [Renderiza, or_iff_left hne, List.map_append, List.map_singleton, texto_append_cons]
  rcases h with rfl | ⟨rfl, rfl⟩
  · rcases List.eq_nil_or_concat' l with rfl | ⟨l, w, rfl⟩
    · refine iff_of_false (fun h => ?_) (not_not.mpr rfl)
      have hlen := congrArg List.length h
      rw [insertado, if_pos (by decide)] at hlen
      simp [cabeza, cola, texto] at hlen
    · have hlong : 2 < (cabeza (l.map fun (u : Valor) => u.bytes) ++ w.bytes ++ [93]).length := by
        have := List.length_pos_of_ne_nil w.ne_nil
        simp only [cabeza, List.length_append, List.length_singleton]
        omega
      rw [List.map_append, List.map_singleton, texto_append_cons, show cola [] = [93] from rfl]
      refine iff_of_true ?_ fun heq => ?_
      · rw [insertado, if_pos (by omega), List.dropLast_concat, cabeza_concat]
      · rw [heq] at hlong
        exact absurd hlong (by decide)
  · exact iff_of_true rfl (by decide)

/-- The list around the first element in which `strstr` finds the value. -/
theorem renderiza_borrado_hallado_iff {xs : List Valor} (ws : List Valor) {v w : Valor}
    (hxs : ∀ x ∈ xs, strstr v.bytes x.bytes = none) (hw : strstr v.bytes w.bytes ≠ none) :
    Renderiza (borrado (texto ((xs ++ w :: ws).map (·.bytes))) v.bytes) ((xs ++ w :: ws).erase v) ↔
      w = v ∨ (strstr v.bytes w.bytes = some (w.length - v.length) ∧ ws.head? = some v) := by
  have hnone : ∀ x ∈ xs.map (·.bytes), strstr v.bytes x = none := List.forall_mem_map.mpr hxs
  rw [List.erase_append_right _ (notMem_of_strstr hxs), List.map_append, List.map_cons]
  by_cases hwv : w = v
  · subst hwv
    rw [borrado_texto_igual w hnone, List.erase_cons_head, ← List.map_append]
    exact iff_of_true (Or.inl rfl) (Or.inl rfl)
  · rw [or_iff_right hwv, List.erase_cons_tail (by simpa using hwv), Renderiza,
      or_iff_left (fun h => by simp at h), List.map_append, List.map_cons]
    obtain ⟨i, hi⟩ := Option.ne_none_iff_exists'.mp hw
    obtain ⟨p, q, hpq, rfl⟩ := strstr_eq_some hi
    have hcomas := noComa_map (xs ++ w :: ws)
    have hcomas' := noComa_map (xs ++ w :: ws.erase v)
    rw [List.map_append, List.map_cons] at hcomas hcomas'
    have hfin : some p.length = some (w.length - v.length) ↔ q = [] := by
      have hlen := congrArg List.length hpq
      simp only [List.length_append] at hlen
      rw [Option.some.injEq, ← List.length_eq_zero_iff, CString.length, CString.length]
      omega
    rw [hi, hfin]
    have hne : p ++ q ≠ [] := fun h => hwv (Valor.bytes_inj (by
      obtain ⟨rfl, rfl⟩ := List.append_eq_nil_iff.mp h
      rw [hpq, List.nil_append, List.append_nil]))
    rw [hpq] at hi hcomas hcomas' ⊢
    by_cases hsigue : q = [] ∧ ws ≠ []
    · obtain ⟨rfl, hws⟩ := hsigue
      obtain ⟨y, ws, rfl⟩ := List.exists_cons_of_ne_nil hws
      rw [List.append_nil] at hi hcomas hcomas' ⊢
      rw [List.map_cons] at hcomas ⊢
      constructor
      · intro heq
        have hy := borrado_texto_final_inj v hnone hi hcomas hcomas' heq
        exact ⟨rfl, congrArg some (Valor.bytes_inj hy)⟩
      · rintro ⟨-, hy⟩
        have hpv := hcomas _ (List.mem_append_right _ List.mem_cons_self)
        rw [Option.some.inj hy, List.erase_cons_head, borrado_texto_final v hnone hpv hi]
    · refine iff_of_false ?_ fun h => hsigue ⟨h.1, fun hnil => by rw [hnil] at h; cases h.2⟩
      exact borrado_texto_parte v hnone hi hcomas hcomas' hne (by simpa using hsigue)

/-- Removing goes right exactly on the lists where `strstr` finds what is to be removed. -/
theorem renderiza_borrado_iff (h : Renderiza s l) (v : Valor) :
    Renderiza (borrado s v.bytes) (l.erase v) ↔ Borrable v l := by
  rcases h with rfl | ⟨rfl, rfl⟩
  · cases hdesde : desdeHallado v l with
    | nil =>
      have hnone : ∀ w ∈ l, strstr v.bytes w.bytes = none := fun w hw =>
        Option.isNone_iff_eq_none.mp (List.dropWhile_eq_nil_iff.mp hdesde w hw)
      rw [borrado_of_none (strstr_texto_of_none v (List.forall_mem_map.mpr hnone)),
        List.erase_of_not_mem (notMem_of_strstr hnone), Borrable, hdesde]
      exact iff_of_true (Or.inl rfl) trivial
    | cons w ws =>
      obtain ⟨xs, hl, hxs, hw⟩ := desdeHallado_eq_cons hdesde
      have hiff := renderiza_borrado_hallado_iff ws hxs hw
      rw [← hl] at hiff
      rw [hiff, Borrable, hdesde]
  · have hnone := strstr_cabeza v (fun x (hx : x ∈ []) => absurd hx List.not_mem_nil) []
    rw [strstr_nil v.ne_nil] at hnone
    rw [borrado_of_none (show strstr v.bytes [91] = none from hnone)]
    exact iff_of_true (Or.inr ⟨rfl, rfl⟩) trivial

/-! ## Any number of calls -/

/-- A call of one of the two. -/
inductive Edicion
  | insertar (v : Valor)
  | borrar (v : Valor)

/-- What the call does in memory. -/
def Edicion.llamar (str : Block) : Edicion → Option Block
  | .insertar v => insertAtEnd str v.toCString
  | .borrar v => deleteValue str v.toCString

/-- What it does to the text. -/
def Edicion.editar (s : List UInt8) : Edicion → List UInt8
  | .insertar v => insertado s v.bytes
  | .borrar v => borrado s v.bytes

/-- What it should do to the list. -/
def Edicion.aplicar (l : List Valor) : Edicion → List Valor
  | .insertar v => l ++ [v]
  | .borrar v => l.erase v

/-- The storage, and the list that it should stand for. -/
structure ListaGuardada where
  str : Block
  valores : List Valor

/-- A call, and what it should do. -/
def pasoEdicion (u : ListaGuardada) (e : Edicion) : Option ListaGuardada :=
  (e.llamar u.str).map fun str => ⟨str, e.aplicar u.valores⟩

/-- Every text on the way fits the storage, with its terminator. -/
def Caben (cap : ℕ) (s : List UInt8) (es : List Edicion) : Prop :=
  ∀ k, ((es.take k).foldl Edicion.editar s).length < cap

/-- The storage holds a text of the list, and no access has left it. -/
def ListaFiel (u : ListaGuardada) : Prop := ∃ s, Holds u.str s ∧ Renderiza s u.valores

/-- A value is not appended to the text `"[]"`, and one that is removed can be found. -/
def EdicionBuena (u : ListaGuardada) : Edicion → Prop
  | .insertar _ => u.str.cstring ≠ some [91, 93]
  | .borrar v => Borrable v u.valores

variable {u t : ListaGuardada} {es : List Edicion}

theorem pasoEdicion_holds (h : Holds u.str s) {e : Edicion}
    (hroom : (e.editar s).length < u.str.cap) :
    ∃ u', pasoEdicion u e = some u' ∧ Holds u'.str (e.editar s) ∧ u'.str.cap = u.str.cap ∧
      u'.valores = e.aplicar u.valores := by
  have hllamar : ∃ str', e.llamar u.str = some str' ∧ Holds str' (e.editar s) ∧
      str'.cap = u.str.cap := by
    cases e with
    | insertar v => exact insertAtEnd_holds h v.toCString hroom
    | borrar v => exact deleteValue_holds h v.toCString
  obtain ⟨str', heq, hholds, hcap⟩ := hllamar
  exact ⟨_, by rw [pasoEdicion, heq, Option.map_some], hholds, hcap, rfl⟩

theorem listaFiel_iff (h : Holds u.str s) : ListaFiel u ↔ Renderiza s u.valores :=
  ⟨fun ⟨_, hs, hr⟩ => h.unique hs ▸ hr, fun hr => ⟨s, h, hr⟩⟩

theorem renderiza_editar_iff (h : Holds u.str s) (hr : Renderiza s u.valores) (e : Edicion) :
    Renderiza (e.editar s) (e.aplicar u.valores) ↔ EdicionBuena u e := by
  cases e with
  | insertar v =>
    rw [EdicionBuena, h.cstring, ne_eq, Option.some.injEq]
    exact renderiza_insertado_iff hr v
  | borrar v => exact renderiza_borrado_iff hr v

theorem run_holds (h : Holds u.str s) (hcap : Caben u.str.cap s es) :
    ∃ t, run pasoEdicion u es = some t ∧ Holds t.str (es.foldl Edicion.editar s) := by
  induction es generalizing u s with
  | nil => exact ⟨u, rfl, h⟩
  | cons e es ih =>
    obtain ⟨u', hpaso, hu', hcap', -⟩ := pasoEdicion_holds h (hcap 1)
    obtain ⟨t, hrun, ht⟩ := ih hu' (fun k => by rw [hcap']; exact hcap (k + 1))
    exact ⟨t, by rw [run, hpaso, Option.bind_some, hrun], ht⟩

/-- By induction on the calls: the storage stands for the list as long as each call is good. -/
theorem listaFiel_along_iff (h : Holds u.str s) (hr : Renderiza s u.valores)
    (hcap : Caben u.str.cap s es) (hrun : run pasoEdicion u es = some t) :
    (Along pasoEdicion (fun u _ => ListaFiel u) u es ∧ ListaFiel t) ↔
      Along pasoEdicion EdicionBuena u es := by
  induction es generalizing u s with
  | nil =>
    obtain rfl := Option.some.inj hrun
    exact iff_of_true ⟨trivial, s, h, hr⟩ trivial
  | cons e es ih =>
    obtain ⟨u', hpaso, hu', hcap', hlista⟩ := pasoEdicion_holds h (hcap 1)
    have hcaben : Caben u'.str.cap (e.editar s) es := fun k => by
      rw [hcap']
      exact hcap (k + 1)
    have hrun' : run pasoEdicion u' es = some t := by
      rw [run, hpaso, Option.bind_some] at hrun
      exact hrun
    have hiff : Renderiza (e.editar s) u'.valores ↔ EdicionBuena u e := by
      rw [hlista]
      exact renderiza_editar_iff h hr e
    constructor
    · rintro ⟨halong, hfin⟩
      -- the state behind the call is the next one of the run, or its last
      have hfiel : ListaFiel u' := by
        cases es with
        | nil => exact Option.some.inj hrun' ▸ hfin
        | cons _ _ => exact (halong.tail hpaso).head
      have hr' := (listaFiel_iff hu').mp hfiel
      exact along_cons hpaso (hiff.mp hr')
        ((ih hu' hr' hcaben hrun').mp ⟨halong.tail hpaso, hfin⟩)
    · intro halong
      obtain ⟨hfieles, hfin⟩ :=
        (ih hu' (hiff.mpr halong.head) hcaben hrun').mpr (halong.tail hpaso)
      exact ⟨along_cons hpaso ⟨s, h, hr⟩ hfieles, hfin⟩

/-- How much longer a call can make the text. -/
def Edicion.agrega : Edicion → ℕ
  | .insertar v => v.length + 1
  | .borrar _ => 0

theorem length_editar_le (s : List UInt8) (e : Edicion) :
    (e.editar s).length ≤ s.length + e.agrega := by
  cases e with
  | insertar v =>
    show (insertado s v.bytes).length ≤ s.length + (v.bytes.length + 1)
    unfold insertado
    split_ifs with hlt
    · simp only [List.length_append, List.length_dropLast, List.length_singleton]
      omega
    · simp only [List.length_append, List.length_singleton]
      omega
  | borrar v =>
    show (borrado s v.bytes).length ≤ s.length
    cases hpos : strstr v.bytes s with
    | none => rw [borrado_of_none hpos]
    | some pos =>
      obtain ⟨p, r, rfl, rfl⟩ := strstr_eq_some hpos
      rw [borrado_of_some hpos]
      split_ifs
      all_goals
        simp only [List.length_append, List.length_dropLast, List.length_tail]
        omega

/-- The room that the values and their commas take is enough. -/
theorem caben_of_lt {cap : ℕ} (h : s.length + (es.map Edicion.agrega).sum < cap) :
    Caben cap s es := by
  induction es generalizing s with
  | nil =>
    intro k
    rw [List.take_nil]
    exact h
  | cons e es ih =>
    rw [List.map_cons, List.sum_cons] at h
    have hle := length_editar_le s e
    intro k
    cases k with
    | zero => exact lt_of_le_of_lt (Nat.le_add_right _ _) h
    | succ k => exact ih (by omega) k

/-- **When the text stands for the list.** In storage that holds `"["` and has room for every text
on the way, each sequence of calls comes to its end. The text is the list after each call exactly
when no call of the run appends to `"[]"`, and none removes a value that `strstr` finds first
inside of another one, but for one that is followed by the value itself and ends in it. -/
theorem edicion_iff (str : Block) (es : List Edicion) (h : Holds str [91])
    (hcap : Caben str.cap [91] es) :
    ∃ t, run pasoEdicion ⟨str, []⟩ es = some t ∧
      ((Along pasoEdicion (fun u _ => ListaFiel u) ⟨str, []⟩ es ∧ ListaFiel t) ↔
        Along pasoEdicion EdicionBuena ⟨str, []⟩ es) := by
  obtain ⟨t, hrun, -⟩ := run_holds (u := ⟨str, []⟩) h hcap
  exact ⟨t, hrun, listaFiel_along_iff h (Or.inr ⟨rfl, rfl⟩) hcap hrun⟩

/-- Storage of 16 bytes with `"["`. -/
def soloCorchete : Block := Block.alloc (fun i => if i = 0 then 91 else 0) 16

theorem soloCorchete_holds : Holds soloCorchete [91] :=
  ⟨by decide, by decide, by decide, rfl⟩

/-- The value `"a"`. -/
def valorA : Valor := ⟨⟨[97], by decide⟩, by decide, by decide, by decide, by decide⟩

/-- The value `"ab"`. -/
def valorAB : Valor := ⟨⟨[97, 98], by decide⟩, by decide, by decide, by decide, by decide⟩

/-- Two values appended, and the first one removed. -/
theorem edicion_iff_dos : ∃ t,
    run pasoEdicion ⟨soloCorchete, []⟩
      [.insertar valorA, .insertar valorAB, .borrar valorA] = some t ∧
    ((Along pasoEdicion (fun u _ => ListaFiel u) ⟨soloCorchete, []⟩
        [.insertar valorA, .insertar valorAB, .borrar valorA] ∧ ListaFiel t) ↔
      Along pasoEdicion EdicionBuena ⟨soloCorchete, []⟩
        [.insertar valorA, .insertar valorAB, .borrar valorA]) :=
  edicion_iff _ _ soloCorchete_holds (caben_of_lt (by decide))

/-- `"[ab,a]"` without `"a"` is `"[b,a]"`, and where `"[a]"` has become `"[]"`, appending `"ab"`
makes it `"[,ab]"`. -/
theorem not_listaFiel_dos :
    Holds soloCorchete [91] ∧
    (Caben soloCorchete.cap [91] [.insertar valorAB, .insertar valorA, .borrar valorA] ∧
      ∃ t, run pasoEdicion ⟨soloCorchete, []⟩
          [.insertar valorAB, .insertar valorA, .borrar valorA] = some t ∧
        (t.str.cstring, t.valores) = (some [91, 98, 44, 97, 93], [valorAB]) ∧ ¬ ListaFiel t) ∧
    (Caben soloCorchete.cap [91] [.insertar valorA, .borrar valorA, .insertar valorAB] ∧
      ∃ t, run pasoEdicion ⟨soloCorchete, []⟩
          [.insertar valorA, .borrar valorA, .insertar valorAB] = some t ∧
        (t.str.cstring, t.valores) = (some [91, 44, 97, 98, 93], [valorAB]) ∧ ¬ ListaFiel t) := by
  have hfin : ∀ {s l} {o : Option ListaGuardada}, o.map (fun t => (t.str.cstring, t.valores)) =
      some (some s, l) → ¬ Renderiza s l →
      ∃ t, o = some t ∧ (t.str.cstring, t.valores) = (some s, l) ∧ ¬ ListaFiel t := by
    intro s l o ho hne
    obtain ⟨t, ht, heq⟩ := Option.map_eq_some_iff.mp ho
    obtain ⟨hstring, hlista⟩ := Prod.mk.inj heq
    refine ⟨t, ht, heq, ?_⟩
    rintro ⟨s', hs', hr⟩
    obtain rfl := Option.some.inj (hs'.cstring.symm.trans hstring)
    exact hne (hlista ▸ hr)
  refine ⟨soloCorchete_holds, ⟨caben_of_lt (by decide), ?_⟩, caben_of_lt (by decide), ?_⟩
  · exact hfin (by decide) (by decide)
  · exact hfin (by decide) (by decide)

end SoTp.Utils
