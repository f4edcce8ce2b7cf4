import SoTp.Lib.CString
import SoTp.Lib.Search
import SoTp.Lib.Strings

/-!
# Lists kept as text

Models of `insertAtEnd` and `deleteValue` of `utils/src/commons.c` (lines 525–554), which
edit a list like `"[a,b]"` where it stands in memory: the one puts a value in front of the
closing bracket, the other looks for a value with `strstr` and moves what is behind it over
it.

`insertado` and `borrado` are what the two make of the text.

* `insertAtEnd_holds`, `deleteValue_holds`: where there is room, the block holds that text
  afterwards.
-/

namespace SoTp.Utils

open SoTp.Lib

/-! ## In memory -/

/-- `insertAtEnd(str, value)` (lines 525–537). -/
def insertAtEnd (str : Block) (value : CString) : Option Block := do
  let len ← str.strlen 0
  if 1 < len then
    -- the closing bracket becomes a comma
    let str ← (str.store (len - 1) [44]).strcat value.bytes
    str.strcat [93]
  else
    let str ← str.strcat value.bytes
    str.strcat [93]

/-- `deleteValue(str, value)` (lines 539–554). -/
def deleteValue (str : Block) (value : CString) : Option Block := do
  let s ← str.cstring
  match strstr value.bytes s with
  | none => some str
  | some pos =>
    let len := value.length
    if str.mem (pos + len) = 44 then
      let n ← str.strlen (pos + len + 1)
      some (str.memmove pos (pos + len + 1) (n + 1))
    else if 1 < pos ∧ str.mem (pos - 1) = 44 then
      let n ← str.strlen (pos + len)
      some (str.memmove (pos - 1) (pos + len) (n + 1))
    else
      let n ← str.strlen (pos + len)
      some (str.memmove pos (pos + len) (n + 1))

/-! ## As a text -/

/-- The text behind `insertAtEnd`. -/
def insertado (s value : List UInt8) : List UInt8 :=
  if 1 < s.length then s.dropLast ++ [44] ++ value ++ [93] else s ++ value ++ [93]

/-- The text behind `deleteValue`. -/
def borrado (s value : List UInt8) : List UInt8 :=
  match strstr value s with
  | none => s
  | some pos =>
    let antes := s.take pos
    let despues := s.drop (pos + value.length)
    if despues.head? = some 44 then antes ++ despues.tail
    else if 1 < pos ∧ antes.getLast? = some 44 then antes.dropLast ++ despues
    else antes ++ despues

theorem borrado_of_none {s value : List UInt8} (h : strstr value s = none) :
    borrado s value = s := by
  rw [borrado, h]

/-- A text around the value that is found. -/
theorem borrado_of_some {p value r : List UInt8}
    (h : strstr value (p ++ value ++ r) = some p.length) :
    borrado (p ++ value ++ r) value =
      if r.head? = some 44 then p ++ r.tail
      else if 1 < p.length ∧ p.getLast? = some 44 then p.dropLast ++ r
      else p ++ r := by
  have htake : (p ++ value ++ r).take p.length = p := by
    rw [List.append_assoc]
    exact List.take_left' rfl
  have hdrop : (p ++ value ++ r).drop (p.length + value.length) = r :=
    List.drop_left' List.length_append
  rw [borrado, h]
  dsimp only
  rw [htake, hdrop]

variable {str : Block} {s : List UInt8}

/-- Where the text fits with its terminator, `insertAtEnd` writes it. -/
theorem insertAtEnd_holds (h : Holds str s) (value : CString)
    (hroom : (insertado s value.bytes).length < str.cap) :
    ∃ str', insertAtEnd str value = some str' ∧ Holds str' (insertado s value.bytes) ∧
      str'.cap = str.cap := by
  -- both branches append the value and a bracket
  have happend : ∀ {str₁ : Block} {s₁ : List UInt8}, Holds str₁ s₁ → str₁.cap = str.cap →
      (s₁ ++ value.bytes ++ [93]).length < str.cap →
      ∃ str', ((str₁.strcat value.bytes).bind fun str => str.strcat [93]) = some str' ∧
        Holds str' (s₁ ++ value.bytes ++ [93]) ∧ str'.cap = str.cap := by
    intro str₁ s₁ h₁ hcap hlt
    simp only [List.length_append, List.length_singleton] at hlt
    obtain ⟨heq, h₂⟩ := h₁.strcat value.noNul (by omega)
    obtain ⟨heq', h₃⟩ := h₂.strcat (t := [93]) (by decide)
      (by rw [Block.store_cap, List.length_append, List.length_singleton]; omega)
    exact ⟨_, by rw [heq, Option.bind_some, heq'], h₃, hcap⟩
  have hlen : str.strlen 0 = some s.length := h.strlen (Nat.zero_le _)
  unfold insertado at hroom ⊢
  unfold insertAtEnd
  rw [hlen]
  simp only [Option.bind_eq_bind, Option.bind_some]
  split_ifs at hroom ⊢ with hlt
  · have hne : s ≠ [] := List.ne_nil_of_length_pos (by omega)
    rw [← List.dropLast_append_getLast hne] at h
    have h₁ := h.store_last (a := 44) (by decide)
    rw [List.length_dropLast] at h₁
    exact happend h₁ rfl hroom
  · exact happend h rfl hroom

/-- `deleteValue` only makes the text shorter. -/
theorem deleteValue_holds (h : Holds str s) (value : CString) :
    ∃ str', deleteValue str value = some str' ∧ Holds str' (borrado s value.bytes) ∧
      str'.cap = str.cap := by
  unfold deleteValue
  rw [h.cstring]
  simp only [Option.bind_eq_bind, Option.bind_some]
  cases hpos : strstr value.bytes s with
  | none => exact ⟨str, rfl, by rwa [borrado_of_none hpos], rfl⟩
  | some pos =>
    obtain ⟨p, r, rfl, rfl⟩ := strstr_eq_some hpos
    rw [borrado_of_some hpos]
    have hsigue : str.mem (p.length + value.bytes.length) = 44 ↔ r.head? = some 44 := by
      rw [← List.length_append]
      exact h.apply_length_eq_iff (by decide)
    have hantes : (1 < p.length ∧ str.mem (p.length - 1) = 44) ↔
        (1 < p.length ∧ p.getLast? = some 44) := by
      rw [List.append_assoc] at h
      exact and_congr_right fun hlt => h.apply_pred_length_eq_iff (by omega) 44
    dsimp only [CString.length]
    simp only [hsigue, hantes]
    split_ifs with hcoma hprevia
    · obtain ⟨r', rfl⟩ := List.head?_eq_some_iff.mp hcoma
      have h' : Holds str (p ++ (value.bytes ++ [44]) ++ r') := by
        simpa only [List.append_assoc, List.singleton_append] using h
      have hoff : p.length + value.bytes.length + 1 = p.length + (value.bytes ++ [44]).length := by
        rw [List.length_append, List.length_singleton, Nat.add_assoc]
      obtain ⟨hn, hmove⟩ := h'.memmove hoff
      rw [hn]
      exact ⟨_, rfl, hmove, rfl⟩
    · obtain ⟨p', rfl⟩ := List.getLast?_eq_some_iff.mp hprevia.2
      have h' : Holds str (p' ++ ([44] ++ value.bytes) ++ r) := by
        simpa only [List.append_assoc] using h
      have hoff : p'.length + 1 + value.bytes.length =
          p'.length + ([44] ++ value.bytes).length := by
        rw [List.length_append, List.length_singleton, Nat.add_assoc]
      obtain ⟨hn, hmove⟩ := h'.memmove hoff
      rw [List.length_append, List.length_singleton, hn, Nat.add_sub_cancel, List.dropLast_concat]
      exact ⟨_, rfl, hmove, rfl⟩
    · obtain ⟨hn, hmove⟩ := h.memmove (Eq.refl (p.length + value.bytes.length))
      rw [hn]
      exact ⟨_, rfl, hmove, rfl⟩

end SoTp.Utils
