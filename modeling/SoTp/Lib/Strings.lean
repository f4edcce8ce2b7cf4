import SoTp.Lib.Memory

/-!
# Strings in a block

The string functions of C on a block of memory. A string ends at its first NUL; without
one inside the allocation the function does not come back.

`Holds b s` says that `s` and its terminator stand at the start of the block, all inside
the allocation.

* `Holds.strlen`: the rest of the string from any place; `Holds.unique`: there is one string.
* `Holds.strcat`, `Holds.memmove`: a string behind it, and a part cut out of it.
-/

namespace SoTp.Lib

namespace Block

/-- `strlen` at offset `off`. -/
def strlen (b : Block) (off : ℕ) : Option ℕ := b.mem.strlen off (b.cap - off)

/-- The string at the start of the block. -/
def cstring (b : Block) : Option (List UInt8) := (b.strlen 0).map fun n => b.mem.read 0 n

/-- `strcat` of a string of the bytes `bs`. -/
def strcat (b : Block) (bs : List UInt8) : Option Block :=
  (b.strlen 0).map fun n => b.store n (bs ++ [0])

/-- `memmove` of `n` bytes from `src` to `dst`. -/
def memmove (b : Block) (dst src n : ℕ) : Block :=
  (b.touch src n).store dst (b.mem.read src n)

end Block

/-- The string `s` is what the block holds. -/
structure Holds (b : Block) (s : List UInt8) : Prop where
  contents : b.mem.read 0 (s.length + 1) = s ++ [0]
  noNul : (0 : UInt8) ∉ s
  fits : s.length < b.cap
  inside : b.overrun = false

namespace Holds

variable {b : Block} {s t : List UInt8} {off : ℕ}

theorem read_of_append {p q : List UInt8} (h : Holds b (p ++ q)) :
    b.mem.read 0 p.length = p ∧ b.mem.read p.length (q ++ [0]).length = q ++ [0] := by
  have hcontents := h.contents
  rw [List.append_assoc, show (p ++ q).length + 1 = (p ++ (q ++ [0])).length by
    simp only [List.length_append, List.length_singleton, Nat.add_assoc]] at hcontents
  obtain ⟨hp, hq⟩ := Mem.read_of_read_append hcontents
  rw [Nat.zero_add] at hq
  exact ⟨hp, hq⟩

/-- The string is written anew from the end of `p` on, with its terminator. -/
theorem write {p q t : List UInt8} (h : Holds b (p ++ q)) (ht : (0 : UInt8) ∉ t)
    (hroom : p.length + t.length < b.cap) : Holds (b.store p.length (t ++ [0])) (p ++ t) where
  contents := by
    rw [List.length_append, Nat.add_assoc, List.append_assoc,
      show t.length + 1 = (t ++ [0]).length by simp]
    exact Mem.read_write_append _ p (t ++ [0]) h.read_of_append.1
  noNul := by
    have hp := (List.mem_append.not.mp h.noNul)
    rw [List.mem_append]
    exact fun hmem => hmem.elim (fun h0 => hp (Or.inl h0)) ht
  fits := by
    rw [List.length_append]
    exact hroom
  inside := by
    rw [Block.store_overrun, Block.touch_overrun_of_le]
    · exact h.inside
    · rw [List.length_append, List.length_singleton]
      omega

theorem apply (h : Holds b s) (hoff : off ≤ s.length) : b.mem off = s.getD off 0 := by
  have hget : (b.mem.read 0 (s.length + 1))[off]? = some (b.mem off) := by
    rw [List.getElem?_eq_getElem (by simpa using Nat.lt_succ_of_le hoff), Mem.getElem_read,
      Nat.zero_add]
  rw [h.contents] at hget
  rcases Nat.lt_or_eq_of_le hoff with hlt | rfl
  · rw [List.getElem?_append_left hlt] at hget
    rw [List.getD_eq_getElem?_getD, hget, Option.getD_some]
  · rw [List.getElem?_append_right (le_refl _), Nat.sub_self] at hget
    rw [List.getD_eq_default _ _ (le_refl _)]
    exact (Option.some.inj hget).symm

theorem apply_length_eq_iff {p q : List UInt8} (h : Holds b (p ++ q)) {c : UInt8} (hc : c ≠ 0) :
    b.mem p.length = c ↔ q.head? = some c := by
  rw [h.apply (by rw [List.length_append]; omega), List.getD_eq_getElem?_getD,
    List.getElem?_append_right (le_refl _), Nat.sub_self, ← List.head?_eq_getElem?]
  cases q with
  | nil => exact iff_of_false (Ne.symm hc) (by simp)
  | cons a q => simp

theorem apply_pred_length_eq_iff {p q : List UInt8} (h : Holds b (p ++ q)) (hp : 0 < p.length)
    (c : UInt8) : b.mem (p.length - 1) = c ↔ p.getLast? = some c := by
  rw [h.apply (by rw [List.length_append]; omega), List.getD_eq_getElem?_getD,
    List.getElem?_append_left (by omega), ← List.getLast?_eq_getElem?,
    List.getLast?_eq_getLast_of_ne_nil (List.ne_nil_of_length_pos hp), Option.getD_some,
    Option.some.injEq]

theorem strlen (h : Holds b s) (hoff : off ≤ s.length) : b.strlen off = some (s.length - off) := by
  have hfits := h.fits
  refine Mem.strlen_eq_some_iff.mpr ⟨by omega, fun i hi hnul => ?_, ?_⟩
  · rw [h.apply (by omega), List.getD_eq_getElem _ _ (by omega)] at hnul
    exact h.noNul (hnul ▸ List.getElem_mem _)
  · rw [Nat.add_sub_cancel' hoff, h.apply (le_refl _)]
    exact List.getD_eq_default _ _ (le_refl _)

theorem cstring (h : Holds b s) : b.cstring = some s := by
  have hlen : b.strlen 0 = some s.length := h.strlen (Nat.zero_le _)
  rw [← List.append_nil s] at h
  rw [Block.cstring, hlen, Option.map_some, h.read_of_append.1]

theorem unique (hs : Holds b s) (ht : Holds b t) : s = t :=
  Option.some.inj (hs.cstring.symm.trans ht.cstring)

theorem strcat (h : Holds b s) (ht : (0 : UInt8) ∉ t) (hroom : s.length + t.length < b.cap) :
    b.strcat t = some (b.store s.length (t ++ [0])) ∧
      Holds (b.store s.length (t ++ [0])) (s ++ t) := by
  refine ⟨by rw [Block.strcat, h.strlen (Nat.zero_le _)]; rfl, ?_⟩
  rw [← List.append_nil s] at h
  exact h.write ht hroom

/-- The bytes between two places are cut out: the rest, with its terminator, moves up. -/
theorem memmove {p q r : List UInt8} (h : Holds b (p ++ q ++ r))
    (hoff : off = p.length + q.length) :
    b.strlen off = some r.length ∧ Holds (b.memmove p.length off (r.length + 1)) (p ++ r) := by
  obtain rfl : off = (p ++ q).length := by rw [hoff, List.length_append]
  have hfits := h.fits
  have hnoNul := h.noNul
  rw [List.mem_append, not_or] at hnoNul
  rw [List.length_append] at hfits
  have hlen : b.strlen (p ++ q).length = some r.length := by
    have hle : (p ++ q).length ≤ (p ++ q ++ r).length := (List.prefix_append _ r).length_le
    rw [h.strlen hle, List.length_append, Nat.add_sub_cancel_left]
  have hmoved : b.mem.read (p ++ q).length (r.length + 1) = r ++ [0] := by
    rw [← List.length_singleton (a := (0 : UInt8)), ← List.length_append]
    exact h.read_of_append.2
  have htouch : Holds (b.touch (p ++ q).length (r.length + 1)) (p ++ (q ++ r)) := by
    rw [← List.append_assoc]
    refine ⟨h.contents, h.noNul, h.fits, ?_⟩
    rw [Block.touch_overrun_of_le (by omega)]
    exact h.inside
  refine ⟨hlen, ?_⟩
  rw [Block.memmove, hmoved]
  refine htouch.write hnoNul.2 ?_
  rw [List.length_append] at hfits
  rw [Block.touch_cap]
  omega

/-- The last byte of the string is overwritten. -/
theorem store_last {z a : UInt8} (h : Holds b (s ++ [z])) (ha : a ≠ 0) :
    Holds (b.store s.length [a]) (s ++ [a]) where
  contents := by
    have hread := h.read_of_append
    have hnul : b.mem.read (s.length + 1) 1 = [0] := by
      have hlast := hread.2
      rw [List.length_append, Mem.read_add] at hlast
      exact (List.append_inj hlast (by simp)).2
    rw [List.length_append, List.length_singleton, Mem.read_add _ _ (s.length + 1), ← hnul,
      Block.store_mem, Nat.zero_add]
    congr 1
    · exact Mem.read_write_append _ s [a] hread.1
    · exact Mem.read_congr fun i _ => Mem.write_apply_of_le (by rw [List.length_singleton]; omega)
  noNul := by
    have hnoNul := h.noNul
    simp only [List.mem_append, List.mem_singleton, not_or] at hnoNul ⊢
    exact ⟨hnoNul.1, Ne.symm ha⟩
  fits := by simpa using h.fits
  inside := by
    have hfits := h.fits
    simp only [List.length_append, List.length_singleton] at hfits
    rw [Block.store_overrun, Block.touch_overrun_of_le (by rw [List.length_singleton]; omega)]
    exact h.inside

end Holds

end SoTp.Lib
