import SoTp.Lib.CString

/-!
# Integers printed in decimal

What `printf` makes of an integer with `%d`, as bytes.

* `decimal_injective`: different integers are printed differently.
* `length_decimal_le_iff`: which integers fit into a number of characters.
-/

namespace SoTp.Lib

/-- The decimal digits of a natural number. -/
def digits (n : ℕ) : List UInt8 := (Nat.toDigits 10 n).map fun c => UInt8.ofNat c.toNat

/-- `%d`: a minus sign where one is due, and the digits. -/
def decimal : ℤ → List UInt8
  | .ofNat n => digits n
  | .negSucc n => 45 :: digits (n + 1)

/-! ## Digits -/

theorem toNat_of_mem_toDigits {n : ℕ} {c : Char} (hc : c ∈ Nat.toDigits 10 n) :
    48 ≤ c.toNat ∧ c.toNat ≤ 57 := by
  have h := Nat.isDigit_of_mem_toDigits (by omega) (le_refl 10) hc
  simp only [Char.isDigit, Bool.and_eq_true, decide_eq_true_eq] at h
  exact ⟨h.1, h.2⟩

theorem toNat_of_mem_digits {n : ℕ} {b : UInt8} (hb : b ∈ digits n) :
    48 ≤ b.toNat ∧ b.toNat ≤ 57 := by
  obtain ⟨c, hc, rfl⟩ := List.mem_map.mp hb
  have h := toNat_of_mem_toDigits hc
  rw [UInt8.toNat_ofNat_of_lt' (by show c.toNat < 256; omega)]
  exact h

theorem map_ofNat_digits (n : ℕ) :
    (digits n).map (fun b => Char.ofNat b.toNat) = Nat.toDigits 10 n := by
  rw [digits, List.map_map]
  calc (Nat.toDigits 10 n).map _ = (Nat.toDigits 10 n).map id := by
        refine List.map_congr_left fun c hc => ?_
        have h := toNat_of_mem_toDigits hc
        have hbyte : (UInt8.ofNat c.toNat).toNat = c.toNat :=
          UInt8.toNat_ofNat_of_lt' (by show c.toNat < 256; omega)
        rw [Function.comp_apply, hbyte]
        exact Char.ofNat_toNat c
    _ = Nat.toDigits 10 n := List.map_id _

theorem digits_injective : Function.Injective digits := by
  intro m n h
  have hchars : Nat.toDigits 10 m = Nat.toDigits 10 n := by
    rw [← map_ofNat_digits m, h, map_ofNat_digits n]
  rw [← Nat.ofDigitChars_ten_toDigits (n := m), hchars, Nat.ofDigitChars_ten_toDigits]

theorem length_digits_le_iff {n k : ℕ} (hk : 0 < k) : (digits n).length ≤ k ↔ n < 10 ^ k := by
  rw [digits, List.length_map]
  exact Nat.length_toDigits_le_iff (by omega) hk

/-! ## Integers -/

theorem decimal_injective : Function.Injective decimal := by
  have hsign : ∀ m n, digits m ≠ 45 :: digits n := by
    intro m n h
    have hmem : (45 : UInt8) ∈ digits m := h ▸ List.mem_cons_self
    exact absurd (toNat_of_mem_digits hmem).1 (by decide)
  intro m n h
  cases m with
  | ofNat m =>
    cases n with
    | ofNat n => exact congrArg Int.ofNat (digits_injective h)
    | negSucc n => exact absurd h (hsign _ _)
  | negSucc m =>
    cases n with
    | ofNat n => exact absurd h.symm (hsign _ _)
    | negSucc n =>
      have hdigits := digits_injective (List.cons.inj h).2
      exact congrArg Int.negSucc (Nat.succ.inj hdigits)

theorem zero_notMem_decimal (n : ℤ) : (0 : UInt8) ∉ decimal n := by
  have hdigits : ∀ m, (0 : UInt8) ∉ digits m := fun m h =>
    absurd (toNat_of_mem_digits h).1 (by decide)
  cases n with
  | ofNat n => exact hdigits n
  | negSucc n =>
    intro h
    rcases List.mem_cons.mp h with h | h
    · exact absurd h (by decide)
    · exact hdigits _ h

/-- The integers that take at most `k + 1` characters. -/
theorem length_decimal_le_iff {n : ℤ} {k : ℕ} (hk : 0 < k) :
    (decimal n).length ≤ k + 1 ↔ -10 ^ k < n ∧ n < 10 ^ (k + 1) := by
  cases n with
  | ofNat n =>
    have h := length_digits_le_iff (n := n) (Nat.succ_pos k)
    have hpos : (0 : ℤ) < 10 ^ k := by positivity
    show (digits n).length ≤ k + 1 ↔ -10 ^ k < (n : ℤ) ∧ (n : ℤ) < 10 ^ (k + 1)
    rw [h]
    constructor
    · intro hlt
      exact ⟨by omega, by exact_mod_cast hlt⟩
    · rintro ⟨-, hlt⟩
      exact_mod_cast hlt
  | negSucc n =>
    have h := length_digits_le_iff (n := n + 1) hk
    have hpos : (0 : ℤ) < 10 ^ (k + 1) := by positivity
    show (digits (n + 1)).length + 1 ≤ k + 1 ↔ _
    rw [Nat.add_le_add_iff_right, h, Int.negSucc_eq]
    constructor
    · intro hlt
      have hlt' : (n : ℤ) + 1 < 10 ^ k := by exact_mod_cast hlt
      exact ⟨by omega, by omega⟩
    · rintro ⟨hlt, -⟩
      have hlt' : (n : ℤ) + 1 < 10 ^ k := by omega
      exact_mod_cast hlt'

end SoTp.Lib
