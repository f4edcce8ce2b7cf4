import Mathlib

/-!
# C strings

A `char *` argument points at bytes that end at the first NUL. `CString` holds
the bytes before it, with the proof that none of them is NUL; `CString.ofBytes`
is what string functions see of a `char` array.
-/

namespace SoTp.Lib

/-- The bytes of a NUL-terminated string, without the terminator. -/
structure CString where
  bytes : List UInt8
  noNul : (0 : UInt8) ∉ bytes
deriving DecidableEq

namespace CString

@[ext] theorem ext {s t : CString} (h : s.bytes = t.bytes) : s = t := by
  cases s; cases t; cases h; rfl

/-- `strlen`. -/
def length (s : CString) : ℕ := s.bytes.length

/-- The string at the start of a `char` array: its bytes up to the first NUL. -/
def ofBytes (bs : List UInt8) : CString where
  bytes := bs.takeWhile (· ≠ 0)
  noNul h := by simpa using List.mem_takeWhile_imp h

theorem bytes_ofBytes {bs : List UInt8} (h : (0 : UInt8) ∉ bs) : (ofBytes bs).bytes = bs := by
  refine List.takeWhile_eq_self_iff.mpr fun b hb => ?_
  have hne : b ≠ 0 := fun hzero => h (hzero ▸ hb)
  simpa using hne

@[simp] theorem ofBytes_bytes (s : CString) : ofBytes s.bytes = s := by
  ext1
  exact bytes_ofBytes s.noNul

/-- An array with a NUL at an index, or that ends there, reads as a string of at most
that length. -/
theorem length_ofBytes_le {bs : List UInt8} {k : ℕ} (h : bs.getD k 0 = 0) :
    (ofBytes bs).length ≤ k := by
  show (bs.takeWhile (· ≠ 0)).length ≤ k
  induction bs generalizing k with
  | nil => exact Nat.zero_le k
  | cons b bs ih =>
    by_cases hb : b = 0
    · simp [hb]
    · cases k with
      | zero => exact absurd h hb
      | succ k =>
        rw [List.takeWhile_cons_of_pos (by simpa using hb), List.length_cons]
        exact Nat.succ_le_succ (ih h)

theorem length_ofBytes_pos {b : UInt8} (hb : b ≠ 0) (bs : List UInt8) :
    0 < (ofBytes (b :: bs)).length := by
  show 0 < ((b :: bs).takeWhile (· ≠ 0)).length
  rw [List.takeWhile_cons_of_pos (by simpa using hb), List.length_cons]
  exact Nat.succ_pos _

end CString

/-- The bytes of a string literal (ASCII in every use). -/
def ascii (s : String) : List UInt8 := s.toList.map fun c => UInt8.ofNat c.toNat

end SoTp.Lib
