import Mathlib

/-!
# Little-endian byte strings

A machine word of `w` bytes is laid out least significant byte first, the
order of the hosts the C code runs on.

* `leBytes w n`: the `w` low bytes of `n`; `leVal`: the value of a byte string.
* `leVal_leBytes`: the value of the bytes of `n` is `n` modulo `256 ^ w`.
* `leBytes_inj`: below `256 ^ w` the bytes determine the value.
* `leVal_inj`: among byte strings of one length the value determines the bytes.
-/

namespace SoTp.Lib

/-- The `w` low bytes of `n`, least significant first. -/
def leBytes : ℕ → ℕ → List UInt8
  | 0, _ => []
  | w + 1, n => UInt8.ofNat n :: leBytes w (n / 256)

/-- The value of a byte string, least significant byte first. -/
def leVal : List UInt8 → ℕ
  | [] => 0
  | b :: bs => b.toNat + 256 * leVal bs

@[simp] theorem length_leBytes (w n : ℕ) : (leBytes w n).length = w := by
  induction w generalizing n with
  | zero => rfl
  | succ w ih => simp [leBytes, ih]

theorem leVal_leBytes (w n : ℕ) : leVal (leBytes w n) = n % 256 ^ w := by
  induction w generalizing n with
  | zero => simp [leBytes, leVal, Nat.mod_one]
  | succ w ih =>
    have hbyte : (UInt8.ofNat n).toNat = n % 256 := UInt8.toNat_ofNat'
    rw [leBytes, leVal, ih, hbyte, pow_succ', Nat.mod_mul]

theorem leVal_leBytes_of_lt {w n : ℕ} (h : n < 256 ^ w) : leVal (leBytes w n) = n := by
  rw [leVal_leBytes, Nat.mod_eq_of_lt h]

theorem leBytes_inj {w n m : ℕ} (hn : n < 256 ^ w) (hm : m < 256 ^ w)
    (h : leBytes w n = leBytes w m) : n = m := by
  rw [← leVal_leBytes_of_lt hn, h, leVal_leBytes_of_lt hm]

theorem leVal_lt (bs : List UInt8) : leVal bs < 256 ^ bs.length := by
  induction bs with
  | nil => exact Nat.one_pos
  | cons b bs ih =>
    have hb : b.toNat < 256 := b.toNat_lt
    rw [leVal, List.length_cons, pow_succ]
    omega

theorem leVal_inj {bs cs : List UInt8} (hlen : bs.length = cs.length) (h : leVal bs = leVal cs) :
    bs = cs := by
  induction bs generalizing cs with
  | nil => exact (List.length_eq_zero_iff.mp hlen.symm).symm
  | cons b bs ih =>
    cases cs with
    | nil => simp at hlen
    | cons c cs =>
      have hb : b.toNat < 256 := b.toNat_lt
      have hc : c.toNat < 256 := c.toNat_lt
      rw [leVal, leVal] at h
      have hhead : b = c := UInt8.toNat_inj.mp (by omega)
      have htail : bs = cs := ih (by simpa using hlen) (by omega)
      rw [hhead, htail]

end SoTp.Lib
