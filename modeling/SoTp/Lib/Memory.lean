import Mathlib

/-!
# Memory blocks with bounds

A heap block seen from its pointer: a function from offsets to bytes, so that
bytes never written keep the unknown contents they had, together with the
number of bytes that were allocated. An access past the allocation still reads
or writes the neighbouring memory, as it does on the machine, but the block
remembers it in `overrun`.

* `Mem.read`, `Mem.write`: `n` bytes at an offset; `Mem.strlen`: the bytes up to a NUL.
* `Block.touch`, `Block.store`: the same with the bounds recorded; `Block.realloc`.
* `read_write_self`, `read_write_of_le`, `read_add`: how reads see writes.
-/

namespace SoTp.Lib

/-- The bytes at each offset from a pointer. -/
abbrev Mem := ℕ → UInt8

namespace Mem

/-- The `n` bytes at offset `off`. -/
def read (m : Mem) (off n : ℕ) : List UInt8 := (List.range n).map fun i => m (off + i)

/-- The memory after `memcpy` of `bs` to offset `off`. -/
def write (m : Mem) (off : ℕ) (bs : List UInt8) : Mem := fun i =>
  if i < off then m i else bs.getD (i - off) (m i)

/-- `strlen` at offset `off`, when there is a NUL among the next `alcance` bytes. -/
def strlen (m : Mem) (off : ℕ) : ℕ → Option ℕ
  | 0 => none
  | alcance + 1 => if m off = 0 then some 0 else (m.strlen (off + 1) alcance).map (· + 1)

@[simp] theorem length_read (m : Mem) (off n : ℕ) : (m.read off n).length = n := by
  simp [read]

@[simp] theorem read_zero (m : Mem) (off : ℕ) : m.read off 0 = [] := rfl

theorem getElem_read (m : Mem) (off n i : ℕ) (h : i < (m.read off n).length) :
    (m.read off n)[i] = m (off + i) := by
  simp [read]

theorem read_congr {m m' : Mem} {off n : ℕ} (h : ∀ i < n, m (off + i) = m' (off + i)) :
    m.read off n = m'.read off n := by
  apply List.map_congr_left
  intro i hi
  exact h i (List.mem_range.mp hi)

theorem read_add (m : Mem) (off a b : ℕ) :
    m.read off (a + b) = m.read off a ++ m.read (off + a) b := by
  simp [read, List.range_add, Function.comp_def, Nat.add_assoc]

theorem write_apply_of_lt {m : Mem} {off i : ℕ} (bs : List UInt8) (h : i < off) :
    m.write off bs i = m i := by
  simp [write, h]

theorem write_apply_of_le {m : Mem} {off i : ℕ} {bs : List UInt8} (h : off + bs.length ≤ i) :
    m.write off bs i = m i := by
  have h1 : ¬ i < off := by omega
  simp only [write, h1, ite_false]
  exact List.getD_eq_default _ _ (by omega)

theorem read_write_self (m : Mem) (off : ℕ) (bs : List UInt8) :
    (m.write off bs).read off bs.length = bs := by
  apply List.ext_getElem
  · simp
  · intro i h1 h2
    rw [getElem_read]
    have h3 : ¬ off + i < off := by omega
    simp only [write, h3, ite_false, Nat.add_sub_cancel_left]
    exact List.getD_eq_getElem _ _ h2

theorem read_write_of_le {m : Mem} {off off' n : ℕ} (bs : List UInt8) (h : off' + n ≤ off) :
    (m.write off bs).read off' n = m.read off' n :=
  read_congr fun _ hi => write_apply_of_lt bs (by omega)

theorem read_write_append (m : Mem) (P bs : List UInt8) (h : m.read 0 P.length = P) :
    (m.write P.length bs).read 0 (P.length + bs.length) = P ++ bs := by
  rw [read_add, read_write_of_le bs (by omega), h, Nat.zero_add, read_write_self]

theorem read_of_read_append {m : Mem} {off : ℕ} {bs cs : List UInt8}
    (h : m.read off (bs ++ cs).length = bs ++ cs) :
    m.read off bs.length = bs ∧ m.read (off + bs.length) cs.length = cs := by
  rw [List.length_append, read_add] at h
  exact List.append_inj h (by simp)

theorem take_read (m : Mem) (off : ℕ) {n k : ℕ} (h : k ≤ n) :
    (m.read off n).take k = m.read off k := by
  obtain ⟨d, rfl⟩ := Nat.exists_eq_add_of_le h
  rw [read_add]
  exact List.take_left' (by simp)

/-- `strlen` finds the first NUL. -/
theorem strlen_eq_some_iff {m : Mem} {off alcance n : ℕ} :
    m.strlen off alcance = some n ↔
      n < alcance ∧ (∀ i < n, m (off + i) ≠ 0) ∧ m (off + n) = 0 := by
  induction alcance generalizing off n with
  | zero => simp [strlen]
  | succ alcance ih =>
    unfold strlen
    by_cases h0 : m off = 0
    · rw [if_pos h0, Option.some.injEq]
      constructor
      · rintro rfl
        exact ⟨Nat.succ_pos _, fun i hi => absurd hi (Nat.not_lt_zero i), h0⟩
      · rintro ⟨-, hne, -⟩
        by_contra hn
        exact hne 0 (Nat.pos_of_ne_zero (Ne.symm hn)) h0
    · rw [if_neg h0, Option.map_eq_some_iff]
      constructor
      · rintro ⟨k, hk, rfl⟩
        obtain ⟨hlt, hne, hnul⟩ := ih.mp hk
        refine ⟨Nat.succ_lt_succ hlt, fun i hi => ?_, by rw [← hnul]; congr 1; omega⟩
        cases i with
        | zero => exact h0
        | succ i => rw [← Nat.add_assoc, Nat.add_right_comm]; exact hne i (by omega)
      · rintro ⟨hlt, hne, hnul⟩
        cases n with
        | zero => exact absurd hnul h0
        | succ n =>
          refine ⟨n, ih.mpr ⟨Nat.lt_of_succ_lt_succ hlt, fun i hi => ?_, ?_⟩, rfl⟩
          · rw [Nat.add_right_comm, Nat.add_assoc]
            exact hne (i + 1) (Nat.succ_lt_succ hi)
          · rw [Nat.add_right_comm, Nat.add_assoc]
            exact hnul

theorem exists_strlen {m : Mem} {off alcance n : ℕ} (hn : n < alcance) (hnul : m (off + n) = 0) :
    ∃ k ≤ n, m.strlen off alcance = some k := by
  have hex : ∃ i, m (off + i) = 0 := ⟨n, hnul⟩
  have hle : Nat.find hex ≤ n := Nat.find_min' hex hnul
  refine ⟨Nat.find hex, hle, strlen_eq_some_iff.mpr ⟨hle.trans_lt hn, fun i hi => ?_, ?_⟩⟩
  · exact Nat.find_min hex hi
  · exact Nat.find_spec hex

end Mem

/-- An allocated block: its memory (and what lies behind it), the number of
bytes allocated, and whether some access has left them. -/
structure Block where
  mem : Mem
  cap : ℕ
  overrun : Bool

namespace Block

/-- `malloc(cap)`: `g` is what the heap held there before. -/
def alloc (g : Mem) (cap : ℕ) : Block := ⟨g, cap, false⟩

/-- `realloc(b, n)`: the bytes that fit stay, and `g` is what the heap held behind them. -/
def realloc (g : Mem) (b : Block) (n : ℕ) : Block where
  mem := fun i => if i < min b.cap n then b.mem i else g i
  cap := n
  overrun := b.overrun

/-- Whether `n` bytes at offset `off` lie inside the allocation. -/
def inside (b : Block) (off n : ℕ) : Bool := n == 0 || decide (off + n ≤ b.cap)

/-- Record an access of `n` bytes at offset `off`. -/
def touch (b : Block) (off n : ℕ) : Block := { b with overrun := b.overrun || !b.inside off n }

/-- Copy `bs` into the block at offset `off`. -/
def store (b : Block) (off : ℕ) (bs : List UInt8) : Block :=
  { b.touch off bs.length with mem := b.mem.write off bs }

@[simp] theorem alloc_mem (g : Mem) (n : ℕ) : (alloc g n).mem = g := rfl
@[simp] theorem alloc_cap (g : Mem) (n : ℕ) : (alloc g n).cap = n := rfl
@[simp] theorem alloc_overrun (g : Mem) (n : ℕ) : (alloc g n).overrun = false := rfl

@[simp] theorem realloc_cap (g : Mem) (b : Block) (n : ℕ) : (b.realloc g n).cap = n := rfl

@[simp] theorem realloc_overrun (g : Mem) (b : Block) (n : ℕ) :
    (b.realloc g n).overrun = b.overrun := rfl

theorem read_realloc (g : Mem) {b : Block} {n k : ℕ} (hcap : k ≤ b.cap) (hn : k ≤ n) :
    (b.realloc g n).mem.read 0 k = b.mem.read 0 k := by
  apply Mem.read_congr
  intro i hi
  show (if 0 + i < min b.cap n then b.mem (0 + i) else g (0 + i)) = b.mem (0 + i)
  exact if_pos (by omega)

@[simp] theorem touch_mem (b : Block) (off n : ℕ) : (b.touch off n).mem = b.mem := rfl
@[simp] theorem touch_cap (b : Block) (off n : ℕ) : (b.touch off n).cap = b.cap := rfl

@[simp] theorem store_mem (b : Block) (off : ℕ) (bs : List UInt8) :
    (b.store off bs).mem = b.mem.write off bs := rfl

@[simp] theorem store_cap (b : Block) (off : ℕ) (bs : List UInt8) :
    (b.store off bs).cap = b.cap := rfl

@[simp] theorem store_overrun (b : Block) (off : ℕ) (bs : List UInt8) :
    (b.store off bs).overrun = (b.touch off bs.length).overrun := rfl

theorem touch_overrun_of_le {b : Block} {off n : ℕ} (h : off + n ≤ b.cap) :
    (b.touch off n).overrun = b.overrun := by
  simp [touch, inside, h]

end Block

end SoTp.Lib
