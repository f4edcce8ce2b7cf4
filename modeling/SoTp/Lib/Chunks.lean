import SoTp.Lib.Tokens

/-!
# Reading a text in chunks

A reader with a buffer of `cap` elements takes a text in chunks: up to the next
separator, and the separator with them, but no more than `cap` elements. The pieces are
the chunks without their separators, where something is left.

* `pieces_eq_tokens_iff`: the pieces are the tokens of the text if and only if every
  line, the separator apart, fits the buffer.
-/

namespace SoTp.Lib

variable {α : Type*} [DecidableEq α] {sep : α} {cap : ℕ}

/-- The elements up to the first separator, which is the last of them. -/
def upTo (sep : α) : List α → List α
  | [] => []
  | b :: bs => if b = sep then [b] else b :: upTo sep bs

/-- The next chunk of a text. -/
def chunk (sep : α) (cap : ℕ) (text : List α) : List α := upTo sep (text.take cap)

/-- The pieces of at most `n` chunks. -/
def pieces (sep : α) (cap : ℕ) : ℕ → List α → List (List α)
  | 0, _ => []
  | n + 1, text =>
    if text = [] then []
    else
      let c := chunk sep cap text
      [c.takeWhile (· ≠ sep)].filter (· ≠ []) ++ pieces sep cap n (text.drop c.length)

/-! ## One chunk -/

theorem upTo_of_notMem {l : List α} (h : sep ∉ l) : upTo sep l = l := by
  induction l with
  | nil => rfl
  | cons b l ih =>
    obtain ⟨hb, hl⟩ := not_or.mp (mt List.mem_cons.mpr h)
    rw [upTo, if_neg (Ne.symm hb), ih hl]

theorem upTo_append_cons {l : List α} (h : sep ∉ l) (rest : List α) :
    upTo sep (l ++ sep :: rest) = l ++ [sep] := by
  induction l with
  | nil => exact if_pos rfl
  | cons b l ih =>
    obtain ⟨hb, hl⟩ := not_or.mp (mt List.mem_cons.mpr h)
    rw [List.cons_append, upTo, if_neg (Ne.symm hb), ih hl, List.cons_append]

theorem upTo_sublist (l : List α) : (upTo sep l).Sublist l := by
  induction l with
  | nil => exact List.Sublist.refl []
  | cons b l ih =>
    unfold upTo
    split_ifs
    · exact (List.nil_sublist l).cons_cons b
    · exact ih.cons_cons b

theorem chunk_sublist (text : List α) : (chunk sep cap text).Sublist text :=
  (upTo_sublist _).trans (List.take_sublist cap text)

theorem length_chunk_le (text : List α) : (chunk sep cap text).length ≤ cap :=
  (upTo_sublist _).length_le.trans (List.length_take_le _ _)

theorem chunk_ne_nil {text : List α} (htext : text ≠ []) (hcap : 0 < cap) :
    chunk sep cap text ≠ [] := by
  obtain ⟨b, bs, rfl⟩ := List.exists_cons_of_ne_nil htext
  obtain ⟨k, rfl⟩ := Nat.exists_eq_succ_of_ne_zero (Nat.ne_of_gt hcap)
  rw [chunk, List.take_succ_cons, upTo]
  split_ifs <;> exact List.cons_ne_nil _ _

/-- A line that leaves room for its separator is a chunk with it. -/
theorem chunk_of_lt {l : List α} (h : sep ∉ l) (hlen : l.length < cap) (rest : List α) :
    chunk sep cap (l ++ sep :: rest) = l ++ [sep] := by
  obtain ⟨d, rfl⟩ := Nat.exists_eq_add_of_lt hlen
  have htake : (l ++ sep :: rest).take (l.length + d + 1) = l ++ sep :: rest.take d := by
    rw [Nat.add_assoc, List.take_length_add_append, List.take_succ_cons]
  rw [chunk, htake, upTo_append_cons h]

/-- A line that fills the buffer is a chunk without it. -/
theorem chunk_of_eq {l : List α} (h : sep ∉ l) (rest : List α) :
    chunk sep l.length (l ++ rest) = l := by
  rw [chunk, List.take_left' rfl, upTo_of_notMem h]

/-- The last line. -/
theorem chunk_of_notMem {l : List α} (h : sep ∉ l) (hlen : l.length ≤ cap) :
    chunk sep cap l = l := by
  rw [chunk, List.take_of_length_le hlen, upTo_of_notMem h]

theorem takeWhile_of_notMem {l : List α} (h : sep ∉ l) (rest : List α) :
    (l ++ sep :: rest).takeWhile (· ≠ sep) = l := by
  have hl : ∀ a ∈ l, decide (a ≠ sep) = true := fun a ha => decide_eq_true fun heq => h (heq ▸ ha)
  rw [List.takeWhile_append_of_pos hl, List.takeWhile_cons_of_neg (by simp), List.append_nil]

theorem takeWhile_self_of_notMem {l : List α} (h : sep ∉ l) : l.takeWhile (· ≠ sep) = l :=
  List.takeWhile_eq_self_iff.mpr fun _ ha => decide_eq_true fun heq => h (heq ▸ ha)

/-! ## All of them -/

/-- The tokens of a text by its first line. -/
theorem tokens_append_cons {l : List α} (h : sep ∉ l) (rest : List α) :
    tokens sep (l ++ sep :: rest) = [l].filter (· ≠ []) ++ tokens sep rest := by
  unfold tokens
  rw [List.splitOn_append_cons_self_of_not_mem h, ← List.filter_append, List.singleton_append]

section

variable {n : ℕ} {l : List α}

theorem pieces_nil (n : ℕ) : pieces sep cap n ([] : List α) = [] := by
  cases n with
  | zero => rfl
  | succ n => exact if_pos rfl

theorem pieces_succ {text : List α} (htext : text ≠ []) :
    pieces sep cap (n + 1) text =
      [(chunk sep cap text).takeWhile (· ≠ sep)].filter (· ≠ []) ++
        pieces sep cap n (text.drop (chunk sep cap text).length) :=
  if_neg htext

theorem pieces_line_of_lt (h : sep ∉ l) (hlen : l.length < cap) (rest : List α) :
    pieces sep cap (n + 1) (l ++ sep :: rest) =
      [l].filter (· ≠ []) ++ pieces sep cap n rest := by
  have hdrop : (l ++ sep :: rest).drop (l ++ [sep]).length = rest := by
    rw [List.append_cons l sep rest]
    exact List.drop_left' rfl
  rw [pieces_succ (by simp), chunk_of_lt h hlen, takeWhile_of_notMem h, hdrop]

/-- The separator of a line that fills the buffer is a chunk of its own. -/
theorem pieces_line_of_eq (h : sep ∉ l) (rest : List α) :
    pieces sep l.length (n + 1) (l ++ sep :: rest) =
      [l].filter (· ≠ []) ++ pieces sep l.length n (sep :: rest) := by
  rw [pieces_succ (by simp), chunk_of_eq h, takeWhile_self_of_notMem h, List.drop_left' rfl]

theorem pieces_last (h : sep ∉ l) (hlen : l.length ≤ cap) (hl : l ≠ []) :
    pieces sep cap (n + 1) l = [l] := by
  rw [pieces_succ hl, chunk_of_notMem h hlen, takeWhile_self_of_notMem h, List.drop_length,
    pieces_nil, List.append_nil]
  exact List.filter_cons_of_pos (by simpa using hl)

end

/-- Lines that fit are read whole. The induction is on the chunks: a line of exactly
`cap` elements takes two, of which the second is empty. -/
theorem pieces_eq_tokens {n : ℕ} {text : List α} (hn : text.length ≤ n) (hcap : 0 < cap)
    (hfit : ∀ line ∈ text.splitOn sep, line.length ≤ cap) :
    pieces sep cap n text = tokens sep text := by
  induction n generalizing text with
  | zero =>
    obtain rfl := List.length_eq_zero_iff.mp (Nat.le_zero.mp hn)
    rw [pieces_nil, tokens_nil]
  | succ n ih =>
    by_cases hmem : sep ∈ text
    · obtain ⟨l, rest, rfl, hl⟩ := List.eq_append_cons_of_mem hmem
      rw [List.splitOn_append_cons_self_of_not_mem hl, List.forall_mem_cons] at hfit
      rw [List.length_append, List.length_cons] at hn
      rw [tokens_append_cons hl]
      rcases Nat.lt_or_eq_of_le hfit.1 with hlt | rfl
      · rw [pieces_line_of_lt hl hlt, ih (by omega) hfit.2]
      · have hfit' : ∀ line ∈ (sep :: rest).splitOn sep, line.length ≤ l.length := by
          rw [← List.nil_append (sep :: rest),
            List.splitOn_append_cons_self_of_not_mem List.not_mem_nil]
          exact List.forall_mem_cons.mpr ⟨Nat.zero_le _, hfit.2⟩
        rw [pieces_line_of_eq hl, ih (by rw [List.length_cons]; omega) hfit', tokens_cons_self]
    · by_cases htext : text = []
      · rw [htext, pieces_nil, tokens_nil]
      · rw [List.splitOn_eq_singleton hmem] at hfit
        rw [pieces_last hmem (hfit text (List.mem_singleton_self text)) htext,
          tokens_token ⟨htext, hmem⟩]

/-- A piece is part of the text, and no longer than the buffer. -/
theorem pieces_bound {n : ℕ} {text p : List α} (h : p ∈ pieces sep cap n text) :
    p.Sublist text ∧ p.length ≤ cap := by
  induction n generalizing text with
  | zero => cases h
  | succ n ih =>
    unfold pieces at h
    split_ifs at h
    · cases h
    · rcases List.mem_append.mp h with hp | hp
      · obtain rfl := List.mem_singleton.mp (List.mem_of_mem_filter hp)
        have hchunk := List.takeWhile_sublist (l := chunk sep cap text) (· ≠ sep)
        exact ⟨hchunk.trans (chunk_sublist text), hchunk.length_le.trans (length_chunk_le text)⟩
      · obtain ⟨hsub, hlen⟩ := ih hp
        exact ⟨hsub.trans (List.drop_sublist _ text), hlen⟩

/-- **The pieces are the tokens** exactly where every line fits the buffer. -/
theorem pieces_eq_tokens_iff {n : ℕ} {text : List α} (hn : text.length ≤ n) (hcap : 0 < cap) :
    pieces sep cap n text = tokens sep text ↔
      ∀ line ∈ text.splitOn sep, line.length ≤ cap := by
  refine ⟨fun heq line hline => ?_, pieces_eq_tokens hn hcap⟩
  by_cases hnil : line = []
  · rw [hnil]
    exact Nat.zero_le cap
  · have hmem : line ∈ tokens sep text := List.mem_filter.mpr ⟨hline, by simpa using hnil⟩
    rw [← heq] at hmem
    exact (pieces_bound hmem).2

end SoTp.Lib
