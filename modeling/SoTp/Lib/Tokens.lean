import Mathlib

/-!
# Tokens of a text

A text is cut at a separator, and the pieces that are not empty are its tokens.
`Spaced sep tokens text` says that `text` is written from `tokens` with one or
more separators between any two, and any number of them in front and behind.

* `tokens_of_spaced`: the tokens that are read are the ones that were written.
-/

namespace SoTp.Lib

/-! ## Writing -/

section

variable {α : Type*} {sep : α}

/-- A token can be written: it is not empty and does not hold the separator. -/
structure IsToken (sep : α) (t : List α) : Prop where
  ne_nil : t ≠ []
  notMem : sep ∉ t

/-- The rest of a text behind a token: each of `ts` has separators in front of
it, and there may be some at the end. -/
inductive Behind (sep : α) : List (List α) → List α → Prop where
  | fin (n : ℕ) : Behind sep [] (List.replicate n sep)
  | token (n : ℕ) (t : List α) {ts : List (List α)} {rest : List α} (h : Behind sep ts rest) :
    Behind sep (t :: ts) (List.replicate (n + 1) sep ++ (t ++ rest))

/-- A text of the token `t` and the tokens `ts` behind it. -/
def Spaced (sep : α) (t : List α) (ts : List (List α)) (text : List α) : Prop :=
  ∃ n rest, Behind sep ts rest ∧ text = List.replicate n sep ++ (t ++ rest)

theorem Behind.nil_or_cons {ts : List (List α)} {rest : List α} (h : Behind sep ts rest) :
    rest = [] ∨ ∃ rest', rest = sep :: rest' := by
  cases h with
  | fin n =>
    cases n with
    | zero => exact Or.inl rfl
    | succ n => exact Or.inr ⟨_, List.replicate_succ⟩
  | token n t h => exact Or.inr ⟨_, by rw [List.replicate_succ, List.cons_append]⟩

end

/-! ## Reading -/

variable {α : Type*} [DecidableEq α] {sep : α}

/-- The pieces between separators that are not empty. -/
def tokens (sep : α) (text : List α) : List (List α) := (text.splitOn sep).filter (· ≠ [])

theorem tokens_nil : tokens sep ([] : List α) = [] := by
  unfold tokens
  rw [List.splitOn_nil]
  rfl

theorem tokens_cons_self (text : List α) : tokens sep (sep :: text) = tokens sep text := by
  unfold tokens
  have hsplit : (sep :: text).splitOn sep = [] :: text.splitOn sep := by
    rw [List.splitOn_cons_eq_if_modifyHead, if_pos (beq_self_eq_true sep)]
  rw [hsplit, List.filter_cons_of_neg (by simp)]

theorem tokens_replicate (n : ℕ) (text : List α) :
    tokens sep (List.replicate n sep ++ text) = tokens sep text := by
  induction n with
  | zero => rfl
  | succ n ih =>
    rw [List.replicate_succ, List.cons_append, tokens_cons_self]
    exact ih

theorem tokens_token {t : List α} (ht : IsToken sep t) : tokens sep t = [t] := by
  unfold tokens
  rw [List.splitOn_eq_singleton ht.notMem, List.filter_cons_of_pos (by simpa using ht.ne_nil)]
  rfl

theorem tokens_token_cons {t : List α} (ht : IsToken sep t) (text : List α) :
    tokens sep (t ++ sep :: text) = t :: tokens sep text := by
  unfold tokens
  rw [List.splitOn_append_cons_self, List.splitOn_eq_singleton ht.notMem, List.singleton_append,
    List.filter_cons_of_pos (by simpa using ht.ne_nil)]

theorem Behind.tokens_append {ts : List (List α)} {rest t : List α} (h : Behind sep ts rest)
    (ht : IsToken sep t) : tokens sep (t ++ rest) = t :: tokens sep rest := by
  rcases h.nil_or_cons with rfl | ⟨rest', rfl⟩
  · rw [List.append_nil, tokens_token ht, tokens_nil]
  · rw [tokens_token_cons ht, tokens_cons_self]

theorem Behind.tokens_eq {ts : List (List α)} {rest : List α} (h : Behind sep ts rest)
    (hts : ∀ t ∈ ts, IsToken sep t) : tokens sep rest = ts := by
  induction h with
  | fin n =>
    have hn : tokens sep (List.replicate n sep ++ []) = [] := by rw [tokens_replicate, tokens_nil]
    rwa [List.append_nil] at hn
  | token n t h ih =>
    rw [tokens_replicate, h.tokens_append (hts t List.mem_cons_self),
      ih fun t ht => hts t (List.mem_cons_of_mem _ ht)]

/-- **What is written is read**: the tokens of a spaced text. -/
theorem tokens_of_spaced {t : List α} {ts : List (List α)} {text : List α}
    (h : Spaced sep t ts text) (ht : IsToken sep t) (hts : ∀ t ∈ ts, IsToken sep t) :
    tokens sep text = t :: ts := by
  obtain ⟨n, rest, hrest, rfl⟩ := h
  rw [tokens_replicate, hrest.tokens_append ht, hrest.tokens_eq hts]

end SoTp.Lib
