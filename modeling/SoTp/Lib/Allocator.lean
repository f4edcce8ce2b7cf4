import SoTp.Lib.Run
import SoTp.Lib.Tiling

/-!
# Allocators

An allocator of a region hands out blocks of it and takes them back. `Serves memory range`
says what it may do to the list of the blocks that are in use: hand out one inside the region
and apart from all the others, or take one back.

* `Serves.packing`, `serves_packing`: **the blocks in use never share a point**.
* `apart_of_held`: where each block in use is held by a piece of its own, a block in another
  piece is apart from all of them.
* `run_serves`: the runs of a machine whose steps serve.
-/

namespace SoTp.Lib

variable {σ ι α β π : Type*} {memory : Set α} {range : β → Set α}

/-- One step of an allocator, from the blocks in use before it to those after it. -/
inductive Serves (memory : Set α) (range : β → Set α) : List β → List β → Prop where
  /-- No block is handed out. -/
  | idle (live : List β) : Serves memory range live live
  /-- A block is handed out. -/
  | grant {live : List β} (b : β) (inside : range b ⊆ memory)
      (apart : ∀ c ∈ live, Disjoint (range b) (range c)) : Serves memory range live (b :: live)
  /-- A block is taken back. -/
  | release {live rest : List β} (b : β) (hperm : live.Perm (b :: rest)) :
      Serves memory range live rest

/-- One step keeps the blocks apart. -/
theorem Serves.packing {live live' : List β} (h : Serves memory range live live')
    (hlive : Packing memory (live.map range)) : Packing memory (live'.map range) := by
  cases h with
  | idle => exact hlive
  | grant b inside apart =>
    refine ⟨List.pairwise_cons.mpr ⟨?_, hlive.disjoint⟩, List.forall_mem_cons.mpr ⟨inside, ?_⟩⟩
    · exact List.forall_mem_map.mpr apart
    · exact hlive.inside
  | release b hperm =>
    have hcons := hlive.perm (hperm.map range)
    rw [List.map_cons] at hcons
    exact ⟨(List.pairwise_cons.mp hcons.disjoint).2,
      fun s hs => hcons.inside s (List.mem_cons_of_mem _ hs)⟩

/-- **Safety**: whatever has been handed out and taken back, the blocks in use are apart and
inside the region. -/
theorem serves_packing {live : List β}
    (h : Relation.ReflTransGen (Serves memory range) [] live) :
    Packing memory (live.map range) := by
  induction h with
  | refl => exact ⟨List.Pairwise.nil, fun s hs => absurd hs List.not_mem_nil⟩
  | tail _ hstep ih => exact hstep.packing ih

/-- Each block in use is held by a piece of its own, and all the pieces are disjoint. Then a
block inside one more piece is apart from those in use. -/
theorem apart_of_held {piece : π → Set α} {holds : π → β → Prop} {free : π} {pieces : List π}
    {live : List β} {b : β} (hholds : ∀ p c, holds p c → range c ⊆ piece p)
    (hheld : Multiset.Rel holds (pieces : Multiset π) live)
    (hdisjoint : ∀ p ∈ pieces, Disjoint (piece free) (piece p)) (hb : range b ⊆ piece free) :
    ∀ c ∈ live, Disjoint (range b) (range c) := by
  intro c hc
  obtain ⟨p, hp, hpc⟩ := Multiset.exists_mem_of_rel_of_mem (Multiset.rel_flip.mpr hheld)
    (Multiset.mem_coe.mpr hc)
  exact (hdisjoint p (Multiset.mem_coe.mp hp)).mono hb (hholds p c hpc)

/-- **Over a run** of a machine whose steps serve, under a condition on the steps and with an
invariant of its own. -/
theorem run_serves {step : σ → ι → Option σ} {P : σ → ι → Prop} (Inv : σ → Prop)
    (live : σ → List β)
    (hstep : ∀ s a s', Inv s → P s a → step s a = some s' →
      Inv s' ∧ Serves memory range (live s) (live s'))
    {s t : σ} {as : List ι} (hs : Inv s) (hP : Along step P s as)
    (hrun : run step s as = some t) :
    Inv t ∧ Relation.ReflTransGen (Serves memory range) (live s) (live t) := by
  have hkeep (u : σ) (a : ι) (u' : σ)
      (hu : Inv u ∧ Relation.ReflTransGen (Serves memory range) (live s) (live u)) (ha : P u a)
      (hu' : step u a = some u') :
      Inv u' ∧ Relation.ReflTransGen (Serves memory range) (live s) (live u') := by
    obtain ⟨hinv, hserves⟩ := hstep u a u' hu.1 ha hu'
    exact ⟨hinv, hu.2.tail hserves⟩
  exact run_invariant hkeep ⟨hs, .refl⟩ hP hrun

end SoTp.Lib
