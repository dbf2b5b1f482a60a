import Mathlib.Tactic.Common

/-!
# Stable sorting

What a stable sort by one comparison says about another relation.  The sort leaves two elements in
their order where the comparison allows it and turns them round where it does not; so the result is
ordered by a relation exactly when, pair by pair, the relation holds in the order that the comparison
decides on.
-/

namespace StableSort

variable {α : Type} {le : α → α → Bool}

/-- The relation holds of a pair in the order that a stable sort gives it. -/
def Agrees (le : α → α → Bool) (r : α → α → Prop) (a b : α) : Prop := if le a b then r a b else r b a

/-- **A stable sort is ordered by a relation** exactly when the relation agrees with the comparison on
every pair of the list. -/
lemma pairwise_mergeSort_iff (htrans : ∀ a b c : α, le a b → le b c → le a c)
    (htotal : ∀ a b : α, le a b || le b a) {r : α → α → Prop} {l : List α} :
    (l.mergeSort le).Pairwise r ↔ l.Pairwise (Agrees le r) := by
  induction l with
  | nil => simp
  | cons a l ih =>
    obtain ⟨before, after, hcons, hrest, hbefo⟩ := List.mergeSort_cons htrans htotal a l
    have hsort := List.pairwise_mergeSort htrans htotal (a :: l)
    rw [hcons, List.pairwise_append, List.pairwise_cons] at hsort
    have hmem : ∀ b, b ∈ l ↔ b ∈ before ∨ b ∈ after := by
      intro b
      rw [← (List.mergeSort_perm l le).mem_iff, hrest, List.mem_append]
    rw [List.pairwise_cons, ← ih, hcons, hrest, List.pairwise_append, List.pairwise_append, List.pairwise_cons]
    constructor
    · rintro ⟨hfirst, ⟨hafter, hseco⟩, hacro⟩
      refine ⟨?_, hfirst, hseco, fun b hb c hc => hacro b hb c (List.mem_cons_of_mem _ hc)⟩
      intro b hb
      rcases (hmem b).mp hb with hb | hb
      · have hle : le a b = false := by simpa using hbefo b hb
        simpa [Agrees, hle] using hacro b hb a List.mem_cons_self
      · simpa [Agrees, hsort.2.1.1 b hb] using hafter b hb
    · rintro ⟨hagre, hfirst, hseco, hacro⟩
      refine ⟨hfirst, ⟨?_, hseco⟩, ?_⟩
      · intro b hb
        simpa [Agrees, hsort.2.1.1 b hb] using hagre b ((hmem b).mpr (.inr hb))
      · intro b hb c hc
        rcases List.mem_cons.mp hc with rfl | hc
        · have hle : le c b = false := by simpa using hbefo b hb
          simpa [Agrees, hle] using hagre b ((hmem b).mpr (.inl hb))
        · exact hacro b hb c hc

end StableSort
