import Mathlib.Data.List.Induction
import Mathlib.Data.Set.Function
import Mathlib.Tactic.Common

/-!
# Hash chains

A list of items, each naming the hash of its predecessor.  The theory is over any item type with a
hash and a predecessor field, and over any starting hash: a log that grows from nothing starts at a
fixed value, a log whose front has been cut off starts at the hash of the last item removed.

The reason to chain hashes is `Linked.eq_drop_of_endHash_eq`: two chains that end in the same hash
agree item by item, backwards, for as long as both last, provided the hash has no collision among
their items.
-/

namespace HashChain

variable {α H : Type} (hash prev : α → H)

/-- Each item names the hash before it, and the first one names `start`. -/
def Linked (start : H) : List α → Prop
  | [] => True
  | item :: rest => prev item = start ∧ Linked (hash item) rest

/-- The hash the next item of a chain has to name. -/
def endHash (start : H) : List α → H
  | [] => start
  | item :: rest => endHash (hash item) rest

variable {hash prev} {start : H}

@[simp] lemma linked_nil : Linked hash prev start [] := trivial

@[simp] lemma endHash_nil : endHash hash start [] = start := rfl

@[simp] lemma endHash_append (left right : List α) :
    endHash hash start (left ++ right) = endHash hash (endHash hash start left) right := by
  induction left generalizing start with
  | nil => rfl
  | cons item rest ih => exact ih

@[simp] lemma endHash_singleton (item : α) : endHash hash start [item] = hash item := rfl

lemma linked_append {left right : List α} : Linked hash prev start (left ++ right) ↔
      Linked hash prev start left ∧ Linked hash prev (endHash hash start left) right := by
  induction left generalizing start with
  | nil => simp
  | cons item rest ih =>
    simp only [List.cons_append, Linked, endHash]
    rw [ih, and_assoc]

variable {items : List α} {item : α}

lemma linked_concat : Linked hash prev start (items ++ [item]) ↔
      Linked hash prev start items ∧ prev item = endHash hash start items := by
  rw [linked_append]
  simp [Linked]

lemma endHash_eq_of_getLast? (h : items.getLast? = some item) : endHash hash start items = hash item := by
  obtain ⟨rest, rfl⟩ := List.getLast?_eq_some_iff.mp h
  simp

variable {i : ℕ}

lemma Linked.prev_eq (h : Linked hash prev start items)
    (hi : i + 1 < items.length) : prev items[i + 1] = hash items[i] := by
  have hs : items = items.take (i + 1) ++ items.drop (i + 1) :=
    (List.take_append_drop (i + 1) items).symm
  rw [hs, linked_append] at h
  have hd : items.drop (i + 1) = items[i + 1] :: items.drop (i + 2) := List.drop_eq_getElem_cons hi
  have ht : items.take (i + 1) = items.take i ++ [items[i]] := by
    rw [List.take_succ_eq_append_getElem]
  rw [hd, ht, endHash_append, endHash_singleton] at h
  exact h.2.1

lemma Linked.prev_zero (h : Linked hash prev start items) (hi : 0 < items.length) : prev items[0] = start := by
  cases items with
  | nil => simp at hi
  | cons item rest => exact h.1

variable {start' : H} {S : Set α}

/-- **Chains with the same end agree backwards.**  By induction from the end: equal last hashes are
hashes of equal items, and equal items name equal predecessors. -/
theorem Linked.eq_drop_of_endHash_eq (hinj : Set.InjOn hash S) :
    ∀ {items items' : List α}, Linked hash prev start items → Linked hash prev start' items' →
      (∀ item ∈ items, item ∈ S) → (∀ item ∈ items', item ∈ S) → items.length ≤ items'.length →
      endHash hash start items = endHash hash start' items' → items = items'.drop (items'.length - items.length) := by
  intro items
  induction items using List.reverseRecOn with
  | nil => intro items' _ _ _ _ _ _; simp
  | append_singleton items item ih =>
    intro items' hlink hlink' hS hS' hlen hend
    induction items' using List.reverseRecOn with
    | nil => simp at hlen
    | append_singleton items' item' _ =>
      simp only [endHash_append, endHash_singleton] at hend
      have hitem : item = item' := hinj (hS item (by simp)) (hS' item' (by simp)) hend
      subst hitem
      obtain ⟨hlink, hprev⟩ := linked_concat.mp hlink
      obtain ⟨hlink', hprev'⟩ := linked_concat.mp hlink'
      simp only [List.length_append, List.length_singleton] at hlen ⊢
      have hrest := ih hlink hlink' (fun x hx => hS x (by simp [hx]))
        (fun x hx => hS' x (by simp [hx])) (by omega) (hprev.symm.trans hprev')
      rw [Nat.add_sub_add_right, List.drop_append_of_le_length (by omega), ← hrest]

lemma Linked.take (h : Linked hash prev start items) (n : ℕ) : Linked hash prev start (items.take n) := by
  rw [← List.take_append_drop n items, linked_append] at h
  exact h.1

/-- **One common item, one common past.**  A chain that shares an item with another one, at a place
that is not later than there, has nothing before it that the other does not have. -/
theorem Linked.mem_of_mem_take (hinj : Set.InjOn hash S)
    {items' : List α} (h : Linked hash prev start items) (h' : Linked hash prev start' items')
    (hS : ∀ item ∈ items, item ∈ S) (hS' : ∀ item ∈ items', item ∈ S) {j : ℕ} {common : α}
    (hi : items[i]? = some common) (hj : items'[j]? = some common) (hij : i ≤ j) :
    ∀ item ∈ items.take (i + 1), item ∈ items' := by
  have hend : ∀ {chain : List α} {k : ℕ} {first : H}, chain[k]? = some common →
      endHash hash first (chain.take (k + 1)) = hash common := by
    intro chain k first hk
    obtain ⟨hlt, rfl⟩ := List.getElem?_eq_some_iff.mp hk
    rw [List.take_succ_eq_append_getElem hlt, endHash_append, endHash_singleton]
  have hlt : i < items.length := (List.getElem?_eq_some_iff.mp hi).1
  have hlt' : j < items'.length := (List.getElem?_eq_some_iff.mp hj).1
  have hdrop := Linked.eq_drop_of_endHash_eq hinj (h.take (i + 1)) (h'.take (j + 1))
    (fun item hitem => hS item (List.mem_of_mem_take hitem))
    (fun item hitem => hS' item (List.mem_of_mem_take hitem))
    (by rw [List.length_take, List.length_take]; omega) ((hend hi).trans (hend hj).symm)
  intro item hitem
  rw [hdrop] at hitem
  exact List.mem_of_mem_take (List.mem_of_mem_drop hitem)

end HashChain
