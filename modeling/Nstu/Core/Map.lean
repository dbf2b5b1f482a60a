import Std.Data.ExtTreeMap
import Mathlib.Algebra.BigOperators.Group.List.Basic
import Mathlib.Algebra.Order.BigOperators.Group.List
import Mathlib.Algebra.Order.Ring.Nat
import Mathlib.Data.List.Nodup
import Mathlib.Data.List.Perm.Basic

/-!
# Maps in key order

Facts about `Std.ExtTreeMap` that belong to no particular program.  Two maps are equal when they
answer every lookup alike, so what is shown here is shown lookup by lookup.
-/

namespace KeyedMap

open Std ExtTreeMap Std

variable {κ ν : Type} [Ord κ] [Std.TransOrd κ] [Std.LawfulEqOrd κ]

lemma insert_insert_self (map : ExtTreeMap κ ν) (k : κ) (first second : ν) :
    (map.insert k first).insert k second = map.insert k second := by
  refine ext_getElem? ?_
  intro a
  simp only [getElem?_insert]
  split <;> rfl

variable {map : ExtTreeMap κ ν} {k : κ} {v : ν}

lemma insert_eq_self (h : map[k]? = some v) : map.insert k v = map := by
  refine ext_getElem? ?_
  intro a
  rw [getElem?_insert]
  split
  · rename_i hc
    rw [← LawfulEqCmp.eq_of_compare hc, h]
  · rfl

lemma erase_insert_self (h : map[k]? = none) : (map.insert k v).erase k = map := by
  refine ext_getElem? ?_
  intro a
  simp only [getElem?_erase, getElem?_insert]
  split
  · rename_i hc
    rw [← LawfulEqCmp.eq_of_compare hc, h]
  · rfl

lemma insertIfNew_eq_self {w : ν} (h : map[k]? = some w) : map.insertIfNew k v = map := by
  refine ext_getElem? ?_
  intro a
  have hm : k ∈ map := mem_iff_isSome_getElem?.mpr (by rw [h]; rfl)
  rw [getElem?_insertIfNew, if_neg fun ha => ha.2 hm]

lemma insertIfNew_eq_insert (h : map[k]? = none) : map.insertIfNew k v = map.insert k v := by
  refine ext_getElem? ?_
  intro a
  have hn : k ∉ map := by
    rw [mem_iff_isSome_getElem?, h]
    simp
  rw [getElem?_insertIfNew, getElem?_insert]
  simp only [hn, not_false_eq_true, and_true]

variable {entries : List (κ × ν)}

lemma mem_of_getElem?_ofList (h : (ofList entries compare)[k]? = some v) : (k, v) ∈ entries := by
  have hi : ∀ (entries : List (κ × ν)) (map : ExtTreeMap κ ν),
      (map.insertMany entries)[k]? = some v → map[k]? = some v ∨ (k, v) ∈ entries := by
    intro entries
    induction entries with
    | nil =>
      intro map hl
      rw [insertMany_nil] at hl
      exact .inl hl
    | cons entry rest ih =>
      intro map hl
      rw [insertMany_cons] at hl
      rcases ih _ hl with hf | hr
      · rw [getElem?_insert] at hf
        split at hf
        · rename_i hc
          rw [← LawfulEqCmp.eq_of_compare hc, ← Option.some.inj hf]
          exact .inr List.mem_cons_self
        · exact .inl hf
      · exact .inr (List.mem_cons_of_mem _ hr)
  rw [ofList_eq_insertMany_empty] at h
  rcases hi entries ∅ h with hn | hm
  · rw [getElem?_empty] at hn
    cases hn
  · exact hm

lemma ofList_of_perm (h : entries.Perm map.toList) : ofList entries compare = map := by
  have hd : entries.Pairwise fun a b => ¬ compare a.1 b.1 = .eq := by
    refine (h.pairwise_iff ?_).mpr distinct_keys_toList
    intro a b ha hb
    rw [LawfulEqCmp.eq_of_compare hb] at ha
    exact ha ReflCmp.compare_self
  refine ext_getElem? ?_
  intro k
  cases hl : map[k]? with
  | some v =>
    refine getElem?_ofList_of_mem ReflCmp.compare_self hd ?_
    exact h.mem_iff.mpr (mem_toList_iff_getElem?_eq_some.mpr hl)
  | none =>
    cases hf : (ofList entries compare)[k]? with
    | none => rfl
    | some v =>
      have hm := h.mem_iff.mp (mem_of_getElem?_ofList hf)
      rw [mem_toList_iff_getElem?_eq_some, hl] at hm
      cases hm

lemma getElem?_of_mem_toList {entry : κ × ν} (h : entry ∈ map.toList) :
    map[entry.1]? = some entry.2 := mem_toList_iff_getElem?_eq_some.mp h

/-! ## Sums over the values -/

/-- The weights of the values of a map, added up. -/
def total (weight : ν → ℕ) (map : ExtTreeMap κ ν) : ℕ := (map.toList.map fun entry => weight entry.2).sum

omit [Std.LawfulEqOrd κ] in
lemma nodup_toList (map : ExtTreeMap κ ν) : map.toList.Nodup := by
  refine List.Nodup.of_map Prod.fst ?_
  rw [map_fst_toList_eq_keys]
  exact nodup_keys

lemma toList_insert_perm [DecidableEq κ] (map : ExtTreeMap κ ν) (k : κ) (v : ν) :
    (map.insert k v).toList.Perm ((k, v) :: (map.erase k).toList) := by
  have hn : (k, v) ∉ (map.erase k).toList := by
    rw [mem_toList_iff_getElem?_eq_some]
    simp
  refine (List.perm_ext_iff_of_nodup (nodup_toList _) (List.nodup_cons.mpr ⟨hn, nodup_toList _⟩)).mpr ?_
  rintro ⟨a, b⟩
  rw [List.mem_cons, mem_toList_iff_getElem?_eq_some, mem_toList_iff_getElem?_eq_some,
    getElem?_insert, getElem?_erase, Prod.mk.injEq]
  by_cases h : k = a
  · subst h
    simp [eq_comm]
  · simp [h, Ne.symm h]

lemma total_insert [DecidableEq κ] (weight : ν → ℕ) (map : ExtTreeMap κ ν) (k : κ) (v : ν) :
    total weight (map.insert k v) = weight v + total weight (map.erase k) := by
  have hp := ((toList_insert_perm map k v).map fun entry => weight entry.2).sum_eq
  rwa [List.map_cons, List.sum_cons] at hp

lemma total_of_getElem? [DecidableEq κ] (weight : ν → ℕ)
    (h : map[k]? = some v) : total weight map = weight v + total weight (map.erase k) := by
  rw [← total_insert, insert_eq_self h]

lemma erase_eq_self (h : map[k]? = none) : map.erase k = map := by
  refine ext_getElem? ?_
  intro a
  rw [getElem?_erase]
  split
  · rename_i hc
    rw [← LawfulEqCmp.eq_of_compare hc, h]
  · rfl

lemma total_erase_le [DecidableEq κ] (weight : ν → ℕ) (map : ExtTreeMap κ ν) (k : κ) :
    total weight (map.erase k) ≤ total weight map := by
  cases h : map[k]? with
  | none => rw [erase_eq_self h]
  | some v =>
    rw [total_of_getElem? weight h]
    exact Nat.le_add_left _ _

lemma total_insert_add [DecidableEq κ] (weight : ν → ℕ) (map : ExtTreeMap κ ν) (k : κ) (v : ν) :
    total weight (map.insert k v) + (map[k]?).elim 0 weight = total weight map + weight v := by
  rw [total_insert]
  cases h : map[k]? with
  | none =>
    rw [erase_eq_self h, Option.elim_none]
    omega
  | some old =>
    rw [total_of_getElem? weight h, Option.elim_some]
    omega

lemma le_total_of_getElem? [DecidableEq κ] (weight : ν → ℕ) (h : map[k]? = some v) : weight v ≤ total weight map := by
  rw [total_of_getElem? weight h]
  exact Nat.le_add_right _ _

omit [LawfulEqOrd κ] in
lemma total_map_le {μ : Type} (weight : ν → ℕ) (weight' : μ → ℕ) (map : ExtTreeMap κ ν)
    (change : κ → ν → μ) (h : ∀ k v, weight' (change k v) ≤ weight v) :
    total weight' (map.map change) ≤ total weight map := by
  simp only [total, toList_map, List.map_map]
  exact List.sum_le_sum fun entry _ => h entry.1 entry.2

lemma total_const (weight : ν → ℕ) {w : ℕ}
    (h : ∀ (k : κ) (v : ν), map[k]? = some v → weight v = w) : total weight map = map.size * w := by
  have hw : map.toList.map (fun entry => weight entry.2) = List.replicate map.size w := by
    rw [← length_toList, ← List.map_const']
    exact List.map_congr_left fun entry he => h _ _ (getElem?_of_mem_toList he)
  rw [total, hw, List.sum_replicate_nat]

omit [LawfulEqOrd κ] in
lemma size_le_total {weight : ν → ℕ} (map : ExtTreeMap κ ν) (h : ∀ v, 1 ≤ weight v) : map.size ≤ total weight map := by
  rw [total, ← length_toList, ← List.length_map (fun entry => weight entry.2)]
  refine List.length_le_sum_of_one_le _ ?_
  intro i hi
  obtain ⟨entry, -, rfl⟩ := List.mem_map.mp hi
  exact h entry.2

lemma pairwise_ne_toList (map : ExtTreeMap κ ν) : map.toList.Pairwise fun left right => left.1 ≠ right.1 :=
  distinct_keys_toList.imp fun hn he => hn (compare_eq_iff_eq.mpr he)

omit [LawfulEqOrd κ] in
/-- A loop whose rounds each work on a key of their own leaves at every key what its round made of
it, and leaves the other keys alone. -/
lemma foldlM_of_keyed {α ε : Type} {f : ExtTreeMap κ ν → κ × α → Except ε (ExtTreeMap κ ν)}
    {R : κ → α → Option ν → Option ν → Prop}
    (hstep : ∀ map entry result, f map entry = Except.ok result → R entry.1 entry.2 map[entry.1]? result[entry.1]? ∧
        ∀ k, entry.1 ≠ k → result[k]? = map[k]?)
    {entries : List (κ × α)} (hdist : entries.Pairwise fun left right => left.1 ≠ right.1)
    {result : ExtTreeMap κ ν} (h : entries.foldlM f map = Except.ok result) :
    (∀ entry ∈ entries, R entry.1 entry.2 map[entry.1]? result[entry.1]?) ∧
      ∀ k, (∀ entry ∈ entries, entry.1 ≠ k) → result[k]? = map[k]? := by
  induction entries generalizing map with
  | nil =>
    cases h
    exact ⟨by simp, fun _ _ => rfl⟩
  | cons first rest ih =>
    obtain ⟨hfirst, hdist⟩ := List.pairwise_cons.mp hdist
    rw [List.foldlM_cons] at h
    cases hnext : f map first with
    | error error =>
      rw [hnext] at h
      cases h
    | ok next =>
      rw [hnext] at h
      obtain ⟨hround, hothe⟩ := hstep map first next hnext
      obtain ⟨hrest, hkept⟩ := ih hdist h
      refine ⟨?_, ?_⟩
      · intro entry hentry
        rcases List.mem_cons.mp hentry with rfl | hentry
        · rw [hkept entry.1 fun other hother heq => hfirst other hother heq.symm]
          exact hround
        · rw [← hothe entry.1 (hfirst entry hentry)]
          exact hrest entry hentry
      · intro k hk
        rw [hkept k fun entry hentry => hk entry (List.mem_cons_of_mem _ hentry),
          hothe k (hk first List.mem_cons_self)]

end KeyedMap
