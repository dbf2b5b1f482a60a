import Mathlib.Data.Set.Function

/-!
# Message authentication against an adversary

A run of a system in which honest parties authenticate messages under keys, and accept tags that
came over a network they do not trust.  The adversary may do what it likes with the tags it has
seen; what it cannot do is make one under a key it does not hold.

A pair is a key with the message authenticated under it.  `sent` are the pairs whose tags honest
parties have let go of, `accepted` the pairs whose tags an honest party has received and found
right.
-/

namespace Mac

variable {Key Message Tag : Type} (mac : Key → Message → Tag)

/-- The tag of a pair. -/
def tag (pair : Key × Message) : Tag := mac pair.1 pair.2

/-- A tag that has been accepted is one that an honest party has sent. -/
def Unforgeable (sent accepted : Set (Key × Message)) : Prop :=
  ∀ pair ∈ accepted, ∃ pair' ∈ sent, tag mac pair' = tag mac pair

/-- No two pairs that occur have one tag. -/
def CollisionFree (pairs : Set (Key × Message)) : Prop := Set.InjOn (tag mac) pairs

variable {mac}

/-- **What has been accepted has been sent**, under the same key and for the same message. -/
lemma sent_of_accepted {sent accepted pairs : Set (Key × Message)}
    (hu : Unforgeable mac sent accepted) (hf : CollisionFree mac pairs)
    (hs : sent ⊆ pairs) (ha : accepted ⊆ pairs) : accepted ⊆ sent := by
  intro pair hp
  obtain ⟨pair', hp', ht⟩ := hu pair hp
  rwa [← hf (hs hp') (ha hp) ht]

end Mac
