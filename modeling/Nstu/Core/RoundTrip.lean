import Nstu.Core.Wire

/-!
# Codecs that invert each other

An encoder and a decoder of one type: what is valid is read back from its encoding, and what is read was encoded so.
-/

namespace Wire

open Reader

variable {α : Type} {valid : α → Prop} {encode : α → Bytes} {decode : Bytes → Option α}

structure RoundTrips (valid : α → Prop) (encode : α → Bytes) (decode : Bytes → Option α) : Prop where
  read_back : ∀ value, valid value → encode value ≠ [] ∧ decode (encode value) = some value
  canonical : ∀ payload value, decode payload = some value → encode value = payload

/-- **The rule of round trips.** -/
lemma roundTrips_of_iff (hi : ∀ payload value, decode payload = some value ↔ valid value ∧ payload = encode value)
    (hn : decode [] = none) : RoundTrips valid encode decode where
  read_back value hv := by
    have hr := (hi _ _).mpr ⟨hv, rfl⟩
    refine ⟨fun he => ?_, hr⟩
    rw [he, hn] at hr
    cases hr
  canonical payload value h := ((hi payload value).mp h).2.symm

/-- A decoder that looks at its input before it reads. -/
lemma run_unless_iff {reader : Reader α} {refused : Prop} [Decidable refused] {payload : Bytes} {value : α} :
    (if refused then none else (reader.run payload).map Prod.fst) = some value ↔
      ¬ refused ∧ ∃ rest, reader.run payload = some (value, rest) := by
  split_ifs with hr
  · simp [hr]
  · simp [hr, Option.map_eq_some_iff]

lemma toNat_ofNat_length {text : Bytes} (h : text.length < 65536) : (UInt16.ofNat text.length).toNat = text.length :=
  UInt16.toNat_ofNat_of_lt' h

end Wire
