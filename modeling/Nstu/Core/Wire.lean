import Mathlib.Algebra.Order.Ring.Nat
import Mathlib.Tactic.Common

/-!
# Little-endian wire formats

Byte strings, fixed-width words and the reader monad that hand-written binary decoders use.
Nothing here knows about any particular message.

The point of the file is the shape of its lemmas.  A decoder is a chain of reads and checks, an
encoder a chain of concatenations, and a codec is canonical when each read succeeds on exactly
the bytes the matching append would have produced.  So every reader gets one *equivalence*:

* `run_readLe_iff` — a word is read off `s` iff `s` starts with its little-endian bytes;
* `run_readBytes_iff`, `run_readBlock_iff` — the same for raw bytes and fixed-size arrays;
* `run_bind_readLe_iff` and its siblings — the same, for a read followed by the rest of a decoder;
* `run_bind_require_iff`, `run_pure_iff` — checks and results.

Rewriting with these turns `decode payload = some value` into `payload = encode value` together
with the checks, and the two halves of a round trip are the two directions of one statement.
-/

namespace Wire

open List

/-- A byte string: `std::vector<std::byte>`, `std::span<const std::byte>` or `std::string`. -/
abbrev Bytes := List UInt8

instance : LawfulBEq Bytes := inferInstance

/-- A fixed-size byte array, `std::array<std::byte, n>`.  The length is a field, so a digest or an
identifier of the wrong size cannot be written down. -/
@[ext]
structure Block (n : ℕ) where
  toList : Bytes
  length_toList : toList.length = n
  deriving DecidableEq

attribute [simp] Block.length_toList

namespace Block

variable {n : ℕ}

/-- The value-initialised array, `{}`. -/
def zero (n : ℕ) : Block n := ⟨List.replicate n 0, List.length_replicate⟩

/-- The block that repeats one byte. -/
def fill (n : ℕ) (byte : UInt8) : Block n := ⟨List.replicate n byte, List.length_replicate⟩

lemma toList_injective : Function.Injective (toList : Block n → Bytes) := fun _ _ h => Block.ext h

@[simp] lemma toList_inj {a b : Block n} : a.toList = b.toList ↔ a = b := toList_injective.eq_iff

end Block

lemma append_separator_inj {α : Type} {separator : α} {a b rest rest' : List α}
    (ha : separator ∉ a) (hb : separator ∉ b) (h : a ++ separator :: rest = b ++ separator :: rest') :
    a = b ∧ rest = rest' := by
  induction a generalizing b with
  | nil =>
    cases b with
    | nil => simpa using h
    | cons head tail =>
      obtain rfl : separator = head := (cons.inj h).1
      exact absurd (mem_cons_self ..) hb
  | cons head tail ih =>
    cases b with
    | nil =>
      obtain rfl : head = separator := (cons.inj h).1
      exact absurd (mem_cons_self ..) ha
    | cons head' tail' =>
      obtain ⟨rfl, ht⟩ := cons.inj h
      obtain ⟨rfl, hr⟩ := ih (fun hm => ha (mem_cons_of_mem _ hm))
        (fun hm => hb (mem_cons_of_mem _ hm)) ht
      exact ⟨rfl, hr⟩

/-! ## Little-endian naturals -/

/-- The low `width` bytes of a natural number, least significant first. -/
def leBytes : ℕ → ℕ → Bytes
  | 0, _ => []
  | width + 1, value => UInt8.ofNat value :: leBytes width (value / 256)

/-- The natural number a little-endian byte string denotes. -/
def leValue : Bytes → ℕ
  | [] => 0
  | b :: rest => b.toNat + 256 * leValue rest

@[simp] lemma leBytes_length : ∀ width value, (leBytes width value).length = width
  | 0, _ => rfl
  | width + 1, value => by simp [leBytes, leBytes_length width]

lemma leValue_lt : ∀ s : Bytes, leValue s < 256 ^ s.length
  | [] => by simp [leValue]
  | b :: rest => by
    have hb : b.toNat < 256 := b.toNat_lt
    have ih := leValue_lt rest
    simp only [leValue, length_cons, Nat.pow_succ]
    omega

lemma leValue_leBytes : ∀ width value, value < 256 ^ width → leValue (leBytes width value) = value
  | 0, value, h => by simp at h; simp [leBytes, leValue, h]
  | width + 1, value, h => by
    have hq : value / 256 < 256 ^ width := by
      rw [Nat.pow_succ] at h
      exact Nat.div_lt_of_lt_mul (by omega)
    have hb : (UInt8.ofNat value).toNat = value % 256 := by simp
    simp only [leBytes, leValue, leValue_leBytes width _ hq, hb]
    omega

lemma leBytes_leValue : ∀ s : Bytes, leBytes s.length (leValue s) = s
  | [] => rfl
  | b :: rest => by
    have hb : b.toNat < 256 := b.toNat_lt
    have hd : (b.toNat + 256 * leValue rest) / 256 = leValue rest := by omega
    have hh : UInt8.ofNat (b.toNat + 256 * leValue rest) = b := by
      apply UInt8.toNat_inj.mp
      simp only [UInt8.toNat_ofNat']
      omega
    simp only [length_cons, leBytes, leValue, hd, hh, leBytes_leValue rest]

/-! ## Fixed-width words -/

/-- An unsigned machine word of `size` bytes. -/
class Word (T : Type) where
  size : ℕ
  toNat : T → ℕ
  ofNat : ℕ → T
  toNat_lt : ∀ v, toNat v < 256 ^ size
  ofNat_toNat : ∀ v, ofNat (toNat v) = v
  toNat_ofNat : ∀ n, n < 256 ^ size → toNat (ofNat n) = n

instance : Word UInt8 where
  size := 1
  toNat := UInt8.toNat
  ofNat := UInt8.ofNat
  toNat_lt v := v.toNat_lt
  ofNat_toNat _ := UInt8.ofNat_toNat
  toNat_ofNat _ h := UInt8.toNat_ofNat_of_lt' h

instance : Word UInt16 where
  size := 2
  toNat := UInt16.toNat
  ofNat := UInt16.ofNat
  toNat_lt v := v.toNat_lt
  ofNat_toNat _ := UInt16.ofNat_toNat
  toNat_ofNat _ h := UInt16.toNat_ofNat_of_lt' h

instance : Word UInt32 where
  size := 4
  toNat := UInt32.toNat
  ofNat := UInt32.ofNat
  toNat_lt v := v.toNat_lt
  ofNat_toNat _ := UInt32.ofNat_toNat
  toNat_ofNat _ h := UInt32.toNat_ofNat_of_lt' h

instance : Word UInt64 where
  size := 8
  toNat := UInt64.toNat
  ofNat := UInt64.ofNat
  toNat_lt v := v.toNat_lt
  ofNat_toNat _ := UInt64.ofNat_toNat
  toNat_ofNat _ h := UInt64.toNat_ofNat_of_lt' h

section Words

variable {T : Type} [Word T]

/-- What `append_le` appends. -/
def le (value : T) : Bytes := leBytes (Word.size T) (Word.toNat value)

@[simp] lemma le_length (value : T) : (le value).length = Word.size T := leBytes_length _ _

lemma le_ofNat_leValue {s : Bytes} (h : s.length = Word.size T) : le (Word.ofNat (leValue s) : T) = s := by
  have hl : leValue s < 256 ^ Word.size T := h ▸ leValue_lt s
  rw [le, Word.toNat_ofNat _ hl, ← h, leBytes_leValue]

lemma ofNat_leValue_le (value : T) : (Word.ofNat (leValue (le value)) : T) = value := by
  rw [le, leValue_leBytes _ _ (Word.toNat_lt value), Word.ofNat_toNat]

lemma le_injective : Function.Injective (le : T → Bytes) := by
  intro a b h
  rw [← ofNat_leValue_le a, h, ofNat_leValue_le]

end Words

@[simp] lemma size_uint8 : Word.size UInt8 = 1 := rfl

@[simp] lemma size_uint16 : Word.size UInt16 = 2 := rfl

@[simp] lemma size_uint32 : Word.size UInt32 = 4 := rfl
@[simp] lemma size_uint64 : Word.size UInt64 = 8 := rfl

/-! ## Readers

A decoder threads an offset through one span.  Here the state is what is left of the span from
that offset on, so "`size() - offset` bytes remain" is the length of the state.
-/

/-- A reader takes the remaining input and either fails or returns a value and what is left. -/
abbrev Reader := StateT Bytes Option

namespace Reader

variable {α β : Type}

/-- Fail unless the condition holds. -/
def require (p : Prop) [Decidable p] : Reader Unit := fun s => if p then some ((), s) else none

def readLe {T : Type} [Word T] : Reader T := fun s =>
  if Word.size T ≤ s.length then
    some (Word.ofNat (leValue (s.take (Word.size T))), s.drop (Word.size T))
  else none

/-- The next `n` bytes, as they are. -/
def readBytes (n : ℕ) : Reader Bytes := fun s =>
  if n ≤ s.length then some (s.take n, s.drop n) else none

/-- `read_bytes` into an array of `n` bytes. -/
def readBlock (n : ℕ) : Reader (Block n) := fun s =>
  if h : n ≤ s.length then some (⟨s.take n, by simp [h]⟩, s.drop n) else none

/-- How many bytes remain. -/
def remaining : Reader ℕ := fun s => some (s.length, s)

/-- A computation on what has been read. -/
def ofOption (result : Option α) : Reader α := fun s => result.map fun value => (value, s)

lemma run_bind_iff {x : Reader α} {f : α → Reader β} {s : Bytes} {p : β × Bytes} :
    (x >>= f).run s = some p ↔ ∃ a r, x.run s = some (a, r) ∧ (f a).run r = some p := by
  rw [StateT.run_bind]
  simp [Option.bind_eq_some_iff]

lemma run_pure_iff {a b : α} {s r : Bytes} : (pure a : Reader α).run s = some (b, r) ↔ a = b ∧ s = r := by
  simp [StateT.run_pure]

lemma run_readLe_iff {T : Type} [Word T] {s r : Bytes} {v : T} :
    (readLe : Reader T).run s = some (v, r) ↔ s = le v ++ r := by
  simp only [readLe, StateT.run]
  constructor
  · intro h
    split_ifs at h with hl
    simp only [Option.some.injEq, Prod.mk.injEq] at h
    obtain ⟨rfl, rfl⟩ := h
    rw [le_ofNat_leValue (by simp [hl]), take_append_drop]
  · rintro rfl
    have ht : (le v ++ r).take (Word.size T) = le v := take_left' (le_length v)
    have hd : (le v ++ r).drop (Word.size T) = r := drop_left' (le_length v)
    rw [if_pos (by simp), ht, hd, ofNat_leValue_le]

lemma run_readBytes_iff {n : ℕ} {s r b : Bytes} : (readBytes n).run s = some (b, r) ↔ s = b ++ r ∧ b.length = n := by
  simp only [readBytes, StateT.run]
  constructor
  · intro h
    split_ifs at h with hl
    simp only [Option.some.injEq, Prod.mk.injEq] at h
    obtain ⟨rfl, rfl⟩ := h
    exact ⟨(take_append_drop n s).symm, by simp [hl]⟩
  · rintro ⟨rfl, rfl⟩
    simp

lemma run_readBlock_iff {n : ℕ} {s r : Bytes} {b : Block n} :
    (readBlock n).run s = some (b, r) ↔ s = b.toList ++ r := by
  simp only [readBlock, StateT.run]
  constructor
  · intro h
    split_ifs at h with hl
    simp only [Option.some.injEq, Prod.mk.injEq] at h
    obtain ⟨rfl, rfl⟩ := h
    exact (take_append_drop n s).symm
  · rintro rfl
    have ht : (b.toList ++ r).take n = b.toList := take_left' b.length_toList
    have hd : (b.toList ++ r).drop n = r := drop_left' b.length_toList
    rw [dif_pos (by simp)]
    simp only [hd, Option.some.injEq, Prod.mk.injEq, and_true]
    exact Block.ext ht

/-! ### Reads in sequence

Stated for a read *followed by* the rest of the decoder, so that rewriting a whole `do` block with
them leaves one existential per field and nothing to substitute by hand.
-/

section Sequence

variable {s : Bytes} {q : β × Bytes}

lemma run_bind_require_iff {p : Prop} [Decidable p] {f : Unit → Reader β} :
    (require p >>= f).run s = some q ↔ p ∧ (f ()).run s = some q := by
  rw [run_bind_iff]
  simp only [require, StateT.run]
  constructor
  · rintro ⟨a, r, h, hf⟩
    split_ifs at h with hp
    cases h
    exact ⟨hp, hf⟩
  · rintro ⟨hp, hf⟩
    exact ⟨(), s, if_pos hp, hf⟩

lemma run_bind_remaining_iff {f : ℕ → Reader β} : (remaining >>= f).run s = some q ↔ (f s.length).run s = some q := by
  rw [run_bind_iff]
  simp only [remaining, StateT.run]
  constructor
  · rintro ⟨a, r, h, hf⟩
    cases h
    exact hf
  · intro hf
    exact ⟨_, _, rfl, hf⟩

lemma run_bind_ofOption_iff {result : Option α} {f : α → Reader β} :
    (ofOption result >>= f).run s = some q ↔ ∃ value, result = some value ∧ (f value).run s = some q := by
  rw [run_bind_iff]
  simp only [ofOption, StateT.run, Option.map_eq_some_iff, Prod.mk.injEq]
  constructor
  · rintro ⟨a, r, ⟨value, hv, rfl, rfl⟩, hf⟩
    exact ⟨value, hv, hf⟩
  · rintro ⟨value, hv, hf⟩
    exact ⟨value, s, ⟨value, hv, rfl, rfl⟩, hf⟩

lemma run_bind_readLe_iff {T : Type} [Word T] {f : T → Reader β} :
    (readLe >>= f).run s = some q ↔ ∃ v r, s = le v ++ r ∧ (f v).run r = some q := by
  rw [run_bind_iff]
  simp only [run_readLe_iff]

lemma run_bind_readBytes_iff {n : ℕ} {f : Bytes → Reader β} : (readBytes n >>= f).run s = some q ↔
      ∃ b r, s = b ++ r ∧ b.length = n ∧ (f b).run r = some q := by
  rw [run_bind_iff]
  simp only [run_readBytes_iff, and_assoc]

lemma run_bind_readBlock_iff {n : ℕ} {f : Block n → Reader β} : (readBlock n >>= f).run s = some q ↔
      ∃ b r, s = b.toList ++ r ∧ (f b).run r = some q := by
  rw [run_bind_iff]
  simp only [run_readBlock_iff]

end Sequence

/-! ### Repetition -/

/-- Read as many values as are announced. -/
def readTimes (reader : Reader α) : ℕ → Reader (List α)
  | 0 => pure []
  | count + 1 => do
    let value ← reader
    let values ← readTimes reader count
    pure (value :: values)

lemma run_readTimes {reader : Reader α} {encode : β → Bytes} {decode : β → α} : ∀ {values : List β} (rest : Bytes),
      (∀ value ∈ values, ∀ rest, reader.run (encode value ++ rest) = some (decode value, rest)) →
      (readTimes reader values.length).run (values.flatMap encode ++ rest) = some (values.map decode, rest)
  | [], rest, _ => rfl
  | value :: values, rest, h => by
    have hva := h value mem_cons_self (values.flatMap encode ++ rest)
    have ih := @run_readTimes reader encode decode values rest fun v hv =>
      h v (mem_cons_of_mem _ hv)
    rw [length_cons, readTimes, run_bind_iff]
    refine ⟨decode value, values.flatMap encode ++ rest, ?_, ?_⟩
    · rw [flatMap_cons, append_assoc]
      exact hva
    · rw [run_bind_iff]
      exact ⟨values.map decode, rest, ih, rfl⟩

lemma mem_of_run_readTimes {reader : Reader α} : ∀ {count : ℕ} {s r : Bytes} {values : List α},
      (readTimes reader count).run s = some (values, r) →
      ∀ value ∈ values, ∃ s' r', reader.run s' = some (value, r')
  | 0, s, r, values, h, value, hv => by
    cases h
    cases hv
  | count + 1, s, r, values, h, value, hv => by
    rw [readTimes, run_bind_iff] at h
    obtain ⟨first, s1, hf, h⟩ := h
    rw [run_bind_iff] at h
    obtain ⟨others, s2, ho, h⟩ := h
    cases h
    rcases mem_cons.mp hv with rfl | hv
    · exact ⟨s, s1, hf⟩
    · exact mem_of_run_readTimes ho value hv

end Reader

/-! ## Readers that report

A decoder that tells its caller why it gave up is a chain of readers with a message each.
-/

/-- A reader that fails with a message. -/
abbrev Parser := StateT Bytes (Except String)

namespace Parser

variable {α β : Type}

/-- Run a reader, or fail with a message. -/
def orFail (reader : Reader α) (message : String) : Parser α := fun s =>
  match reader.run s with
  | some result => .ok result
  | none => .error message

/-- A computation that reads nothing. -/
def noInput (result : Except String α) : Parser α := fun s =>
  match result with
  | .ok value => .ok (value, s)
  | .error error => .error error

variable {s : Bytes} {p : β × Bytes}

lemma bind_eq_ok_iff {ε : Type} {x : Except ε α} {f : α → Except ε β} {b : β} :
    x >>= f = .ok b ↔ ∃ a, x = .ok a ∧ f a = .ok b := by
  cases x with
  | error error => exact ⟨fun h => (by cases h), fun ⟨_, h, _⟩ => (by cases h)⟩
  | ok a => exact ⟨fun h => ⟨a, rfl, h⟩, fun ⟨_, h, hf⟩ => (by cases h; exact hf)⟩

lemma run_bind_iff {x : Parser α} {f : α → Parser β} :
    (x >>= f).run s = .ok p ↔ ∃ a r, x.run s = .ok (a, r) ∧ (f a).run r = .ok p := by
  rw [StateT.run_bind, bind_eq_ok_iff, Prod.exists]

lemma run_pure_iff {a b : α} {r : Bytes} : (pure a : Parser α).run s = .ok (b, r) ↔ a = b ∧ s = r := by
  change Except.ok (a, s) = Except.ok (b, r) ↔ _
  rw [Except.ok.injEq, Prod.mk.injEq]

lemma run_orFail_iff {reader : Reader β} {message : String} :
    (orFail reader message).run s = .ok p ↔ reader.run s = some p := by
  change (match reader.run s with
    | some result => _
    | none => _) = _ ↔ _
  cases reader.run s with
  | none => simp
  | some result => simp

lemma run_noInput_iff {result : Except String α} {a : α} {r : Bytes} :
    (noInput result).run s = .ok (a, r) ↔ result = .ok a ∧ s = r := by
  change (match result with
    | .ok value => _
    | .error error => _) = _ ↔ _
  cases result with
  | error error => simp
  | ok value => simp

end Parser

end Wire
