import Nstu.Core.Sha256
import Mathlib.Data.List.GetD
import Mathlib.Tactic.IntervalCases

/-!
# The hash function of the exam page

`sha256` of `exam/web/app.js`, as JavaScript computes it.  A number is an integer.  The bit operators turn their
operands into 32 bits and give a signed number, or an unsigned one for `>>>`; additions are those of doubles.

Each operator is the one on words (`toWord`), as long as the sums stay below `2 ^ 53`, and so is each loop.
-/

namespace Nstu.Web.Script

open Wire Sha256
open List (range_succ foldl_append range replicate)

/-- The addition of doubles: exact on integers up to `2 ^ 53`. -/
structure Doubles where
  add : ℤ → ℤ → ℤ
  exact : ∀ x y, |x + y| ≤ 2 ^ 53 → add x y = x + y

/-! ## Operators -/

/-- The 32 bits of `ToInt32` and `ToUint32`. -/
def toWord (x : ℤ) : Word := BitVec.ofInt 32 x

/-- A word as an element of a `Uint32Array`. -/
def num (w : Word) : ℤ := w.toNat

def ushr (x : ℤ) (n : ℕ) : ℤ := num (toWord x >>> n)

def shl (x : ℤ) (n : ℕ) : ℤ := (toWord x <<< n).toInt

def bor (x y : ℤ) : ℤ := (toWord x ||| toWord y).toInt

def band (x y : ℤ) : ℤ := (toWord x &&& toWord y).toInt

def bxor (x y : ℤ) : ℤ := (toWord x ^^^ toWord y).toInt

def bnot (x : ℤ) : ℤ := (~~~toWord x).toInt

/-- A number as it is stored in a `Uint8Array`. -/
def toByte (x : ℤ) : UInt8 := UInt8.ofBitVec (BitVec.ofInt 8 x)

def byteNum (array : Bytes) (i : ℕ) : ℤ := (array.getD i 0).toNat

/-! ## The function -/

def SHA256_K : List ℤ :=
  [0x428a2f98, 0x71374491, 0xb5c0fbcf, 0xe9b5dba5, 0x3956c25b, 0x59f111f1, 0x923f82a4, 0xab1c5ed5,
   0xd807aa98, 0x12835b01, 0x243185be, 0x550c7dc3, 0x72be5d74, 0x80deb1fe, 0x9bdc06a7, 0xc19bf174,
   0xe49b69c1, 0xefbe4786, 0x0fc19dc6, 0x240ca1cc, 0x2de92c6f, 0x4a7484aa, 0x5cb0a9dc, 0x76f988da,
   0x983e5152, 0xa831c66d, 0xb00327c8, 0xbf597fc7, 0xc6e00bf3, 0xd5a79147, 0x06ca6351, 0x14292967,
   0x27b70a85, 0x2e1b2138, 0x4d2c6dfc, 0x53380d13, 0x650a7354, 0x766a0abb, 0x81c2c92e, 0x92722c85,
   0xa2bfe8a1, 0xa81a664b, 0xc24b8b70, 0xc76c51a3, 0xd192e819, 0xd6990624, 0xf40e3585, 0x106aa070,
   0x19a4c116, 0x1e376c08, 0x2748774c, 0x34b0bcb5, 0x391c0cb3, 0x4ed8aa4a, 0x5b9cca4f, 0x682e6ff3,
   0x748f82ee, 0x78a5636f, 0x84c87814, 0x8cc70208, 0x90befffa, 0xa4506ceb, 0xbef9a3f7, 0xc67178f2]

def rotateRight (value : ℤ) (amount : ℕ) : ℤ := bor (ushr value amount) (shl value (32 - amount))

/-- `padded[offset] = (value >>> 24) & 0xff` and the three statements that follow it. -/
def storeWord (padded : Bytes) (offset : ℕ) (value : ℤ) : Bytes :=
  (((padded.set offset (toByte (band (ushr value 24) 0xff))).set (offset + 1)
    (toByte (band (ushr value 16) 0xff))).set (offset + 2) (toByte (band (ushr value 8) 0xff))).set (offset + 3)
      (toByte (band value 0xff))

/-- `((bytes.length + 9 + 63) >> 6) << 6`. -/
def paddedLength (length : ℕ) : ℕ := (shl ((toWord (length + 9 + 63)).sshiftRight 6).toInt 6).toNat

def padded (bytes : Bytes) : Bytes :=
  let bitLength := bytes.length * 8
  let array := (bytes ++ List.replicate (paddedLength bytes.length - bytes.length) 0).set bytes.length 0x80
  let lengthOffset := array.length - 8
  let high := ushr (bitLength / 0x100000000 : ℕ) 0
  let low := ushr bitLength 0
  storeWord (storeWord array lengthOffset high) (lengthOffset + 4) low

variable (doubles : Doubles)

/-- The first loop over the schedule. -/
def loadWord (padded : Bytes) (offset : ℕ) (schedule : List Word) (index : ℕ) : List Word :=
  let base := offset + index * 4
  schedule.set index (toWord (bor (bor (bor (shl (byteNum padded base) 24) (shl (byteNum padded (base + 1)) 16))
    (shl (byteNum padded (base + 2)) 8)) (byteNum padded (base + 3))))

/-- The second loop over the schedule. -/
def extendSchedule (schedule : List Word) (index : ℕ) : List Word :=
  let value := num (schedule.getD (index - 15) 0)
  let sigma0 := bxor (bxor (rotateRight value 7) (rotateRight value 18)) (ushr value 3)
  let previous := num (schedule.getD (index - 2) 0)
  let sigma1 := bxor (bxor (rotateRight previous 17) (rotateRight previous 19)) (ushr previous 10)
  schedule.set index (toWord (doubles.add (doubles.add (doubles.add (num (schedule.getD (index - 16) 0)) sigma0)
    (num (schedule.getD (index - 7) 0))) sigma1))

def compressRound (schedule : List Word) (s : Registers ℤ) (index : ℕ) : Registers ℤ :=
  let sigma1 := bxor (bxor (rotateRight s.e 6) (rotateRight s.e 11)) (rotateRight s.e 25)
  let choice := bxor (band s.e s.f) (band (bnot s.e) s.g)
  let temp1 := ushr (doubles.add (doubles.add (doubles.add (doubles.add s.h sigma1) choice) (SHA256_K.getD index 0))
    (num (schedule.getD index 0))) 0
  let sigma0 := bxor (bxor (rotateRight s.a 2) (rotateRight s.a 13)) (rotateRight s.a 22)
  let majority := bxor (bxor (band s.a s.b) (band s.a s.c)) (band s.b s.c)
  let temp2 := ushr (doubles.add sigma0 majority) 0
  { a := ushr (doubles.add temp1 temp2) 0, b := s.a, c := s.b, d := s.c, e := ushr (doubles.add s.d temp1) 0,
    f := s.e, g := s.f, h := s.g }

/-- `(hash[i] + x) >>> 0`, stored. -/
def addWord (word : Word) (x : ℤ) : Word := toWord (ushr (doubles.add (num word) x) 0)

/-- The loop over the blocks.  The schedule of one block is still there at the next one. -/
def hashBlock (padded : Bytes) (state : Registers Word × List Word) (block : ℕ) : Registers Word × List Word :=
  let loaded := (List.range 16).foldl (loadWord padded (64 * block)) state.2
  let schedule := (List.range' 16 48).foldl (extendSchedule doubles) loaded
  let s := (List.range 64).foldl (compressRound doubles schedule) (state.1.map num)
  let hash := state.1
  (⟨addWord doubles hash.a s.a, addWord doubles hash.b s.b, addWord doubles hash.c s.c, addWord doubles hash.d s.d,
    addWord doubles hash.e s.e, addWord doubles hash.f s.f, addWord doubles hash.g s.g, addWord doubles hash.h s.h⟩,
    schedule)

def hash0 : Registers Word :=
  (⟨0x6a09e667, 0xbb67ae85, 0x3c6ef372, 0xa54ff53a, 0x510e527f, 0x9b05688c, 0x1f83d9ab, 0x5be0cd19⟩ :
    Registers ℤ).map toWord

def sha256 (bytes : Bytes) : Bytes :=
  let padded := padded bytes
  let hash := ((List.range (padded.length / 64)).foldl (hashBlock doubles padded)
    (hash0, List.replicate 64 0)).1
  hash.toList.flatMap fun word =>
    [toByte (band (ushr (num word) 24) 0xff), toByte (band (ushr (num word) 16) 0xff),
      toByte (band (ushr (num word) 8) 0xff), toByte (band (num word) 0xff)]

/-! ## Operators on words -/

@[simp] lemma toWord_num (w : Word) : toWord (num w) = w := by simp [toWord, num]

@[simp] lemma toWord_toInt (w : Word) : toWord w.toInt = w := BitVec.ofInt_toInt

@[simp] lemma toWord_ushr (x : ℤ) (n : ℕ) : toWord (ushr x n) = toWord x >>> n := toWord_num _

@[simp] lemma toWord_shl (x : ℤ) (n : ℕ) : toWord (shl x n) = toWord x <<< n := toWord_toInt _

@[simp] lemma toWord_bor (x y : ℤ) : toWord (bor x y) = toWord x ||| toWord y := toWord_toInt _

@[simp] lemma toWord_band (x y : ℤ) : toWord (band x y) = toWord x &&& toWord y := toWord_toInt _

@[simp] lemma toWord_bxor (x y : ℤ) : toWord (bxor x y) = toWord x ^^^ toWord y := toWord_toInt _

@[simp] lemma toWord_bnot (x : ℤ) : toWord (bnot x) = ~~~toWord x := toWord_toInt _

@[simp] lemma toWord_rotateRight (x : ℤ) (n : ℕ) : toWord (rotateRight x n) = rotr n (toWord x) := by
  rw [rotateRight, toWord_bor, toWord_ushr, toWord_shl, rotr]

lemma ushr_zero (x : ℤ) : ushr x 0 = num (toWord x) := by rw [ushr, BitVec.ushiftRight_zero]

/-- What an operator gives. -/
def Small (x : ℤ) : Prop := |x| ≤ 2 ^ 32

lemma small_num (w : Word) : Small (num w) := by
  have := w.isLt
  rw [Small, num, abs_of_nonneg (by omega)]
  omega

lemma small_toInt (w : Word) : Small w.toInt := by
  have hl := w.le_toInt
  have hh := w.toInt_lt
  rw [Small, abs_le]
  omega

/-- A sum of so many small numbers. -/
structure SumOf (m : ℕ) (x : ℤ) (w : Word) : Prop where
  word : toWord x = w
  bound : |x| ≤ m * 2 ^ 32

lemma Small.sumOf {x : ℤ} (h : Small x) : SumOf 1 x (toWord x) := ⟨rfl, by simpa [Small] using h⟩

/-- **Sums of a few small numbers are exact.** -/
lemma SumOf.add {x y : ℤ} {m : ℕ} {w : Word} (h : SumOf m x w) (hm : m ≤ 8) (hy : Small y) :
    SumOf (m + 1) (doubles.add x y) (w + toWord y) := by
  have hs : |x + y| ≤ (m + 1 : ℕ) * 2 ^ 32 := by
    have := h.bound
    refine (abs_add_le x y).trans ?_
    rw [Small] at hy
    push_cast
    omega
  rw [← h.word]
  have he : doubles.add x y = x + y := doubles.exact x y (hs.trans (by push_cast; omega))
  exact ⟨by rw [he]; exact BitVec.ofInt_add x y, by rw [he]; exact hs⟩

/-! ## The loops -/

lemma getD_SHA256_K (t : ℕ) : SHA256_K.getD t 0 = num (constants.getD t 0) := by
  have hl : SHA256_K = constants.map num := by decide
  rw [hl, show (0 : ℤ) = num 0 from rfl, List.getD_map]

lemma small_bxor (x y : ℤ) : Small (bxor x y) := small_toInt _

/-- **One round.** -/
lemma compressRound_eq (schedule : List Word) (s : Registers Word) (t : ℕ) :
    compressRound doubles schedule (s.map num) t = (hashRound s (constants.getD t 0) (schedule.getD t 0)).map num := by
  have htemp1 := (((((small_num s.h).sumOf.add doubles (by omega) (small_bxor
    (bxor (rotateRight (num s.e) 6) (rotateRight (num s.e) 11)) (rotateRight (num s.e) 25))).add doubles (by omega)
      (small_bxor (band (num s.e) (num s.f)) (band (bnot (num s.e)) (num s.g)))).add doubles (by omega)
        (small_num (constants.getD t 0))).add doubles (by omega) (small_num (schedule.getD t 0))).word
  have htemp2 := ((small_bxor (bxor (rotateRight (num s.a) 2) (rotateRight (num s.a) 13))
    (rotateRight (num s.a) 22)).sumOf.add doubles (by omega) (small_bxor
      (bxor (band (num s.a) (num s.b)) (band (num s.a) (num s.c))) (band (num s.b) (num s.c)))).word
  have hs : ∀ v w : Word, toWord (doubles.add (num v) (num w)) = v + w := fun v w => by
    simpa using ((small_num v).sumOf.add doubles (by omega) (small_num w)).word
  simp only [toWord_num, toWord_bxor, toWord_rotateRight, toWord_band, toWord_bnot] at htemp1 htemp2
  simp only [compressRound, Registers.map, ushr_zero, getD_SHA256_K, htemp1, htemp2, hs, hashRound, bigSigma0,
    bigSigma1, choose, majority]

lemma rounds_succ (w : ℕ → Word) (s : Registers Word) (n : ℕ) :
    rounds w s (n + 1) = hashRound (rounds w s n) (constants.getD n 0) (w n) := by
  rw [rounds, range_succ, foldl_append]
  rfl

/-- By induction on the number of rounds. -/
lemma foldl_compressRound (schedule : List Word) (w : ℕ → Word) (s : Registers Word) (n : ℕ)
    (hw : ∀ t < n, schedule.getD t 0 = w t) :
    (range n).foldl (compressRound doubles schedule) (s.map num) = (rounds w s n).map num := by
  induction n with
  | zero => rfl
  | succ n ih =>
    rw [range_succ, foldl_append, ih fun t ht => hw t (by omega), rounds_succ, ← hw n (by omega)]
    exact compressRound_eq doubles schedule _ n

lemma getD_set (l : List Word) {i : ℕ} (hi : i < l.length) (w : Word) (t : ℕ) :
    (l.set i w).getD t 0 = if t = i then w else l.getD t 0 := by
  rw [List.getD_eq_getElem?_getD, List.getElem?_set]
  by_cases ht : t = i
  · rw [if_pos ht.symm, if_pos hi, if_pos ht, Option.getD_some]
  · rw [if_neg (Ne.symm ht), if_neg ht, List.getD_eq_getElem?_getD]

lemma append_eq_shifts (a b c d : BitVec 8) :
    a.setWidth 32 <<< 24 ||| b.setWidth 32 <<< 16 ||| c.setWidth 32 <<< 8 ||| d.setWidth 32 = a ++ b ++ c ++ d := by
  apply BitVec.eq_of_getLsbD_eq
  intro i hi
  rw [show (a ++ b ++ c ++ d : Word).getLsbD i = (a ++ b ++ c ++ d : BitVec (8 + 8 + 8 + 8)).getLsbD i from rfl]
  simp only [BitVec.getLsbD_append]
  interval_cases i <;> simp

lemma toWord_byteNum (array : Bytes) (i : ℕ) : toWord (byteNum array i) = (array.getD i 0).toBitVec.setWidth 32 := by
  apply BitVec.eq_of_toNat_eq
  simp [toWord, byteNum]

lemma loadWord_eq (padded : Bytes) (offset : ℕ) (schedule : List Word) (t : ℕ) :
    loadWord padded offset schedule t = schedule.set t (wordAt padded (offset + 4 * t)) := by
  simp only [loadWord, toWord_bor, toWord_shl, toWord_byteNum, append_eq_shifts, wordAt, mul_comm t 4]

lemma foldl_loadWord (padded : Bytes) (offset : ℕ) (old : List Word) (n : ℕ) (hn : n ≤ old.length) :
    ((range n).foldl (loadWord padded offset) old).length = old.length ∧
      ∀ t < n, ((range n).foldl (loadWord padded offset) old).getD t 0 = wordAt padded (offset + 4 * t) := by
  induction n with
  | zero => exact ⟨rfl, fun t ht => absurd ht (Nat.not_lt_zero t)⟩
  | succ n ih =>
    obtain ⟨hl, hw⟩ := ih (by omega)
    rw [range_succ, foldl_append, List.foldl_cons, List.foldl_nil, loadWord_eq]
    refine ⟨by rw [List.length_set, hl], fun t ht => ?_⟩
    rw [getD_set _ (by omega)]
    split_ifs with h
    · rw [h]
    · exact hw t (by omega)

lemma extendSchedule_eq (words : List Word) (block : ℕ → Word) (t : ℕ) (ht : 16 ≤ t)
    (hw : ∀ i < t, words.getD i 0 = Sha256.schedule block i) :
    extendSchedule doubles words t = words.set t (Sha256.schedule block t) := by
  have hs := ((((small_num (words.getD (t - 16) 0)).sumOf.add doubles (by omega) (small_bxor
    (bxor (rotateRight (num (words.getD (t - 15) 0)) 7) (rotateRight (num (words.getD (t - 15) 0)) 18))
      (ushr (num (words.getD (t - 15) 0)) 3))).add doubles (by omega) (small_num (words.getD (t - 7) 0))).add doubles
        (by omega) (small_bxor
          (bxor (rotateRight (num (words.getD (t - 2) 0)) 17) (rotateRight (num (words.getD (t - 2) 0)) 19))
            (ushr (num (words.getD (t - 2) 0)) 10))).word
  simp only [toWord_num, toWord_bxor, toWord_rotateRight, toWord_ushr] at hs
  simp only [extendSchedule, hs]
  rw [hw (t - 2) (by omega), hw (t - 7) (by omega), hw (t - 15) (by omega), hw (t - 16) (by omega),
    schedule_of_le block ht, smallSigma0, smallSigma1]
  congr 1
  ac_rfl

lemma foldl_extendSchedule (loaded : List Word) (block : ℕ → Word) (n : ℕ) (hn : 16 + n ≤ loaded.length)
    (hl : ∀ t < 16, loaded.getD t 0 = block t) :
    ((List.range' 16 n).foldl (extendSchedule doubles) loaded).length = loaded.length ∧
      ∀ t < 16 + n, ((List.range' 16 n).foldl (extendSchedule doubles) loaded).getD t 0 = Sha256.schedule block t := by
  induction n with
  | zero => exact ⟨rfl, fun t ht => (hl t ht).trans (schedule_of_lt block ht).symm⟩
  | succ n ih =>
    obtain ⟨hle, hw⟩ := ih (by omega)
    rw [List.range'_1_concat, foldl_append, List.foldl_cons, List.foldl_nil,
      extendSchedule_eq doubles _ block (16 + n) (by omega) hw]
    refine ⟨by rw [List.length_set, hle], fun t ht => ?_⟩
    rw [getD_set _ (by omega)]
    split_ifs with h
    · rw [h]
    · exact hw t (by omega)

lemma addWord_eq (v w : Word) : addWord doubles v (num w) = v + w := by
  have hs := ((small_num v).sumOf.add doubles (by omega) (small_num w)).word
  rw [addWord, toWord_ushr, BitVec.ushiftRight_zero, hs, toWord_num, toWord_num]

/-- **One block**, whatever words the schedule held. -/
lemma hashBlock_eq (padded : Bytes) (hash : Registers Word) (old : List Word) (ho : old.length = 64) (i : ℕ) :
    (hashBlock doubles padded (hash, old) i).1 =
        addHash hash (rounds (schedule fun t => wordAt padded (64 * i + 4 * t)) hash 64) ∧
      (hashBlock doubles padded (hash, old) i).2.length = 64 := by
  obtain ⟨hl, hw⟩ := foldl_loadWord padded (64 * i) old 16 (by omega)
  obtain ⟨hf, hs⟩ := foldl_extendSchedule doubles _ _ 48 (by omega) hw
  have hr := foldl_compressRound doubles _ _ hash 64 fun t ht => hs t (by omega)
  dsimp only [hashBlock]
  rw [hr]
  exact ⟨by simp only [Registers.map, addWord_eq, addHash], hf.trans (hl.trans ho)⟩

lemma foldl_hashBlock (padded : Bytes) (n : ℕ) :
    ((range n).foldl (hashBlock doubles padded) (hash0, replicate 64 0)).1 = hashBlocks padded n ∧
      ((range n).foldl (hashBlock doubles padded) (hash0, replicate 64 0)).2.length = 64 := by
  induction n with
  | zero => exact ⟨by simp only [List.range_zero, List.foldl_nil, hashBlocks]; decide, List.length_replicate⟩
  | succ n ih =>
    rw [range_succ, foldl_append, hashBlocks, range_succ, foldl_append]
    obtain ⟨hh, hl⟩ := hashBlock_eq doubles padded _ _ ih.2 n
    exact ⟨hh.trans (by rw [ih.1]; rfl), hl⟩

/-! ## Padding and output -/

lemma toByte_band (x : ℤ) : toByte (band x 0xff) = UInt8.ofNat (toWord x).toNat := by
  have hb : ∀ y : ℤ, toByte y = UInt8.ofNat (toWord y).toNat := fun y => by
    apply UInt8.toNat.inj
    simp only [toByte, toWord, UInt8.toNat_ofBitVec, BitVec.toNat_ofInt, UInt8.toNat_ofNat']
    omega
  rw [hb, toWord_band]
  apply UInt8.toNat.inj
  simp only [UInt8.toNat_ofNat', BitVec.toNat_and]
  rw [show (toWord 0xff).toNat = 2 ^ 8 - 1 from rfl, Nat.and_two_pow_sub_one_eq_mod, Nat.mod_mod]

lemma bigEndian_four (n : ℕ) :
    bigEndian 4 n = [UInt8.ofNat (n / 2 ^ 24), UInt8.ofNat (n / 2 ^ 16), UInt8.ofNat (n / 2 ^ 8), UInt8.ofNat n] := by
  simp [bigEndian, range_succ]

lemma storeWord_append (before : Bytes) (a b c d : UInt8) (after : Bytes) (x : ℤ) :
    storeWord (before ++ a :: b :: c :: d :: after) before.length x =
      before ++ bigEndian 4 (toWord x).toNat ++ after := by
  simp only [storeWord, toByte_band, toWord_ushr, BitVec.toNat_ushiftRight, Nat.shiftRight_eq_div_pow, bigEndian_four]
  simp

lemma bigEndian_eight (n : ℕ) : bigEndian 8 n = bigEndian 4 (n / 2 ^ 32) ++ bigEndian 4 n := by
  simp [bigEndian, range_succ, Nat.div_div_eq_div_mul]

lemma toNat_toWord {n : ℕ} (h : n < 2 ^ 32) : (toWord n).toNat = n := by
  simp only [toWord, BitVec.toNat_ofInt]
  omega

lemma paddedLength_eq {length : ℕ} (h : length < 2 ^ 28) : paddedLength length = (length + 72) / 64 * 64 := by
  have hw : (toWord (length + 9 + 63)).toInt = length + 72 := by
    simp only [toWord, BitVec.toInt_ofInt]
    rw [Int.bmod_eq_of_le] <;> omega
  have hs : ((toWord (length + 9 + 63)).sshiftRight 6).toNat = (length + 72) / 64 := by
    rw [BitVec.sshiftRight_eq, hw, BitVec.toNat_ofInt, Int.shiftRight_eq_div_pow]
    omega
  rw [paddedLength, shl, toWord_toInt, BitVec.toInt_shiftLeft, hs, Nat.shiftLeft_eq, Int.bmod_eq_of_le] <;> omega

/-- **The padding is right for every length.** -/
lemma padded_eq {bytes : Bytes} (h : bytes.length < 2 ^ 28) : padded bytes = pad bytes := by
  set zeros := (119 - bytes.length % 64) % 64 with hz
  have hf : paddedLength bytes.length - bytes.length = zeros + 9 := by
    rw [paddedLength_eq h]
    omega
  have ha : (bytes ++ replicate (paddedLength bytes.length - bytes.length) 0).set bytes.length 0x80 =
      (bytes ++ 0x80 :: replicate zeros 0) ++ 0 :: 0 :: 0 :: 0 :: [0, 0, 0, 0] := by
    rw [hf, List.set_append_right _ _ le_rfl, Nat.sub_self, List.append_assoc, List.cons_append,
      List.replicate_succ, List.set_cons_zero, ← List.replicate_append_replicate]
    rfl
  have hh : (toWord (ushr (bytes.length * 8 / 0x100000000 : ℕ) 0)).toNat = 8 * bytes.length / 2 ^ 32 := by
    rw [toWord_ushr, BitVec.ushiftRight_zero, toNat_toWord] <;> omega
  have hl : (toWord (ushr (bytes.length * 8 : ℕ) 0)).toNat = 8 * bytes.length := by
    rw [toWord_ushr, BitVec.ushiftRight_zero, toNat_toWord] <;> omega
  have ho : ((bytes ++ 0x80 :: replicate zeros 0) ++ 0 :: 0 :: 0 :: 0 :: [0, 0, 0, 0]).length - 8 =
      (bytes ++ 0x80 :: replicate zeros 0).length := by
    simp
    omega
  have hn : (bytes ++ 0x80 :: replicate zeros 0).length + 4 =
      (bytes ++ 0x80 :: replicate zeros 0 ++ bigEndian 4 (8 * bytes.length / 2 ^ 32)).length := by
    simp
    omega
  simp only [padded]
  rw [ha, ho, storeWord_append, hh, hn, storeWord_append, hl, pad, ← hz, bigEndian_eight]
  simp

/-- **The page's SHA-256 is SHA-256.** -/
theorem sha256_eq_digest {bytes : Bytes} (h : bytes.length < 2 ^ 28) : sha256 doubles bytes = digest bytes := by
  rw [sha256, digest, padded_eq h, (foldl_hashBlock doubles _ _).1]
  simp only [toByte_band, toWord_ushr, BitVec.toNat_ushiftRight, Nat.shiftRight_eq_div_pow, toWord_num, bigEndian_four]

/-- At the bytes of `abc`, with additions of integers. -/
theorem sha256_eq_digest_abc :
    sha256 ⟨fun x y => x + y, fun _ _ _ => rfl⟩ [0x61, 0x62, 0x63] = digest [0x61, 0x62, 0x63] :=
  sha256_eq_digest ⟨fun x y => x + y, fun _ _ _ => rfl⟩ (by decide)

end Nstu.Web.Script
