import Nstu.Core.Wire

/-!
# SHA-256

The hash function of FIPS 180-4, on messages of whole bytes.  Words are bit vectors of 32 bits.
-/

namespace Sha256

open Wire

abbrev Word := BitVec 32

/-! ## Functions -/

def rotr (n : ℕ) (x : Word) : Word := x >>> n ||| x <<< (32 - n)

def choose (x y z : Word) : Word := (x &&& y) ^^^ (~~~x &&& z)

def majority (x y z : Word) : Word := (x &&& y) ^^^ (x &&& z) ^^^ (y &&& z)

def bigSigma0 (x : Word) : Word := rotr 2 x ^^^ rotr 13 x ^^^ rotr 22 x

def bigSigma1 (x : Word) : Word := rotr 6 x ^^^ rotr 11 x ^^^ rotr 25 x

def smallSigma0 (x : Word) : Word := rotr 7 x ^^^ rotr 18 x ^^^ x >>> 3

def smallSigma1 (x : Word) : Word := rotr 17 x ^^^ rotr 19 x ^^^ x >>> 10

def constants : List Word :=
  [0x428a2f98, 0x71374491, 0xb5c0fbcf, 0xe9b5dba5, 0x3956c25b, 0x59f111f1, 0x923f82a4, 0xab1c5ed5,
   0xd807aa98, 0x12835b01, 0x243185be, 0x550c7dc3, 0x72be5d74, 0x80deb1fe, 0x9bdc06a7, 0xc19bf174,
   0xe49b69c1, 0xefbe4786, 0x0fc19dc6, 0x240ca1cc, 0x2de92c6f, 0x4a7484aa, 0x5cb0a9dc, 0x76f988da,
   0x983e5152, 0xa831c66d, 0xb00327c8, 0xbf597fc7, 0xc6e00bf3, 0xd5a79147, 0x06ca6351, 0x14292967,
   0x27b70a85, 0x2e1b2138, 0x4d2c6dfc, 0x53380d13, 0x650a7354, 0x766a0abb, 0x81c2c92e, 0x92722c85,
   0xa2bfe8a1, 0xa81a664b, 0xc24b8b70, 0xc76c51a3, 0xd192e819, 0xd6990624, 0xf40e3585, 0x106aa070,
   0x19a4c116, 0x1e376c08, 0x2748774c, 0x34b0bcb5, 0x391c0cb3, 0x4ed8aa4a, 0x5b9cca4f, 0x682e6ff3,
   0x748f82ee, 0x78a5636f, 0x84c87814, 0x8cc70208, 0x90befffa, 0xa4506ceb, 0xbef9a3f7, 0xc67178f2]

/-! ## Padding and blocks -/

/-- The bytes of a number, the first one first. -/
def bigEndian (bytes n : ℕ) : Bytes :=
  (List.range bytes).map fun i => UInt8.ofNat (n / 2 ^ (8 * (bytes - 1 - i)))

/-- A one bit, zeros up to 8 bytes before the end of a block, and the length in bits. -/
def pad (message : Bytes) : Bytes :=
  message ++ 0x80 :: List.replicate ((119 - message.length % 64) % 64) 0 ++ bigEndian 8 (8 * message.length)

/-- The word of which the given byte is the first. -/
def wordAt (padded : Bytes) (i : ℕ) : Word :=
  (padded.getD i 0).toBitVec ++ (padded.getD (i + 1) 0).toBitVec ++ (padded.getD (i + 2) 0).toBitVec ++
    (padded.getD (i + 3) 0).toBitVec

/-- The message schedule of a block. -/
def schedule (block : ℕ → Word) (t : ℕ) : Word :=
  if t < 16 then block t
  else smallSigma1 (schedule block (t - 2)) + schedule block (t - 7) + smallSigma0 (schedule block (t - 15)) +
    schedule block (t - 16)

/-! ## The hash computation -/

/-- The eight working variables, or the hash value. -/
structure Registers (α : Type) where
  a : α
  b : α
  c : α
  d : α
  e : α
  f : α
  g : α
  h : α
  deriving DecidableEq

def Registers.map {α β : Type} (f : α → β) (s : Registers α) : Registers β :=
  ⟨f s.a, f s.b, f s.c, f s.d, f s.e, f s.f, f s.g, f s.h⟩

def Registers.toList {α : Type} (s : Registers α) : List α := [s.a, s.b, s.c, s.d, s.e, s.f, s.g, s.h]

def initialHash : Registers Word where
  a := 0x6a09e667
  b := 0xbb67ae85
  c := 0x3c6ef372
  d := 0xa54ff53a
  e := 0x510e527f
  f := 0x9b05688c
  g := 0x1f83d9ab
  h := 0x5be0cd19

def hashRound (s : Registers Word) (k w : Word) : Registers Word :=
  let t1 := s.h + bigSigma1 s.e + choose s.e s.f s.g + k + w
  let t2 := bigSigma0 s.a + majority s.a s.b s.c
  { a := t1 + t2, b := s.a, c := s.b, d := s.c, e := s.d + t1, f := s.e, g := s.f, h := s.g }

def rounds (w : ℕ → Word) (s : Registers Word) (n : ℕ) : Registers Word :=
  (List.range n).foldl (fun s t => hashRound s (constants.getD t 0) (w t)) s

def addHash (hash s : Registers Word) : Registers Word :=
  ⟨hash.a + s.a, hash.b + s.b, hash.c + s.c, hash.d + s.d, hash.e + s.e, hash.f + s.f, hash.g + s.g, hash.h + s.h⟩

/-- The hash value after so many blocks. -/
def hashBlocks (padded : Bytes) (n : ℕ) : Registers Word :=
  (List.range n).foldl (fun hash i =>
    addHash hash (rounds (schedule fun t => wordAt padded (64 * i + 4 * t)) hash 64)) initialHash

def digest (message : Bytes) : Bytes :=
  (hashBlocks (pad message) ((pad message).length / 64)).toList.flatMap fun word => bigEndian 4 word.toNat

@[simp] lemma length_bigEndian (bytes n : ℕ) : (bigEndian bytes n).length = bytes := by simp [bigEndian]

/-- A digest has 32 bytes. -/
lemma length_digest (message : Bytes) : (digest message).length = 32 := by
  simp [digest, Registers.toList]

lemma schedule_of_lt (block : ℕ → Word) {t : ℕ} (ht : t < 16) : schedule block t = block t := by
  rw [schedule, if_pos ht]

lemma schedule_of_le (block : ℕ → Word) {t : ℕ} (ht : 16 ≤ t) :
    schedule block t = smallSigma1 (schedule block (t - 2)) + schedule block (t - 7) +
      smallSigma0 (schedule block (t - 15)) + schedule block (t - 16) := by
  rw [schedule, if_neg (not_lt.mpr ht)]

end Sha256
