/-!
# The compression function of SHA-2 with 32-bit words

A block of 16 words is expanded to a schedule of 64 words, and 64 rounds mix each of them with a
round constant into eight working words, which are then added to the chaining value.
-/

namespace CryptoSuite

namespace Sha2

/-! ## Words -/

/-- Rotation to the right by `n` bits, for `n` between 1 and 31. -/
def rotateRight (x n : UInt32) : UInt32 :=
  (x >>> n) ||| (x <<< (32 - n))

/-- For each bit, that of `y` where `x` has a one and that of `z` elsewhere. -/
def choose (x y z : UInt32) : UInt32 :=
  (x &&& y) ^^^ (~~~x &&& z)

/-- For each bit, the value that two of the three words have. -/
def majority (x y z : UInt32) : UInt32 :=
  (x &&& y) ^^^ (x &&& z) ^^^ (y &&& z)

/-- The mixing of the first working word. -/
def upperSigma0 (x : UInt32) : UInt32 :=
  rotateRight x 2 ^^^ rotateRight x 13 ^^^ rotateRight x 22

/-- The mixing of the fifth working word. -/
def upperSigma1 (x : UInt32) : UInt32 :=
  rotateRight x 6 ^^^ rotateRight x 11 ^^^ rotateRight x 25

/-- The mixing of the schedule's word fifteen places back. -/
def lowerSigma0 (x : UInt32) : UInt32 :=
  rotateRight x 7 ^^^ rotateRight x 18 ^^^ (x >>> 3)

/-- The mixing of the schedule's word two places back. -/
def lowerSigma1 (x : UInt32) : UInt32 :=
  rotateRight x 17 ^^^ rotateRight x 19 ^^^ (x >>> 10)

/-! ## Schedule -/

/-- The next word of a schedule of at least 16 words. -/
def nextWord (schedule : Array UInt32) : UInt32 :=
  let back := fun k => schedule.getD (schedule.size - k) 0
  lowerSigma1 (back 2) + back 7 + lowerSigma0 (back 15) + back 16

/-- A schedule with `count` further words. -/
def extend : Nat → Array UInt32 → Array UInt32
  | 0, schedule => schedule
  | count + 1, schedule => extend count (schedule.push (nextWord schedule))

/-- The schedule of a block of 16 words. -/
def schedule (block : List UInt32) : List UInt32 :=
  (extend 48 block.toArray).toList

/-- The constants of the rounds: the leading fractional bits of the cube roots of the first 64
primes. -/
def roundConstants : List UInt32 :=
   [0x428a2f98, 0x71374491, 0xb5c0fbcf, 0xe9b5dba5, 0x3956c25b, 0x59f111f1, 0x923f82a4, 0xab1c5ed5,
    0xd807aa98, 0x12835b01, 0x243185be, 0x550c7dc3, 0x72be5d74, 0x80deb1fe, 0x9bdc06a7, 0xc19bf174,
    0xe49b69c1, 0xefbe4786, 0x0fc19dc6, 0x240ca1cc, 0x2de92c6f, 0x4a7484aa, 0x5cb0a9dc, 0x76f988da,
    0x983e5152, 0xa831c66d, 0xb00327c8, 0xbf597fc7, 0xc6e00bf3, 0xd5a79147, 0x06ca6351, 0x14292967,
    0x27b70a85, 0x2e1b2138, 0x4d2c6dfc, 0x53380d13, 0x650a7354, 0x766a0abb, 0x81c2c92e, 0x92722c85,
    0xa2bfe8a1, 0xa81a664b, 0xc24b8b70, 0xc76c51a3, 0xd192e819, 0xd6990624, 0xf40e3585, 0x106aa070,
    0x19a4c116, 0x1e376c08, 0x2748774c, 0x34b0bcb5, 0x391c0cb3, 0x4ed8aa4a, 0x5b9cca4f, 0x682e6ff3,
    0x748f82ee, 0x78a5636f, 0x84c87814, 0x8cc70208, 0x90befffa, 0xa4506ceb, 0xbef9a3f7, 0xc67178f2]

/-! ## Rounds -/

/-- Eight words: a chaining value, or the working words of a round. -/
structure Words where
  a : UInt32
  b : UInt32
  c : UInt32
  d : UInt32
  e : UInt32
  f : UInt32
  g : UInt32
  h : UInt32
  deriving DecidableEq

namespace Words

/-- The words in order. -/
def toList (s : Words) : List UInt32 :=
  [s.a, s.b, s.c, s.d, s.e, s.f, s.g, s.h]

/-- Sum of two octuples, word by word. -/
def add (s t : Words) : Words :=
  ⟨s.a + t.a, s.b + t.b, s.c + t.c, s.d + t.d, s.e + t.e, s.f + t.f, s.g + t.g, s.h + t.h⟩

/-- One round with a word of the schedule and a round constant. -/
def round (s : Words) (word constant : UInt32) : Words :=
  let t₁ := s.h + upperSigma1 s.e + choose s.e s.f s.g + constant + word
  let t₂ := upperSigma0 s.a + majority s.a s.b s.c
  ⟨t₁ + t₂, s.a, s.b, s.c, s.d + t₁, s.e, s.f, s.g⟩

/-- The chaining value after a block of 16 words. -/
def compress (s : Words) (block : List UInt32) : Words :=
  s.add (((schedule block).zip roundConstants).foldl (fun t wk => t.round wk.1 wk.2) s)

end Words

/-- The chaining value SHA-256 starts from: the leading fractional bits of the square roots of
the first eight primes. -/
def start256 : Words :=
  ⟨0x6a09e667, 0xbb67ae85, 0x3c6ef372, 0xa54ff53a,
    0x510e527f, 0x9b05688c, 0x1f83d9ab, 0x5be0cd19⟩

/-- The chaining value SHA-224 starts from: of the 64 leading fractional bits of the square roots
of the ninth to sixteenth primes, the last 32. -/
def start224 : Words :=
  ⟨0xc1059ed8, 0x367cd507, 0x3070dd17, 0xf70e5939,
    0xffc00b31, 0x68581511, 0x64f98fa7, 0xbefa4fa4⟩

end Sha2

end CryptoSuite
