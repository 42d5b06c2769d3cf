import CryptoSuite.Bytes.BigEndian
import CryptoSuite.Hash.Basic
import CryptoSuite.Hash.Sha2Compression

/-!
# Engines for SHA-224 and SHA-256

A running computation absorbs octet by octet and compresses each block as it is full. The digest
is read off the chaining value after the padding: the octet `0x80`, zeros up to eight octets
short of a block, and the number of bits absorbed. Main statement: octets absorbed in two steps
count as their concatenation (`Sha2.State.update_append`).
-/

namespace CryptoSuite

namespace Sha2

/-! ## Words and octets -/

/-- Octets of a word, most significant first. -/
def wordOctets (w : UInt32) : Bytes :=
  [(w >>> 24).toUInt8, (w >>> 16).toUInt8, (w >>> 8).toUInt8, w.toUInt8]

/-- The word of four octets, most significant first. -/
def wordOfOctets (b₀ b₁ b₂ b₃ : UInt8) : UInt32 :=
  (b₀.toUInt32 <<< 24) ||| (b₁.toUInt32 <<< 16) ||| (b₂.toUInt32 <<< 8) ||| b₃.toUInt32

/-- The words of an octet string, four octets each. -/
def blockWords : Bytes → List UInt32
  | b₀ :: b₁ :: b₂ :: b₃ :: rest => wordOfOctets b₀ b₁ b₂ b₃ :: blockWords rest
  | _ => []

/-! ## Running computations -/

/-- Length of a block in octets. -/
def blockSize : Nat := 64

/-- A running computation. -/
structure State where
  /-- Chaining value after the full blocks. -/
  chain : Words
  /-- Octets of the block that is not full yet. -/
  pending : Array UInt8
  /-- Number of octets absorbed in all. -/
  length : Nat
  deriving DecidableEq

namespace State

/-- The computation that has absorbed nothing. -/
def start (chain : Words) : State := ⟨chain, #[], 0⟩

/-- Absorb one octet. -/
def absorb (s : State) (b : UInt8) : State :=
  let pending := s.pending.push b
  if pending.size = blockSize then
    ⟨s.chain.compress (blockWords pending.toList), #[], s.length + 1⟩
  else ⟨s.chain, pending, s.length + 1⟩

/-- Absorb octets. -/
def update (s : State) (octets : Bytes) : State :=
  octets.foldl absorb s

/-- The padding after `length` octets. -/
def padding (length : Nat) : Bytes :=
  0x80 :: (List.replicate ((119 - length % 64) % 64) 0
    ++ Bytes.ofNatPadded 8 (8 * length % UInt64.size))

/-- The octets of the chaining value after the padding. -/
def output (s : State) : Bytes :=
  (s.update (padding s.length)).chain.toList.flatMap wordOctets

theorem update_append (s : State) (first second : Bytes) :
    s.update (first ++ second) = (s.update first).update second :=
  List.foldl_append

end State

/-! ## The two functions -/

/-- The engine that starts from a chaining value and makes digests of a given length. -/
def engine (chain : Words) (size : Nat) : DigestEngine State where
  new := State.start chain
  update := State.update
  finalize s := s.output.take size
  clone s := s

/-- The engine of SHA-224. -/
def engine224 : DigestEngine State := engine start224 28

/-- The engine of SHA-256. -/
def engine256 : DigestEngine State := engine start256 32

/-- SHA-224. -/
def sha224 : HashFunction State := .sha224 engine224

/-- SHA-256. -/
def sha256 : HashFunction State := .sha256 engine256

end Sha2

end CryptoSuite
