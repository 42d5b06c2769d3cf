import CryptoSuite.Curve.Engine
import CryptoSuite.Mac.Hmac

/-!
# Capabilities

A `Capability` is what an implementation offers: numbers, a hash function, a MAC construction or
a curve engine. Its family decides which of the four accessors answers; the others fail and say
both families. `AlgorithmKind` names the families an algorithm can belong to, for some of which
there is no capability: `AlgorithmKind.text` is the word for a family in messages,
`AlgorithmKind.title` its name in listings of a registry.
-/

namespace CryptoSuite

/-! ## Families -/

/-- Family of an algorithm. -/
inductive AlgorithmKind where
  /-- Hash functions. -/
  | hash
  /-- Block ciphers. -/
  | block
  /-- Modes of operation of a block cipher. -/
  | mode
  /-- Message authentication codes. -/
  | mac
  /-- Stream ciphers. -/
  | stream
  /-- Pseudo-random generators. -/
  | prng
  /-- Arbitrary-precision integers. -/
  | bignum
  /-- Elliptic-curve arithmetic. -/
  | ecc
  deriving DecidableEq

namespace AlgorithmKind

/-- The word for a family in messages. -/
def text : AlgorithmKind → String
  | hash => "hash"
  | block => "block"
  | mode => "mode"
  | mac => "mac"
  | stream => "stream"
  | prng => "prng"
  | bignum => "bignum"
  | ecc => "ecc"

/-- The name of a family in listings. -/
def title : AlgorithmKind → String
  | hash => "Hash"
  | block => "Block"
  | mode => "Mode"
  | mac => "Mac"
  | stream => "Stream"
  | prng => "Prng"
  | bignum => "Bignum"
  | ecc => "Ecc"

end AlgorithmKind

/-! ## Capabilities -/

/-- The operations an implementation offers. -/
inductive Capability (F σ : Type) where
  /-- Arbitrary-precision integers. -/
  | bignum (factory : NumberFactory F)
  /-- A hash function. -/
  | hash (function : HashFunction σ)
  /-- A message authentication code. -/
  | mac (algorithm : MacScheme F σ)
  /-- Elliptic-curve arithmetic. -/
  | ecc (engine : CurveEngine F σ)

namespace Capability

variable {F σ : Type}

/-- The family of a capability. -/
def kind : Capability F σ → AlgorithmKind
  | bignum _ => .bignum
  | hash _ => .hash
  | mac _ => .mac
  | ecc _ => .ecc

/-- The name the implementation gives itself. -/
def name : Capability F σ → String
  | bignum factory => factory.name
  | hash function => function.name
  | mac algorithm => algorithm.name
  | ecc engine => engine.name

/-- Size of the implementation's own data. -/
def tableSize : Capability F σ → Nat
  | bignum factory => factory.tableSize
  | hash function => function.tableSize
  | mac algorithm => algorithm.tableSize
  | ecc engine => engine.tableSize

/-- Text for listings. -/
def listing (capability : Capability F σ) : String :=
  Text.tagged capability.kind.title <| match capability with
    | bignum factory => factory.listing
    | hash function => function.listing
    | mac algorithm => algorithm.listing
    | ecc engine => engine.listing

/-- The error for operations of the family `wanted` from one of the family `provided`. -/
def mismatch (provided wanted : AlgorithmKind) : Error :=
  .invalidParameter "capability table"
    s!"entry provides {provided.text} operations, not {wanted.text}"

/-- The number factory. -/
def asBignum : Capability F σ → Except Error (NumberFactory F)
  | bignum factory => .ok factory
  | c => .error (mismatch c.kind .bignum)

/-- The hash function. -/
def asHash : Capability F σ → Except Error (HashFunction σ)
  | hash function => .ok function
  | c => .error (mismatch c.kind .hash)

/-- The MAC construction. -/
def asMac : Capability F σ → Except Error (MacScheme F σ)
  | mac algorithm => .ok algorithm
  | c => .error (mismatch c.kind .mac)

/-- The curve engine. -/
def asEcc : Capability F σ → Except Error (CurveEngine F σ)
  | ecc engine => .ok engine
  | c => .error (mismatch c.kind .ecc)

end Capability

end CryptoSuite
