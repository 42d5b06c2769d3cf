import CryptoSuite.Error.Primitive
import CryptoSuite.Parameters

/-!
# HMAC over any hash function

An `Hmac σ` holds a key and two running computations of a hash function: the inner one has
absorbed the inner pad and then the message, the outer one the outer pad. The tag is the outer
digest of the inner one, and after it both start over under the same key.

`Hmac.new` accepts the hash functions whose block has between 1 and 256 octets and whose digest
fits in a block, so that the digest of a long key fits in one.

A `MacScheme` makes keyed computations from construction parameters, and a `MacContext` is what
can be asked of them. The suite has one construction, HMAC, which needs a hash function under the
name `digest`.
-/

namespace CryptoSuite

/-- A keyed computation of an authentication tag. -/
structure Hmac (σ : Type) where
  /-- The hash function. -/
  hash : HashFunction σ
  /-- Computation of the inner digest. -/
  inner : σ
  /-- Computation of the outer digest. -/
  outer : σ
  /-- The key, not longer than a block. -/
  key : Bytes

namespace Hmac

/-- Largest block a hash function may have, in octets. -/
def maxBlockSize : Nat := 256

/-- Mask of the inner pad. -/
def innerMask : UInt8 := 0x36

/-- Mask of the outer pad. -/
def outerMask : UInt8 := 0x5c

/-- The key filled up with zeros to the length of a block, each octet under a mask. -/
def pad (mask : UInt8) (blockSize : Nat) (key : Bytes) : Bytes :=
  (key ++ List.replicate (blockSize - key.length) 0).map (mask ^^^ ·)

variable {σ : Type}

/-- The key as it is used: itself, or its digest if it is longer than a block. -/
def blockKey (hash : HashFunction σ) (key : Bytes) : Bytes :=
  if key.length > hash.blockSize then hash.digest key else key

/-- Start both computations over with the pads of the key. -/
def loadPads (mac : Hmac σ) : Hmac σ :=
  let hash := mac.hash
  { mac with
    inner := hash.update (hash.reset mac.inner) (pad innerMask hash.blockSize mac.key)
    outer := hash.update (hash.reset mac.outer) (pad outerMask hash.blockSize mac.key) }

/-- The tests a hash function must pass. -/
def requireHash (hash : HashFunction σ) : Except PrimitiveError Unit := do
  PrimitiveError.requireAtMost "HMAC hash block" hash.blockSize maxBlockSize
  PrimitiveError.requireAtMost "HMAC hash digest" hash.digestSize maxBlockSize
  PrimitiveError.require (hash.blockSize > 0) "HMAC hash block" "block size is zero"
  PrimitiveError.require (hash.digestSize ≤ hash.blockSize) "HMAC hash digest"
    "digest is longer than the hash block"

/-- A computation under the empty key. -/
def new (hash : HashFunction σ) : Except PrimitiveError (Hmac σ) := do
  requireHash hash
  return { hash, inner := hash.start, outer := hash.start, key := [] : Hmac σ }.loadPads

/-- Install a key and forget the message. -/
def setKey (mac : Hmac σ) (key : Bytes) : Hmac σ :=
  { mac with key := blockKey mac.hash key }.loadPads

/-- A computation under a given key. -/
def withKey (hash : HashFunction σ) (key : Bytes) : Except PrimitiveError (Hmac σ) := do
  return (← new hash).setKey key

/-- Absorb a part of the message. -/
def update (mac : Hmac σ) (octets : Bytes) : Hmac σ :=
  { mac with inner := mac.hash.update mac.inner octets }

/-- Forget the message. -/
def reset (mac : Hmac σ) : Hmac σ :=
  mac.loadPads

/-- The tag of the message, and the computation of the next one under the same key. -/
def finalize (mac : Hmac σ) : Bytes × Hmac σ :=
  let (innerDigest, inner) := mac.hash.finalize mac.inner
  let (tag, outer) := mac.hash.finalize (mac.hash.update mac.outer innerDigest)
  (tag, { mac with inner, outer }.loadPads)

/-- Whether the tag of the message is the given one, and the computation of the next one. -/
def verify (mac : Hmac σ) (tag : Bytes) : Bool × Hmac σ :=
  let (expected, next) := mac.finalize
  (expected.constantTimeEq tag, next)

/-- Length of a tag in octets. -/
def tagSize (mac : Hmac σ) : Nat :=
  mac.hash.digestSize

/-- Name of the hash function. -/
def hashName (mac : Hmac σ) : String :=
  mac.hash.name

/-- The tag of one message under one key. -/
def tag (hash : HashFunction σ) (key message : Bytes) : Except PrimitiveError Bytes := do
  let mac ← withKey hash key
  return (mac.update message).finalize.1

/-! ## Which hash functions are accepted -/

theorem requireHash_eq_ok_iff {hash : HashFunction σ} :
    requireHash hash = .ok () ↔
      0 < hash.blockSize ∧ hash.blockSize ≤ maxBlockSize ∧ hash.digestSize ≤ hash.blockSize := by
  unfold requireHash PrimitiveError.requireAtMost PrimitiveError.require
  by_cases h₁ : hash.blockSize > maxBlockSize
  · simp [h₁, bind, Except.bind, Nat.not_le_of_gt h₁]
  by_cases h₂ : hash.digestSize > maxBlockSize
  · simp [h₁, h₂, bind, Except.bind]
    omega
  by_cases h₃ : hash.blockSize > 0
  · simp [h₁, h₂, h₃, bind, Except.bind, Nat.le_of_not_gt h₁]
  · simp [h₁, h₂, h₃, bind, Except.bind]

end Hmac

/-! ## Constructions -/

/-- The calls of a keyed computation with states in `κ`. -/
structure MacContext (κ : Type) where
  /-- Install a key and forget the message. -/
  setKey : κ → Bytes → Except Error Unit × κ
  /-- Absorb a part of the message. -/
  update : κ → Bytes → Except Error Unit × κ
  /-- Produce the tag of the message. -/
  finalize : κ → Except Error Bytes × κ
  /-- Length of a tag in octets. -/
  tagSize : κ → Nat
  /-- Compare the tag of the message with a given one. -/
  verify : κ → Bytes → Except Error Bool × κ

/-- A construction of message authentication codes. -/
structure MacScheme (F σ : Type) where
  /-- Name of the construction. -/
  name : String
  /-- A computation under the empty key. -/
  newContext : Parameters F σ → Except Error (Hmac σ)
  /-- What can be asked of such computations. -/
  context : MacContext (Hmac σ)
  /-- Size of the implementation's own data. -/
  tableSize : Nat
  /-- Text for listings. -/
  listing : String

/-- The calls of HMAC. None of them fails. -/
def Hmac.context {σ : Type} : MacContext (Hmac σ) where
  setKey mac key := (.ok (), mac.setKey key)
  update mac octets := (.ok (), mac.update octets)
  finalize mac :=
    let (tag, next) := mac.finalize
    (.ok tag, next)
  tagSize := Hmac.tagSize
  verify mac tag :=
    let (same, next) := mac.verify tag
    (.ok same, next)

/-- HMAC over the hash function called `digest`. -/
def MacScheme.hmac {F σ : Type} : MacScheme F σ where
  name := "HMAC"
  newContext parameters := do
    let hash ← parameters.requireHash "HMAC init" "digest"
    PrimitiveError.lift (Hmac.new hash) "HMAC init"
  context := Hmac.context
  tableSize := 0
  listing := "HmacAlgorithm"

end CryptoSuite
