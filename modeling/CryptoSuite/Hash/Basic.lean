import CryptoSuite.Bytes.Basic
import CryptoSuite.Text.Listing

/-!
# Hash functions

A `HashFunction σ` is a hash function whose running computations are values of `σ`: a fresh one,
a step that absorbs octets, one that produces the digest and starts over, and one that copies a
computation.

The functions of the suite are adapters. `HashFunction.ofEngine` gives a name and sizes to a
`DigestEngine`, the running states of a digest as a library of digests provides them, so that
`HashFunction.sha224` and `HashFunction.sha256` are SHA-224 and SHA-256 over whatever engine
computes these.
-/

namespace CryptoSuite

/-- A hash function with computations in `σ`. -/
structure HashFunction (σ : Type) where
  /-- Name of the function. -/
  name : String
  /-- Length of a digest in octets. -/
  digestSize : Nat
  /-- Length of the blocks the function works on, in octets. -/
  blockSize : Nat
  /-- A computation that has absorbed nothing. -/
  start : σ
  /-- Absorb octets. -/
  update : σ → Bytes → σ
  /-- Produce the digest, and the computation that follows it. -/
  finalize : σ → Bytes × σ
  /-- Forget what was absorbed. -/
  reset : σ → σ
  /-- A copy of a computation. -/
  clone : σ → σ
  /-- The digest of an octet string. -/
  digest : Bytes → Bytes := fun octets => (finalize (update start octets)).1
  /-- Size of the implementation's own data. -/
  tableSize : Nat
  /-- Text for listings. -/
  listing : String

/-- A digest with running states in `δ`. -/
structure DigestEngine (δ : Type) where
  /-- A state that was fed nothing. -/
  new : δ
  /-- Feed octets. -/
  update : δ → Bytes → δ
  /-- The digest of what a state was fed. -/
  finalize : δ → Bytes
  /-- A copy of a state. -/
  clone : δ → δ

namespace HashFunction

variable {δ : Type}

/-- The hash function that an engine computes, under a name and with given sizes. -/
def ofEngine (engine : DigestEngine δ) (name : String) (digestSize blockSize : Nat) :
    HashFunction δ where
  name := name
  digestSize := digestSize
  blockSize := blockSize
  start := engine.new
  update := engine.update
  -- A new state takes the place of the one that is used up.
  finalize state := (engine.finalize state, engine.new)
  reset _ := engine.new
  clone := engine.clone
  tableSize := 32
  listing := Text.record "Sha2Hash" [("name", Text.quoted name)]

/-- SHA-224 over an engine. -/
def sha224 (engine : DigestEngine δ) : HashFunction δ :=
  ofEngine engine "SHA-224" 28 64

/-- SHA-256 over an engine. -/
def sha256 (engine : DigestEngine δ) : HashFunction δ :=
  ofEngine engine "SHA-256" 32 64

end HashFunction

end CryptoSuite
