import CryptoSuite.Hash.Sha2
import CryptoSuite.Mac.KnownAnswer
import CryptoSuite.Registry.Basic

/-!
# The units of the suite

Four units: `bignum` with the integers, `prime` with the engine for prime curves, `sha2` with
SHA-224 and SHA-256, and `hmac`. All but the first have a self-test. The curve test computes with
the first entry of the table called `Bignum`, the HMAC test with the first one called `SHA-256`,
of whatever family that is.
-/

namespace CryptoSuite

namespace Registry

namespace Shipped

variable {F σ : Type}

/-! ## Self-tests -/

/-- Test a curve engine on the numbers of the first entry called `Bignum`. -/
def curveSelfTest (capability : Capability F σ) (table : EntryTable F σ) : Except Error Unit := do
  let engine ← capability.asEcc
  let id ← table.lookupByName Number.integerAlgorithm 0 none
  let (numbers, _) ← table.capability id
  engine.selfTest (← numbers.asBignum)

/-- Hexadecimal text of the digest of `abc` under the hash function with a given name. -/
def knownDigest? : String → Option String
  | "SHA-224" => some "23097d223405d8228642a477bda255b32aadbce4bda0b3f7e36c9da7"
  | "SHA-256" => some "ba7816bf8f01cfea414140de5dae2223b00361a396177a9cb410ff61f20015ad"
  | _ => none

/-- Compare a hash function's digest of `abc` with the known one. -/
def hashSelfTest (capability : Capability F σ) (_ : EntryTable F σ) : Except Error Unit := do
  let hash ← capability.asHash
  match knownDigest? hash.name with
  | none => .error (.notImplemented "hash self-test")
  | some digest =>
    if (hash.digest (Hmac.KnownAnswer.ascii "abc")).toHex = digest then return ()
    else .error (.other "hash self-test" s!"{hash.name} digest of \"abc\" mismatch")

/-- Run the known answers of HMAC on the first entry called `SHA-256`. -/
def hmacSelfTest (capability : Capability F σ) (table : EntryTable F σ) : Except Error Unit := do
  let _ ← capability.asMac
  let id ← table.lookupByName "SHA-256" 0 none
  let (hashes, _) ← table.capability id
  PrimitiveError.lift (Hmac.selfTest (← hashes.asHash)) "HMAC self-test"

/-! ## The units -/

/-- The unit of integers. -/
def bignum : Bundle F σ where
  name := "bignum"
  implementations := [.bignum .integers]
  selfTest := none

/-- The unit of the engine for prime curves. -/
def prime [Representation F] : Bundle F σ where
  name := "prime"
  implementations := [.ecc .prime]
  selfTest := some curveSelfTest

/-- The unit of SHA-224 and SHA-256. -/
def sha2 : Bundle F Sha2.State where
  name := "sha2"
  implementations := [.hash Sha2.sha224, .hash Sha2.sha256]
  selfTest := some hashSelfTest

/-- The unit of HMAC. -/
def hmac : Bundle F σ where
  name := "hmac"
  implementations := [.mac .hmac]
  selfTest := some hmacSelfTest

/-- All units. -/
def units [Representation F] : List (Bundle F Sha2.State) := [bignum, prime, sha2, hmac]

/-- Mount all units, each under its name and under its name in `plugins`. -/
def register [Representation F] (table : MountTable F Sha2.State) : MountTable F Sha2.State :=
  units.foldl (fun table bundle =>
    (table.mountPlugin ("plugins/" ++ bundle.name) bundle.toPlugin).mountPlugin bundle.name
      bundle.toPlugin) table

/-- The table of all units. -/
def mountTable [Representation F] : MountTable F Sha2.State :=
  register .empty

end Shipped

/-- A registry over the units of the suite. -/
def builtin {F : Type} [Representation F] : Registry F Sha2.State :=
  new Shipped.mountTable.find?

end Registry

end CryptoSuite
