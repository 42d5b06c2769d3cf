import CryptoSuite.Bytes.Hex
import CryptoSuite.Mac.Hmac

/-!
# Known answers of HMAC

Test cases of RFC 4231 for SHA-256 and SHA-224, and the self-test that runs those of a hash
function, which it recognises by name.
-/

namespace CryptoSuite

namespace Hmac

/-- A message under a key with its tag. -/
structure KnownAnswer where
  /-- The key. -/
  key : Bytes
  /-- The part the message repeats. -/
  part : Bytes
  /-- How often. -/
  repetitions : Nat
  /-- Hexadecimal text of the tag. -/
  tag : String

namespace KnownAnswer

/-- Octets of a text of ASCII characters. -/
def ascii (text : String) : Bytes :=
  text.toList.map fun c => UInt8.ofNat c.toNat

/-- Test cases 1, 2, 3 and 6 for SHA-256. -/
def sha256 : List KnownAnswer := [
  ⟨List.replicate 20 0x0b, ascii "Hi There", 1,
    "b0344c61d8db38535ca8afceaf0bf12b881dc200c9833da726e9376c2e32cff7"⟩,
  ⟨ascii "Jefe", ascii "what do ya want for nothing?", 1,
    "5bdcc146bf60754e6a042426089575c75a003f089d2739839dec58b964ec3843"⟩,
  ⟨List.replicate 20 0xaa, [0xdd], 50,
    "773ea91e36800e46854db8ebd09181a72959098b3ef8c122d9635514ced565fe"⟩,
  ⟨List.replicate 131 0xaa, ascii "Test Using Larger Than Block-Size Key - Hash Key First", 1,
    "60e431591ee0b67f0d8a26aacbf5b77f8e0bc6213728c5140546040f0ee37f54"⟩]

/-- Test cases 1 and 2 for SHA-224. -/
def sha224 : List KnownAnswer := [
  ⟨List.replicate 20 0x0b, ascii "Hi There", 1,
    "896fb1128abbdf196832107cd49df33f47b4b1169912ba4f53684b22"⟩,
  ⟨ascii "Jefe", ascii "what do ya want for nothing?", 1,
    "a30e01098bc6dbbf45690f3a7e9e6d0f8bbea2a39e6148008fd05e44"⟩]

/-- The known answers over the hash function with a given name. -/
def ofHash? : String → Option (List KnownAnswer)
  | "SHA-256" => some sha256
  | "SHA-224" => some sha224
  | _ => none

/-- The parts of the message. -/
def parts (answer : KnownAnswer) : List Bytes :=
  List.replicate answer.repetitions answer.part

end KnownAnswer

/-- The error for a hash function without known answers. -/
def noKnownAnswers : PrimitiveError := .notImplemented "HMAC self-test for this hash"

/-- The error for a wrong tag, with the position of the test case. -/
def knownAnswerMismatch (hashName : String) (position : Nat) : PrimitiveError :=
  .processing "HMAC self-test" s!"{hashName} vector {position + 1} mismatch"

variable {σ : Type}

/-- Run known answers one after the other on one computation, a message part by part. -/
def runKnownAnswers : Hmac σ → Nat → List KnownAnswer → Except PrimitiveError Unit
  | _, _, [] => .ok ()
  | mac, position, answer :: rest =>
    let (tag, next) := (answer.parts.foldl update (mac.setKey answer.key)).finalize
    if tag.toHex = answer.tag then runKnownAnswers next (position + 1) rest
    else .error (knownAnswerMismatch mac.hashName position)

/-- Run the known answers of a hash function. -/
def selfTest (hash : HashFunction σ) : Except PrimitiveError Unit :=
  match KnownAnswer.ofHash? hash.name with
  | none => .error noKnownAnswers
  | some answers => do runKnownAnswers (← new hash) 0 answers

end Hmac

end CryptoSuite
