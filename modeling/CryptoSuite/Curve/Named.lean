import CryptoSuite.Bytes.Hex
import CryptoSuite.Curve.Sec

/-!
# Named curves

The prime curves of SEC 2. The table has every parameter as hexadecimal text, the base point as
that of its uncompressed encoding. `NamedCurve.decode` reads an entry. A text of the table may
take one octet more than a field element, and that of a base point twice as many and a tag.
-/

namespace CryptoSuite

/-- Domain parameters of a published curve `y² = x³ + ax + b` over the integers modulo `p`, each
but the name in hexadecimal digits. -/
structure NamedCurve where
  /-- Name in SEC 2. -/
  name : String
  /-- Field prime. -/
  p : String
  /-- Coefficient of `x`. -/
  a : String
  /-- Constant coefficient. -/
  b : String
  /-- Base point in its uncompressed encoding. -/
  g : String
  /-- Order of the base point. -/
  n : String
  /-- Cofactor. -/
  h : String

/-! ## The table -/

/-- secp192k1: 192-bit curve with a fast endomorphism. -/
def NamedCurve.secp192k1 : NamedCurve where
  name := "secp192k1"
  p := "fffffffffffffffffffffffffffffffffffffffeffffee37"
  a := "00"
  b := "03"
  g :=
    "04db4ff10ec057e9ae26b07d0280b7f4341da5d1b1eae06c7d9b2f2f6d9c5628a7844163d015be86344082aa" ++
    "88d95e2f9d"
  n := "fffffffffffffffffffffffe26f2fc170f69466a74defd8d"
  h := "01"

/-- secp192r1: 192-bit curve with verifiably random coefficients (NIST P-192). -/
def NamedCurve.secp192r1 : NamedCurve where
  name := "secp192r1"
  p := "fffffffffffffffffffffffffffffffeffffffffffffffff"
  a := "fffffffffffffffffffffffffffffffefffffffffffffffc"
  b := "64210519e59c80e70fa7e9ab72243049feb8deecc146b9b1"
  g :=
    "04188da80eb03090f67cbf20eb43a18800f4ff0afd82ff101207192b95ffc8da78631011ed6b24cdd573f977" ++
    "a11e794811"
  n := "ffffffffffffffffffffffff99def836146bc9b1b4d22831"
  h := "01"

/-- secp224k1: 224-bit curve with a fast endomorphism. -/
def NamedCurve.secp224k1 : NamedCurve where
  name := "secp224k1"
  p := "fffffffffffffffffffffffffffffffffffffffffffffffeffffe56d"
  a := "00"
  b := "05"
  g :=
    "04a1455b334df099df30fc28a169a467e9e47075a90f7e650eb6b7a45c7e089fed7fba344282cafbd6f7e319" ++
    "f7c0b0bd59e2ca4bdb556d61a5"
  n := "010000000000000000000000000001dce8d2ec6184caf0a971769fb1f7"
  h := "01"

/-- secp224r1: 224-bit curve with verifiably random coefficients (NIST P-224). -/
def NamedCurve.secp224r1 : NamedCurve where
  name := "secp224r1"
  p := "ffffffffffffffffffffffffffffffff000000000000000000000001"
  a := "fffffffffffffffffffffffffffffffefffffffffffffffffffffffe"
  b := "b4050a850c04b3abf54132565044b0b7d7bfd8ba270b39432355ffb4"
  g :=
    "04b70e0cbd6bb4bf7f321390b94a03c1d356c21122343280d6115c1d21bd376388b5f723fb4c22dfe6cd4375" ++
    "a05a07476444d5819985007e34"
  n := "ffffffffffffffffffffffffffff16a2e0b8f03e13dd29455c5c2a3d"
  h := "01"

/-- secp256k1: 256-bit curve with a fast endomorphism. -/
def NamedCurve.secp256k1 : NamedCurve where
  name := "secp256k1"
  p := "fffffffffffffffffffffffffffffffffffffffffffffffffffffffefffffc2f"
  a := "00"
  b := "07"
  g :=
    "0479be667ef9dcbbac55a06295ce870b07029bfcdb2dce28d959f2815b16f81798483ada7726a3c4655da4fb" ++
    "fc0e1108a8fd17b448a68554199c47d08ffb10d4b8"
  n := "fffffffffffffffffffffffffffffffebaaedce6af48a03bbfd25e8cd0364141"
  h := "01"

/-- secp256r1: 256-bit curve with verifiably random coefficients (NIST P-256). -/
def NamedCurve.secp256r1 : NamedCurve where
  name := "secp256r1"
  p := "ffffffff00000001000000000000000000000000ffffffffffffffffffffffff"
  a := "ffffffff00000001000000000000000000000000fffffffffffffffffffffffc"
  b := "5ac635d8aa3a93e7b3ebbd55769886bc651d06b0cc53b0f63bce3c3e27d2604b"
  g :=
    "046b17d1f2e12c4247f8bce6e563a440f277037d812deb33a0f4a13945d898c2964fe342e2fe1a7f9b8ee7eb" ++
    "4a7c0f9e162bce33576b315ececbb6406837bf51f5"
  n := "ffffffff00000000ffffffffffffffffbce6faada7179e84f3b9cac2fc632551"
  h := "01"

/-- secp384r1: 384-bit curve with verifiably random coefficients (NIST P-384). -/
def NamedCurve.secp384r1 : NamedCurve where
  name := "secp384r1"
  p :=
    "fffffffffffffffffffffffffffffffffffffffffffffffffffffffffffffffeffffffff0000000000000000" ++
    "ffffffff"
  a :=
    "fffffffffffffffffffffffffffffffffffffffffffffffffffffffffffffffeffffffff0000000000000000" ++
    "fffffffc"
  b :=
    "b3312fa7e23ee7e4988e056be3f82d19181d9c6efe8141120314088f5013875ac656398d8a2ed19d2a85c8ed" ++
    "d3ec2aef"
  g :=
    "04aa87ca22be8b05378eb1c71ef320ad746e1d3b628ba79b9859f741e082542a385502f25dbf55296c3a545e" ++
    "3872760ab73617de4a96262c6f5d9e98bf9292dc29f8f41dbd289a147ce9da3113b5f0b8c00a60b1ce1d7e81" ++
    "9d7a431d7c90ea0e5f"
  n :=
    "ffffffffffffffffffffffffffffffffffffffffffffffffc7634d81f4372ddf581a0db248b0a77aecec196a" ++
    "ccc52973"
  h := "01"

/-- secp521r1: 521-bit curve with verifiably random coefficients (NIST P-521). -/
def NamedCurve.secp521r1 : NamedCurve where
  name := "secp521r1"
  p :=
    "01ffffffffffffffffffffffffffffffffffffffffffffffffffffffffffffffffffffffffffffffffffffff" ++
    "ffffffffffffffffffffffffffffffffffffffffffff"
  a :=
    "01ffffffffffffffffffffffffffffffffffffffffffffffffffffffffffffffffffffffffffffffffffffff" ++
    "fffffffffffffffffffffffffffffffffffffffffffc"
  b :=
    "0051953eb9618e1c9a1f929a21a0b68540eea2da725b99b315f3b8b489918ef109e156193951ec7e937b1652" ++
    "c0bd3bb1bf073573df883d2c34f1ef451fd46b503f00"
  g :=
    "0400c6858e06b70404e9cd9e3ecb662395b4429c648139053fb521f828af606b4d3dbaa14b5e77efe75928fe" ++
    "1dc127a2ffa8de3348b3c1856a429bf97e7e31c2e5bd66011839296a789a3bc0045c8a5fb42c7d1bd998f544" ++
    "49579b446817afbd17273e662c97ee72995ef42640c550b9013fad0761353c7086a272c24088be94769fd166" ++
    "50"
  n :=
    "01fffffffffffffffffffffffffffffffffffffffffffffffffffffffffffffffffa51868783bf2f966b7fcc" ++
    "0148f709a5d03bb5c9b8899c47aebb6fb71e91386409"
  h := "01"

namespace NamedCurve

/-- Every named curve, in lookup order. -/
def all : List NamedCurve :=
  [secp192k1, secp192r1, secp224k1, secp224r1, secp256k1, secp256r1, secp384r1, secp521r1]

/-- The curve with exactly the given name. -/
def find? (name : String) : Option NamedCurve :=
  all.find? fun curve => curve.name == name

/-- Length in bits of the largest field prime. -/
def maxFieldBits : Nat := 521

/-- Length in octets of the largest field prime. -/
def maxFieldBytes : Nat := (maxFieldBits + 7) / 8

theorem mem_of_find? {name : String} {curve : NamedCurve} (h : find? name = some curve) :
    curve ∈ all ∧ curve.name = name := by
  refine ⟨List.mem_of_find?_eq_some h, ?_⟩
  simpa using List.find?_some h

/-! ## Reading an entry -/

/-- The octets of the parameters of a curve, the base point split into its coordinates. -/
structure Values where
  p : Bytes
  a : Bytes
  b : Bytes
  n : Bytes
  h : Bytes
  base : Sec.Decoded
  deriving DecidableEq

open PrimitiveError in
/-- The octets of a text of the table, at most `max` of them. -/
def decodeHex (text : String) (max : Nat) : Except PrimitiveError Bytes := do
  require (text.utf8ByteSize % 2 = 0) "curve hex" "odd-length hex string"
  requireAtMost "curve hex" (text.utf8ByteSize / 2) max
  (Bytes.ofHex text).mapError fun fault => .parameter "curve hex" fault.message

/-- Read the texts of an entry. -/
def decode (named : NamedCurve) : Except PrimitiveError Values := do
  let p ← decodeHex named.p (maxFieldBytes + 1)
  let a ← decodeHex named.a (maxFieldBytes + 1)
  let b ← decodeHex named.b (maxFieldBytes + 1)
  let n ← decodeHex named.n (maxFieldBytes + 1)
  let h ← decodeHex named.h (maxFieldBytes + 1)
  let g ← decodeHex named.g (2 * (maxFieldBytes + 1) + 1)
  return { p, a, b, n, h, base := ← Sec.decode g }

end NamedCurve

end CryptoSuite
