import CryptoSuite.Bytes.Basic
import CryptoSuite.Text.Listing

/-!
# Hexadecimal text

`Bytes.toHex` writes an octet as two lower-case digits, high half first, and `Bytes.ofHex` reads
such text, in either case of letters. A text is read octet by octet of its encoding, and what is
wrong with it is told by a `HexFault`.
-/

namespace CryptoSuite

/-- Why a text is no hexadecimal numeral of octets. -/
inductive HexFault where
  /-- An octet that is no digit, taken for a character, and its position. -/
  | notDigit (character : Char) (position : Nat)
  /-- A digit is left over. -/
  | oddLength
  deriving DecidableEq

/-- The text of a fault. -/
def HexFault.message : HexFault → String
  | notDigit character position =>
    s!"Invalid character {Text.quotedCharacter character} at position {position}"
  | oddLength => "Odd number of digits"

namespace Bytes

/-! ## Writing -/

/-- The digits in order of value. -/
def hexDigits : List Char :=
  ['0', '1', '2', '3', '4', '5', '6', '7', '8', '9', 'a', 'b', 'c', 'd', 'e', 'f']

/-- The digit of value `n`, for `n` below 16. -/
def hexDigit (n : Nat) : Char :=
  hexDigits.getD n '0'

/-- The two digits of an octet. -/
def hexPair (b : UInt8) : List Char :=
  [hexDigit (b.toNat / 16), hexDigit (b.toNat % 16)]

/-- Lower-case hexadecimal text of a byte string. -/
def toHex (bytes : Bytes) : String :=
  String.ofList (bytes.flatMap hexPair)

/-! ## Reading -/

/-- The octets of a text. -/
def ofText (text : String) : Bytes :=
  text.toByteArray.data.toList

/-- The value of a digit, which stands at a position of a text. -/
def hexValue (digit : UInt8) (position : Nat) : Except HexFault UInt8 :=
  if 0x30 ≤ digit ∧ digit ≤ 0x39 then .ok (digit - 0x30)
  else if 0x61 ≤ digit ∧ digit ≤ 0x66 then .ok (digit - 0x61 + 10)
  else if 0x41 ≤ digit ∧ digit ≤ 0x46 then .ok (digit - 0x41 + 10)
  else .error (.notDigit (Char.ofNat digit.toNat) position)

/-- Read pairs of digits, the first of which stands at a position of a text. -/
def ofHexDigits (position : Nat) : Bytes → Except HexFault Bytes
  | [] => .ok []
  | [_] => .error .oddLength
  | high :: low :: rest => do
    let h ← hexValue high position
    let l ← hexValue low (position + 1)
    return (16 * h + l) :: (← ofHexDigits (position + 2) rest)

/-- The byte string that hexadecimal text denotes. -/
def ofHex (text : String) : Except HexFault Bytes :=
  if text.utf8ByteSize % 2 = 0 then ofHexDigits 0 (ofText text) else .error .oddLength

end Bytes

end CryptoSuite
