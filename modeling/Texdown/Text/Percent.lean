import Texdown.Text.Ascii
import Texdown.Text.Utf8

/-!
# Percent coding

A percent sign and two hexadecimal digits stand for a byte. Decoding joins the bytes of each run
of ASCII characters and reads them as UTF-8; characters beyond ASCII stay as they are and end a
run. Encoding writes every byte of UTF-8 that is not among the safe characters.
-/
namespace Texdown.Text

/-- The bytes of an ASCII text with its percent triplets decoded. -/
def percentBytes : Text → Bytes
  | '%' :: a :: b :: r =>
    if isHexDigit a && isHexDigit b then
      UInt8.ofNat (16 * hexValue a + hexValue b) :: percentBytes r
    else UInt8.ofNat '%'.toNat :: percentBytes (a :: b :: r)
  | c :: r => UInt8.ofNat c.toNat :: percentBytes r
  | [] => []

def percentDecode (t : Text) : Text :=
  go [] t
where
  /-- `run` holds the ASCII characters since the last other one, last one first. -/
  go (run : Text) : Text → Text
    | [] => ofUtf8Lossy (percentBytes run.reverse)
    | c :: r =>
      if isAscii c then go (c :: run) r
      else ofUtf8Lossy (percentBytes run.reverse) ++ c :: go [] r

/-- The characters that are never written as triplets. -/
def isUnreserved (c : Char) : Bool := isLetterOrDigit c || c ∈ ['_', '.', '-', '~']

/-- A byte as a percent triplet, in upper case. -/
def percentTriplet (b : UInt8) : Text :=
  let digit (n : Nat) : Char := Char.ofNat (if n < 10 then '0'.toNat + n else 'A'.toNat + (n - 10))
  ['%', digit (b.toNat / 16), digit (b.toNat % 16)]

/-- The text with every byte outside the unreserved and `safe` characters as a triplet. -/
def percentEncode (safe : Text) (t : Text) : Text :=
  t.flatMap fun c =>
    if isUnreserved c || safe.contains c then [c] else (utf8Char c).flatMap percentTriplet

end Texdown.Text
