import Texdown.Text.Basic

/-!
# Checksums

The cyclic redundancy check that archives store for every entry: the remainder of the data modulo
a polynomial of degree 32, least significant bits first, with the register inverted at both ends.
-/
namespace Texdown.Archive

/-- The polynomial, lowest power in the highest bit. -/
def crcPolynomial : UInt32 := 0xedb88320

/-- Divides by one power of the variable. -/
def crcBit (r : UInt32) : UInt32 :=
  if r &&& 1 = 1 then (r >>> 1) ^^^ crcPolynomial else r >>> 1

def crcByte (r : UInt32) (b : UInt8) : UInt32 :=
  Nat.repeat crcBit 8 (r ^^^ b.toUInt32)

def crc32 (data : Bytes) : UInt32 := data.foldl crcByte 0xffffffff ^^^ 0xffffffff

end Texdown.Archive
