import Texdown.Archive.Zip

/-!
# Reading archives

The entries of an archive whose entries are stored as they are: the local headers and data from the
beginning on, then as many central records, which know the attributes.

Results:
* `unle_le`: a number that fits into its bytes is read back.
-/
namespace Texdown.Archive

/-- The number that bytes stand for, the lowest first. -/
def unle (data : Bytes) : Nat := data.foldr (fun b n => b.toNat + 256 * n) 0

theorem unle_le (width n : Nat) (h : n < Nat.pow 256 width) : unle (le width n) = n := by
  induction width generalizing n with
  | zero =>
    have hn : n = 0 := Nat.lt_one_iff.1 h
    simp [unle, le, hn]
  | succ w ih =>
    have hq : n / 256 < Nat.pow 256 w := (Nat.div_lt_iff_lt_mul (by decide)).2 h
    have ihq := ih (n / 256) hq
    simp only [unle] at ihq
    simp only [unle, le, List.foldr_cons, ihq]
    have hb : (UInt8.ofNat (n % 256)).toNat = n % 256 := by
      rw [UInt8.toNat_ofNat']
      omega
    omega

/-- The number in `width` bytes at an offset. -/
def numberAt (data : Bytes) (offset width : Nat) : Nat := unle ((data.drop offset).take width)

def hasSignature (last : List UInt8) (data : Bytes) : Bool := ([0x50, 0x4b] ++ last).isPrefixOf data

/-- The entry at the beginning, with no attributes yet, and the rest; none if there is none or if it is
not stored as it is. -/
def local? (data : Bytes) : Option (Entry × Bytes) :=
  let nameLength := numberAt data 26 2
  let size := numberAt data 18 4
  let body := data.drop (30 + nameLength + numberAt data 28 2)
  if hasSignature [3, 4] data && numberAt data 8 2 == Compression.stored.method then
    (Text.ofUtf8? ((data.drop 30).take nameLength)).map fun name =>
      (⟨name, body.take size, 0, .stored⟩, body.drop size)
  else none

/-- The entries from the beginning on, at most `fuel` of them, and the rest. -/
def locals : Nat → Bytes → List Entry × Bytes
  | 0, data => ([], data)
  | fuel + 1, data =>
    match local? data with
    | some (e, rest) =>
      let (es, rest) := locals fuel rest
      (e :: es, rest)
    | none => ([], data)

/-- The entries with their attributes, from the central records. -/
def withAttributes? : List Entry → Bytes → Option (List Entry)
  | [], data => if hasSignature [5, 6] data then some [] else none
  | e :: es, data =>
    if hasSignature [1, 2] data then
      let length := 46 + numberAt data 28 2 + numberAt data 30 2 + numberAt data 32 2
      (withAttributes? es (data.drop length)).map ({ e with attributes := numberAt data 38 4 } :: ·)
    else none

def unzip? (data : Bytes) : Option (List Entry) :=
  let (es, rest) := locals data.length data
  withAttributes? es rest

end Texdown.Archive
