import Texdown.Archive.Checksum
import Texdown.Text.Ascii
import Texdown.Text.Utf8

/-!
# Zip archives

The layout of an archive: every entry behind a local header, then the central directory with one
record per entry, then the end record. All numbers are little-endian. Every entry has the same
fixed time stamp, so equal contents make equal archives.

Results:
* `length_le`: a number takes as many bytes as it is given.
-/
namespace Texdown.Archive

/-- How the data of an entry is stored. -/
inductive Compression where
  | stored
  | deflated
  deriving DecidableEq, Repr

namespace Compression

/-- The number of the method in headers. -/
def method : Compression → Nat
  | stored => 0
  | deflated => 8

def name : Compression → Text
  | stored => "stored".toList
  | deflated => "deflated".toList

end Compression

/-- One entry: its name, its data, and its external attributes. -/
structure Entry where
  name : Text
  data : Bytes
  attributes : Nat
  compression : Compression
  deriving DecidableEq, Repr

/-! ## Pieces -/

/-- A number in so many bytes, the lowest first. -/
def le : Nat → Nat → Bytes
  | 0, _ => []
  | width + 1, n => UInt8.ofNat (n % 256) :: le width (n / 256)

theorem length_le (width n : Nat) : (le width n).length = width := by
  induction width generalizing n with
  | zero => rfl
  | succ w ih => simp [le, ih]

def maxBlock : Nat := 0xffff

/-- A compressed stream made of blocks that hold their data as it is. `fuel` bounds the number of
blocks. -/
def blocks : Nat → Bytes → Bytes
  | 0, _ => []
  | fuel + 1, data =>
    let block := data.take maxBlock
    let rest := data.drop maxBlock
    let length := le 2 block.length ++ le 2 (maxBlock - block.length)
    if rest.isEmpty then 1 :: length ++ block else 0 :: length ++ block ++ blocks fuel rest

namespace Entry

/-- The bytes that the archive holds for the data. -/
def stored (e : Entry) : Bytes :=
  match e.compression with
  | .stored => e.data
  | .deflated => blocks (e.data.length + 1) e.data

def checksum (e : Entry) : Nat := (crc32 e.data).toNat

/-- A flag says that the name is UTF-8 rather than ASCII. -/
def flags (e : Entry) : Nat := if e.name.all Text.isAscii then 0 else 0x800

/-- The version of the format that readers need. -/
def version : Nat := 20

/-- The date of every entry: the first day of 1980. -/
def date : Nat := 0x21

/-- What the local header and the central record have in common. -/
def description (e : Entry) : Bytes :=
  le 2 version ++ le 2 e.flags ++ le 2 e.compression.method ++ le 2 0 ++ le 2 date
    ++ le 4 e.checksum ++ le 4 e.stored.length ++ le 4 e.data.length
    ++ le 2 (Text.toUtf8 e.name).length ++ le 2 0

def localHeader (e : Entry) : Bytes :=
  [0x50, 0x4b, 0x03, 0x04] ++ e.description ++ Text.toUtf8 e.name

/-- The record of an entry whose local header is at `offset`. -/
def centralRecord (e : Entry) (offset : Nat) : Bytes :=
  [0x50, 0x4b, 0x01, 0x02, UInt8.ofNat version, 3] ++ e.description
    ++ le 2 0 ++ le 2 0 ++ le 2 0 ++ le 4 e.attributes ++ le 4 offset ++ Text.toUtf8 e.name

/-- The entry as it lies in the archive. -/
def file (e : Entry) : Bytes := e.localHeader ++ e.stored

end Entry

/-- The central records of entries that lie one after the other from `offset` on. -/
def directory (offset : Nat) : List Entry → Bytes
  | [] => []
  | e :: es => e.centralRecord offset ++ directory (offset + e.file.length) es

def endRecord (count size offset : Nat) : Bytes :=
  [0x50, 0x4b, 0x05, 0x06] ++ le 2 0 ++ le 2 0 ++ le 2 count ++ le 2 count ++ le 4 size
    ++ le 4 offset ++ le 2 0

def zip (entries : List Entry) : Bytes :=
  let files := entries.flatMap Entry.file
  let records := directory 0 entries
  files ++ records ++ endRecord entries.length records.length files.length

end Texdown.Archive
