import Texdown.Text.Basic

/-!
# Image formats

The format of an image is read off its first bytes. The answer is the usual file extension.
-/
namespace Texdown.Figure

def asciiBytes (s : String) : Bytes := s.toList.map fun c => UInt8.ofNat c.toNat

def isBlankByte (b : UInt8) : Bool := b == 0x20 || (0x09 ≤ b && b ≤ 0x0d)

def signatures : List (Bytes × Text) :=
  [([0x89, 0x50, 0x4e, 0x47, 0x0d, 0x0a, 0x1a, 0x0a], "png".toList),
   ([0xff, 0xd8, 0xff], "jpg".toList),
   (asciiBytes "GIF87a", "gif".toList),
   (asciiBytes "GIF89a", "gif".toList),
   (asciiBytes "%PDF", "pdf".toList),
   ([0x49, 0x49, 0x2a, 0x00], "tiff".toList),
   ([0x4d, 0x4d, 0x00, 0x2a], "tiff".toList)]

/-- The format whose signature the data begins with. -/
def signedAs? (data : Bytes) : Option Text :=
  (signatures.find? fun entry => entry.1.isPrefixOf data).map (·.2)

/-- Whether data is a frame that names its content `WEBP`. -/
def isWebp (data : Bytes) : Bool :=
  (asciiBytes "RIFF").isPrefixOf data && (data.drop 8).take 4 == asciiBytes "WEBP"

def isDrawing (data : Bytes) : Bool :=
  let data := data.dropWhile isBlankByte
  (asciiBytes "<svg").isPrefixOf data || (asciiBytes "<?xml").isPrefixOf data

/-- The format of an image, as its file extension. -/
def format? (data : Bytes) : Option Text :=
  if data.length < 4 then none
  else match signedAs? data with
    | some f => some f
    | none =>
      if isWebp data then some "webp".toList
      else if isDrawing data then some "svg".toList
      else none

end Texdown.Figure
