import Texdown.Figure.Format
import Texdown.FreeName
import Texdown.Path
import Texdown.Text.Ascii
import Texdown.Web.Url

/-!
# File names of figures

A figure is stored under the last part of its URL, reduced to lower-case ASCII letters, digits, dots,
underscores and dashes. A name without an extension gets the one of the image's format, and a name
that is taken gets a number.
-/
namespace Texdown.Figure

/-- The characters that stay in a file name. -/
def isSafe (c : Char) : Bool := Text.isLetterOrDigit c || c ∈ ['.', '_', '-']

/-- Every run of other characters becomes one underscore. -/
def replaceUnsafe : Text → Text
  | [] => []
  | c :: r =>
    if isSafe c then c :: replaceUnsafe r
    else match replaceUnsafe r, r with
      | s, d :: _ => if isSafe d then '_' :: s else s
      | s, [] => '_' :: s

def lowerAscii (c : Char) : Char :=
  if 'A' ≤ c && c ≤ 'Z' then Char.ofNat (c.toNat + 32) else c

/-- The last part of a name as a safe file name, or `fallback` if nothing of it is left. -/
def safeName (name fallback : Text) : Text :=
  let base := Path.name (Text.substitute '\\' '/' name)
  let cleaned := (Text.trimWhile (fun c => c == '.' || c == '_') (replaceUnsafe (Text.toAscii base))).map
    lowerAscii
  if cleaned.isEmpty then fallback else cleaned

def defaultName : Text := "image".toList

def nameFor (url : Text) (data : Option Bytes) (taken : List Text) : Except Error Text := do
  let path ← Web.decodedPath url
  let name := safeName (Path.name path) defaultName
  let suffix := Path.suffix name
  let detected := (data.bind format?).map ('.' :: ·)
  return freeName taken (Path.stem name) (if suffix.isEmpty then detected.getD [] else suffix)

end Texdown.Figure
