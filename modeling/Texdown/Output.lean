import Texdown.Error
import Texdown.Text.Utf8

/-!
# Output

What is written is text or bytes, and so is what a stream takes. Text becomes UTF-8 where bytes are
wanted, and bytes have to be UTF-8 where text is wanted.
-/
namespace Texdown

/-- What can be written. -/
inductive Content where
  | text (t : Text)
  | bytes (data : Bytes)
  deriving DecidableEq, Repr

namespace Content

def toBytes : Content → Bytes
  | text t => Text.toUtf8 t
  | bytes data => data

def toText : Content → Except Error Text
  | text t => .ok t
  | bytes data =>
    match Text.ofUtf8? data with
    | some t => .ok t
    | none => .error .undecodable

/-- The content as a stream takes it. -/
def forStream (takesBytes : Bool) (c : Content) : Except Error Content :=
  if takesBytes then .ok (.bytes c.toBytes) else text <$> c.toText

end Content

/-- Whether a stream of an unknown kind takes bytes, by the mode it was opened in. -/
def modeTakesBytes (mode : Text) : Bool := mode.contains 'b'

/-- Something that cannot be written, or cannot be written to. -/
def unsupportedOutput : Error := .wrongType "cannot be written".toList

end Texdown
