import Texdown.Error
import Texdown.Notice
import Texdown.Path

/-!
# Registered figures

The images at hand for a document: by URL, each with the file name it is stored under. The order is
that of first registration; registering a URL again replaces its image in place.
-/
namespace Texdown.Figure

/-- An image and the file name it is stored under. -/
structure Image where
  filename : Text
  data : Bytes
  deriving DecidableEq, Repr

/-- Images by URL, in the order of registration. -/
structure Registry where
  entries : List (Text × Image) := []
  deriving DecidableEq, Repr

namespace Registry

/-- The entries with the image of a URL put in: in place of its old one, or at the end. -/
def put (url : Text) (image : Image) : List (Text × Image) → List (Text × Image)
  | [] => [(url, image)]
  | e :: es => if e.1 = url then (url, image) :: es else e :: put url image es

def register (r : Registry) (url filename : Text) (data : Bytes) : Except Error Registry :=
  if Path.isPlainName filename then .ok ⟨put url ⟨filename, data⟩ r.entries⟩
  else .error (.badValue ("Image filename must be a plain file name, got ".toList ++ filename.quoted))

def find? (r : Registry) (url : Text) : Option Image := r.entries.lookup url

def contains (r : Registry) (url : Text) : Bool := (r.find? url).isSome

def size (r : Registry) : Nat := r.entries.length

def urls (r : Registry) : List Text := r.entries.map (·.1)

def filenames (r : Registry) : List Text := r.entries.map (·.2.filename)

/-- The path of the figure of a URL below a directory. -/
def resolve (r : Registry) (directory url : Text) : Option Text :=
  (r.find? url).map fun image => directory ++ '/' :: image.filename

end Registry
end Texdown.Figure
