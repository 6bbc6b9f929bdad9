import Texdown.Error
import Texdown.Path
import Texdown.Text.Utf8

/-!
# Files

A file tree: what stands at every place, a place being the list of names that lead to it from the
root. The root is a directory. Paths are followed from a starting directory; two dots lead back to the
directory above, and every place on the way has to be a directory.

Results:
* `find?_put`: what was put at a place is found there.
* `find?_put_of_ne`: and nothing else changes.
-/
namespace Texdown

/-- A list of names that leads from the root to a place. -/
abbrev Place := List Text

/-- What stands at a place. -/
inductive FileEntry where
  | file (data : Bytes)
  | directory
  deriving DecidableEq, Repr

/-- What stands at each place. -/
structure Files where
  entries : List (Place × FileEntry) := []
  deriving DecidableEq, Repr

namespace Files

def find? (f : Files) (place : Place) : Option FileEntry :=
  if place = [] then some .directory else f.entries.lookup place

/-- The entries with one put at a place: in place of the old one, or at the end. -/
def insert (place : Place) (entry : FileEntry) : List (Place × FileEntry) → List (Place × FileEntry)
  | [] => [(place, entry)]
  | e :: es => if e.1 = place then (place, entry) :: es else e :: insert place entry es

def put (f : Files) (place : Place) (entry : FileEntry) : Files := ⟨insert place entry f.entries⟩

theorem lookup_insert (place : Place) (entry : FileEntry) (es : List (Place × FileEntry)) (q : Place) :
    (insert place entry es).lookup q = if q = place then some entry else es.lookup q := by
  induction es with
  | nil =>
    by_cases h : q = place
    · simp [insert, h]
    · have hp : (q == place) = false := by simpa using h
      simp [insert, h, List.lookup_cons, hp]
  | cons e es ih =>
    by_cases he : e.1 = place
    · by_cases h : q = place
      · simp [insert, he, h]
      · have hp : (q == place) = false := by simpa using h
        have he' : (q == e.1) = false := by rw [he]; exact hp
        rw [insert, if_pos he, List.lookup_cons, List.lookup_cons, hp, he', if_neg h]
    · rw [insert, if_neg he, List.lookup_cons, List.lookup_cons, ih]
      by_cases h : q = place
      · have hne : (place == e.1) = false := by simpa using fun hh => he hh.symm
        simp [h, hne]
      · simp [h]

theorem find?_put (f : Files) (place : Place) (entry : FileEntry) (h : place ≠ []) :
    (f.put place entry).find? place = some entry := by
  simp [find?, put, h, lookup_insert]

theorem find?_put_of_ne (f : Files) {place q : Place} (entry : FileEntry) (h : q ≠ place) :
    (f.put place entry).find? q = f.find? q := by
  simp [find?, put, lookup_insert, h]

/-! ## Following paths -/

def longestName : Nat := 255

/-- Follows names from a place. The last place need not exist. -/
def follow (f : Files) (place : Place) : List Text → Except FileProblem Place
  | [] => .ok place
  | name :: names =>
    match f.find? place with
    | none => .error .missing
    | some (.file _) => .error .notDirectory
    | some .directory =>
      if name = ['.', '.'] then follow f place.dropLast names
      else if longestName < (Text.toUtf8 name).length then .error .nameTooLong
      else follow f (place ++ [name]) names

/-- The place of a path, from a directory unless the path is absolute. -/
def locate (f : Files) (base : Place) (path : Text) : Except FileProblem Place :=
  f.follow (if Path.isAbsolute path then [] else base) (Path.parts path)

/-! ## Reading -/

def look (f : Files) (base : Place) (path : Text) : Except FileProblem FileEntry := do
  let place ← f.locate base path
  match f.find? place with
  | some entry => .ok entry
  | none => .error .missing

def read (f : Files) (base : Place) (path : Text) : Except FileProblem Bytes := do
  match ← f.look base path with
  | .file data => .ok data
  | .directory => .error .isDirectory

/-! ## Writing -/

/-- Refuses a place whose directory is missing or is a file. -/
def checkParent (f : Files) (place : Place) : Except FileProblem Unit :=
  match f.find? place.dropLast with
  | some .directory => .ok ()
  | some (.file _) => .error .notDirectory
  | none => .error .missing

def write (f : Files) (base : Place) (path : Text) (data : Bytes) : Except FileProblem Files := do
  let place ← f.locate base path
  f.checkParent place
  match f.find? place with
  | some .directory => .error .isDirectory
  | _ => .ok (f.put place (.file data))

/-- Writes a new file; what already stands at the path is an error. -/
def create (f : Files) (base : Place) (path : Text) (data : Bytes) : Except FileProblem Files := do
  let place ← f.locate base path
  f.checkParent place
  match f.find? place with
  | some _ => .error .occupied
  | none => .ok (f.put place (.file data))

def append (f : Files) (base : Place) (path : Text) (data : Bytes) : Except FileProblem Files :=
  match f.read base path with
  | .ok old => f.write base path (old ++ data)
  | .error .missing => f.write base path data
  | .error e => .error e

def makeDirectories (f : Files) (place : Place) : List Text → Except FileProblem Files
  | [] => .ok f
  | name :: names =>
    let next := place ++ [name]
    match f.find? next with
    | some .directory => f.makeDirectories next names
    | some (.file _) => .error (if names.isEmpty then .occupied else .notDirectory)
    | none => (f.put next .directory).makeDirectories next names

/-- The files and what they hold, with their paths from a directory. -/
def contents (f : Files) (base : Place) : List (Text × Bytes) :=
  f.entries.filterMap fun e =>
    match e.2 with
    | .file data =>
      if base.isPrefixOf e.1 then some (List.intercalate ['/'] (e.1.drop base.length), data) else none
    | .directory => none

end Files
end Texdown
