import Texdown.Text.Basic

/-!
# Paths

Paths are texts with `/` between their parts. Repeated separators and parts that are a single dot
mean nothing and are dropped when a path is written in its plain form. The last part is the name; what
follows its last inner dot, with the dot, is the suffix, and the rest is the stem.

Results:
* `stem_append_suffix`: stem and suffix make up the name.
-/
namespace Texdown.Path

def isAbsolute (p : Text) : Bool := p.head? == some '/'

/-- The parts of a path that mean something. -/
def parts (p : Text) : List Text := (Text.splitOn '/' p).filter fun s => !s.isEmpty && s != ['.']

/-- What a path begins with: the root, written with two separators if exactly two stand there. -/
def root (p : Text) : Text :=
  match p with
  | '/' :: '/' :: '/' :: _ => ['/']
  | '/' :: '/' :: _ => ['/', '/']
  | '/' :: _ => ['/']
  | _ => []

def ofParts (root : Text) (ps : List Text) : Text :=
  let t := root ++ List.intercalate ['/'] ps
  if t.isEmpty then ['.'] else t

/-- The plain form of a path. -/
def plain (p : Text) : Text := ofParts (root p) (parts p)

/-- A path below another one, unless it is absolute. -/
def join (base p : Text) : Text :=
  if isAbsolute p then plain p else ofParts (root base) (parts base ++ parts p)

def parent (p : Text) : Text := ofParts (root p) (parts p).dropLast

/-- The last part of a path; empty for the root and for the current directory. -/
def name (p : Text) : Text := (parts p).getLast?.getD []

/-- A name cut in front of its last dot; a dot at either end cuts nothing. -/
def splitName (name : Text) : Text × Text :=
  match Text.splitLast? '.' name with
  | some (stem, ext) => if stem.isEmpty || ext.isEmpty then (name, []) else (stem, '.' :: ext)
  | none => (name, [])

def stem (p : Text) : Text := (splitName (name p)).1

/-- The last dot of the name and what follows it. -/
def suffix (p : Text) : Text := (splitName (name p)).2

def withName (p new : Text) : Text := ofParts (root p) ((parts p).dropLast ++ [new])

def withSuffix (p new : Text) : Text := withName p (stem p ++ new)

/-- The parts of a path without the two dots in it: each takes away the part before it. -/
def resolvedParts (ps : List Text) : List Text :=
  ps.foldl (fun acc s => if s = ['.', '.'] then acc.dropLast else acc ++ [s]) []

/-- A path from the root, seen from a directory, without two dots. -/
def resolved (directory p : Text) : Text := ofParts ['/'] (resolvedParts (parts (join directory p)))

/-- A directory and all those above it, the nearest first; it is given by its parts. -/
def ancestors (ps : List Text) : List Text :=
  (List.range (ps.length + 1)).reverse.map fun n => ofParts ['/'] (ps.take n)

/-- Whether a text can be the name of a file in a directory: not empty, no separator, and neither
the directory itself nor its parent. -/
def isPlainName (t : Text) : Bool :=
  !t.isEmpty && !t.contains '/' && !t.contains '\\' && t != ['.'] && t != ['.', '.']

theorem append_splitName (n : Text) : (splitName n).1 ++ (splitName n).2 = n := by
  unfold splitName
  split
  · rename_i stem ext h
    split
    · simp
    · exact Text.eq_append_of_splitLast? h
  · simp

theorem stem_append_suffix (p : Text) : stem p ++ suffix p = name p := append_splitName _

end Texdown.Path
