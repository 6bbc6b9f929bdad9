import Texdown.Error
import Texdown.Program.Package.Version

/-!
# Required packages

A feature names the packages it needs and the versions that will do. A package that is installed
without a version, or with one that cannot be read, is taken to be fine.

The check runs in front of features that need a library; the program comes with all of them, and no theorem is
about it.
-/
namespace Texdown.Package

/-- How a version is compared with the one in a requirement. -/
inductive Relation where
  | atLeast
  | atMost
  | below
  | above
  | equal
  | different
  | compatible
  | identical
  deriving DecidableEq, Repr

namespace Relation

/-- The spellings; where one begins with another, the longer one comes first. -/
def spellings : List (Text × Relation) :=
  [("===".toList, identical), ("~=".toList, compatible), ("==".toList, equal), ("!=".toList, different),
   ("<=".toList, atMost), (">=".toList, atLeast), ("<".toList, below), (">".toList, above)]

end Relation

/-- One condition on versions. -/
structure Condition where
  relation : Relation
  /-- The version as it is written. -/
  written : Text
  version : Version
  /-- Whether only the beginning is compared. -/
  isPattern : Bool
  deriving DecidableEq, Repr

namespace Condition

/-- The ending of a version of which only the beginning is compared. -/
def patternEnd : Text := ['.', '*']

/-- Reads a version in a condition that compares all of it; only equality takes a local build, and a
compatible version needs two numbers. -/
def fullVersion? (relation : Relation) (written : Text) : Option Version :=
  (Version.read? written).filter fun v =>
    match relation with
    | .equal | .different => true
    | .compatible => v.build.isEmpty && 2 ≤ v.release.length
    | _ => v.build.isEmpty

/-- Reads a version of which only the beginning is compared: a release without marks. -/
def beginning? (written : Text) : Option Version :=
  (Version.read? written).filter fun v => v.marks.isEmpty && v.build.isEmpty

/-- The characters that end a version that is compared as it is written. -/
def endsWritten (c : Char) : Bool := Text.isBlank c || c == ';' || c == ')'

def read? (t : Text) : Option Condition := do
  let (spelling, relation) ← Relation.spellings.find? fun s => s.1.isPrefixOf t
  let written := Text.strip (t.drop spelling.length)
  if relation = .identical then
    if written.any endsWritten then none
    else return ⟨relation, written, (Version.read? written).getD ⟨0, [0], none, none, none, []⟩, false⟩
  else if written.any Text.isBlank then none
  else if patternEnd.isSuffixOf written && (relation == .equal || relation == .different) then
    return ⟨relation, written, ← beginning? (written.take (written.length - 2)), true⟩
  else return ⟨relation, written, ← fullVersion? relation written, false⟩

/-- Whether a version begins with the numbers and marks of another one. Missing numbers are zero. -/
def beginsWith (v : Version) (numbers : List Nat) (marks : List Text) : Bool :=
  let padded := v.numbers ++ List.replicate (numbers.length - v.numbers.length) 0
  let parts (ns : List Nat) (ms : List Text) : List Text := ns.map Text.ofNat ++ ms
  (parts padded v.marks).take (numbers.length + marks.length) == parts numbers marks

/-- Whether a version equals that of a condition. A build counts only if the condition names one. -/
def isEqual (c : Condition) (v : Version) : Bool :=
  if c.isPattern then beginsWith v c.version.numbers c.version.marks
  else (if c.version.build.isEmpty then v.public_ else v).compare c.version == .eq

def hasSameBase (c : Condition) (v : Version) : Bool := v.base.compare c.version.base == .eq

def holds (c : Condition) (v : Version) : Bool :=
  match c.relation with
  | .atLeast => v.public_.compare c.version != .lt
  | .atMost => v.public_.compare c.version != .gt
  | .below =>
    v.compare c.version == .lt
      && !(!c.version.isPrerelease && v.isPrerelease && c.hasSameBase v)
  | .above =>
    v.compare c.version == .gt
      && !(c.version.post.isNone && v.post.isSome && c.hasSameBase v)
      && !(!v.build.isEmpty && c.hasSameBase v)
  | .equal => c.isEqual v
  | .different => !c.isEqual v
  | .compatible =>
    v.public_.compare c.version != .lt && beginsWith v c.version.numbers.dropLast []
  | .identical => v.text == Text.lower c.written

end Condition

/-- A package that a feature needs. -/
structure Needed where
  name : Text
  module : Text
  /-- The conditions on its version, between commas. -/
  versions : Text
  deriving DecidableEq, Repr

def readConditions : List Text → Except Error (List Condition)
  | [] => .ok []
  | t :: ts =>
    match Condition.read? t with
    | none => .error (.badCondition t)
    | some c => do return c :: (← readConditions ts)

def Needed.conditions (n : Needed) : Except Error (List Condition) :=
  readConditions (((Text.splitOn ',' n.versions).map Text.strip).filter (!·.isEmpty))

/-- What is known about a module: it is missing, or it is there, perhaps with a version. -/
abbrev Modules := Text → Option (Option Text)

def Needed.isMet (n : Needed) (modules : Modules) : Except Error Bool :=
  match modules n.module with
  | none => .ok false
  | some none => .ok true
  | some (some written) =>
    match Version.read? written with
    | none => .ok true
    | some v => do return (← n.conditions).all (·.holds v)

def missing (modules : Modules) : List Needed → Except Error (List Needed)
  | [] => .ok []
  | n :: ns => do
    let met ← n.isMet modules
    let rest ← missing modules ns
    return if met then rest else n :: rest

def checkAll (feature : Text) (needed : List Needed) (modules : Modules) : Except Error Unit := do
  match ← missing modules needed with
  | [] => .ok ()
  | ns => .error (.dependencyOn feature (ns.map fun n => (n.name, n.versions)) [])

end Texdown.Package
