import Texdown.Text.Basic
import Texdown.Text.Blank
import Texdown.Text.Case

/-!
# Versions of packages

A version has an epoch, a release made of numbers, and perhaps marks that say it comes before the release,
after it, is under development, or was built locally. Zeros at the end of a release do not count when
versions are compared.

Versions are compared as a library does it. No theorem is about them.
-/
namespace Texdown.Package

/-- How far a version is from its release. -/
inductive Phase where
  | alpha
  | beta
  | candidate
  deriving DecidableEq, Repr

structure Version where
  epoch : Nat
  release : List Nat
  pre : Option (Phase × Nat)
  post : Option Nat
  dev : Option Nat
  build : List Text
  deriving DecidableEq, Repr

namespace Phase

def rank : Phase → Nat
  | alpha => 0
  | beta => 1
  | candidate => 2

def name : Phase → Text
  | alpha => ['a']
  | beta => ['b']
  | candidate => ['r', 'c']

/-- The spellings of the phases. Where one begins with another, the longer one comes first. -/
def spellings : List (Text × Phase) :=
  [("alpha".toList, alpha), (['a'], alpha), ("beta".toList, beta), (['b'], beta),
   ("preview".toList, candidate), ("pre".toList, candidate), (['c'], candidate),
   ("rc".toList, candidate)]

end Phase

namespace Version

/-! ## Reading -/

/-- What separates marks from each other and from their numbers. -/
def isSeparator (c : Char) : Bool := c ∈ ['-', '_', '.']

def number? (t : Text) : Option (Nat × Text) :=
  let ds := t.takeWhile Text.isDigit
  if ds.isEmpty then none else some (Text.readDigits 10 ds, t.drop ds.length)

def dropSeparator (t : Text) : Text :=
  match t with
  | c :: r => if isSeparator c then r else t
  | [] => []

/-- One of several words at the beginning of a text, perhaps behind a separator, and the number
behind the word, zero if there is none. -/
def mark? {α : Type} (words : List (Text × α)) (t : Text) : Option (α × Nat × Text) :=
  let inner := dropSeparator t
  (words.find? fun w => w.1.isPrefixOf inner).map fun w =>
    let rest := dropSeparator (inner.drop w.1.length)
    match number? rest with
    | some (n, rest) => (w.2, n, rest)
    | none => (w.2, 0, rest)

/-- The words for versions after a release. -/
def postWords : List (Text × Unit) := [("post".toList, ()), ("rev".toList, ()), (['r'], ())]

def devWords : List (Text × Unit) := [("dev".toList, ())]

def release? : Nat → Text → Option (List Nat × Text)
  | 0, _ => none
  | fuel + 1, t => do
    let (n, rest) ← number? t
    match rest with
    | '.' :: more =>
      match release? fuel more with
      | some (ns, rest) => some (n :: ns, rest)
      | none => some ([n], rest)
    | _ => some ([n], rest)

/-- The mark of a version after a release: a word, or a dash and a number. -/
def post? (t : Text) : Option (Nat × Text) :=
  match t with
  | '-' :: r => number? r <|> (mark? postWords t).map (·.2)
  | _ => (mark? postWords t).map (·.2)

def build? (t : Text) : Option (List Text) :=
  match t with
  | [] => some []
  | '+' :: r =>
    let parts := Text.splitOn '.' (r.map fun c => if isSeparator c then '.' else c)
    if parts.all fun p => !p.isEmpty && p.all Text.isLetterOrDigit then some parts else none
  | _ => none

def read? (t : Text) : Option Version := do
  let t := Text.lower (Text.strip t)
  let t := if t.head? == some 'v' then t.drop 1 else t
  let (epoch, t) : Nat × Text :=
    match number? t with
    | some (n, '!' :: rest) => (n, rest)
    | _ => (0, t)
  let (release, t) ← release? (t.length + 1) t
  let (pre, t) : Option (Phase × Nat) × Text :=
    match mark? Phase.spellings t with
    | some (phase, n, rest) => (some (phase, n), rest)
    | none => (none, t)
  let (post, t) : Option Nat × Text :=
    match post? t with
    | some (n, rest) => (some n, rest)
    | none => (none, t)
  let (dev, t) : Option Nat × Text :=
    match mark? devWords t with
    | some (_, n, rest) => (some n, rest)
    | none => (none, t)
  let build ← build? t
  return ⟨epoch, release, pre, post, dev, build⟩

/-! ## Order -/

/-- The release without zeros at its end. -/
def trimmedRelease (v : Version) : List Nat := (v.release.reverse.dropWhile (· = 0)).reverse

/-- Development versions come before the versions ahead of a release, and those before the release. -/
def preKey (v : Version) : List Nat :=
  match v.pre with
  | some (phase, n) => [1, phase.rank, n]
  | none => if v.post.isNone && v.dev.isSome then [0] else [2]

def postKey (v : Version) : List Nat := v.post.toList

def devKey (v : Version) : List Nat :=
  match v.dev with
  | some n => [0, n]
  | none => [1]

/-- A part of a build: numbers come after words. -/
def buildKey (part : Text) : List Nat :=
  match Text.toNat? part with
  | some n => [1, n]
  | none => 0 :: part.map Char.toNat

/-- What versions are compared by, the most important first. -/
def keys (v : Version) : List (List Nat) :=
  [v.epoch] :: v.trimmedRelease :: v.preKey :: v.postKey :: v.devKey :: v.build.map buildKey

def compare (a b : Version) : Ordering := Ord.compare a.keys b.keys

def isPrerelease (v : Version) : Bool := v.pre.isSome || v.dev.isSome

def public_ (v : Version) : Version := { v with build := [] }

def base (v : Version) : Version := ⟨v.epoch, v.release, none, none, none, []⟩

/-! ## Writing -/

def numbers (v : Version) : List Nat := v.epoch :: v.release

def marks (v : Version) : List Text :=
  (v.pre.map fun p => p.1.name ++ Text.ofNat p.2).toList
    ++ (v.post.map fun n => "post".toList ++ Text.ofNat n).toList
    ++ (v.dev.map fun n => "dev".toList ++ Text.ofNat n).toList

def text (v : Version) : Text :=
  (if v.epoch = 0 then [] else Text.ofNat v.epoch ++ ['!'])
    ++ List.intercalate ['.'] (v.release.map Text.ofNat)
    ++ (v.pre.map fun p => p.1.name ++ Text.ofNat p.2).getD []
    ++ (v.post.map fun n => ".post".toList ++ Text.ofNat n).getD []
    ++ (v.dev.map fun n => ".dev".toList ++ Text.ofNat n).getD []
    ++ (if v.build.isEmpty then [] else '+' :: List.intercalate ['.'] v.build)

end Version
end Texdown.Package
