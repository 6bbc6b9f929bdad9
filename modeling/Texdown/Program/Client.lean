import Texdown.Program.Reason
import Texdown.Text.Percent
import Texdown.Web.Fetch

/-!
# A client of the web

A request is made for the normal form of a URL: scheme and host in lower case, no port where it is
the usual one of the scheme, no dots among the steps of the path, and percent triplets for characters
that may not stand. A server that points elsewhere may do so relative to the URL it was asked for.

The client stands in for a library when the program runs. No theorem is about it: fetches are treated for every
client.
-/
namespace Texdown.Web

def neverSafe : List Char := [' ', '"', '<', '>']

/-- Encodes the characters that are not printable ASCII or are among the given ones; what is
encoded already stays as it is. -/
def encodeExcept (unsafeChars : List Char) (t : Text) : Text :=
  t.flatMap fun c =>
    if 0x20 ≤ c.toNat && c.toNat < 0x7f && !unsafeChars.contains c then [c]
    else (Text.utf8Char c).flatMap Text.percentTriplet

/-- The steps of a path without dots; two dots take back the step before. -/
def dropDots (steps : List Text) : List Text :=
  steps.foldl
    (fun out s =>
      if s = ['.'] then out
      else if s = ['.', '.'] then (if out.isEmpty || out == [[]] then out else out.dropLast)
      else out ++ [s]) []

def normalPath (path : Text) : Text :=
  let steps := Text.splitOn '/' path
  if steps.contains ['.'] || steps.contains ['.', '.'] then List.intercalate ['/'] (dropDots steps)
  else path

def usualPort (scheme : Text) : Text := if scheme == "https".toList then "443".toList else "80".toList

/-- The authority with its host in lower case and without the usual port. -/
def normalAuthority (scheme authority : Text) : Text :=
  let (user, address) : Text × Text :=
    match Text.splitLast? '@' authority with
    | some (user, rest) => (user ++ ['@'], rest)
    | none => ([], authority)
  let (host, port) : Text × Text :=
    match Text.splitLast? ':' address with
    | some (host, port) => if port.all Text.isDigit then (host, port) else (address, [])
    | none => (address, [])
  user ++ Text.lower host ++ (if port.isEmpty || port == usualPort scheme then [] else ':' :: port)

namespace Url

/-- The parts of a URL, with a mark for those that are given. -/
structure Given where
  scheme : Text
  authority : Option Text
  path : Text
  query : Option Text
  fragment : Option Text
  deriving DecidableEq, Repr

/-- A text up to a separator, and what stands behind it if it occurs. -/
def cut? (sep : Char) (t : Text) : Text × Option Text :=
  match Text.splitFirst? sep t with
  | some (front, rest) => (front, some rest)
  | none => (t, none)

/-- The given parts of a URL. -/
def given (t : Text) : Given :=
  let (scheme, t) := splitScheme t
  let (t, fragment) := cut? '#' t
  let (t, query) := cut? '?' t
  match t with
  | '/' :: '/' :: r =>
    ⟨scheme, some (r.takeWhile (· ≠ '/')), r.dropWhile (· ≠ '/'), query, fragment⟩
  | t => ⟨scheme, none, t, query, fragment⟩

namespace Given

/-- The parts in their normal form. -/
def normal (g : Given) : Given where
  scheme := g.scheme
  authority := g.authority.map (normalAuthority g.scheme)
  path :=
    let path := encodeExcept (neverSafe ++ ['#', '?', '`', '\x7b', '\x7d']) g.path
    if g.scheme.isEmpty && g.authority.isNone then path else normalPath path
  query := g.query.map (encodeExcept (neverSafe ++ ['#']))
  fragment := g.fragment.map (encodeExcept (neverSafe ++ ['`']))

def text (g : Given) : Text :=
  (if g.scheme.isEmpty then [] else g.scheme ++ [':'])
    ++ (g.authority.map fun a => '/' :: '/' :: a).getD []
    ++ g.path
    ++ (g.query.map ('?' :: ·)).getD []
    ++ (g.fragment.map ('#' :: ·)).getD []

/-- A path relative to another one. -/
def mergePath (base g : Given) : Text :=
  let front := List.intercalate ['/'] (Text.splitOn '/' base.path).dropLast
  let merged := front ++ '/' :: g.path
  let steps := Text.splitOn '/' merged
  let ends := steps.getLast?.getD []
  let path := List.intercalate ['/'] (dropDots steps)
  if ends = ['.'] || ends = ['.', '.'] then path ++ ['/'] else path

/-- A reference as seen from a URL. -/
def resolve (base g : Given) : Given :=
  if !g.scheme.isEmpty then
    (if (g.authority.getD []).isEmpty then { g with authority := base.authority } else g)
  else if g.authority.isSome then { g with scheme := base.scheme }
  else if g.path.isEmpty then
    { base with query := g.query <|> base.query, fragment := g.fragment }
  else
    { base with
      path := if g.path.head? == some '/' then normalPath g.path else mergePath base g
      query := g.query
      fragment := g.fragment }

end Given
end Url

def requestUrl (t : Text) : Text := (Url.given t).normal.text

/-- The URL that a server points to from the one it was asked for. -/
def redirectUrl (base location : Text) : Text :=
  let from_ := Url.given base
  let target := from_.resolve (Url.given location)
  { target with fragment := target.fragment <|> from_.fragment }.normal.text

/-- The value of a header, whose name may be in any case; those of several are put together. -/
def header? (headers : List (Text × Text)) (name : Text) : Option Text :=
  match headers.filter fun h => Text.lower h.1 == name with
  | [] => none
  | hs => some (List.intercalate [',', ' '] (hs.map (·.2)))

def responseWith (status : Nat) (headers : List (Text × Text)) (chunks : List Bytes) : Response where
  status := status
  reason := reason status
  declaredType := (header? headers "content-type".toList).getD []
  declared := (header? headers "content-length".toList).getD []
  location := header? headers "location".toList
  chunks := chunks

def redirectStatuses : List Nat := [301, 302, 303, 307, 308]

/-- The client that writes URLs in their normal form. -/
def Client.usual : Client where
  first := requestUrl
  next? current r :=
    if redirectStatuses.contains r.status then r.location.map (redirectUrl current) else none

end Texdown.Web
