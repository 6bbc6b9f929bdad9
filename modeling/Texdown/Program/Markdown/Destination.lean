import Texdown.Text.Blank
import Texdown.Text.CharacterReference
import Texdown.Text.Percent
import Texdown.Text.Punctuation
import Texdown.Text.Case

/-!
# Labels, destinations and titles

The parts of a link: a label between square brackets, a destination with or without angle
brackets, and a title in quotes or parentheses. Labels are compared without regard to case and to
the width of their white space. Readers give back what they read and what follows it.
-/
namespace Texdown.Markdown

/-- A label as it is compared. -/
def labelKey (label : Text) : Text :=
  Text.upper (Text.lower (List.intercalate [' '] (Text.words label)))

/-- The text with backslash escapes of punctuation resolved. -/
def unescapePunctuation : Text → Text
  | '\\' :: c :: r =>
    if Text.isAsciiPunctuation c then c :: unescapePunctuation r
    else '\\' :: unescapePunctuation (c :: r)
  | c :: r => c :: unescapePunctuation r
  | [] => []

def urlSafe : Text := ":/?#@!$&()*+,;=%".toList

/-- A destination as a URL: escapes and references resolved, the rest percent-encoded. -/
def urlOf (destination : Text) : Text :=
  Text.percentEncode urlSafe (Text.unescape destination)

/-! ## Brackets -/

/-- The text up to the square bracket that closes one that is open, and what follows the bracket.
A backslash hides the character behind it. -/
def closeText? (depth : Nat) : Text → Option (Text × Text)
  | '\\' :: c :: r => (closeText? depth r).map fun s => ('\\' :: c :: s.1, s.2)
  | c :: r =>
    if c = ']' then
      if depth = 0 then some ([], r) else (closeText? (depth - 1) r).map fun s => (']' :: s.1, s.2)
    else if c = '[' then (closeText? (depth + 1) r).map fun s => ('[' :: s.1, s.2)
    else (closeText? depth r).map fun s => (c :: s.1, s.2)
  | [] => none

/-- Whether a text holds a square bracket that no backslash hides. -/
def hasBracket : Text → Bool
  | '\\' :: _ :: r => hasBracket r
  | c :: r => c == '[' || c == ']' || hasBracket r
  | [] => false

def longestLabel : Nat := 500

/-- A label behind its opening bracket: no brackets inside, and not too long. -/
def label? (t : Text) : Option (Text × Text) :=
  match closeText? 0 t with
  | some (label, rest) => if hasBracket label || longestLabel < label.length then none else some (label, rest)
  | none => none

/-! ## Destinations -/

/-- White space with at most one line feed in it. -/
def skipGap (t : Text) : Text :=
  let spaces (t : Text) : Text := t.dropWhile fun c => c == ' ' || c == '\t'
  match spaces t with
  | '\n' :: r => spaces r
  | r => r

def angled? : Text → Option (Text × Text)
  | '>' :: r => some ([], r)
  | '\\' :: c :: r =>
    if c = '\n' then none else (angled? r).map fun s => ('\\' :: c :: s.1, s.2)
  | c :: r =>
    if c = '<' ∨ c = '\n' then none else (angled? r).map fun s => (c :: s.1, s.2)
  | [] => none

/-- A destination without brackets: up to white space or to the parenthesis that closes one outside
it. Nothing is read if parentheses stay open. -/
def bare? (depth : Nat) : Text → Option (Text × Text)
  | '\\' :: c :: r =>
    if Text.isAsciiPunctuation c then (bare? depth r).map fun s => ('\\' :: c :: s.1, s.2)
    else (bare? depth (c :: r)).map fun s => ('\\' :: s.1, s.2)
  | c :: r =>
    if c = ' ' ∨ c.toNat < 0x20 ∨ c.toNat = 0x7f then (if depth = 0 then some ([], c :: r) else none)
    else if c = '(' then (bare? (depth + 1) r).map fun s => ('(' :: s.1, s.2)
    else if c = ')' then
      if depth = 0 then some ([], c :: r) else (bare? (depth - 1) r).map fun s => (')' :: s.1, s.2)
    else (bare? depth r).map fun s => (c :: s.1, s.2)
  | [] => if depth = 0 then some ([], []) else none

def destination? (t : Text) : Option (Text × Text) :=
  match t with
  | '<' :: r => angled? r
  | t => bare? 0 t

/-- The text up to a mark that no backslash hides, and what follows the mark. -/
def quotedUntil? (mark : Char) : Text → Option (Text × Text)
  | '\\' :: c :: r => (quotedUntil? mark r).map fun s => ('\\' :: c :: s.1, s.2)
  | c :: r =>
    if c = mark then some ([], r) else (quotedUntil? mark r).map fun s => (c :: s.1, s.2)
  | [] => none

def title? : Text → Option (Text × Text)
  | '"' :: r => quotedUntil? '"' r
  | '\'' :: r => quotedUntil? '\'' r
  | '(' :: r => quotedUntil? ')' r
  | _ => none

def titleText (t : Text) : Text := Text.unescape (unescapePunctuation t)

/-- Where a link leads: a destination as it is written, and a title. -/
structure Address where
  url : Text
  title : Option Text
  deriving DecidableEq, Repr

/-- The address of a destination and a title as they are written. -/
def Address.ofSource (destination : Text) (title : Option Text) : Address :=
  ⟨urlOf (unescapePunctuation destination), title.map titleText⟩

/-- The address behind the opening parenthesis of an inline link, and what follows the closing
one. -/
def inlineAddress? (t : Text) : Option (Address × Text) :=
  (destination? (skipGap t)).bind fun (destination, rest) =>
    let gap := skipGap rest
    let close (title : Option Text) (t : Text) : Option (Address × Text) :=
      match skipGap t with
      | ')' :: r => some (.ofSource destination title, r)
      | _ => none
    match if gap.length < rest.length then title? gap else none with
    | some (title, r) => close (some title) r
    | none => close none rest

/-! ## Definitions -/

/-- What follows the end of a line, if nothing but spaces stands before it. -/
def lineEnd? (t : Text) : Option Text :=
  match t.dropWhile fun c => c == ' ' || c == '\t' with
  | [] => some []
  | '\n' :: r => some r
  | _ => none

/-- A definition behind the indentation of its line: label, colon, destination and an optional
title, up to the end of a line. -/
def definition? (t : Text) : Option ((Text × Address) × Text) :=
  match t with
  | '[' :: r =>
    (label? r).bind fun (label, r) =>
      if (labelKey label).isEmpty then none
      else match r with
        | ':' :: r =>
          let start := skipGap r
          if start.isEmpty then none
          else (destination? start).bind fun (destination, rest) =>
            if destination.isEmpty && start.head? != some '<' then none
            else
              let gap := skipGap rest
              let titled := if gap.length < rest.length then title? gap else none
              match titled.bind fun s => (lineEnd? s.2).map (s.1, ·) with
              | some (title, rest) => some ((label, .ofSource destination (some title)), rest)
              | none => (lineEnd? rest).map ((label, .ofSource destination none), ·)
        | _ => none
  | _ => none

end Texdown.Markdown
