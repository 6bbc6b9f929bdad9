import Texdown.Program.Markdown.Destination
import Texdown.Program.Markdown.Emphasis
import Texdown.Markdown.Extensions
import Texdown.Program.Markdown.Html

/-!
# Inline content

The text of a paragraph, a heading or a table cell is read from left to right. At every character the
first construct that begins there is taken: an escape, a code span, a link or an image, a footnote
reference, struck-out text, an automatic link, HTML, or the end of a line. Runs of asterisks and
underscores are kept for `resolve`; everything else is plain text. Links do not nest, the outermost one wins.
-/
namespace Texdown.Markdown

/-- What inline content may refer to, and where it stands. -/
structure Scope where
  extensions : Extensions := {}
  /-- The addresses that are defined, by key. -/
  addresses : List (Text × Address) := []
  /-- The keys of the footnotes that are defined. -/
  footnotes : List Text := []
  inLink : Bool := false
  inImage : Bool := false
  deriving Repr

abbrev Found := List Piece × Text

/-- A reader of nested content. -/
abbrev Nested := Scope → Text → List Token

namespace Inline

/-! ## Escapes and code -/

def escapes : Text → Text × Text
  | '\\' :: c :: r => if Text.isAsciiPunctuation c then let s := escapes r; (c :: s.1, s.2) else ([], '\\' :: c :: r)
  | r => ([], r)

/-- The characters that a code span reports as references. -/
def referenceFor (c : Char) : Text :=
  match c with
  | '&' => "&amp;".toList
  | '<' => "&lt;".toList
  | '>' => "&gt;".toList
  | '"' => "&quot;".toList
  | c => [c]

def codeContent (t : Text) : Text :=
  let t := Text.substitute '\n' ' ' t
  let t := if !Text.isBlankText t && t.head? == some ' ' && t.getLast? == some ' ' then
    (t.drop 1).dropLast else t
  (Text.unescape t).flatMap referenceFor

/-- The content up to the next run of exactly `n` backticks, and what follows the run. `run` counts
the backticks that have just been read. -/
def codeEnd? (n : Nat) (run : Nat) : Text → Option (Text × Text)
  | [] => if run = n then some ([], []) else none
  | c :: r =>
    if c = '`' then (codeEnd? n (run + 1) r).map fun s => ('`' :: s.1, s.2)
    else if run = n then some ([], c :: r)
    else (codeEnd? n 0 r).map fun s => (c :: s.1, s.2)

def code? (t : Text) : Option (Text × Text) :=
  let n := 1 + (t.takeWhile (· == '`')).length
  (codeEnd? n 0 (t.drop (n - 1))).map fun s => (s.1.take (s.1.length - n), s.2)

/-! ## Links -/

/-- Whether a construct that binds more tightly than a link begins in the next `n` characters and
ends behind them. -/
def crosses (n : Nat) : Text → Bool
  | [] => false
  | c :: r =>
    if n = 0 then false
    else
      let reaches (rest : Option Text) : Bool := (rest.map fun t => decide (n ≤ r.length - t.length)).getD false
      if c = '\\' then
        match r with
        | _ :: r' => crosses (n - 2) r'
        | [] => false
      else if c = '`' then
        match code? r with
        | some (_, rest) => if reaches (some rest) then true else crosses (n - 1) r
        | none => crosses (n - 1) r
      else if c = '<' then
        reaches ((schemeLink? r).map (·.2)) || reaches (inlineHtml? r) || crosses (n - 1) r
      else crosses (n - 1) r

def address? (scope : Scope) (label : Text) : Option Address :=
  if hasBracket label || longestLabel < label.length then none
  else scope.addresses.lookup (labelKey label)

/-- The address behind a link text, with the label if there is one. -/
def linkTarget? (scope : Scope) (text rest : Text) : Option (Address × Option Text × Text) :=
  let inlined := match rest with
    | '(' :: r => inlineAddress? r
    | _ => none
  match inlined with
  | some (a, rest) => some (a, none, rest)
  | none =>
    let (label, rest) : Text × Text := match rest with
      | '[' :: r =>
        match label? r with
        | some (label, r) => (if label.isEmpty then text else label, r)
        | none => (text, rest)
      | _ => (text, rest)
    (address? scope label).map fun a => (a, some label, rest)

def link? (scope : Scope) (nested : Nested) (isImage : Bool) (t : Text) : Option Found :=
  if (isImage && scope.inImage) || (!isImage && scope.inLink) then none
  else match closeText? 0 t with
    | none => none
    | some (text, rest) =>
      if crosses (text.length + 1) t then none
      else (linkTarget? scope text rest).map fun (a, label, rest) =>
        let token : Token :=
          if isImage then .image a.url a.title label
          else .link a.url a.title label (nested { scope with inLink := true } text)
        ([.token token], rest)

/-- A footnote reference behind its opening bracket. A reference to an unknown footnote is text. -/
def footnote? (scope : Scope) (t : Text) : Option Found :=
  match t with
  | '^' :: r =>
    (label? r).bind fun (label, rest) =>
      if label.isEmpty then none
      else if scope.footnotes.contains (labelKey label) then
        some ([.token (.footnoteReference (labelKey label))], rest)
      else some ([.plain ('[' :: '^' :: label ++ [']'])], rest)
  | _ => none

/-! ## Struck-out text -/

/-- The text up to two tildes behind a character that is neither white space nor a tilde, and what
follows the tildes. -/
def struckEnd? (before : Option Char) : Text → Option (Text × Text)
  | '~' :: '~' :: r =>
    if (before.map fun c => !Text.isBlank c && c != '~').getD false then some ([], r)
    else (struckEnd? (some '~') ('~' :: r)).map fun s => ('~' :: s.1, s.2)
  | c :: r => (struckEnd? (some c) r).map fun s => (c :: s.1, s.2)
  | [] => none

/-- Struck-out text behind its first tilde. -/
def struck? (scope : Scope) (nested : Nested) (t : Text) : Option Found :=
  match t with
  | '~' :: c :: r =>
    if Text.isBlank c || c == '~' then none
    else (struckEnd? none (c :: r)).map fun (content, rest) =>
      ([.token (.container .strikethrough (nested scope content))], rest)
  | _ => none

/-! ## Angle brackets -/

/-- What an angle bracket begins; the text is given behind it. -/
def angle? (scope : Scope) (t : Text) : Option Found :=
  let autolink (url text rest : Text) : Found :=
    if scope.inLink then ([.plain text], rest)
    else ([.token (.link (urlOf url) none none [.text text])], rest)
  match schemeLink? t with
  | some (text, rest) => some (autolink text text rest)
  | none =>
    match mailLink? t with
    | some (text, rest) => some (autolink ("mailto:".toList ++ text) text rest)
    | none => (inlineHtml? t).map fun rest =>
        ([.token (.html ('<' :: t.take (t.length - rest.length)))], rest)

/-! ## Ends of lines -/

/-- The end of a line, with the spaces around it. Two spaces or a backslash in front make it a line
break. -/
def lineEnd? (t : Text) : Option Found :=
  match t with
  | '\\' :: '\n' :: r => some ([.token .hardBreak], r.dropWhile Text.isBlank)
  | t =>
    let spaces := t.takeWhile (· == ' ')
    match t.drop spaces.length with
    | '\n' :: r =>
      some ([.token (if 2 ≤ spaces.length then .hardBreak else .softBreak)], r.dropWhile Text.isBlank)
    | _ => none

/-! ## Reading -/

/-- The construct that begins at a character, `before` being the one in front of it. -/
def next? (scope : Scope) (nested : Nested) (before : Option Char) (t : Text) : Option Found :=
  match t with
  | [] => none
  | c :: r =>
    match c with
    | '\\' =>
      match escapes t with
      | ([], _) => lineEnd? t
      | (s, rest) => some ([.token (.text s)], rest)
    | ' ' | '\n' => lineEnd? t
    | '`' =>
      match code? r with
      | some (content, rest) => some ([.token (.codeSpan (codeContent content))], rest)
      | none =>
        let marks := t.takeWhile (· == '`')
        some ([.plain marks], t.drop marks.length)
    | '*' | '_' =>
      let n := (t.takeWhile (· == c)).length
      let rest := t.drop n
      some ([.run (.ofContext c n before rest.head?)], rest)
    | '~' => if scope.extensions.strikethrough then struck? scope nested r else none
    | '[' =>
      match if scope.extensions.footnotes then footnote? scope r else none with
      | some found => some found
      | none => link? scope nested false r
    | '!' =>
      match r with
      | '[' :: r => link? scope nested true r
      | _ => none
    | '<' => angle? scope r
    | _ => none

/-- The pieces of a text. `plain` holds the plain characters since the last construct, last one
first, and `before` the character in front. `fuel` bounds the number of characters. -/
def pieces : Nat → Scope → Option Char → Text → Text → List Piece
  | 0, _, _, plain, t => [.plain (plain.reverse ++ t)]
  | fuel + 1, scope, before, plain, t =>
    match t with
    | [] => [.plain plain.reverse]
    | c :: r =>
      match next? scope (fun s t => resolve (pieces fuel s none [] t)) before t with
      | some (found, rest) =>
        let last := (t.take (t.length - rest.length)).getLast?
        .plain plain.reverse :: found ++ pieces fuel scope last [] rest
      | none => pieces fuel scope (some c) (c :: plain) r

def tokens (scope : Scope) (t : Text) : List Token :=
  resolve (pieces (t.length + 1) scope none [] t)

end Inline
end Texdown.Markdown
