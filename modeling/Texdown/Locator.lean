import Texdown.Event
import Texdown.Text.Blank
import Texdown.Text.CharacterReference

/-!
# Locating fragments

A token tree has no positions. A locator finds them again: a cursor that only moves forward through
the source, in step with the tokens. A fragment is taken where it first occurs at or after the
cursor; one that does not occur leaves the cursor where it is.

Results:
* `length_closing?`: the bracket that ends a bracketed part lies inside the text.
-/
namespace Texdown

/-- A source and the offset up to which it has been read. -/
structure Locator where
  source : Text
  cursor : Nat := 0
  deriving DecidableEq, Repr

namespace Locator

def rest (l : Locator) : Text := l.source.drop l.cursor

def here (l : Locator) : Span := .empty l.cursor

/-- The offset of the first occurrence of a fragment at or after the cursor. -/
def indexOf? (l : Locator) (fragment : Text) : Option Nat :=
  if l.cursor ≤ l.source.length then (Text.indexOf? fragment l.rest).map (l.cursor + ·) else none

/-! ## Fragments -/

/-- The span of the first occurrence of a fragment, if it occurs. -/
def span? (l : Locator) (fragment : Text) : Option Span :=
  (l.indexOf? fragment).map fun i => ⟨i, i + fragment.length⟩

/-- The span of a fragment, or the empty span at the cursor; the cursor moves past it. -/
def find (l : Locator) (fragment : Text) : Span × Locator :=
  if fragment.isEmpty then (l.here, l)
  else match l.span? fragment with
    | none => (l.here, l)
    | some s => (s, { l with cursor := s.stop })

/-! ## Code spans -/

/-- The content of a code span as it is read: line feeds become spaces, and one space is dropped
from either end unless there is nothing else. -/
def normalizeCode (content : Text) : Text :=
  let t := Text.substitute '\n' ' ' content
  if !Text.isBlankText t && t.head? == some ' ' && t.getLast? == some ' ' then
    (t.drop 1).dropLast
  else t

/-- The text in front of the first run of backticks, the length of the run, and the text behind. -/
def firstRun? (t : Text) : Option (Text × Nat × Text) :=
  match t.dropWhile (· ≠ '`') with
  | [] => none
  | b :: r =>
    some (t.takeWhile (· ≠ '`'), ((b :: r).takeWhile (· = '`')).length,
      (b :: r).dropWhile (· = '`'))

theorem length_firstRun? {t before after : Text} {n : Nat}
    (h : firstRun? t = some (before, n, after)) :
    before.length + n + after.length = t.length ∧ 0 < n := by
  unfold firstRun? at h
  split at h
  · cases h
  · next b r heq =>
    have hb : b = '`' := by
      have := List.head?_dropWhile_not (p := (· ≠ '`')) (l := t)
      rw [heq] at this
      simpa using this
    have h1 := List.takeWhile_append_dropWhile (p := (· ≠ '`')) (l := t)
    have h2 := List.takeWhile_append_dropWhile (p := (· = '`')) (l := b :: r)
    simp only [Option.some.injEq, Prod.mk.injEq] at h
    obtain ⟨rfl, rfl, rfl⟩ := h
    refine ⟨?_, by simp [hb]⟩
    have l1 := congrArg List.length h1
    have l2 := congrArg List.length h2
    rw [heq] at l1
    simp only [List.length_append] at l1 l2
    omega

/-- The text in front of the first run of exactly `n` backticks. -/
def codeContent? (n : Nat) (t : Text) : Option Text :=
  match _h : firstRun? t with
  | none => none
  | some (before, k, after) =>
    if k = n then some before
    else (codeContent? n after).map fun c => before ++ List.replicate k '`' ++ c
termination_by t.length
decreasing_by have := length_firstRun? _h; omega

/-- The first code span in `t`, which starts at `offset`, whose normalised content is among the
wanted ones. -/
def codeSpan? (wanted : List Text) (offset : Nat) (t : Text) : Option (Text × Span) :=
  match _h : firstRun? t with
  | none => none
  | some (before, n, after) =>
    let start := offset + before.length
    match (codeContent? n after).filter fun c => wanted.contains (normalizeCode c) with
    | some c => some (normalizeCode c, ⟨start, start + n + c.length + n⟩)
    | none => codeSpan? wanted (start + n) after
termination_by t.length
decreasing_by have := length_firstRun? _h; omega

/-- The first code span at or after the cursor with the given content, as written or with its
character references read. -/
def codeSpanAt? (l : Locator) (content : Text) : Option (Text × Span) :=
  codeSpan? [content, Text.unescape content] l.cursor l.rest

/-- The content and the span, backticks included, of a code span; the cursor moves past it. -/
def findCode (l : Locator) (content : Text) : (Text × Span) × Locator :=
  match l.codeSpanAt? content with
  | none => ((content, l.here), l)
  | some (c, s) => ((c, s), { l with cursor := s.stop })

/-! ## Brackets -/

/-- The opener of a link that comes next. -/
inductive Opener where
  | angle
  | bracket
  deriving DecidableEq, Repr

/-- Whichever of the two openers of a link comes first. -/
def nextOpener? (l : Locator) : Option Opener :=
  match l.indexOf? ['<'], l.indexOf? ['['] with
  | some a, some b => some (if a < b then .angle else .bracket)
  | some _, none => some .angle
  | none, some _ => some .bracket
  | none, none => none

/-- The offset of the next occurrence; the cursor moves one past it. -/
def skipPast (l : Locator) (mark : Text) : Option Nat × Locator :=
  match l.indexOf? mark with
  | none => (none, l)
  | some i => (some i, { l with cursor := i + 1 })

/-- The offset of the closing bracket that brings the depth to zero. A backslash hides the
character behind it. -/
def closing? (depth : Int) : Text → Option Nat
  | '\\' :: _ :: r => (closing? depth r).map (· + 2)
  | '\\' :: [] => none
  | c :: r =>
    if c = '[' then (closing? (depth + 1) r).map (· + 1)
    else if c = ']' then
      if depth = 1 then some 0 else (closing? (depth - 1) r).map (· + 1)
    else (closing? depth r).map (· + 1)
  | [] => none

theorem length_closing? {depth : Int} {t : Text} {i : Nat} (h : closing? depth t = some i) :
    i < t.length := by
  fun_induction closing? depth t generalizing i with
  | case1 depth e r ih =>
    obtain ⟨j, hj, rfl⟩ := Option.map_eq_some_iff.1 h
    have := ih hj
    simp only [List.length_cons]; omega
  | case2 | case7 => simp at h
  | case4 => simp only [List.length_cons]; cases h; omega
  | case3 | case5 | case6 =>
    rename_i ih
    obtain ⟨j, hj, rfl⟩ := Option.map_eq_some_iff.1 h
    have := ih hj
    simp only [List.length_cons]; omega

/-- The offset of an opener at or after the cursor; the cursor moves past the bracket that closes
what begins with the opener's last character, if there is one. -/
def skipBracketed (l : Locator) (opener : Text) : Option Nat × Locator :=
  match l.indexOf? opener with
  | none => (none, l)
  | some i =>
    let inside := i + opener.length - 1
    match closing? 0 (l.source.drop inside) with
    | none => (some i, l)
    | some j => (some i, { l with cursor := inside + j + 1 })

/-! ## Destinations -/

/-- What follows the text of a link, judged by the character at the cursor. -/
def tailForm (l : Locator) : LinkForm :=
  if l.rest.head? = some '(' then .inline else .reference

/-- Where in a destination the reading is. -/
inductive TailPart where
  | plain
  | quoted (mark : Char)
  /-- Between the angle brackets of a destination. -/
  | angle
  deriving DecidableEq, Repr

/-- The offset of the parenthesis that closes an inline destination. `before` is the character in
front, `blank` says that only white space has been read. -/
def closingParen? (part : TailPart) (depth : Nat) (before : Char) (blank : Bool) :
    Text → Option Nat
  | [] => none
  | c :: r =>
    match part with
    | .angle =>
      (closingParen? (if c = '>' then .plain else .angle) depth c false r).map (· + 1)
    | .quoted mark =>
      if c = '\\' then
        match r with
        | [] => none
        | e :: r => (closingParen? part depth e false r).map (· + 2)
      else (closingParen? (if c = mark then .plain else part) depth c false r).map (· + 1)
    | .plain =>
      if c = '\\' then
        match r with
        | [] => none
        | e :: r => (closingParen? part depth e false r).map (· + 2)
      else if c = '<' ∧ blank then (closingParen? .angle depth c false r).map (· + 1)
      else if (c = '"' ∨ c = '\'') ∧ Text.isBlank before then
        (closingParen? (.quoted c) depth c false r).map (· + 1)
      else if c = '(' then (closingParen? .plain (depth + 1) c false r).map (· + 1)
      else if c = ')' then
        if depth = 0 then some 0 else (closingParen? .plain (depth - 1) c false r).map (· + 1)
      else (closingParen? .plain depth c (blank && Text.isBlank c) r).map (· + 1)

/-- The destination in what stands between the parentheses of an inline link. -/
def destination (tail : Text) : Text :=
  match Text.strip tail with
  | '<' :: r => r.takeWhile (· ≠ '>')
  | t => ((Text.words t).head?).getD []

/-- Moves past the destination or the label behind a link text. The destination of an inline link
is given back as it is written. -/
def skipTail (l : Locator) : Option Text × Locator :=
  match l.rest with
  | '[' :: _ => (none, (l.skipPast [']']).2)
  | '(' :: r =>
    match closingParen? .plain 0 '(' true r with
    | none => (none, l)
    | some i => (some (destination (r.take i)), { l with cursor := l.cursor + 1 + i + 1 })
  | _ => (none, l)

end Locator
end Texdown
