import Texdown.Locator
import Texdown.Token
import Texdown.Text.Lines

/-!
# Event streams of token trees

A walk turns a token tree into events in document order and locates every fragment in the source
on the way. Text, code, code lines and HTML get the span they were found at; everything else gets
the empty span at the cursor, except for images, task markers and footnote references, whose span
reaches from their opener to the cursor.

The events of a link are known only when its text has been walked, because the destination stands
behind it; so the notices made inside come before its first event.
-/
namespace Texdown

/-- The state of a walk: the locator, and the notices made since the last event. -/
structure Walk where
  locator : Locator
  notices : List Notice := []
  deriving Repr

/-- Part of a walk: it gives some events and goes on. -/
abbrev Walker := Walk → List Located × Walk

namespace Walk

def emit (w : Walk) (event : Event) (span : Span) : Located × Walk :=
  (⟨event, span, w.notices⟩, { w with notices := [] })

def note (w : Walk) (n : Notice) : Walk := { w with notices := w.notices ++ [n] }

def move (w : Walk) (l : Locator) : Walk := { w with locator := l }

/-- A span from an opener to the cursor, or the empty span where there is no opener. -/
def spanFrom (start : Option Nat) (l : Locator) : Span :=
  match start with
  | some s => ⟨s, l.cursor⟩
  | none => l.here

end Walk

namespace Walker

/-- Nothing happens. -/
def skip : Walker := fun w => ([], w)

def leaf (e : Event) : Walker := fun w =>
  let (x, w) := w.emit e w.locator.here
  ([x], w)

def andThen (a b : Walker) : Walker := fun w =>
  let (xs, w) := a w
  let (ys, w) := b w
  (xs ++ ys, w)

/-- A container around what a walk gives. -/
def enclose (tag : Tag) (inner : Walker) : Walker :=
  andThen (leaf (.start tag)) (andThen inner (leaf (.stop tag)))

/-- A fragment, located in the source. -/
def fragment (event : Text → Event) (content : Text) : Walker := fun w =>
  let (span, l) := w.locator.find content
  let w := if !content.isEmpty && (w.locator.span? content).isNone then
    w.note (.fragmentNotFound content w.locator.cursor) else w
  let (x, w) := (w.move l).emit (event content) span
  ([x], w)

/-- A fragment unless it is empty. -/
def nonempty (event : Text → Event) (content : Text) : Walker :=
  if content.isEmpty then skip else fragment event content

/-- The lines of a code block, each located on its own: an indented block is not contiguous. -/
def codeLines : List Text → Walker
  | [] => skip
  | l :: ls => andThen (fragment .text l) (codeLines ls)

/-- A code span, located with its backticks; it has the content that stands in the source. -/
def codeSpan (content : Text) : Walker := fun w =>
  let ((found, span), l) := w.locator.findCode content
  let w := if (w.locator.codeSpanAt? content).isNone then
    w.note (.codeSpanNotFound content w.locator.cursor) else w
  let (x, w) := (w.move l).emit (.code found) span
  ([x], w)

/-- A leaf whose span reaches from an opener to the bracket that closes it. -/
def bracketed (opener : Text) (event : Event) : Walker := fun w =>
  let (start, l) := w.locator.skipBracketed opener
  let (x, w) := (w.move l).emit event (Walk.spanFrom start l)
  ([x], w)

/-- An image: its text is passed over, its destination is not read. -/
def image (url : Text) (title label : Option Text) : Walker := fun w =>
  let (start, l) := w.locator.skipBracketed ['!', '[']
  let tag : Tag := .image ⟨some url, title, some l.tailForm, label⟩
  let l := l.skipTail.2
  let span := Walk.spanFrom start l
  let (x, w) := (w.move l).emit (.start tag) span
  let (y, w) := w.emit (.stop tag) span
  ([x, y], w)

/-- What the source says about a link once its text has been walked: its form, and the destination
as it is written. -/
def linkTarget (autolink : Bool) (url : Text) (title label : Option Text) (l : Locator) :
    Target × Locator :=
  if autolink then
    let form := if "mailto:".toList.isPrefixOf url then LinkForm.email else .autolink
    (⟨some url, title, some form, label⟩, (l.skipPast ['>']).2)
  else
    let l := (l.skipPast [']']).2
    let form := l.tailForm
    let (written, l) := l.skipTail
    let url := if form = .inline then written.getD url else url
    (⟨some url, title, some form, label⟩, l)

def link (url : Text) (title label : Option Text) (inner : Walker) : Walker := fun w =>
  let autolink := w.locator.nextOpener? == some .angle
  let w := w.move (w.locator.skipPast (if autolink then ['<'] else ['['])).2
  let (xs, w) := inner w
  let (target, l) := linkTarget autolink url title label w.locator
  let notices := xs.flatMap (·.notices) ++ w.notices
  let (a, w) := ({ w with notices }.move l).emit (.start (.link target)) l.here
  let (z, w) := w.emit (.stop (.link target)) l.here
  (a :: xs.map (fun x => { x with notices := [] }) ++ [z], w)

end Walker

namespace Container

def tag : Container → Tag
  | paragraph => .paragraph
  | blockQuote => .blockQuote
  | table => .table
  | tableHead => .tableHead
  | tableRow => .tableRow
  | tableCell => .tableCell
  | emphasis => .emphasis
  | strong => .strong
  | strikethrough => .strikethrough

end Container

namespace Token

/-- A heading level outside 1 to 6 counts as 1. -/
def headingLevel (level : Int) : Int := if 1 ≤ level ∧ level ≤ 6 then level else 1

mutual

def walk : Token → Walker
  | container kind children => .enclose kind.tag (walkAll children)
  | group children => walkAll children
  | heading level children => .enclose (.heading (headingLevel level)) (walkAll children)
  | codeBlock info raw =>
    .enclose (.codeBlock (language info)) (.codeLines (Text.splitLines raw))
  | list start children => .enclose (.list start) (walkAll children)
  | item none children => .enclose .item (walkAll children)
  | item (some done) children =>
    .enclose .item (.andThen (.bracketed ['['] (.taskMarker done)) (walkAll children))
  | footnote label => .enclose (.footnoteDefinition (some label)) .skip
  | rule => .leaf .rule
  | html raw => .nonempty .html raw
  | text raw => .nonempty .text raw
  | codeSpan raw => .codeSpan raw
  | link url title label children => .link url title label (walkAll children)
  | image url title label => .image url title label
  | softBreak => .leaf .softBreak
  | hardBreak => .leaf .hardBreak
  | footnoteReference label => .bracketed ['[', '^'] (.footnoteReference (some label))
  | blank => .skip
  | other name => fun w => ([], w.note (.tokenIgnored name))

def walkAll : List Token → Walker
  | [] => .skip
  | t :: ts => .andThen t.walk (walkAll ts)

end

end Token

/-- The events of a token tree over a source, and the notices made after the last event. -/
def streamOf (source : Text) (tokens : List Token) : List Located × List Notice :=
  let (xs, w) := Token.walkAll tokens ⟨⟨source, 0⟩, []⟩
  (xs, w.notices)

end Texdown
