import Texdown.Program.Markdown.Inline
import Texdown.Program.Markdown.Structure

/-!
# The Markdown reader

From text to a token tree: first the blocks, which also tell what links and footnotes are defined, then
the inline content of each. Footnotes that are referred to stand at the end, in the order of their
first reference.

The reader stands in for a library when the program runs. No theorem is about it: documents are treated for every
reader that gives a token tree.
-/
namespace Texdown.Markdown

/-- The characters that are trimmed from inline content. -/
def isMargin (c : Char) : Bool := c ∈ [' ', '\r', '\n', '\t', '\x0c']

/-- The mark of a task at the beginning of a text: whether it is done, and what follows it. -/
def taskMark? (t : Text) : Option (Bool × Text) :=
  match t with
  | '[' :: c :: ']' :: d :: r =>
    if (c == ' ' || c == 'x' || c == 'X') && Text.isBlank d then
      some (c != ' ', r.dropWhile Text.isBlank)
    else none
  | _ => none

namespace Block

def task (ext : Extensions) (children : List Block) : Option Bool × List Block :=
  match ext.taskLists, children with
  | true, .paragraph t :: rest =>
    match taskMark? t with
    | some (done, t) => (some done, .paragraph t :: rest)
    | none => (none, children)
  | true, .heading level t :: rest =>
    match taskMark? t with
    | some (done, t) => (some done, .heading level t :: rest)
    | none => (none, children)
  | _, _ => (none, children)

def inline (scope : Scope) (t : Text) : List Token := Inline.tokens scope (Text.trimWhile isMargin t)

def cells (scope : Scope) (row : List Text) : List Token :=
  row.map fun c => .container .tableCell (inline scope c)

mutual

/-- A block as tokens; `tight` says that it stands in a tight list. `fuel` bounds the depth. -/
def tokens (scope : Scope) : Nat → Bool → Block → List Token
  | 0, _, _ => []
  | fuel + 1, tight, b =>
    match b with
    | .paragraph t =>
      if tight then [.group (inline scope t)] else [.container .paragraph (inline scope t)]
    | .heading level t => [.heading level (inline scope t)]
    | .code info raw => [.codeBlock info raw]
    | .html raw => [.html raw]
    | .rule => [.rule]
    | .quote bs => [.container .blockQuote (tokensOf scope fuel false bs)]
    | .list start tight bs => [.list (start.map Int.ofNat) (tokensOf scope fuel tight bs)]
    | .item bs =>
      let (done, bs) := task scope.extensions bs
      [.item done (tokensOf scope fuel tight bs)]
    | .table head rows =>
      [.container .table
        [.container .tableHead (cells scope head),
          .group (rows.map fun r => .container .tableRow (cells scope r))]]
    | .blank => [.blank]
    | .definition .. | .footnote _ => []

def tokensOf (scope : Scope) : Nat → Bool → List Block → List Token
  | 0, _, _ => []
  | _ + 1, _, [] => []
  | fuel + 1, tight, b :: bs => tokens scope fuel tight b ++ tokensOf scope fuel tight bs

end

end Block

mutual

def footnoteLabels : Token → List Text
  | .footnoteReference label => [label]
  | .container _ ts | .group ts | .heading _ ts | .list _ ts | .item _ ts | .link _ _ _ ts =>
    footnoteLabelsOf ts
  | _ => []

def footnoteLabelsOf : List Token → List Text
  | [] => []
  | t :: ts => footnoteLabels t ++ footnoteLabelsOf ts

end

def firstOccurrences (ts : List Text) : List Text :=
  ts.foldl (fun seen t => if seen.contains t then seen else seen ++ [t]) []

def read (ext : Extensions) (source : Text) : List Token :=
  let blocks := Structure.document ext source
  let scope : Scope :=
    { extensions := ext
      addresses := Block.addressesOf blocks
      footnotes := Block.footnotes blocks }
  let body := Block.tokensOf scope (4 * source.length + 8) false blocks
  match firstOccurrences (footnoteLabelsOf body) with
  | [] => body
  | labels => body ++ [.group (labels.map .footnote)]

end Texdown.Markdown
