import Texdown.Program.Markdown.Block
import Texdown.Markdown.Extensions
import Texdown.Program.Markdown.Html
import Texdown.Program.Markdown.Tables

/-!
# Block structure

Lines are read from the top. A line either begins a block, which takes as many lines as it needs, or
belongs to a paragraph. Quotes and list items hold lines of their own, which are read in the same way
once their marks are gone; a paragraph inside them may go on without the marks. Tables and footnotes
are recognised at the top level only, and containers nest to a fixed depth.
-/
namespace Texdown.Markdown

/-- The number of containers around which another list or quote is still recognised. -/
def deepestPlace : Nat := 5

/-- Where lines stand: around them are `depth` containers. -/
structure Place where
  depth : Nat := 0
  lists : Bool := true
  quotes : Bool := true
  deriving DecidableEq, Repr

/-- What the first lines are, and the lines behind them. -/
abbrev BlocksFound := List Block × List Text

/-- A reader of the lines of a container. -/
abbrev NestedBlocks := Place → List Text → List Block

namespace Structure

open Lines

/-! ## Leaf blocks -/

def fenced (f : Fence) (lines : List Text) : BlocksFound :=
  let body := lines.takeWhile fun l => !f.closedBy l
  let trimmed := body.map fun l => l.drop (min f.indent (l.takeWhile (· == ' ')).length)
  ([.code f.info (unlines trimmed)], lines.drop (body.length + 1))

def isIndented (line : Text) : Bool := isBlank line || 4 ≤ indent line

/-- An indented block, which ends with the last line that is not blank. -/
def indented (lines : List Text) : BlocksFound :=
  let body := (lines.takeWhile isIndented).reverse.dropWhile isBlank |>.reverse
  ([.code [] (unlines (body.map (dropColumns 4))).dropLast], lines.drop body.length)

/-- A block of HTML that ends with the line that holds a mark. -/
def htmlUntil (mark : Text) : List Text → List Text × List Text
  | [] => ([], [])
  | l :: ls =>
    if Text.occursIn mark l then ([l], ls)
    else let s := htmlUntil mark ls; (l :: s.1, s.2)

def html (ending : HtmlEnd) (lines : List Text) : BlocksFound :=
  match ending with
  | .mark mark =>
    let s := htmlUntil mark lines
    ([.html (unlines s.1)], s.2)
  | _ => ([.html (unlines (lines.takeWhile (!isBlank ·)))], lines.dropWhile (!isBlank ·))

/-- A definition that may go on in the next lines. -/
def definition? (lines : List Text) : Option BlocksFound :=
  match lines with
  | l :: _ =>
    (shallow? l).bind fun t =>
      let body := lines.takeWhile (!isBlank ·)
      let source := t ++ '\n' :: unlines (body.drop 1)
      (Markdown.definition? source).map fun ((label, address), rest) =>
        let left := (rest.filter (· == '\n')).length
        ([.definition label address], lines.drop (body.length - left))
  | [] => none

/-- A footnote: its first line, the indented lines behind it, and the blank lines among them. -/
def footnote? (lines : List Text) : Option BlocksFound :=
  match lines with
  | l :: ls =>
    (shallow? l).bind fun t =>
      match t with
      | '[' :: '^' :: r =>
        (label? r).bind fun (label, rest) =>
          match rest with
          | ':' :: c :: _ =>
            if (c == ' ' || c == '\t') && !label.isEmpty then
              some ([.footnote label], ls.dropWhile fun l => isBlank l || 1 ≤ indent l)
            else none
          | _ => none
      | _ => none
  | [] => none

/-! ## Quotes -/

/-- Whether a line without a mark ends a quote whose last line is a paragraph. -/
def endsQuote (line : Text) : Bool :=
  isBlank line || isRule line || (fence? line).isSome || (heading? line).isSome
    || (bullet? 3 line).isSome
    || match (shallow? line).bind htmlBlock? with
      | some .blankAlone | none => false
      | some _ => true

/-- The lines of a quote; a line without a mark goes on with a paragraph. -/
def quoteBody (afterBlank : Bool) : List Text → List Text × List Text
  | [] => ([], [])
  | l :: ls =>
    match quoted? l with
    | some t => let s := quoteBody (isBlank t) ls; (t :: s.1, s.2)
    | none =>
      if afterBlank || endsQuote l then ([], l :: ls)
      else let s := quoteBody afterBlank ls; (l :: s.1, s.2)

def markedLines : List Text → List Text × List Text
  | [] => ([], [])
  | l :: ls =>
    match quoted? l with
    | some t => let s := markedLines ls; (t :: s.1, s.2)
    | none => ([], l :: ls)

/-- A quote whose first line is `text`. What begins with code or a blank line does not go on without
marks. -/
def quote (nested : NestedBlocks) (place : Place) (text : Text) (lines : List Text) : BlocksFound :=
  let strict := isBlank text || 4 ≤ indent text || (fence? text).isSome
  let s := if strict then markedLines lines else quoteBody false lines
  let inside : Place := ⟨place.depth + 1, true, place.depth < deepestPlace⟩
  ([.quote (nested inside (text :: s.1))], s.2)

/-! ## Lists -/

/-- The width of the spaces behind a marker, and the text behind them. Five spaces or more are one
space and an indented block. -/
def Bullet.content (b : Bullet) : Nat × Text :=
  let text := expandFirstTab 3 b.text
  if isBlank text then (1, [])
  else
    let spaces := (text.takeWhile (· == ' ')).length
    if 5 ≤ spaces then (1, text.drop 1) else (spaces, text.drop spaces)

/-- Whether a line begins a block that ends a list item, given the most spaces in front of it. -/
def endsItem (most : Nat) (line : Text) : Bool :=
  indent line ≤ most &&
    (isRule line || (bullet? most line).isSome || (fence? line).isSome || (heading? line).isSome
      || (quoted? line).isSome
      || match (shallow? line).bind htmlBlock? with
        | some .blankAlone | none => false
        | some _ => true)

/-- The lines behind the first line of a list item, without their indentation, whether a blank line stands at
the end, and the lines behind the item. -/
def itemBody (most width : Nat) (afterBlank filled : Bool) : List Text → List Text × Bool × List Text
  | [] => ([], afterBlank, [])
  | l :: ls =>
    if isBlank l then
      let s := itemBody most width true filled ls
      ([] :: s.1, s.2)
    else
      let expanded := expandFirstTab 4 l
      if width ≤ (expanded.takeWhile (· == ' ')).length then
        if afterBlank && !filled then ([], afterBlank, l :: ls)
        else
          let s := itemBody most width false true ls
          (expanded.drop width :: s.1, s.2)
      else if endsItem most l || afterBlank then ([], afterBlank, l :: ls)
      else
        let s := itemBody most width false true ls
        (l :: s.1, s.2)

/-- Whether an item with these blocks makes its list loose. -/
def isLoose (bs : List Block) : Bool :=
  bs.any Block.isBlank || 1 < (bs.filter Block.isParagraph).length

/-- The items from a bullet on, whether they are tight, and the lines behind them. `fuel` bounds the
number of lines. -/
def items (nested : Place → List Text → List Block) (inside : Place) :
    Nat → Bullet → List Text → List Block × Bool × List Text
  | 0, _, lines => ([], true, lines)
  | fuel + 1, b, lines =>
    let leading := b.indent + b.width
    let most := min leading 3
    let (spaces, text) := Bullet.content b
    let (body, afterBlank, rest) := itemBody most (leading + spaces) false (!text.isEmpty) lines
    let all := if text.isEmpty then body else text :: body
    let children := nested inside (all.reverse.dropWhile isBlank).reverse
    let tight := !isLoose children
    let next := match rest with
      | l :: _ =>
        if isRule l && indent l ≤ most then none
        else (bullet? most l).bind fun b' => if b'.kind = b.kind then some b' else none
      | [] => none
    match next with
    | some b' =>
      let s := items nested inside fuel b' (rest.drop 1)
      (.item children :: s.1, tight && !afterBlank && s.2.1, s.2.2)
    | none => ([.item children], tight, rest)

def listFrom (nested : NestedBlocks) (place : Place) (b : Bullet) (lines : List Text) : BlocksFound :=
  let inside : Place := ⟨place.depth + 1, place.depth < deepestPlace, true⟩
  let s := items nested inside (lines.length + 1) b lines
  ([.list b.number s.2.1 s.1], s.2.2)

/-- The first bullet of a list. An empty item and a list that does not begin at one do not interrupt
a paragraph. -/
def listStart? (place : Place) (inParagraph : Bool) (line : Text) : Option Bullet :=
  if !place.lists then none
  else (bullet? 3 line).bind fun b =>
    if inParagraph && (isBlank b.text || (b.number.map (· != 1)).getD false) then none else some b

/-! ## Documents -/

/-- The block that the first line begins, if it does not belong to a paragraph. -/
def next? (ext : Extensions) (nested : NestedBlocks) (place : Place) (inParagraph : Bool)
    (line : Text) (lines : List Text) : Option BlocksFound :=
  if isBlank line then some ([.blank], lines.dropWhile isBlank)
  else if let some f := fence? line then some (fenced f lines)
  else if 4 ≤ indent line then (if inParagraph then none else some (indented (line :: lines)))
  else if let some (level, text) := heading? line then some ([.heading level text], lines)
  else if isRule line then some ([.rule], lines)
  else if let some text := if place.quotes then quoted? line else none then
    some (quote nested place text lines)
  else if let some b := listStart? place inParagraph line then some (listFrom nested place b lines)
  else if let some found :=
      if ext.footnotes && place.depth = 0 then footnote? (line :: lines) else none then some found
  else if let some found := if inParagraph then none else definition? (line :: lines) then some found
  else match (shallow? line).bind htmlBlock? with
    | some ending =>
      if inParagraph && ending = .blankAlone then none else some (html ending (line :: lines))
    | none =>
      match lines with
      | dashes :: rest =>
        if ext.tables && place.depth = 0 then
          (Tables.read? line dashes rest).map fun ((head, rows), rest) => ([.table head rows], rest)
        else none
      | [] => none

def paragraph (lines : List Text) : List Block :=
  if lines.isEmpty then [] else [.paragraph (unlines lines.reverse)]

/-- The blocks of lines. `open_` holds the lines of the paragraph that is being read, last one first,
and `fuel` bounds the size of the lines. -/
def blocks (ext : Extensions) : Nat → Place → List Text → List Text → List Block
  | 0, _, open_, lines => paragraph (lines.reverse ++ open_)
  | fuel + 1, place, open_, lines =>
    match lines with
    | [] => paragraph open_
    | l :: ls =>
      match if open_.isEmpty then none else underline? l with
      | some level => .heading level (unlines open_.reverse) :: blocks ext fuel place [] ls
      | none =>
        match next? ext (fun p t => blocks ext fuel p [] t) place (!open_.isEmpty) l ls with
        | some (bs, rest) =>
          if bs.all Block.isSilent then bs ++ blocks ext fuel place open_ rest
          else paragraph open_ ++ bs ++ blocks ext fuel place [] rest
        | none => blocks ext fuel place (l :: open_) ls

/-- The lines of a document. A line feed at the end begins no further line. -/
def linesOf (source : Text) : List Text :=
  let lines := Text.splitOn '\n' source
  if lines.getLast? = some [] then lines.dropLast else lines

def document (ext : Extensions) (source : Text) : List Block :=
  let lines := linesOf source
  blocks ext (4 * source.length + lines.length + 1) {} [] lines

end Structure
end Texdown.Markdown
