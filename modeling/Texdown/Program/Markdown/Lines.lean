import Texdown.Text.Blank
import Texdown.Text.Punctuation

/-!
# Lines of a block

Blocks are recognised line by line. Lines have no ends here. Indentation counts columns; a tab reaches
to the next multiple of four.
-/
namespace Texdown.Markdown.Lines

def isBlank (line : Text) : Bool := line.all fun c => c ∈ [' ', '\t', '\x0b', '\x0c']

/-- The column behind the spaces and tabs that a text at `column` begins with. -/
def indentFrom (column : Nat) : Text → Nat
  | ' ' :: r => indentFrom (column + 1) r
  | '\t' :: r => indentFrom (column + (4 - column % 4)) r
  | _ => column

def indent (line : Text) : Nat := indentFrom 0 line

def dropIndent (line : Text) : Text := line.dropWhile fun c => c == ' ' || c == '\t'

/-- The line without its first `n` columns of indentation; what a tab reaches beyond them becomes
spaces. -/
def dropColumns (n : Nat) (line : Text) : Text :=
  go 0 line
where
  /-- `column` is where the text begins. -/
  go (column : Nat) : Text → Text
    | ' ' :: r => if column < n then go (column + 1) r else ' ' :: r
    | '\t' :: r =>
      if column < n then
        let stop := column + (4 - column % 4)
        if stop ≤ n then go stop r else List.replicate (stop - n) ' ' ++ r
      else '\t' :: r
    | t => t

/-- A first tab behind at most three spaces becomes `width` spaces. -/
def expandFirstTab (width : Nat) (line : Text) : Text :=
  let spaces := line.takeWhile (· == ' ')
  match line.drop spaces.length with
  | '\t' :: r => if spaces.length ≤ 3 then spaces ++ List.replicate width ' ' ++ r else line
  | _ => line

def shallow? (line : Text) : Option Text :=
  if indent line ≤ 3 then some (dropIndent line) else none

def trimEnd (t : Text) : Text := Text.dropEndWhile (fun c => c == ' ' || c == '\t') t

def trim (t : Text) : Text := trimEnd (dropIndent t)

/-- Lines as a text; every line ends with a line feed. -/
def unlines (ls : List Text) : Text := ls.flatMap fun l => l ++ ['\n']

/-! ## Single lines -/

/-- A rule: three or more of one mark, and nothing else but spaces. -/
def isRule (line : Text) : Bool :=
  match shallow? line with
  | some (c :: r) =>
    let marks := (c :: r).filter fun d => d != ' ' && d != '\t'
    c ∈ ['-', '_', '*'] && 3 ≤ marks.length && marks.all (· == c)
  | _ => false

/-- The level of the heading that a line makes of the paragraph above it. -/
def underline? (line : Text) : Option Nat :=
  match shallow? line with
  | some (c :: r) =>
    if (trimEnd (c :: r)).all (· == c) then
      if c = '=' then some 1 else if c = '-' then some 2 else none
    else none
  | _ => none

/-- The text of a heading without the number signs at its end. -/
def dropClosing (t : Text) : Text :=
  let t := trimEnd t
  let rest := Text.dropEndWhile (· == '#') t
  if rest.length = t.length then t
  else match rest.getLast? with
    | none => []
    | some c => if Text.isBlank c then trimEnd rest else t

/-- A heading behind number signs: its level and its text. -/
def heading? (line : Text) : Option (Nat × Text) :=
  (shallow? line).bind fun t =>
    let level := (t.takeWhile (· == '#')).length
    let rest := t.drop level
    let spaced := match rest with
      | [] => true
      | c :: _ => c == ' ' || c == '\t'
    if 1 ≤ level && level ≤ 6 && spaced then some (level, dropClosing (dropIndent rest)) else none

/-- The opening line of a fenced block. -/
structure Fence where
  indent : Nat
  mark : Char
  length : Nat
  info : Text
  deriving DecidableEq, Repr

def fence? (line : Text) : Option Fence :=
  (shallow? line).bind fun t =>
    match t with
    | c :: _ =>
      let n := (t.takeWhile (· == c)).length
      let info := trim (t.drop n)
      if (c == '`' || c == '~') && 3 ≤ n && !(c == '`' && info.contains '`') then
        some ⟨indent line, c, n, info⟩
      else none
    | [] => none

def Fence.closedBy (f : Fence) (line : Text) : Bool :=
  match shallow? line with
  | some t =>
    let n := (t.takeWhile (· == f.mark)).length
    f.length ≤ n && isBlank (t.drop n)
  | none => false

def quoted? (line : Text) : Option Text :=
  (shallow? line).bind fun t =>
    match t with
    | '>' :: r =>
      match expandFirstTab 3 r with
      | ' ' :: r => some r
      | r => some r
    | _ => none

/-- The first line of a list item: its indentation, its marker, and what stands behind it. -/
structure Bullet where
  indent : Nat
  /-- The last character of the marker, which tells lists apart. -/
  kind : Char
  number : Option Nat
  width : Nat
  text : Text
  deriving DecidableEq, Repr

/-- The bullet of a line indented by at most `most` spaces. -/
def bullet? (most : Nat) (line : Text) : Option Bullet :=
  let spaces := (line.takeWhile (· == ' ')).length
  let rest := line.drop spaces
  let behind (kind : Char) (number : Option Nat) (width : Nat) (t : Text) : Option Bullet :=
    if spaces ≤ most && (t.isEmpty || t.head? == some ' ' || t.head? == some '\t') then
      some ⟨spaces, kind, number, width, t⟩
    else none
  match rest with
  | c :: r =>
    if c ∈ ['*', '+', '-'] then behind c none 1 r
    else
      let digits := rest.takeWhile Text.isDigit
      match rest.drop digits.length with
      | d :: r =>
        if 1 ≤ digits.length && digits.length ≤ 9 && (d == '.' || d == ')') then
          behind d (some (Text.readDigits 10 digits)) (digits.length + 1) r
        else none
      | [] => none
  | [] => none

end Texdown.Markdown.Lines
