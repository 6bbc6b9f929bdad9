import Texdown.Program.Yaml.Cursor

/-!
# Scalars of YAML

The texts of scalars: plain ones, those in quotes, and blocks of lines. A single end of a line
within a plain or quoted scalar is a space; of several, the first does not count.
-/
namespace Texdown.Yaml

/-- What ends of lines in a row are folded into. -/
def folded : Text → Text
  | [] => []
  | ['\n'] => [' ']
  | c :: r => if c = '\n' then r else c :: r

/-- The end of a line as a text holds it. -/
def breakText (c : Char) : Char := if c = '\u2028' ∨ c = '\u2029' then c else '\n'

namespace Reading

def lineBreak : Reading Char := do
  match (← get).rest with
  | c :: _ => modify Cursor.nextLine; return breakText c
  | [] => failure

/-! ## Plain scalars -/

/-- Passes empty lines and the spaces before and between them; a bound of the document ends them. The
flag tells of one. -/
def emptyLines : Nat → Reading (Text × Bool)
  | 0 => failure
  | fuel + 1 => do
    modify Cursor.skipSpaces
    match (← get).rest with
    | c :: _ =>
      if isBreak c then
        let b ← lineBreak
        if (← get).atBound then return ([b], true)
        let (bs, bound) ← emptyLines fuel
        return (b :: bs, bound)
      else return ([], false)
    | [] => return ([], false)

/-- The space between two pieces of a plain scalar. It is empty where the scalar ends. -/
def plainSpace : Reading Text := do
  let start ← get
  modify Cursor.skipSpaces
  match (← get).rest with
  | c :: _ =>
    if isBreak c then
      let b ← lineBreak
      setKeyable true
      if (← get).atBound then return []
      let (bs, bound) ← emptyLines (start.rest.length + 1)
      return if bound then [] else folded (b :: bs)
    else return start.rest.takeWhile (· = ' ')
  | [] => return start.rest.takeWhile (· = ' ')

def isFlowMark (c : Char) : Bool := c ∈ [',', '?', '[', ']', '\x7b', '\x7d']

def pieceLength (inFlow : Bool) : Text → Nat
  | [] => 0
  | c :: r =>
    let ends := c = ':' && (startsBlank r || (inFlow && r.head?.any (· ∈ [',', '[', ']', '\x7b', '\x7d'])))
    if isBlank c || ends || (inFlow && isFlowMark c) then 0 else pieceLength inFlow r + 1

/-- A plain scalar, with the space before it. Its lines begin at a column or behind it. -/
def plainPieces (inFlow : Bool) (column : Nat) : Nat → Text → Reading Text
  | 0, _ => failure
  | fuel + 1, space => do
    let c ← get
    let n := pieceLength inFlow c.rest
    if c.starts ['#'] || n = 0 then return []
    pass n
    setKeyable false
    let piece := space ++ c.rest.take n
    let space ← plainSpace
    let d ← get
    if space.isEmpty || d.starts ['#'] || (!inFlow && d.column < column) then return piece
    return piece ++ (← plainPieces inFlow column fuel space)

def startsPlain (inFlow : Bool) (t : Text) : Bool :=
  match t with
  | [] => false
  | c :: r =>
    (!isBlank c && c ∉ "-?:,[]\x7b\x7d#&*!|>'\"%@\x60".toList)
      || (!startsBlank r && (c = '-' || (!inFlow && (c = '?' || c = ':'))))

def plain (inFlow : Bool) (column : Nat) : Reading Text := do
  require fun c => startsPlain inFlow c.rest
  plainPieces inFlow column ((← get).rest.length + 1) []

/-! ## Quoted scalars -/

/-- Passes empty lines and blanks within quotes. No bound of the document may be among them. -/
def quotedEmptyLines : Nat → Reading Text
  | 0 => failure
  | fuel + 1 => do
    require (!·.atBound)
    modify (·.passWhile fun c => c = ' ' || c = '\t')
    match (← get).rest with
    | c :: _ => if isBreak c then return (← lineBreak) :: (← quotedEmptyLines fuel) else return []
    | [] => return []

/-- Blanks within quotes. -/
def quotedSpace : Reading Text := do
  let start ← get
  modify (·.passWhile fun c => c = ' ' || c = '\t')
  match (← get).rest with
  | c :: _ =>
    if isBreak c then
      let b ← lineBreak
      return folded (b :: (← quotedEmptyLines (start.rest.length + 1)))
    else return start.rest.takeWhile fun c => c = ' ' || c = '\t'
  | [] => failure

def shortEscapes : List (Char × Char) :=
  [('0', '\x00'), ('a', '\x07'), ('b', '\x08'), ('t', '\t'), ('\t', '\t'), ('n', '\n'), ('v', '\x0b'),
   ('f', '\x0c'), ('r', '\r'), ('e', '\x1b'), (' ', ' '), ('"', '"'), ('\\', '\\'), ('/', '/'),
   ('N', '\u0085'), ('_', '\u00a0'), ('L', '\u2028'), ('P', '\u2029')]

def escapeWidths : List (Char × Nat) := [('x', 2), ('u', 4), ('U', 8)]

/-- What a backslash stands for; it has been passed. -/
def escape : Reading Text := do
  let c ← get
  match c.rest with
  | [] => failure
  | d :: r =>
    match shortEscapes.lookup d, escapeWidths.lookup d with
    | some e, _ => pass 1; return [e]
    | none, some width =>
      let ds := r.take width
      let n := Text.readDigits 16 ds
      if ds.length < width || !ds.all Text.isHexDigit || 0x10ffff < n then failure
      pass (width + 1)
      return [if n.isValidChar then Char.ofNat n else '\ufffd']
    | none, none =>
      if isBreak d then
        let _ ← lineBreak
        quotedEmptyLines (r.length + 2)
      else failure

/-- The text up to the closing quote. A single quote that is written twice stands for itself. -/
def quotedEnd (double : Bool) : Nat → Reading Text
  | 0 => failure
  | fuel + 1 => do
    match (← get).rest with
    | [] => failure
    | '\'' :: '\'' :: _ =>
      if double then do pass 1; return '\'' :: (← quotedEnd double fuel)
      else do pass 2; return '\'' :: (← quotedEnd double fuel)
    | c :: _ =>
      if c = (if double then '"' else '\'') then do pass 1; return []
      else if double && c = '\\' then
        pass 1
        let s ← escape
        return s ++ (← quotedEnd double fuel)
      else if isBlank c then
        let s ← quotedSpace
        return s ++ (← quotedEnd double fuel)
      else
        pass 1
        return c :: (← quotedEnd double fuel)

def quoted : Reading Text := do
  let c ← get
  pass 1
  let s ← quotedEnd (c.starts ['"']) (c.rest.length + 1)
  setKeyable false
  return s

/-! ## Blocks of lines -/

/-- What happens to the ends of lines at the end of a block. -/
inductive Chomping where
  /-- None of them counts. -/
  | strip
  /-- The first one counts. -/
  | clip
  /-- All of them count. -/
  | keep
  deriving DecidableEq, Repr

/-- The indicator of how a block ends. -/
def chomping? : Reading (Option Chomping) := do
  match (← get).rest with
  | '+' :: _ => pass 1; return some .keep
  | '-' :: _ => pass 1; return some .strip
  | _ => return none

def depth? : Reading (Option Nat) := do
  match (← get).rest with
  | d :: _ =>
    if d = '0' then failure
    else if Text.isDigit d then pass 1; return some (Text.hexValue d)
    else return none
  | [] => return none

/-- Passes the rest of a line, in which only a comment may stand. -/
def restOfLine : Reading Unit := do
  modify Cursor.skipSpaces
  modify fun c => if c.starts ['#'] then c.passWhile (!isBreak ·) else c
  match (← get).rest with
  | [] => return
  | c :: _ => if isBreak c then modify Cursor.nextLine else failure

/-- The indicators behind the mark of a block, in either order: how it ends, and how deep it is. -/
def blockHeader : Reading (Chomping × Option Nat) := do
  let first ← chomping?
  let depth ← depth?
  let second ← if first.isNone then chomping? else pure none
  require fun c => startsBlank c.rest && !c.starts ['\t']
  restOfLine
  return ((first.orElse fun _ => second).getD .clip, depth)

/-- Passes empty lines at the beginning of a block; gives them and the deepest column in them. -/
def blockStart : Nat → Nat → Reading (Text × Nat)
  | 0, deepest => return ([], deepest)
  | fuel + 1, deepest => do
    modify Cursor.skipSpaces
    let c ← get
    let deepest := max deepest c.column
    match c.rest with
    | d :: _ =>
      if isBreak d then
        let b ← lineBreak
        let (bs, deepest) ← blockStart fuel deepest
        return (b :: bs, deepest)
      else return ([], deepest)
    | [] => return ([], deepest)

/-- Passes empty lines within a block, and the spaces before the next line of it. -/
def blockBreaks (depth : Nat) : Nat → Reading Text
  | 0 => return []
  | fuel + 1 => do
    modify fun c => c.pass ((c.rest.take (depth - c.column)).takeWhile (· = ' ')).length
    match (← get).rest with
    | d :: _ => if isBreak d then return (← lineBreak) :: (← blockBreaks depth fuel) else return []
    | [] => return []

/-- Whether a line of a block begins with a blank. -/
def startsWithSpace (t : Text) : Bool := t.head?.any fun c => c = ' ' || c = '\t'

/-- The lines of a block, behind empty lines. With `folds`, a single end of a line between two lines
that do not begin with a blank is a space. -/
def blockLines (folds : Bool) (chomping : Chomping) (depth : Nat) : Nat → Text → Reading Text
  | 0, _ => failure
  | fuel + 1, breaks => do
    let c ← get
    if c.column ≠ depth || c.rest.isEmpty then
      return if chomping = .keep then breaks else []
    let line := c.rest.takeWhile (!isBreak ·)
    pass line.length
    let ending ← if (← get).rest.isEmpty then pure [] else (do return [← lineBreak])
    let next ← blockBreaks depth (c.rest.length + 1)
    let d ← get
    if d.column = depth && !d.rest.isEmpty then
      let joint :=
        if folds && ending = ['\n'] && !startsWithSpace c.rest && !startsWithSpace d.rest then
          if next.isEmpty then [' '] else []
        else ending
      return breaks ++ line ++ joint ++ (← blockLines folds chomping depth fuel next)
    else
      return breaks ++ line ++ (if chomping = .strip then [] else ending)
        ++ (if chomping = .keep then next else [])

/-- A block of lines that lie deeper than a column. -/
def block (indent : Int) : Reading Text := do
  let c ← get
  pass 1
  let (chomping, depth) ← blockHeader
  let least := max 1 (indent + 1).toNat
  let fuel := c.rest.length + 1
  let (breaks, depth) ← match depth with
    | none => do
      let (breaks, deepest) ← blockStart fuel 0
      pure (breaks, max least deepest)
    | some n => do
      let depth := least + n - 1
      pure (← blockBreaks depth fuel, depth)
  let s ← blockLines (c.starts ['>']) chomping depth fuel breaks
  setKeyable true
  return s

end Reading
end Texdown.Yaml
