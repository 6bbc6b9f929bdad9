import Texdown.Value.Basic

/-!
# Reading YAML

A reader walks over the characters of a document and knows the line and the column it is in. It also
knows whether a key of a block mapping may begin here: at the beginning of a line and behind the
marks of a block, but not behind anything else. Texts that get a name are kept for later reference.
-/
namespace Texdown.Yaml

/-- Where a reader stands. -/
structure Cursor where
  rest : Text
  line : Nat := 0
  column : Nat := 0
  /-- Whether a key may begin here. -/
  keyable : Bool := true
  /-- The values that have a name. -/
  anchors : List (Text × Value) := []

/-- A reader that may fail. -/
abbrev Reading := StateT Cursor Option

/-! ## Characters -/

def isBreak (c : Char) : Bool := c ∈ ['\n', '\r', '\u0085', '\u2028', '\u2029']

def isBlank (c : Char) : Bool := c = ' ' || c = '\t' || isBreak c

/-- Whether a text ends, or goes on with a blank. -/
def startsBlank (t : Text) : Bool := t.head?.all isBlank

def isAllowed (c : Char) : Bool :=
  let n := c.toNat
  isBreak c || c = '\t' || (0x20 ≤ n && n ≤ 0x7e) || (0xa0 ≤ n && n ≤ 0xfffd) || 0x10000 ≤ n

/-! ## Moving on -/

namespace Cursor

def pass (c : Cursor) (n : Nat) : Cursor := { c with rest := c.rest.drop n, column := c.column + n }

def nextLine (c : Cursor) : Cursor :=
  { c with rest := c.rest.drop 1, line := c.line + 1, column := 0 }

def passWhile (c : Cursor) (p : Char → Bool) : Cursor := c.pass (c.rest.takeWhile p).length

def skipSpaces (c : Cursor) : Cursor := c.passWhile (· = ' ')

def starts (c : Cursor) (t : Text) : Bool := t.isPrefixOf c.rest

/-- Whether a mark with a blank behind it comes next. -/
def atMark (c : Cursor) (mark : Text) : Bool := c.starts mark && startsBlank (c.rest.drop mark.length)

/-- Whether a line that bounds the document begins here. -/
def atBound (c : Cursor) : Bool := c.column = 0 && (c.atMark "---".toList || c.atMark "...".toList)

def atEnd (c : Cursor) : Bool := c.rest.isEmpty || c.atBound

/-- Passes everything up to the next thing that matters: spaces, comments and ends of lines. Outside of
brackets a key may begin on every new line. -/
def skip (inFlow : Bool) : Nat → Cursor → Cursor
  | 0, c => c
  | fuel + 1, c =>
    let c := c.skipSpaces
    let c := if c.starts ['#'] then c.passWhile (!isBreak ·) else c
    match c.rest with
    | d :: _ =>
      if isBreak d then skip inFlow fuel { c.nextLine with keyable := c.keyable || !inFlow } else c
    | [] => c

end Cursor

namespace Reading

def require (p : Cursor → Bool) : Reading Unit := do
  if !p (← get) then failure

def pass (n : Nat) : Reading Unit := modify (·.pass n)

def setKeyable (b : Bool) : Reading Unit := modify fun c => { c with keyable := b }

def skip (inFlow : Bool) : Reading Unit := modify fun c => c.skip inFlow (c.rest.length + 1)

/-- Gives a value a name; a name is given once. -/
def define (name : Text) (v : Value) : Reading Unit := do
  let c ← get
  if (c.anchors.lookup name).isSome then failure
  set { c with anchors := (name, v) :: c.anchors }

end Reading
end Texdown.Yaml
