import Texdown.Latex.Escape
import Texdown.Latex.Spacing
import Texdown.Notice

/-!
# The LaTeX formatter

A formatter collects what is written as pieces, in order, each with its origin and with the mode it
was written in. Line breaks are fused, text is escaped, and inline math between `$$` delimiters is
passed through as math between single dollars. A math span never crosses a line break: one that is
still open there is closed, with a notice.

Results:
* `length_splitAtDelimiter?`, `length_readMath`: reading in either mode leaves less to read.
-/
namespace Texdown.Latex

/-- The part that a piece of output plays. -/
inductive Origin where
  /-- Fused line breaks and the indentation behind them. -/
  | gap
  /-- A dollar that opens or closes math. -/
  | dollar
  /-- A command between blocks. -/
  | command
  /-- A command that opens the group of a heading. -/
  | heading
  /-- A command that opens an inline group. -/
  | opening
  /-- The brace that closes a group. -/
  | closing
  | figure
  /-- Text of the document. -/
  | content
  deriving DecidableEq, Repr

/-- What was written at once, and whether a math span was open. -/
structure Piece where
  origin : Origin
  text : Text
  inMath : Bool
  deriving DecidableEq, Repr

/-- The pieces laid end to end. -/
def textOf (pieces : List Piece) : Text := pieces.flatMap (·.text)

/-! ## Reading text with math -/

/-- What stands before the first math delimiter, and what stands behind it. -/
def splitAtDelimiter? : Text → Option (Text × Text)
  | '$' :: '$' :: r => some ([], r)
  | c :: r => (splitAtDelimiter? r).map fun s => (c :: s.1, s.2)
  | [] => none

theorem length_splitAtDelimiter? {t a b : Text} (h : splitAtDelimiter? t = some (a, b)) :
    b.length < t.length := by
  fun_induction splitAtDelimiter? t generalizing a b with
  | case1 r => cases h; simp only [List.length_cons]; omega
  | case2 c r _ ih =>
    obtain ⟨s, hs, he⟩ := Option.map_eq_some_iff.1 h
    cases he
    have := ih hs
    simp only [List.length_cons]; omega
  | case3 => cases h

/-- How the math in a fragment ends: not in it, at a delimiter, or in front of a line feed. -/
inductive MathEnd where
  | never
  | delimiter (rest : Text)
  | lineBreak (rest : Text)
  deriving DecidableEq, Repr

/-- The math at the beginning of a fragment as LaTeX reads it, and how it ends. A backslash keeps
the character behind it; a number sign and a single dollar are escaped. -/
def readMath : Text → Text × MathEnd
  | '\\' :: c :: r => let s := readMath r; ('\\' :: c :: s.1, s.2)
  | '$' :: '$' :: r => ([], .delimiter r)
  | c :: r =>
    if c = '\n' then ([], .lineBreak ('\n' :: r))
    else
      let s := readMath r
      ((if c = '$' ∨ c = '#' then ['\\', c] else [c]) ++ s.1, s.2)
  | [] => ([], .never)

theorem length_readMath {t : Text} :
    (∀ r, (readMath t).2 = .delimiter r → r.length < t.length)
      ∧ (∀ r, (readMath t).2 = .lineBreak r → r.length ≤ t.length) := by
  fun_induction readMath t with
  | case1 c r s ih =>
    constructor
    · intro q h; have := ih.1 q h; simp only [List.length_cons]; omega
    · intro q h; have := ih.2 q h; simp only [List.length_cons]; omega
  | case2 r =>
    constructor
    · intro q h; cases h; simp only [List.length_cons]; omega
    · intro q h; cases h
  | case3 r =>
    constructor
    · intro q h; cases h
    · intro q h; cases h; simp
  | case4 c r _ _ hc s ih =>
    constructor
    · intro q h; have := ih.1 q h; simp only [List.length_cons]; omega
    · intro q h; have := ih.2 q h; simp only [List.length_cons]; omega
  | case5 => simp

/-! ## Writing -/

/-- The spacing, the mode, and what has been written. -/
structure Formatter where
  spacing : Spacing := {}
  /-- Whether `$$` delimits math in text that is escaped. -/
  mathAware : Bool := true
  mathOpen : Bool := false
  out : List Piece := []
  notices : List Notice := []
  deriving DecidableEq, Repr

namespace Formatter

def text (f : Formatter) : Text := textOf f.out

def note (f : Formatter) (n : Notice) : Formatter := { f with notices := f.notices ++ [n] }

/-- Writes a piece as it is, without the gap in front of it. -/
def put (f : Formatter) (origin : Origin) (t : Text) : Formatter :=
  { f with out := f.out ++ [⟨origin, t, f.mathOpen⟩] }

def toggleMath (f : Formatter) (mark : Text) : Formatter :=
  { f.put .dollar mark with mathOpen := !f.mathOpen }

/-! ### Spacing -/

def add (f : Formatter) (n : Int) : Formatter := { f with spacing := f.spacing.add n }

def cap (f : Formatter) (n : Int) : Formatter := { f with spacing := f.spacing.cap n }

def indent (f : Formatter) : Formatter := { f with spacing := f.spacing.indent }

def dedent (f : Formatter) : Formatter := { f with spacing := f.spacing.dedent }

/-- Closes a math span that line breaks are about to cut. -/
def closeMath (f : Formatter) : Formatter :=
  if f.mathOpen ∧ f.spacing.count ≠ 0 then (f.note .spanClosedAtBlock).toggleMath ['$'] else f

/-- Writes the line breaks that were asked for. -/
def flush (f : Formatter) : Formatter :=
  let f := f.closeMath
  { f.put .gap f.spacing.gap with spacing := f.spacing.flushed }

/-! ### Text -/

def write (f : Formatter) (origin : Origin) (t : Text) : Formatter := f.flush.put origin t

def writeLine (f : Formatter) (origin : Origin) (t : Text) : Formatter :=
  ((f.add 1).write origin t).add 1

/-- Writes a fragment without a gap, in the current mode, which every delimiter changes. -/
def spans (f : Formatter) (t : Text) : Formatter :=
  if _open : f.mathOpen then
    let f' := f.put .content (readMath t).1
    match _h : (readMath t).2 with
    | .never => f'
    | .delimiter r => (f'.toggleMath ['$']).spans r
    | .lineBreak r => ((f'.note .spanClosedAtLineBreak).toggleMath ['$']).spans r
  else
    match _h : splitAtDelimiter? t with
    | none => f.put .content (escape t)
    | some (a, b) => ((f.put .content (escape a)).toggleMath ['$']).spans b
termination_by (t.length, if f.mathOpen then 1 else 0)
decreasing_by
  · have := length_readMath.1 r _h
    exact Prod.Lex.left _ _ this
  · have := length_readMath.2 r _h
    rcases Nat.lt_or_eq_of_le this with hl | hl
    · exact Prod.Lex.left _ _ hl
    · rw [hl]
      refine Prod.Lex.right _ ?_
      simp [toggleMath, note, put, _open]
  · exact Prod.Lex.left _ _ (length_splitAtDelimiter? _h)

/-- Writes the gap and a fragment, escaped. A dollar at the start of a fragment closes a span that
is open; the space in front keeps it from pairing with the dollar before it. -/
def writeEscaped (f : Formatter) (t : Text) : Formatter :=
  let f := f.flush
  if !f.mathAware then f.put .content (escape t)
  else if f.mathOpen then
    match t with
    | '$' :: '$' :: r => ((f.note .spanClosedAtDollar).toggleMath [' ', '$']).spans r
    | '$' :: r => ((f.note .spanClosedAtDollar).toggleMath [' ', '$']).spans r
    | t => f.spans t
  else f.spans t

/-- Writes the line breaks that are still asked for. -/
def finish (f : Formatter) : Formatter := f.flush

end Formatter
end Texdown.Latex
