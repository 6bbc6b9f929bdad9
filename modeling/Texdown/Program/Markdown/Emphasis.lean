import Texdown.Text.Blank
import Texdown.Text.Punctuation
import Texdown.Token

/-!
# Emphasis

Runs of asterisks and underscores open and close emphasis. A run can open what follows it and close
what precedes it, depending on the characters it touches. A closing run takes the nearest open run of
its kind; two marks on both sides make strong emphasis, one mark plain emphasis. Runs without a partner are
text. Outside emphasis such text joins the text around it; inside, it stays a piece of its own.
-/
namespace Texdown.Markdown

/-- A run of marks: what it can do, and how many of its marks are left. -/
structure Run where
  mark : Char
  length : Nat
  left : Nat
  opens : Bool
  closes : Bool
  deriving DecidableEq, Repr

/-- A piece of inline content. -/
inductive Piece where
  /-- Plain text, which joins its neighbours. -/
  | plain (text : Text)
  | token (t : Token)
  | run (r : Run)
  deriving Repr

namespace Run

/-- What touches a run on one side; the ends of the text count as white space. -/
def touchesBlank (c : Option Char) : Bool := (c.map Text.isBlank).getD true

def touchesPunctuation (c : Option Char) : Bool := (c.map Text.isPunctuation).getD false

/-- A run between two characters. A run of underscores inside a word does nothing. -/
def ofContext (mark : Char) (length : Nat) (before after : Option Char) : Run :=
  let left := !touchesBlank after
    && (!touchesPunctuation after || touchesBlank before || touchesPunctuation before)
  let right := !touchesBlank before
    && (!touchesPunctuation before || touchesBlank after || touchesPunctuation after)
  if mark = '_' then
    ⟨mark, length, length, left && (!right || touchesPunctuation before),
      right && (!left || touchesPunctuation after)⟩
  else ⟨mark, length, length, left, right⟩

/-- The marks that are left, as text. -/
def text (r : Run) : Text := List.replicate r.left r.mark

/-- Whether a run opens what another one closes. Runs that can do both do not match if their
lengths add up to a multiple of three, unless both are multiples of three. -/
def matchedBy (opener closer : Run) : Bool :=
  opener.opens && opener.mark == closer.mark
    && (!(opener.closes || closer.opens) || (opener.length + closer.length) % 3 != 0
      || (opener.length % 3 == 0 && closer.length % 3 == 0))

end Run

/-- An open run and what has been read since. -/
structure Frame where
  run : Run
  inside : List Piece
  deriving Repr

namespace Frame

def pieces (f : Frame) : List Piece := .plain f.run.text :: f.inside

end Frame

/-- The open runs, innermost first, and what was read before them. -/
structure Frames where
  base : List Piece := []
  stack : List Frame := []
  deriving Repr

namespace Frames

def push (fs : Frames) (p : Piece) : Frames :=
  match fs.stack with
  | [] => { fs with base := fs.base ++ [p] }
  | f :: rest => { fs with stack := { f with inside := f.inside ++ [p] } :: rest }

/-- Frames that found no partner, as content. -/
def abandon (frames : List Frame) : List Piece := frames.reverse.flatMap Frame.pieces

def tokenOf : Piece → List Token
  | .plain t => if t.isEmpty then [] else [.text t]
  | .token t => [t]
  | .run r => [.text r.text]

/-- The emphasis around content that takes `n` marks on each side. -/
def emphasis (n : Nat) (content : List Piece) : Token :=
  .container (if n = 2 then .strong else .emphasis) (content.flatMap tokenOf)

/-- Closes what a run closes, then lets it open what follows. `fuel` bounds the number of marks. -/
def close : Nat → Frames → Run → Frames
  | 0, fs, r => fs.push (.plain r.text)
  | fuel + 1, fs, r =>
    let above := fs.stack.takeWhile fun f => !f.run.matchedBy r
    match r.closes, fs.stack.drop above.length with
    | true, f :: below =>
      let n := if 2 ≤ f.run.left ∧ 2 ≤ r.left then 2 else 1
      let t := emphasis n (f.inside ++ abandon above)
      let fs : Frames :=
        if f.run.left = n then { fs with stack := below }.push (.token t)
        else { fs with stack := ⟨{ f.run with left := f.run.left - n }, [.token t]⟩ :: below }
      if r.left = n then fs else close fuel fs { r with left := r.left - n }
    | _, _ =>
      if r.opens then { fs with stack := ⟨r, []⟩ :: fs.stack } else fs.push (.plain r.text)

def take (fs : Frames) : Piece → Frames
  | .run r => fs.close r.left r
  | p => fs.push p

def pieces (fs : Frames) : List Piece := fs.base ++ abandon fs.stack

end Frames

/-- Content outside emphasis as tokens: neighbouring plain text is one token. `held` is the plain
text that has just been read. -/
def joinPlain (held : Text) : List Piece → List Token
  | [] => Frames.tokenOf (.plain held)
  | .plain t :: rest => joinPlain (held ++ t) rest
  | p :: rest => Frames.tokenOf (.plain held) ++ Frames.tokenOf p ++ joinPlain [] rest

def resolve (ps : List Piece) : List Token := joinPlain [] (ps.foldl Frames.take {}).pieces

end Texdown.Markdown
