import Texdown.Text.Basic

/-!
# Lines

Line endings are normalised to line feeds before anything else looks at a document. Code is cut
into lines at every character or pair that ends a line in some convention.

Results:
* `flatten_splitLines`: the lines, with their ends, make up the text.
-/
namespace Texdown.Text

/-- Every carriage return, with a line feed behind it if there is one, becomes a line feed. -/
def normalizeNewlines : Text → Text
  | '\r' :: '\n' :: r => '\n' :: normalizeNewlines r
  | c :: r => (if c = '\r' then '\n' else c) :: normalizeNewlines r
  | [] => []

/-- The characters that end a line on their own. -/
def endsLine (c : Char) : Bool :=
  c ∈ ['\n', '\r', '\x0b', '\x0c', '\x1c', '\x1d', '\x1e', '\u0085', '\u2028', '\u2029']

/-- The lines of a text, each with the characters that end it. -/
def splitLines : Text → List Text
  | '\r' :: '\n' :: r => ['\r', '\n'] :: splitLines r
  | c :: r =>
    if endsLine c then [c] :: splitLines r
    else match splitLines r with
      | [] => [[c]]
      | l :: ls => (c :: l) :: ls
  | [] => []

theorem flatten_splitLines (t : Text) : (splitLines t).flatten = t := by
  induction t using splitLines.induct with
  | case1 r ih => simp [splitLines, ih]
  | case2 c r hne he ih => rw [splitLines] <;> simp_all
  | case3 c r hne he hn ih => rw [splitLines] <;> simp_all
  | case4 c r hne he l ls hl ih => rw [splitLines] <;> simp_all
  | case5 => rfl

def dropLineEnd (l : Text) : Text := dropEndWhile endsLine l

end Texdown.Text
