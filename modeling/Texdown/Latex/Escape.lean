import Texdown.Text.Basic

/-!
# Escaping for LaTeX

Text is written so that LaTeX prints it: special characters become commands, three dots an
ellipsis, several spaces one, and dashes and the no-break space their ligatures. The longest
sequence that begins at a character wins.
-/
namespace Texdown.Latex

def ellipsis : Text := "\\ldots\x7b\x7d".toList

def escapeChar (c : Char) : Text :=
  match c with
  | '&' | '%' | '$' | '#' | '_' | '{' | '}' => ['\\', c]
  | '~' => "\\textasciitilde\x7b\x7d".toList
  | '^' => "\\textasciicircum\x7b\x7d".toList
  | '\\' => "\\textbackslash\x7b\x7d".toList
  | '\u00a0' => ['~']
  | '\u2013' => ['-', '-']
  | '\u2014' => ['-', '-', '-']
  | '\u2026' => ellipsis
  | c => [c]

/-- The text as LaTeX prints it. -/
def escape : Text → Text
  | '.' :: '.' :: '.' :: r => ellipsis ++ escape r
  | ' ' :: ' ' :: r => escape (' ' :: r)
  | c :: r => escapeChar c ++ escape r
  | [] => []

end Texdown.Latex
