import Texdown.Text.Basic

/-!
# Settings of the LaTeX output

What the renderer is told: how lines break, how lists are indented, whether dollars delimit math,
how wide figures are, and the preamble that frames the document, if any.
-/
namespace Texdown.Latex

/-- How a line end inside a paragraph is written. -/
inductive SoftBreak where
  /-- As a line break of LaTeX. -/
  | hard
  /-- As the end of a line, which LaTeX reads as a space. -/
  | space
  deriving DecidableEq, Repr

structure Settings where
  indentWidth : Int := 2
  mathAware : Bool := true
  softBreak : SoftBreak := .hard
  imageWidth : Text := "\\textwidth".toList
  deriving DecidableEq, Repr

end Texdown.Latex
