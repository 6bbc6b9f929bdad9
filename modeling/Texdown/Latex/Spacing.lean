import Texdown.Text.Basic

/-!
# Fused line breaks

Line breaks are asked for ahead of time and written only before the next text. Requests that
meet fuse: the largest wins, capped by the smallest limit set since the last text and by a ceiling.
Indentation follows only line breaks that were asked for. Before the first text the limit is zero,
so output never starts with blank lines.

A negative request is kept as it is: it writes nothing, but it is not "no request".
-/
namespace Texdown.Latex

/-- The most line breaks ever written in a row. -/
def maxBreaks : Int := 4

def maxIndent : Int := 32

/-- The line breaks asked for and the limit on them since the last text, and the indentation. -/
structure Spacing where
  indentWidth : Int := 2
  level : Nat := 0
  pending : Int := 0
  limit : Int := 0
  deriving DecidableEq, Repr

namespace Spacing

/-- Asks for at least `n` line breaks before the next text. -/
def add (s : Spacing) (n : Int) : Spacing := { s with pending := max s.pending n }

/-- Allows at most `n` line breaks before the next text. -/
def cap (s : Spacing) (n : Int) : Spacing := { s with limit := min s.limit n }

def indent (s : Spacing) : Spacing := { s with level := s.level + 1 }

/-- One level less, if there is one. -/
def dedent (s : Spacing) : Spacing := { s with level := s.level - 1 }

def count (s : Spacing) : Int := min (min s.pending s.limit) maxBreaks

/-- The line breaks and the indentation to write before the next text. -/
def gap (s : Spacing) : Text :=
  if s.count = 0 then []
  else List.replicate s.count.toNat '\n'
    ++ List.replicate (min maxIndent (s.indentWidth * s.level)).toNat ' '

def flushed (s : Spacing) : Spacing := { s with pending := 0, limit := maxBreaks }

end Spacing
end Texdown.Latex
