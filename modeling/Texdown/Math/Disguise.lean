import Texdown.Text.Basic

/-!
# Disguised math delimiters

A Markdown reader takes `_` and `*` in math for emphasis. So every `$$` that does not touch a
backtick becomes two backticks before reading, which makes the math a code span, and the offsets
of the disguised pairs are recorded. The scan goes from left to right and sees what it has already
disguised: the second pair of `$$$$` touches the first, and stays.

Results:
* `length_disguise`: the disguised text is as long as the text itself.
-/
namespace Texdown.Math

/-- The shortest text that can hold math between two delimiters. -/
def shortestMath : Nat := 5

/-- Disguises from offset `i` on; `before` is the character in front, as disguised. Gives the
disguised text and the recorded offsets. -/
def scan (before : Option Char) (i : Nat) : Text → Text × List Nat
  | '$' :: '$' :: r =>
    if before = some '`' ∨ r.head? = some '`' then
      let s := scan (some '$') (i + 1) ('$' :: r)
      ('$' :: s.1, s.2)
    else
      let s := scan (some '`') (i + 2) r
      ('`' :: '`' :: s.1, i :: s.2)
  | c :: r =>
    let s := scan (some c) (i + 1) r
    (c :: s.1, s.2)
  | [] => ([], [])

/-- The text with its math delimiters disguised, and the offsets of the disguised ones in order. -/
def disguise (t : Text) : Text × List Nat :=
  if t.length < shortestMath then (t, []) else scan none 0 t

theorem length_scan (before : Option Char) (i : Nat) (t : Text) :
    (scan before i t).1.length = t.length := by
  induction before, i, t using scan.induct with
  | case1 before i r h ih =>
    rw [scan, if_pos h]
    simpa using ih
  | case2 before i r h ih =>
    rw [scan, if_neg h]
    simpa using ih
  | case3 before i c r hne ih =>
    rw [scan]
    · simpa using ih
    · exact hne
  | case4 before i => simp [scan]

theorem length_disguise (t : Text) : (disguise t).1.length = t.length := by
  unfold disguise
  split
  · rfl
  · exact length_scan none 0 t

end Texdown.Math
