import Texdown.Text.Basic
import Texdown.Text.AsciiTable

/-!
# Reduction to ASCII

A text is reduced to ASCII by decomposing each character as far as compatibility allows and keeping
the ASCII characters. Marks are never ASCII, so their order does not matter and each character is
reduced on its own.

Results:
* `toAscii_eq_self`: an ASCII text is left as it is.
-/
namespace Texdown.Text

def isAscii (c : Char) : Bool := c.toNat < 0x80

/-- The ASCII characters that one character decomposes into. -/
def asciiPart (c : Char) : Text :=
  if isAscii c then [c]
  else match asciiExpansions.lookup c.toNat with
    | some s => s.toList
    | none => ((asciiRuns.findSome? (·.map? c.toNat)).map fun n => [Char.ofNat n]).getD []

/-- The ASCII characters of the decomposed text. -/
def toAscii (t : Text) : Text := t.flatMap asciiPart

theorem toAscii_eq_self {t : Text} (h : t.all isAscii = true) : toAscii t = t := by
  induction t with
  | nil => rfl
  | cons c r ih =>
    simp only [List.all_cons, Bool.and_eq_true] at h
    have hr : r.flatMap asciiPart = r := ih h.2
    simp [toAscii, asciiPart, h.1, hr]

end Texdown.Text
