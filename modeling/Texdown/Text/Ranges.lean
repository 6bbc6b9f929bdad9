/-!
# Sets of code points

A character property is a short list of inclusive code-point intervals.
-/
namespace Texdown.Text

/-- Inclusive intervals of code points. -/
abbrev Ranges := List (Nat × Nat)

def Ranges.contains (rs : Ranges) (c : Char) : Bool :=
  rs.any fun r => r.1 ≤ c.toNat && c.toNat ≤ r.2

end Texdown.Text
