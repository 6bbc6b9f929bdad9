import Texdown.Text.Basic

/-!
# Free names

Where a name may be taken, numbers are put behind its stem until one is free: `plot.png`,
`plot-1.png`, `plot-2.png` …

Results:
* `numbered_zero`: the first name to be tried has no number.
-/
namespace Texdown

/-- A name with a number between stem and suffix. -/
def numbered (stem suffix : Text) (n : Nat) : Text :=
  if n = 0 then stem ++ suffix else stem ++ '-' :: Text.ofNat n ++ suffix

/-- The number of the first free name from `n` on, looking no further than `fuel` names. -/
def firstFree (isTaken : Text → Bool) (stem suffix : Text) : Nat → Nat → Nat
  | 0, n => n
  | fuel + 1, n =>
    if isTaken (numbered stem suffix n) then firstFree isTaken stem suffix fuel (n + 1) else n

/-- The first name that is not taken: of one more names than are taken, one is free. -/
def freeName (taken : List Text) (stem suffix : Text) : Text :=
  numbered stem suffix (firstFree taken.contains stem suffix taken.length 0)

theorem numbered_zero (stem suffix : Text) : numbered stem suffix 0 = stem ++ suffix := by
  simp [numbered]

end Texdown
