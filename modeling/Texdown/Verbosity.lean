import Texdown.Notice
import Texdown.Text.Case
import Texdown.Value.Basic

/-!
# Verbosity

Notices are shown from some level on. The level is given by name or number, or follows from how
talkative the program is asked to be.
-/
namespace Texdown

namespace Level

def namedNumbers : List (Text × Int) :=
  [("NOTSET".toList, 0), ("DEBUG".toList, 10), ("INFO".toList, 20), ("WARN".toList, 30),
   ("WARNING".toList, 30), ("ERROR".toList, 40), ("FATAL".toList, 50), ("CRITICAL".toList, 50)]

/-- The number of a level by its name in any case; unknown names mean warnings. -/
def numberNamed (name : Text) : Int := (namedNumbers.lookup (Text.upper name)).getD warning.number

end Level

/-- The number that notices have to reach to be shown. -/
def threshold (verbosity : Int) (quiet : Bool) : Int :=
  if quiet then Level.error.number
  else if 2 ≤ verbosity then Level.debug.number
  else if verbosity = 1 then Level.info.number
  else Level.warning.number

/-- The number that notices have to reach where a level may be given, as a name or a number. -/
def thresholdFor (level : Value) (verbosity : Int) (quiet : Bool) : Int :=
  match level with
  | .null => threshold verbosity quiet
  | .integer n => n
  | .boolean b => Value.ofBool b
  | v => Level.numberNamed v.spoken

end Texdown
