import Texdown.Error
import Texdown.Files
import Texdown.FreeName

/-!
# New files

A file that is to replace nothing is made under the path that is preferred for it, or under the first path with a
number in its name where nothing stands. One path after the other is looked at, and then the file is made only if
there is none yet: where another program was faster, the search begins again.

A name that is too long ends the search with an error, and every candidate's number has more digits sooner or
later; so the search is bounded by `candidates`, and never gets there. How often another program may be faster is not
known; `create` is given a number of tries, and gives up behind them.
-/
namespace Texdown.NewFile

/-- Whether something stands at a path, as far as the system tells. -/
def stands (path : Text) : Except FileProblem FileEntry → Except Error Bool
  | .ok _ | .error .denied => .ok true
  | .error .nameTooLong => .error (.system path .nameTooLong)
  | .error (.refused reason) => .error (.system path (.refused reason))
  | .error _ => .ok false

/-- A path with another name in place of its own; it needs to have one. -/
def rename (path name : Text) : Except Error Text :=
  if (Path.name path).isEmpty then
    .error (.badValue ("PosixPath(".toList ++ (Path.plain path).quoted ++ ") has an empty name".toList))
  else .ok (Path.withName path name)

variable {m : Type → Type} [Monad m] (look : Text → m (Except FileProblem FileEntry))

/-- The candidate, or the first path with a number from `counter` on, where nothing stands. -/
def search (path : Text) : Nat → Text → Nat → m (Except Error Text)
  | 0, candidate, _ => return .error (.system candidate .nameTooLong)
  | fuel + 1, candidate, counter => do
    match stands candidate (← look candidate) with
    | .error e => return .error e
    | .ok false => return .ok candidate
    | .ok true =>
      match rename candidate (numbered (Path.stem path) (Path.suffix path) counter) with
      | .error e => return .error e
      | .ok next => search path fuel next (counter + 1)

/-- The number of candidates. A larger number has more digits than a name may have bytes. -/
def candidates : Nat := Nat.pow 10 Files.longestName

/-- The path itself, or the first one with a number, where nothing stands. -/
def freePath (path : Text) : m (Except Error Text) := search look path candidates (Path.plain path) 1

/-- Makes a new file under the first free path. What makes it says whether something stands there by then. -/
def create (make : Text → m (Except FileProblem Unit)) (path : Text) : Nat → m (Except Error Text)
  | 0 => return .error (.system path .occupied)
  | tries + 1 => do
    match ← freePath look path with
    | .error e => return .error e
    | .ok candidate =>
      match ← make candidate with
      | .ok () => return .ok candidate
      | .error .occupied => create make path tries
      | .error problem => return .error (.system candidate problem)

end Texdown.NewFile
