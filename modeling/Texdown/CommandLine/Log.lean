import Texdown.CommandLine.Arguments
import Texdown.CommandLine.Host
import Texdown.Verbosity

/-!
# The log

Notices that reach the threshold are written as lines, to the stream for messages and perhaps to a
file. A traced line tells when it was written and who reports.
-/
namespace Texdown.CommandLine

/-- What is logged, and where. -/
structure Log where
  threshold : Int
  isTraced : Bool := false
  file : Option Text := none
  deriving Repr, Inhabited

namespace Log

/-- The log that arguments ask for, without a file. -/
def ofArguments (a : Arguments) : Log where
  threshold := if a.trace then Level.debug.number else Texdown.threshold a.verbose a.quiet
  isTraced := a.trace

def line (l : Log) (now elapsed : Text) (n : Notice) : Text :=
  let message := n.message elapsed ++ ['\n']
  if l.isTraced then
    '[' :: now ++ "] [".toList ++ n.level.name ++ "] [".toList ++ n.channel ++ "] ".toList ++ message
  else n.level.name ++ ": ".toList ++ message

variable {m : Type → Type} [Monad m]

def report (l : Log) (h : Host m) (elapsed : Text) (n : Notice) : m Unit := do
  if l.threshold ≤ n.level.number then
    let line := l.line (← h.now) elapsed n
    h.complain line
    match l.file with
    | some path => discard <| h.append path (Text.toUtf8 line)
    | none => pure ()

def reportAll (l : Log) (h : Host m) (elapsed : Text) : List Notice → m Unit
  | [] => pure ()
  | n :: ns => do
    l.report h elapsed n
    reportAll l h elapsed ns

/-- Opens the file of a log; a file that cannot be written is reported and left out. -/
def openFile (l : Log) (h : Host m) (path : Text) : m Log := do
  match ← h.append path [] with
  | .ok () =>
    let l := { l with file := some path }
    l.report h [] (.logFileOpened path)
    return l
  | .error problem =>
    l.report h [] (.logFileFailed path (problem.message (Path.resolved h.directory path)))
    return l

def start (h : Host m) (a : Arguments) : m Log :=
  match a.logFile.filter (!·.isEmpty) with
  | some path => (ofArguments a).openFile h path
  | none => pure (ofArguments a)

end Log
end Texdown.CommandLine
