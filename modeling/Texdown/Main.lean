import Texdown.CommandLine.Session
import Texdown.Program.Client
import Texdown.Program.Markdown.Reader
import Texdown.Program.Yaml.Document

/-!
# The program

Runs a command line on the machine that the program was started on. The web and engines are not within
reach of this program: requests go unanswered, and no engine is installed.
-/
namespace Texdown.Program

open CommandLine

def problemOf : IO.Error → FileProblem
  | .noFileOrDirectory .. => .missing
  | .alreadyExists .. => .occupied
  | .inappropriateType .. => .isDirectory
  | .permissionDenied .. => .denied
  | .invalidArgument .. => .nameTooLong
  | e => .refused (toString e).toList

def trying {α : Type} (act : IO α) : IO (Except FileProblem α) := do
  try return .ok (← act)
  catch e => return .error (problemOf e)

/-- A path as the system takes it. -/
def native (t : Text) : String := String.ofList t

def bytesOf (data : ByteArray) : Bytes := data.toList

def arrayOf (data : Bytes) : ByteArray := ⟨data.toArray⟩

/-- What stands at a path. A file that may not be read is denied; where a directory on the way may not be
searched, the system refuses to tell. -/
def look (path : Text) : IO (Except FileProblem FileEntry) := do
  match ← trying ((← IO.currentDir).join (native path)).metadata with
  | .error .denied => return .error (.refused (FileProblem.denied.message path))
  | .error e => return .error e
  | .ok m =>
    if m.type matches .dir then return .ok .directory
    trying do return .file (bytesOf (← IO.FS.readBinFile (native path)))

/-- Writes to a file that is opened in a mode. -/
def writeIn (mode : IO.FS.Mode) (path : Text) (data : Bytes) : IO (Except FileProblem Unit) :=
  trying do (← IO.FS.Handle.mk (native path) mode).write (arrayOf data)

/-- A stream as a text; bytes that are no text are replaced. -/
partial def readAll (s : IO.FS.Stream) (data : ByteArray) : IO Text := do
  let more ← s.read 65536
  if more.isEmpty then return Text.ofUtf8Lossy (bytesOf data) else readAll s (data ++ more)

/-- The time since the machine was started, in hours, minutes and seconds. -/
def now : IO Text := do
  let s := (← IO.monoMsNow) / 1000
  return Moment.padded 2 (s / 3600) ++ ':' :: Moment.padded 2 (s / 60 % 60) ++ ':' :: Moment.padded 2 (s % 60)

/-- The seconds since a time in milliseconds, with two places; the time is moved on. -/
def elapsed (last : IO.Ref Nat) : IO Text := do
  let t ← IO.monoMsNow
  let n := (t - (← last.get)) / 10
  last.set t
  return Text.ofNat (n / 100) ++ '.' :: Moment.padded 2 (n % 100)

def host : IO (Host IO) := do
  let last ← IO.mkRef (← IO.monoMsNow)
  let directory := (← IO.currentDir).toString.toList
  let environment ← ["MDTEX_CONFIG", "MDTEX_DISABLE_NETWORK"].filterMapM fun n => do
    return (← IO.getEnv n).map fun v => (n.toList, v.toList)
  return {
    directory
    environment := fun n => environment.lookup n
    look
    write := writeIn .write
    create := writeIn .writeNew
    retries := 1000
    append := writeIn .append
    input := do readAll (← IO.getStdin) .empty
    print := fun t => do (← IO.getStdout).putStr (native t)
    complain := fun t => do (← IO.getStderr).putStr (native t)
    get := fun _ => pure .unreachable
    client := .usual
    readYaml := Yaml.reader
    engine? := fun _ => none
    now
    elapsed := elapsed last }

def start (words : List String) : IO UInt32 := do
  let h ← host
  match (← run h (fun o source => .ok (Markdown.read o.extensions source)) (words.map String.toList)).exit with
  | .ok code => return UInt32.ofNat code
  | .error e =>
    h.complain (e.message ++ ['\n'])
    return 1

end Texdown.Program

def main (words : List String) : IO UInt32 := Texdown.Program.start words
