import Texdown.Files
import Texdown.Notice
import Texdown.Text.Lines
import Texdown.Value.Basic

/-!
# Compiling with an engine

A document is compiled in a working directory of its own. The document and the files that go with it are
written there, the engine is run on it several times, and what it leaves under the name of the
output is the result. An engine takes a file tree and gives one back; what it does in between is left
open.

Results:
* `checkName_ok`: names that are accepted do not lead out of the working directory.
-/
namespace Texdown.Engine

def names : List Text := ["pdflatex".toList, "xelatex".toList, "lualatex".toList]

/-- The engine that is used unless another one is asked for. -/
def defaultName : Text := "pdflatex".toList

/-- The name that the document and its output have in the working directory. -/
def jobName : Text := "main".toList

def sourceName : Text := jobName ++ ".tex".toList

def outputName : Text := jobName ++ ".pdf".toList

/-- How a run of an engine ends. -/
inductive Ending where
  | timedOut
  | refused (reason : Text)
  | finished (status : Int)
  deriving DecidableEq, Repr

/-- One run: how it ends, what it prints, and the files it leaves. -/
structure Run where
  ending : Ending
  printed : Bytes
  files : Files
  deriving DecidableEq, Repr

/-- An installed engine: its path, and what the run with a number does to the files. -/
structure Installed where
  path : Text
  run : Nat → Files → Run

def command (path : Text) : List Text :=
  [path, "-interaction=nonstopmode".toList, "-halt-on-error".toList, "-jobname=".toList ++ jobName,
   sourceName]

/-- A call of an engine: its command line and the files it finds. -/
structure Call where
  command : List Text
  files : Files
  deriving DecidableEq, Repr

/-- The outcome of a compilation: the calls that were made and what was reported. -/
structure Compiled where
  result : Except Error Bytes
  calls : List Call := []
  notices : List Notice := []

/-! ## The working directory -/

/-- The parts of the name of a file in the working directory. Backslashes separate, too. -/
def nameParts (name : Text) : List Text := Path.parts (Text.substitute '\\' '/' name)

/-- Refuses a name that leads out of the working directory. -/
def checkName (name : Text) : Except Error Unit :=
  if Path.isAbsolute (Text.substitute '\\' '/' name) || (nameParts name).contains ['.', '.'] then
    .error (.validation
      ("Working directory file must be a relative path inside the project: ".toList ++ name.quoted)
      (some "workdir_files".toList))
  else .ok ()

theorem checkName_ok {name : Text} (h : checkName name = .ok ()) : ['.', '.'] ∉ nameParts name := by
  unfold checkName at h
  split at h
  · cases h
  · rename_i hn
    simp only [Bool.or_eq_true, not_or, Bool.not_eq_true] at hn
    simpa using hn.2

/-- Writes a file below a directory, and makes the directories that lead to it. -/
def writeBelow (directory : Place) (f : Files) (names : List Text) (data : Bytes) :
    Except FileProblem Files := do
  let f ← f.makeDirectories directory names.dropLast
  f.write directory (List.intercalate ['/'] names) data

/-- Writes one file that goes with the document into a working directory. -/
def addFile (directory : Place) (f : Files) (name : Text) (data : Bytes) : Except Error Files := do
  checkName name
  (writeBelow directory f (nameParts name) data).mapError (.system name)

def addFiles (directory : Place) (f : Files) : List (Text × Bytes) → Except Error Files
  | [] => .ok f
  | (name, data) :: rest => do addFiles directory (← addFile directory f name data) rest

/-- Writes a document and the files that go with it into a working directory. -/
def writeDocument (directory : Place) (f : Files) (latex : Text) (extra : List (Text × Bytes)) :
    Except Error Files :=
  addFiles directory (f.put (directory ++ [sourceName]) (.file (Text.toUtf8 latex))) extra

/-- The working directory before the first run, which is a tree of its own. -/
def workingFiles (latex : Text) (extra : List (Text × Bytes)) : Except Error Files :=
  writeDocument [] {} latex extra

/-! ## Running -/

def keptLines : Nat := 40

def logTail (printed : Bytes) : Text :=
  let lines := (Text.splitLines (Text.ofUtf8Lossy printed)).map Text.dropLineEnd
  List.intercalate ['\n'] (lines.drop (lines.length - keptLines))

/-- Why a run was the last one, if it was. -/
def failure? (name : Text) (timeout : Double) (r : Run) : Option Error :=
  match r.ending with
  | .timedOut => some (.compilation (name ++ " timed out after ".toList ++ timeout.shortText ++ ['s']) (some name) none)
  | .refused reason => some (.compilation ("Could not run ".toList ++ name ++ ": ".toList ++ reason) (some name) none)
  | .finished status =>
    if status = 0 then none
    else some (.compilation (name ++ " exited with status ".toList ++ Text.ofInt status) (some name)
      (some (logTail r.printed)))

/-- Everything about a compilation that does not change between runs. -/
structure Plan where
  name : Text
  installed : Installed
  timeout : Double
  passes : Int

/-- The output that is left after the last run. -/
def output (name : Text) (files : Files) (printed : Bytes) : Except Error Bytes :=
  match files.find? [outputName] with
  | some (.file data) => .ok data
  | some .directory => .error (.system outputName .isDirectory)
  | none => .error (.compilation (name ++ " did not produce a PDF".toList) (some name) (some (logTail printed)))

/-- Makes the remaining runs; `pass` is the number of the next one. -/
def runs (p : Plan) : Nat → Nat → Files → Bytes → Compiled
  | 0, _, files, printed => { result := output p.name files printed, notices := [.compilingTimed p.name] }
  | remaining + 1, pass, files, _ =>
    let r := p.installed.run pass files
    let call : Call := ⟨command p.installed.path, files⟩
    let notice : Notice := .enginePass p.name pass p.passes
    match failure? p.name p.timeout r with
    | some e => ⟨.error e, [call], [notice]⟩
    | none =>
      let rest := runs p remaining (pass + 1) r.files r.printed
      ⟨rest.result, call :: rest.calls, notice :: rest.notices⟩

/-! ## Compiling -/

def unknownEngine (name : Value) : Error :=
  .validation ("Unknown LaTeX engine ".toList ++ name.shown ++ "; expected one of ".toList
    ++ Text.quotedTuple names) (some "engine".toList)

def notInstalled (name : Text) : Error :=
  .dependency "pdf".toList [(name, [])] "Install a TeX distribution such as TeX Live or MiKTeX".toList
    ("PDF output requires the ".toList ++ name ++ " executable, which was not found in PATH".toList)

/-- The number of seconds that a run may take. -/
def defaultTimeout : Double := .ofInt 120

def defaultPasses : Int := 2

def compile (find : Text → Option Installed) (latex : Text) (engine : Value)
    (extra : List (Text × Bytes)) (timeout : Double) (passes : Int) : Compiled :=
  match engine.asText? with
  | none => { result := .error (unknownEngine engine) }
  | some name =>
    if !names.contains name then { result := .error (unknownEngine engine) }
    else match find name with
      | none => { result := .error (notInstalled name) }
      | some installed =>
        match workingFiles latex extra with
        | .error e => { result := .error e }
        | .ok files =>
          let c := runs ⟨name, installed, timeout, passes⟩ passes.toNat 1 files []
          match c.result with
          | .ok data => { c with notices := c.notices ++ [.pdfCompiled data.length name] }
          | .error _ => c

end Texdown.Engine
