import Texdown.Config
import Texdown.Web.Fetch

/-!
# Hosts

What the program needs of the machine it runs on: files, an environment, streams, the web, engines and a
clock, and the libraries for YAML and for the web. The monad is left open, so the program runs on a real machine
as well as on a machine that is a plain value.
-/
namespace Texdown.CommandLine

/-- What a machine offers. Paths are seen from its working directory. -/
structure Host (m : Type → Type) where
  /-- The working directory, as an absolute path. -/
  directory : Text
  /-- A variable of the environment. -/
  environment : Text → Option Text
  /-- What stands at a path. -/
  look : Text → m (Except FileProblem FileEntry)
  /-- Writes a file, replacing what it held. -/
  write : Text → Bytes → m (Except FileProblem Unit)
  /-- Writes a new file. -/
  create : Text → Bytes → m (Except FileProblem Unit)
  /-- How often a new file is tried again where another program was faster. -/
  retries : Nat
  /-- Writes behind what a file holds. -/
  append : Text → Bytes → m (Except FileProblem Unit)
  /-- All of the input stream. -/
  input : m Text
  /-- Writes to the output stream. -/
  print : Text → m Unit
  /-- Writes to the stream for messages. -/
  complain : Text → m Unit
  /-- Requests a URL. -/
  get : Text → m Web.Answer
  client : Web.Client
  readYaml : Config.YamlReader
  /-- An engine by its name. -/
  engine? : Text → Option Engine.Installed
  /-- The date and time. -/
  now : m Text
  /-- The seconds since this was last asked. -/
  elapsed : m Text

/-! ## Machines that are values -/

/-- The state of a machine. -/
structure Machine where
  files : Files := {}
  output : Text := []
  messages : Text := []

/-- What does not change about a machine. -/
structure Surroundings where
  directory : Place
  input : Text := []
  environment : List (Text × Text) := []
  get : Text → Web.Answer
  client : Web.Client
  readYaml : Config.YamlReader
  retries : Nat := 0
  engine? : Text → Option Engine.Installed := fun _ => none
  now : Text := []
  elapsed : Text := []

namespace Machine

def changeFiles (change : Files → Except FileProblem Files) : StateM Machine (Except FileProblem Unit) :=
  fun s =>
    match change s.files with
    | .ok f => (.ok (), { s with files := f })
    | .error e => (.error e, s)

def print (t : Text) : StateM Machine Unit := fun s => ((), { s with output := s.output ++ t })

def complain (t : Text) : StateM Machine Unit := fun s => ((), { s with messages := s.messages ++ t })

end Machine

def Surroundings.host (a : Surroundings) : Host (StateM Machine) where
  directory := '/' :: List.intercalate ['/'] a.directory
  environment name := a.environment.lookup name
  look path := fun s => (s.files.look a.directory path, s)
  write path data := Machine.changeFiles fun f => f.write a.directory path data
  create path data := Machine.changeFiles fun f => f.create a.directory path data
  retries := a.retries
  append path data := Machine.changeFiles fun f => f.append a.directory path data
  input := pure a.input
  print := Machine.print
  complain := Machine.complain
  get url := pure (a.get url)
  client := a.client
  readYaml := a.readYaml
  engine? := a.engine?
  now := pure a.now
  elapsed := pure a.elapsed

end Texdown.CommandLine
