import Texdown.Engine
import Texdown.Options.Reading
import Texdown.Options.Rendering
import Texdown.Text.Case
import Texdown.Value.Json
import Texdown.Value.Toml.Document

/-!
# Configuration

A configuration file is a mapping in one of three formats, or a section of a project file. A path that
is named wins over the one in the environment, and that over a file found in the nearest directory. A
project file without the section, or one that cannot be read, is passed over in the search. A key may
be written with hyphens in place of underscores.

TOML and JSON are read here. How YAML is read is left open: its reader gives a value, or its own error about
the text, and nothing is said about which, nor about errors of another kind that it may end with.
-/
namespace Texdown.Config

abbrev Entries := List (Value × Value)

abbrev Fields := List (Text × Value)

/-! ## Formats -/

/-- What a reader of documents ends with in place of a value: its own error about the text, or another one. -/
inductive Unread where
  | malformed
  | failed (e : Error)
  deriving Repr

abbrev YamlReader := Text → Except Unread Value

inductive Format where
  | toml
  | yaml
  | json
  deriving DecidableEq, Repr

namespace Format

def ofSuffix? (suffix : Text) : Option Format :=
  [(".toml".toList, toml), (".yaml".toList, yaml), (".yml".toList, yaml), (".json".toList, json)].lookup
    (Text.lower suffix)

/-- Reads a document; only TOML tells line ends apart. -/
def read (readYaml : YamlReader) : Format → Text → Except Unread Value
  | toml, t => ((Toml.read? t).map .ok).getD (.error .malformed)
  | yaml, t => readYaml (Text.normalizeNewlines t)
  | json, t => ((Json.read? (Text.normalizeNewlines t)).map .ok).getD (.error .malformed)

end Format

/-! ## Reading a file -/

def invalid (path : Text) : Error := .badArgument ("Invalid config file ".toList ++ path)

def invalidProject (path : Text) : Error := .badArgument ("Invalid TOML in pyproject.toml ".toList ++ path)

def missing (path : Text) : Error :=
  .badArgument ("Configuration file does not exist: ".toList ++ path)

def notFile (path : Text) : Error :=
  .badArgument ("Configuration path is not a file: ".toList ++ path)

def unreadable (path : Text) : Error := .badArgument ("Error reading config file ".toList ++ path)

def unreadableProject (path : Text) : Error := .badArgument ("Error reading pyproject.toml ".toList ++ path)

def unknownFormat (suffix : Text) : Error :=
  .badArgument ("Unsupported config file format: ".toList ++ suffix
    ++ ". Use .json, .toml, or .yaml".toList)

def notMapping (path : Text) (v : Value) : Error :=
  .badArgument ("Config file ".toList ++ path ++ " must contain a mapping at the top level, got ".toList
    ++ v.typeName)

def notTable (path : Text) (v : Value) : Error :=
  .badArgument ("[tool.mdtex] section in ".toList ++ path ++ " must be a table, got ".toList ++ v.typeName)

/-- The table of tools is something else. -/
def noTools (v : Value) : Error :=
  .unsupported (v.typeName.quoted ++ " object has no attribute 'get'".toList)

/-- The text of a file. -/
def decode (data : Bytes) : Except Error Text :=
  match Text.ofUtf8? data with
  | some t => .ok t
  | none => .error .undecodable

def section? (path : Text) (v : Value) : Except Error Entries :=
  match v.field? "tool".toList with
  | none => .ok []
  | some (.mapping tools) =>
    match (Value.mapping tools).field? "mdtex".toList with
    | none => .ok []
    | some (.mapping es) => .ok es
    | some v => .error (notTable path v)
  | some v => .error (noTools v)

/-- The section in what a project file holds; a file may stand there that may not be read. -/
def ofProject (path : Text) : Option Bytes → Except Error Entries
  | none => .error (unreadableProject path)
  | some data => do
    match Toml.read? (← decode data) with
    | none => .error (invalidProject path)
    | some v => section? path v

/-- The mapping in what a file of a format holds. An empty document is an empty mapping. -/
def ofFormat (readYaml : YamlReader) (path : Text) (format : Format) : Option Bytes → Except Error Entries
  | none => .error (unreadable path)
  | some data => do
    match format.read readYaml (← decode data) with
    | .error .malformed => .error (invalid path)
    | .error (.failed e) => .error e
    | .ok .null => .ok []
    | .ok (.mapping es) => .ok es
    | .ok v => .error (notMapping path v)

def projectName : Text := "pyproject.toml".toList

/-- The configuration in what the file at a path holds, judged by its name. -/
def ofHeld (readYaml : YamlReader) (path : Text) (held : Option Bytes) : Except Error Entries :=
  if Text.lower (Path.name path) = projectName then ofProject path held
  else match Format.ofSuffix? (Path.suffix path) with
    | some format => ofFormat readYaml path format held
    | none => .error (unknownFormat (Text.lower (Path.suffix path)))

/-- The configuration at a path, where something stands or not. What stands there cannot always be told. -/
def ofFile (readYaml : YamlReader) (path : Text) : Except FileProblem FileEntry → Except Error Entries
  | .error .nameTooLong => .error (.system path .nameTooLong)
  | .error (.refused reason) => .error (.system path (.refused reason))
  | .error .denied => ofHeld readYaml path none
  | .error _ => .error (missing path)
  | .ok .directory => .error (notFile path)
  | .ok (.file data) => ofHeld readYaml path (some data)

/-! ## Searching -/

def fileNames : List Text :=
  [".mdtex.toml".toList, ".mdtex.yaml".toList, ".mdtex.yml".toList, ".mdtex.json".toList]

/-- The paths that are tried: in each directory from the nearest up, the configuration files and
then the project file. The flag tells which are project files. -/
def candidates (directory : Text) : List (Text × Bool) :=
  (Path.ancestors (Path.parts directory)).flatMap fun d =>
    fileNames.map (fun n => (Path.join d n, false)) ++ [(Path.join d projectName, true)]

/-- Whether a file is the one, by what it holds; a project file that cannot be read or is broken is reported
and passed over. -/
def acceptsHeld (path : Text) (isProject : Bool) (held : Option Bytes) : Except Error (Bool × List Notice) :=
  if !isProject then .ok (true, [])
  else match ofProject path held with
    | .ok es => .ok (!es.isEmpty, [])
    | .error (.badArgument _) => .ok (false, [.configSkipped path])
    | .error e => .error e

/-- Whether a candidate is the one, by what stands there. -/
def accepts (path : Text) (isProject : Bool) :
    Except FileProblem FileEntry → Except Error (Bool × List Notice)
  | .error .nameTooLong => .error (.system path .nameTooLong)
  | .error (.refused reason) => .error (.system path (.refused reason))
  | .error .denied => acceptsHeld path isProject none
  | .ok (.file data) => acceptsHeld path isProject (some data)
  | .error _ | .ok .directory => .ok (false, [])

variable {m : Type → Type} [Monad m]

def search (look : Text → m (Except FileProblem FileEntry)) :
    List (Text × Bool) → m (Except Error (Option Text) × List Notice)
  | [] => return (.ok none, [])
  | (path, isProject) :: rest => do
    match accepts path isProject (← look path) with
    | .error e => return (.error e, [])
    | .ok (true, ns) => return (.ok (some path), ns)
    | .ok (false, ns) =>
      let (found, more) ← search look rest
      return (found, ns ++ more)

/-- The configuration file for a directory, given by an absolute path. -/
def find (look : Text → m (Except FileProblem FileEntry)) (directory : Text) :
    m (Except Error (Option Text) × List Notice) :=
  search look (candidates directory)

/-! ## Keys -/

/-- A key as the options spell it. -/
def fieldName (key : Value) : Text := Text.substitute '-' '_' key.spoken

/-- Named values with one more; a later value replaces an earlier one in its place. -/
def putField (name : Text) (v : Value) : Fields → Fields
  | [] => [(name, v)]
  | f :: fs => if f.1 = name then (name, v) :: fs else f :: putField name v fs

/-- The entries by the names that the options use. -/
def normalize (es : Entries) : Fields := es.foldl (fun fs e => putField (fieldName e.1) e.2 fs) []

/-- Loads the configuration: the file that is named, or the one in the environment, or the one that is
found. An empty path counts as none. -/
def load (readYaml : YamlReader) (look : Text → m (Except FileProblem FileEntry)) (directory : Text)
    (named environment : Option Text) : m (Except Error Fields × List Notice) := do
  let given (t : Option Text) : Option Text := t.filter (!·.isEmpty)
  let (path, ns) ← match given named <|> given environment with
    | some p => pure (.ok (some (Path.plain p)), [])
    | none => find look directory
  match path with
  | .error e => return (.error e, ns)
  | .ok none => return (.ok [], ns)
  | .ok (some p) => return (normalize <$> ofFile readYaml p (← look p), ns ++ [.configLoading p])

/-! ## What a configuration sets -/

/-- The settings that belong to the command line. -/
def commandNames : List Text := ["engine".toList, "fetch_images".toList]

/-- A configuration by what it sets: the output, the reader, and the command line. -/
structure Settings where
  rendering : Fields := []
  reading : Fields := []
  command : Fields := []
  deriving Repr, Inhabited

def isKnown (name : Text) : Bool :=
  RenderingOptions.names.contains name || ReadingOptions.names.contains name || commandNames.contains name

/-- Sorts fields by what they set. -/
def split (fs : Fields) : Settings where
  rendering := fs.filter fun f => RenderingOptions.names.contains f.1
  reading := fs.filter fun f => ReadingOptions.names.contains f.1
  command := fs.filter fun f => commandNames.contains f.1

/-- What is reported about fields that set nothing. -/
def splitNotices (fs : Fields) : List Notice :=
  (fs.filter fun f => !isKnown f.1).map fun f => .configKeyUnknown f.1

def Settings.engine (s : Settings) : Value :=
  (s.command.lookup "engine".toList).getD (.text Engine.defaultName)

def Settings.fetchesImages (s : Settings) : Bool :=
  ((s.command.lookup "fetch_images".toList).map Value.isTrue).getD false

end Texdown.Config
