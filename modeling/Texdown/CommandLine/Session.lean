import Texdown.Archive.Package
import Texdown.CommandLine.Log
import Texdown.NewFile
import Texdown.OutputName
import Texdown.Web.Download

/-!
# Sessions

A session carries out one command line: it settles the options, reads the document, collects its figures,
and writes an archive, a LaTeX file and a PDF, as far as they are asked for. The first error ends it.
-/
namespace Texdown.CommandLine

/-! ## Options -/

/-- The options of a session. -/
structure Chosen where
  rendering : RenderingOptions
  reading : ReadingOptions
  deriving Repr, Inhabited

def invalidOption (message : Text) : Error :=
  .validation ("Invalid option value: ".toList ++ message) none

/-- An error about options as a session reports it. -/
def ofOptionError : Error → Error
  | .badValue message | .wrongType message => invalidOption message
  | e => e

/-- Options from a configuration and from switches. The switches win. -/
def settle (c : Config.Settings) (a : Arguments) : Except Error Chosen :=
  let chosen : Except Error Chosen := do
    let rendering ← Options.update ({} : RenderingOptions) c.rendering
    let rendering ← Options.update rendering a.rendering
    let reading ← Options.update ({} : ReadingOptions) c.reading
    let reading ← Options.update reading a.reading
    return ⟨rendering, reading⟩
  chosen.mapError ofOptionError

/-- What a session does, once everything is settled. -/
structure Task where
  arguments : Arguments
  options : Chosen
  engine : Value
  fetchesImages : Bool
  deriving Repr, Inhabited

/-- Whether an output is asked for by a path that is not empty. -/
def isGiven (path : Option Text) : Bool := path.any (!·.isEmpty)

namespace Task

/-- The task that arguments and a configuration make. -/
def make (a : Arguments) (c : Config.Settings) (o : Chosen) : Task where
  arguments := a
  options := o
  engine := (a.engine.map Value.text).getD c.engine
  fetchesImages := a.fetchImages.getD c.fetchesImages

/-- The stream for output in place of a path. -/
def streamMark : Text := ['-']

def makesArchive (t : Task) : Bool := isGiven t.arguments.zip

/-- Whether the LaTeX goes to the output stream. -/
def printsLatex (t : Task) : Bool := t.arguments.output == some streamMark

def needsFigures (t : Task) : Bool := t.makesArchive || t.arguments.pdf

def isArchiveOnly (t : Task) : Bool :=
  t.makesArchive && t.arguments.output.isNone && !t.arguments.pdf

/-- Refuses what cannot be done together. -/
def check (t : Task) : Except Error Unit :=
  if t.arguments.pdf && t.printsLatex then
    .error (.validation "--pdf cannot be combined with output to stdout".toList (some "output".toList))
  else if t.arguments.pdf && !t.options.rendering.includePreamble.isTrue then
    .error (.validation "--pdf needs a complete document; remove --no-preamble".toList (some "pdf".toList))
  else .ok ()

/-- What is reported about switches without an effect. -/
def notices (t : Task) : List Notice :=
  if t.fetchesImages && !t.needsFigures then [.fetchImagesIdle] else []

/-- What a download may be. -/
def policy (t : Task) (isDisabled : Bool) : Web.Policy where
  requireHttps := !t.arguments.allowHttp
  limit := t.options.rendering.maxAssetSize
  isDisabled := isDisabled

end Task

/-! ## Documents -/

/-- A document as it was read: its text, the directory that its figures are seen from, and its name. -/
structure Document where
  markdown : Text
  directory : Option Text := none
  name : Option Text := none
  deriving DecidableEq, Repr, Inhabited

def Document.ofFile (path : Text) : Except FileProblem FileEntry → Except Error Document
  | .ok (.file data) =>
    match Text.ofUtf8? data with
    | some t => .ok ⟨Text.normalizeNewlines t, some (Path.parent path), some (Path.name path)⟩
    | none => .error (.fileAccessAt (Path.plain path))
  | .ok .directory | .error .denied => .error (.fileAccessAt (Path.plain path))
  | .error .nameTooLong => .error (.system (Path.plain path) .nameTooLong)
  | .error (.refused reason) => .error (.system (Path.plain path) (.refused reason))
  | .error _ => .error (.fileNotFoundAt (Path.plain path))

def webName (url : Text) : Except Error (Option Text) := do
  let name := Path.name (← Web.decodedPath url)
  return if name.isEmpty then none else some name

/-- Whether an image stands in a file: its URL names neither a server nor a scheme. -/
def isLocal (url : Text) : Except Error Bool := do
  return (← Web.Url.read url).scheme.isEmpty

def imagePath (directory : Option Text) (url : Text) : Text :=
  Path.join (directory.getD []) (Text.percentDecode url)

/-! ## Figures in files -/

/-- The figures of a document as they are collected. -/
structure Collected where
  registry : Figure.Registry := {}
  notices : List Notice := []
  deriving Repr

namespace Collected

def note (c : Collected) (n : Notice) : Collected := { c with notices := c.notices ++ [n] }

/-- Registers what stands at the path of an image, if it is a file within the limit. -/
def add (c : Collected) (limit : Value) (url : Text) (data : Option Bytes) : Except Error Collected :=
  match data with
  | none => do
    if (← Web.isRemote url) then return c else return c.note (.imageMissing url)
  | some data =>
    if limit.isExceededBy data.length then .ok (c.note (.imageTooLarge url limit.spoken))
    else do
      let filename ← Figure.nameFor url (some data) c.registry.filenames
      let registry ← c.registry.register url filename data
      return ⟨registry, c.notices ++ [.imageRegistered url filename data.length]⟩

end Collected

/-- The figures among images, with what stands at the path of each. -/
def collect (limit : Value) (c : Collected) : List (Text × Option Bytes) → Except Error Collected
  | [] => .ok c
  | (url, data) :: rest => do collect limit (← c.add limit url data) rest

/-! ## Running -/

/-- What a session works with. -/
structure Context (m : Type → Type) where
  host : Host m
  log : Log
  /-- The reader of documents. -/
  reader : ReadingOptions → Reader

/-- A part of a session. -/
abbrev Session (m : Type → Type) := ReaderT (Context m) (ExceptT Error m)

namespace Session

variable {m : Type → Type} [Monad m]

def onHost {α : Type} (act : Host m → m α) : Session m α := fun c => ExceptT.lift (act c.host)

def say (ns : List Notice) : Session m Unit :=
  fun c => ExceptT.lift (c.log.reportAll c.host [] ns)

/-- Reports the notices of something that took time. -/
def sayTimed (ns : List Notice) : Session m Unit := fun c => ExceptT.lift do
  c.log.reportAll c.host (← c.host.elapsed) ns

/-- The outcome of a computation; an error ends the session. -/
def settled {α : Type} (r : Except Error α) : Session m α := fun _ => ExceptT.mk (pure r)

/-- A line about something that was written, unless the session is quiet. -/
def announce (t : Task) (path : Text) : Session m Unit :=
  if t.arguments.quiet then pure ()
  else onHost fun h => h.complain ("Wrote ".toList ++ path ++ ['\n'])

def frame (o : RenderingOptions) : Session m (Option (Except Error Text)) :=
  onHost fun h => o.frame fun path => do
    match ← h.look path with
    | .ok (.file data) => return .ok data
    | .ok .directory => return .error .isDirectory
    | .error e => return .error e

/-! ### Reading -/

/-- Settles the task. -/
def prepare (a : Arguments) : Session m Task := do
  let fields : Config.Fields ← if a.noConfig then pure []
    else do
      let (r, ns) ← onHost fun h =>
        Config.load h.readYaml h.look h.directory a.config (h.environment "MDTEX_CONFIG".toList)
      say ns
      settled r
  say (Config.splitNotices fields)
  let settings := Config.split fields
  let t := Task.make a settings (← settled (settle settings a))
  settled t.check
  say t.notices
  return t

def isOffline (h : Host m) : Bool :=
  ((h.environment "MDTEX_DISABLE_NETWORK".toList).map Web.disables).getD false

def readDocument (t : Task) : Session m Document := do
  let source := t.arguments.input.getD []
  if source = Task.streamMark then return { markdown := ← onHost Host.input }
  if ← settled (Web.isRemote source) then
    say [.sourceDownloading source]
    let f ← onHost fun h => Web.fetchText h.client h.get (t.policy (isOffline h)) source
    say f.notices
    return { markdown := ← settled f.result, name := ← settled (webName source) }
  settled (Document.ofFile source (← onHost fun h => h.look source))

/-! ### Figures -/

/-- The data of the file that an image stands in, if it does. A path that cannot be looked at is an
error of its own. -/
def imageData (d : Document) (failed : Text → FileProblem → Error) (url : Text) :
    Session m (Option Bytes) := do
  if !(← settled (isLocal url)) then return none
  let path := imagePath d.directory url
  match ← onHost fun h => h.look path with
  | .ok (.file data) => return some data
  | .error .nameTooLong => throw (failed path .nameTooLong)
  | _ => return none

def imagesData (d : Document) (failed : Text → FileProblem → Error) :
    List Text → Session m (List (Text × Option Bytes))
  | [] => return []
  | url :: urls => do
    let data ← imageData d failed url
    return (url, data) :: (← imagesData d failed urls)

/-- Collects the figures of the document, from files and perhaps from the web. -/
def collectFigures (t : Task) (d : Document) : Session m Figure.Registry := do
  let read := (← readThe (Context m)).reader t.options.reading
  let (urls, ns) := imageUrls read d.markdown
  sayTimed ns
  let urls ← settled urls
  let c ← settled (collect t.options.rendering.maxAssetSize {} (← imagesData d .system urls))
  say c.notices
  if t.fetchesImages then
    let w ← onHost fun h => Web.download h.client h.get (t.policy (isOffline h)) c.registry urls
    say w.notices
    match w.error with
    | some e => throw e
    | none => return w.registry
  else
    if ← settled (urls.anyM Web.isRemote) then say [.remoteImagesSkipped]
    return c.registry

/-! ### Writing -/

def render (t : Task) (d : Document) (resolve : Latex.Resolver) (report : Text → List Notice) :
    Session m Text := do
  let read := (← readThe (Context m)).reader t.options.reading
  let c := t.options.rendering.convert (← frame t.options.rendering) resolve read d.markdown
  sayTimed (c.notices.flatMap fun n =>
    match n with
    | .imageUnresolved url => report url ++ [n]
    | n => [n])
  settled c.result

def save (path : Text) (data : Bytes) : Session m Unit := do
  match ← onHost fun h => h.write path data with
  | .ok () => return
  | .error _ => throw (.outputWriteTo (some path))

def writeArchive (t : Task) (d : Document) (registry : Figure.Registry) (path : Text) : Session m Unit := do
  let o := t.options.rendering
  let read := (← readThe (Context m)).reader t.options.reading
  let (r, ns) := Archive.packageMarkdown {} o (← frame o) read registry d.markdown
  sayTimed ns
  let path := Path.plain path
  save path (← settled r).data
  say [.archiveWritten path]
  announce t path

/-- The path that the LaTeX goes to unless one is asked for; it has the title of the document. -/
def preferredPath (t : Task) (d : Document) : Session m Text := do
  let read := (← readThe (Context m)).reader t.options.reading
  let (title, ns) ← settled (documentTitle read d.markdown)
  let title := namingTitle title d.name
  say (ns ++ [.stemDerived (titleStem title) title])
  onHost fun h => pure (Path.join h.directory (outputName title none))

/-- Writes a new file, at the path that is preferred or at the first free one. -/
def saveNew (preferred : Text) (data : Bytes) : Session m Text := do
  match ← onHost fun h => NewFile.create h.look (h.create · data) preferred (h.retries + 1) with
  | .ok path => return path
  | .error (.system ..) => throw (.outputWriteTo (some preferred))
  | .error e => throw e

/-- Writes the LaTeX; gives the path it went to, if it did not go to the output stream. -/
def writeLatex (t : Task) (d : Document) (latex : Text) : Session m (Option Text) := do
  if t.printsLatex then
    onHost fun h => h.print latex
    return none
  let data := Text.toUtf8 latex
  let path ← match t.arguments.output.filter (!·.isEmpty) with
    | some path => do
      let path := Path.plain path
      save path data
      pure path
    | none => do saveNew (← preferredPath t d) data
  say [.latexWritten path]
  announce t path
  return some path

/-- The local images of a document keep their paths. -/
def keepLocal (found : List (Text × Option Bytes)) (url : Text) : Option Text :=
  ((found.lookup url).join).map fun _ => url

/-- A PDF that is to be made: where it goes, from what, and with which files. -/
structure Typesetting where
  path : Text
  latex : Text
  figures : List (Text × Bytes)

def figuresDirectory : Text := "figures".toList

/-- The PDF beside a LaTeX file. -/
def typesetting (t : Task) (d : Document) (registry : Figure.Registry) (path : Text) :
    Session m Typesetting := do
  let latex ← render t d (registry.resolve figuresDirectory) fun url => [.imageUnknown url]
  let figures := registry.entries.map fun e => (figuresDirectory ++ '/' :: e.2.filename, e.2.data)
  return ⟨Path.withSuffix path ".pdf".toList, latex, figures⟩

/-- Everything up to the PDF, if one is asked for. -/
def convert (a : Arguments) : Session m (Task × Option Typesetting) := do
  let t ← prepare a
  let d ← readDocument t
  let registry ← if t.needsFigures then collectFigures t d else pure {}
  if t.makesArchive then writeArchive t d registry (t.arguments.zip.getD [])
  if t.isArchiveOnly then return (t, none)
  let read := (← readThe (Context m)).reader t.options.reading
  let asked := (({} : Job).convert read d.markdown).asked
  let found ← imagesData d (fun _ _ => .outputWriteTo none) asked
  let latex ← render t d (keepLocal found) fun _ => []
  match ← writeLatex t d latex with
  | some path => if t.arguments.pdf then return (t, some (← typesetting t d registry path)) else return (t, none)
  | none => return (t, none)

def writePdf (t : Task) (p : Typesetting) (data : Bytes) : Session m Unit := do
  save p.path data
  announce t p.path

end Session

/-! ## Outcomes -/

/-- How a run ends: with what it exits, or with an error that it does not handle; and the calls of
the engine. -/
structure Outcome where
  exit : Except Error Nat
  calls : List Engine.Call := []

/-- Whether a session reports an error and exits. Others are not its own. -/
def isHandled : Error → Bool
  | .badValue _ | .wrongType _ | .unsupported _ | .assertion _ | .outOfRange | .missingKey | .undecodable
  | .badCondition _ | .importFailed _ | .unexpected _ | .system .. => false
  | _ => true

def failureNotices (e : Error) : List Notice :=
  .failed e.message ::
    match e with
    | .compilation _ engine (some log) =>
      if log.isEmpty then [] else [.engineLog (engine.getD "None".toList) log]
    | _ => []

variable {m : Type → Type} [Monad m]

def fail (c : Context m) (calls : List Engine.Call) (e : Error) : m Outcome := do
  if isHandled e then
    c.log.reportAll c.host [] (failureNotices e)
    return ⟨.ok e.exitCode, calls⟩
  else return ⟨.error e, calls⟩

def runSession (c : Context m) (a : Arguments) : m Outcome := do
  match ← ((Session.convert a).run c).run with
  | .error e => fail c [] e
  | .ok (_, none) => return ⟨.ok 0, []⟩
  | .ok (t, some p) =>
    let r := Engine.compile c.host.engine? p.latex t.engine p.figures Engine.defaultTimeout Engine.defaultPasses
    c.log.reportAll c.host (← c.host.elapsed) r.notices
    match r.result with
    | .error e => fail c r.calls e
    | .ok data =>
      match ← ((Session.writePdf t p data).run c).run with
      | .error e => fail c r.calls e
      | .ok () => return ⟨.ok 0, r.calls⟩

def run (h : Host m) (reader : ReadingOptions → Reader) (words : List Text) : m Outcome := do
  match Arguments.read words with
  | .error stop =>
    if stop = .version then h.print versionLine
    return ⟨.ok stop.exitCode, []⟩
  | .ok a =>
    let log ← Log.start h a
    runSession ⟨h, log, reader⟩ a

end Texdown.CommandLine
