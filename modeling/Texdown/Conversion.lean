import Texdown.Latex.Renderer
import Texdown.Stream

/-!
# Conversion

From Markdown to LaTeX: line endings are normalised, math delimiters are disguised, a reader makes a
token tree of the text, the tree is walked against the text, and the events are rendered. Which
Markdown reader is used is left open, so everything here holds for any token tree.
-/
namespace Texdown

/-- What makes a token tree of a text, or says why it cannot. -/
abbrev Reader := Text → Except Text (List Token)

namespace Reader

def tokens (read : Reader) (source : Text) : Except Error (List Token) :=
  match read source with
  | .ok tokens => .ok tokens
  | .error why => .error (.parsing ("Failed to parse markdown: ".toList ++ why) (some "tokenize".toList))

/-- The events of a text, and the notices after the last one. -/
def events (read : Reader) (source : Text) : Except Error (List Located × List Notice) :=
  (streamOf source) <$> read.tokens source

end Reader

/-- How a conversion is set up: the settings of the output, the preamble it is framed with, if any,
and where figures come from. A preamble that could not be loaded is an error only once the text
has been read. -/
structure Job where
  settings : Latex.Settings := {}
  frame : Option (Except Error Text) := none
  resolve : Latex.Resolver := fun _ => none

/-- What a conversion gives: the LaTeX written until it ended, the image URLs it asked for, the
notices it made, and the error that ended it, if any. -/
structure Converted where
  latex : Text := []
  asked : List Text := []
  notices : List Notice := []
  error : Option Error := none
  deriving DecidableEq, Repr

namespace Converted

/-- A conversion that wrote nothing. -/
def failed (notices : List Notice) (e : Error) : Converted := ⟨[], [], notices, some e⟩

def ofRendering (notices : List Notice) (r : Latex.Rendering × Option Error) : Converted :=
  ⟨r.1.latex, r.1.asked, notices ++ r.1.notices, r.2⟩

def result (c : Converted) : Except Error Text :=
  match c.error with
  | some e => .error e
  | none => .ok c.latex

/-- Reports every unresolved image once more, in front of the usual notice. -/
def announceUnresolved (c : Converted) (report : Text → Notice) : Converted :=
  { c with
    notices := c.notices.flatMap fun n =>
      match n with
      | .imageUnresolved url => [report url, n]
      | n => [n] }

end Converted

namespace Job

/-- Renders events over a prepared text. -/
def render (job : Job) (events : List Located) (trailing : List Notice) (table : Math.Table) :
    Converted :=
  match job.frame with
  | some (.error e) => .failed [] e
  | some (.ok preamble) =>
    .ofRendering [] (Latex.Rendering.document job.settings job.resolve (some preamble) events trailing table)
  | none =>
    .ofRendering [] (Latex.Rendering.document job.settings job.resolve none events trailing table)

def convert (job : Job) (read : Reader) (markdown : Text) : Converted :=
  let (source, table) := Math.prepare (Text.normalizeNewlines markdown)
  let notices := Math.prepareNotices table
  match read.events source with
  | .error e => .failed notices e
  | .ok (events, trailing) =>
    let c := job.render events trailing table
    { c with notices := notices ++ c.notices }

end Job

/-- The different texts of a list, in the order of their first occurrence. -/
def distinct (ts : List Text) : List Text :=
  ts.foldl (fun seen t => if seen.contains t then seen else seen ++ [t]) []

/-- The URLs of the images in a document, without repeats, and the notices made on the way. -/
def imageUrls (read : Reader) (markdown : Text) : Except Error (List Text) × List Notice :=
  let c := ({} : Job).convert read markdown
  match c.error with
  | some e => (.error e, c.notices)
  | none =>
    let urls := distinct c.asked
    (.ok urls, c.notices ++ [.imagesDiscovered urls.length])

end Texdown
