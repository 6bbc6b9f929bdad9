import Texdown.Event
import Texdown.Math.Table
import Texdown.Latex.Formatter
import Texdown.Latex.Preamble
import Texdown.Latex.Settings
import Texdown.Text.CharacterReference

/-!
# Rendering events as LaTeX

A rendering reads events in order and writes a body. Tables and footnote definitions are left out
with everything in them. Text gets its math delimiters back before its character references are
decoded; a code span whose two outer delimiters were disguised is math, and every other one is
typewriter text. An image is written when it starts, and its end must come next.
-/
namespace Texdown.Latex

/-- What asks for the path of a figure: an image URL goes in, a path comes out or none. -/
abbrev Resolver := Text → Option Text

/-- The state of a rendering: what is written, the table of disguised delimiters, and the
containers that are open. -/
structure Rendering where
  formatter : Formatter
  table : Math.Table
  /-- How many ordered lists are open. -/
  enumDepth : Nat := 0
  /-- How many left-out containers are open. -/
  skipDepth : Nat := 0
  inCode : Bool := false
  /-- Whether the last code line lacks its end. -/
  codeLineOpen : Bool := false
  /-- The open links, innermost first: whether each has a group. -/
  openLinks : List Bool := []
  /-- The image URLs that a path was asked for. -/
  asked : List Text := []
  deriving DecidableEq, Repr

/-! ## Commands -/

/-- The command of a heading, and the line breaks to ask for behind it. -/
def headingCommand (level : Int) : Text × Int :=
  if level ≤ 1 then ("\\section\x7b".toList, 2)
  else if level = 2 then ("\\subsection\x7b".toList, 2)
  else if level = 3 then ("\\subsubsection\x7b".toList, 2)
  else ("\\paragraph\x7b".toList, 1)

def counterNumerals : List Text := ["i".toList, "ii".toList, "iii".toList, "iv".toList]

/-- The command that makes the list at a depth begin at a number. -/
def setCounter? (depth : Nat) (start : Int) : Option Text :=
  if start = 1 then none
  else counterNumerals[depth]?.map fun numeral =>
    command "setcounter".toList ("enum".toList ++ numeral) ++ braced (.ofInt (start - 1))

def lineBreak : Text := " \\\\".toList

def horizontalRule : Text := "\\par\\noindent\\hrulefill\\par".toList

def taskBox (checked : Bool) : Text :=
  (if checked then "[\\checkedbox] " else "[\\uncheckedbox] ").toList

/-- The figure of an image; one without a path is commented out. -/
def figure (width url : Text) : Option Text → Text
  | some path => commandWith "includegraphics".toList ("width=".toList ++ width) path
  | none => '%' :: commandWith "includegraphics".toList ("width=".toList ++ width) url

def typewriter (t : Text) : Text := command "texttt".toList t

namespace Rendering

def note (r : Rendering) (n : Notice) : Rendering := { r with formatter := r.formatter.note n }

def format (r : Rendering) (f : Formatter → Formatter) : Rendering :=
  { r with formatter := f r.formatter }

/-! ## Containers -/

/-- A list opens: an environment, two levels of indentation, and the counter between them. -/
def openList (r : Rendering) : Option Int → Rendering
  | none => r.format fun f =>
      (f.writeLine .command (command "begin".toList "itemize".toList)).indent.indent
  | some start =>
    let r := r.format fun f => (f.writeLine .command (command "begin".toList "enumerate".toList)).indent
    let r := match setCounter? r.enumDepth start with
      | some t => r.format (·.writeLine .command t)
      | none => r
    { r.format (·.indent) with enumDepth := r.enumDepth + 1 }

def closeList (r : Rendering) : Option Int → Rendering
  | none => r.format fun f => f.dedent.dedent.writeLine .command (command "end".toList "itemize".toList)
  | some _ =>
    { r.format fun f => f.dedent.dedent.writeLine .command (command "end".toList "enumerate".toList) with
      enumDepth := r.enumDepth - 1 }

/-- A container opens, other than an image. -/
def openTag (r : Rendering) : Tag → Rendering
  | .paragraph => r.format (·.add 2)
  | .heading level => r.format fun f =>
      (f.add ((headingCommand level).2 + 1)).write .heading (headingCommand level).1
  | .blockQuote => r.format (·.writeLine .command (command "begin".toList "quote".toList))
  | .codeBlock _ =>
    { r.format fun f => (f.writeLine .command (command "begin".toList "verbatim".toList)).cap 1 with
      inCode := true }
  | .list start => r.openList start
  | .item => r.format fun f =>
      (((f.add 1).dedent.write .command "\\item ".toList).indent).cap 0
  | .footnoteDefinition label => { r.note (.footnoteIgnored label) with skipDepth := 1 }
  | .table => { r.note .tableIgnored with skipDepth := 1 }
  | .tableHead | .tableRow | .tableCell => r
  | .emphasis => r.format (·.write .opening "\\emph\x7b".toList)
  | .strong => r.format (·.write .opening "\\textbf\x7b".toList)
  | .strikethrough => r.format (·.write .opening "\\sout\x7b".toList)
  | .link target =>
    if target.form = some .inline then
      { r.format (·.write .opening (command "href".toList (target.url.getD []) ++ ['\x7b'])) with
        openLinks := true :: r.openLinks }
    else
      { r.note (.linkIgnored target.formName target.url) with openLinks := false :: r.openLinks }
  | .image _ => r

/-- The error at the end of an image that no start announced. -/
def unmatchedImage (target : Target) : Error :=
  .malformedStream ("Image end without a matching image start (".toList
    ++ Text.quotedOr "None".toList target.url ++ [')'])

/-- A container closes. -/
def closeTag (r : Rendering) : Tag → Except Error Rendering
  | .paragraph => .ok (r.format (·.add 2))
  | .heading level => .ok (r.format fun f =>
      ((f.write .closing ['\x7d']).add (headingCommand level).2).cap 2)
  | .blockQuote => .ok (r.format (·.writeLine .command (command "end".toList "quote".toList)))
  | .codeBlock _ =>
    let r := if r.codeLineOpen then r.format (·.write .content ['\n']) else r
    .ok { r.format fun f => (f.write .command (command "end".toList "verbatim".toList)).add 1 with
      inCode := false, codeLineOpen := false }
  | .list start => .ok (r.closeList start)
  | .item | .footnoteDefinition _ | .table | .tableHead | .tableRow | .tableCell => .ok r
  | .emphasis | .strong | .strikethrough => .ok (r.format (·.write .closing ['\x7d']))
  | .link _ =>
    match r.openLinks with
    | [] => .error (.malformedStream "Link end without a matching link start".toList)
    | grouped :: rest =>
      let r := if grouped then r.format (·.write .closing ['\x7d']) else r
      .ok { r with openLinks := rest }
  | .image target => .error (unmatchedImage target)

/-! ## Leaves -/

/-- Gives back the delimiters of a fragment. -/
def restore (r : Rendering) (t : Text) (span : Span) : Except Error (Text × Rendering) :=
  let (result, notices, table) := r.table.restore t span
  match result with
  | .ok t => .ok (t, notices.foldl note { r with table })
  | .error fault => .error fault.toError

/-- Whether a delimiter was disguised at an offset. -/
def isRecorded (r : Rendering) (pos : Nat) : Except Error (Bool × Rendering) :=
  let (answer, table) := r.table.isRecorded? pos
  match answer with
  | some b => .ok (b, { r with table })
  | none => .error .outOfRange

def text (r : Rendering) (t : Text) (span : Span) : Except Error Rendering := do
  let (t, r) ← r.restore t span
  if r.inCode then
    let r := r.format (·.write .content t)
    return if t.isEmpty then r else { r with codeLineOpen := t.getLast? != some '\n' }
  else return r.format (·.writeEscaped (Text.decodeReferences t))

/-- The span of what stands between the delimiters of a code span: both sides of the content are
equally wide. -/
def innerSpan (t : Text) (span : Span) : Span :=
  let padding := span.length - t.length
  if 0 ≤ padding ∧ padding % 2 = 0 then span.shrink (padding / 2).toNat else span

/-- Whether a code span is math: its first and its last delimiter were disguised. -/
def isMath (r : Rendering) (span : Span) : Except Error (Bool × Rendering) := do
  let (opens, r) ← r.isRecorded span.start
  if opens ∧ 4 < span.length then r.isRecorded (span.stop - 2) else return (false, r)

def code (r : Rendering) (t : Text) (span : Span) : Except Error Rendering := do
  let (math, r) ← r.isMath span
  let (t, r) ← r.restore t (innerSpan t span)
  return r.format (·.write .content (if math then '$' :: t ++ ['$'] else typewriter (escape t)))

def html (r : Rendering) (t : Text) (span : Span) : Except Error Rendering := do
  let (t, r) ← (r.note .htmlFound).restore t span
  return r.format (·.write .content (typewriter (escape t)))

def hardBreak (r : Rendering) : Rendering := r.format fun f => (f.write .content lineBreak).add 1

def softBreak (settings : Settings) (r : Rendering) : Rendering :=
  match settings.softBreak with
  | .hard => r.hardBreak
  | .space => r.format (·.add 1)

/-- Writes the figure of an image, or reports an image whose URL does not stand in the text. -/
def image (settings : Settings) (resolve : Resolver) (r : Rendering) (target : Target) : Rendering :=
  if target.form = some .inline then
    let url := target.url.getD []
    let path := resolve url
    let r := { r with asked := r.asked ++ [url] }
    let r := if path.isNone then r.note (.imageUnresolved url) else r
    r.format fun f => ((f.add 1).write .figure (figure settings.imageWidth url path)).add 1
  else r.note (.imageIgnored target.formName target.url)

/-! ## Runs -/

/-- An event inside a left-out container. -/
def skip (r : Rendering) : Event → Rendering
  | .start tag => if tag.isSkipped then { r with skipDepth := r.skipDepth + 1 } else r
  | .stop tag => if tag.isSkipped then { r with skipDepth := r.skipDepth - 1 } else r
  | _ => r

/-- An event other than the start of an image. -/
def step (settings : Settings) (r : Rendering) (e : Event) (span : Span) : Except Error Rendering :=
  if 0 < r.skipDepth then .ok (r.skip e)
  else match e with
    | .start tag => .ok (r.openTag tag)
    | .stop tag => r.closeTag tag
    | .anonymous _ => .error (.assertion "a container without a tag".toList)
    | .text t => r.text t span
    | .code t => r.code t span
    | .html t => r.html t span
    | .softBreak => .ok (softBreak settings r)
    | .hardBreak => .ok r.hardBreak
    | .rule => .ok (r.format (·.write .content horizontalRule))
    | .taskMarker checked => .ok (r.format fun f => (f.write .content (taskBox checked)).cap 0)
    | .footnoteReference label => .ok (r.note (.footnoteReferenceIgnored label))

def startsImage? (r : Rendering) : Event → Option Target
  | .start (.image target) => if 0 < r.skipDepth then none else some target
  | _ => none

def endsImage : Event → Bool
  | .stop (.image _) => true
  | _ => false

/-- The error of an image that is not closed at once. -/
def unclosedImage (target : Target) (next : Option Event) : Error :=
  .malformedStream ("Unclosed image ".toList ++ Text.quotedOr "None".toList target.url
    ++ match next with
      | none => " at end of stream".toList
      | some e => ": expected image end, got ".toList ++ e.kind)

/-- Takes over the notices that came with an event. -/
def hear (r : Rendering) (notices : List Notice) : Rendering := notices.foldl note r

/-- Reads the events. The state is the one at the end, or at the event that gave an error. -/
def run (settings : Settings) (resolve : Resolver) : List Located → Rendering → Rendering × Option Error
  | [], r => (r, none)
  | e :: rest, r =>
    let r := r.hear e.notices
    match r.startsImage? e.event with
    | some target =>
      let r := r.image settings resolve target
      match rest with
      | [] => (r, some (unclosedImage target none))
      | next :: rest =>
        let r := r.hear next.notices
        if endsImage next.event then run settings resolve rest r
        else (r, some (unclosedImage target (some next.event)))
    | none =>
      match r.step settings e.event e.span with
      | .ok r => run settings resolve rest r
      | .error err => (r, some err)

/-! ## Documents -/

/-- A rendering that has written nothing. -/
def ofTable (settings : Settings) (table : Math.Table) : Rendering where
  formatter := { spacing := { indentWidth := settings.indentWidth }, mathAware := settings.mathAware }
  table := table

def openDocument (r : Rendering) (preamble : Text) : Rendering :=
  r.format fun f =>
    ((f.write .command (Text.dropEndWhile (· == '\n') preamble)).cap 2).add 2

/-- Ends the document that a preamble began. -/
def closeDocument (r : Rendering) : Rendering :=
  r.format fun f => ((f.cap 3).add 3).write .command endsDocument

/-- Ends a body without a frame. -/
def closeBody (r : Rendering) : Rendering := r.format fun f => ((f.cap 1).add 1).finish

/-- Renders a whole document; `frame` is its preamble, if it is to have one. -/
def document (settings : Settings) (resolve : Resolver) (frame : Option Text) (events : List Located)
    (trailing : List Notice) (table : Math.Table) : Rendering × Option Error :=
  let r := ofTable settings table
  let r := match frame with
    | some preamble => r.openDocument preamble
    | none => r
  match run settings resolve events r with
  | (r, some err) => (r, some err)
  | (r, none) =>
    let r := r.hear trailing
    let r := match frame with
      | some _ => r.closeDocument
      | none => r.closeBody
    (r.note .renderingTimed, none)

def latex (r : Rendering) : Text := r.formatter.text

def notices (r : Rendering) : List Notice := r.formatter.notices

end Rendering
end Texdown.Latex
