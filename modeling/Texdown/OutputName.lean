import Texdown.Conversion
import Texdown.Path
import Texdown.Text.Alphanumeric
import Texdown.Text.Case

/-!
# Names of output files

A document is named after the first words of its first heading, or after the file it was read from.
-/
namespace Texdown

/-! ## Titles -/

/-- The text of the first heading among events; `parts` is set while a heading is open. -/
def headingText? (parts : Option Text) : List Event → Option Text
  | [] => none
  | .start (.heading _) :: es => headingText? (some (parts.getD [])) es
  | .stop (.heading _) :: _ => some (parts.getD [])
  | .text t :: es => headingText? (parts.map (· ++ Text.decodeReferences t)) es
  | .code t :: es => headingText? (parts.map (· ++ t)) es
  | _ :: es => headingText? parts es

/-- The title of a document: the text of its first heading, unless that is blank. -/
def title? (events : List Event) : Option Text :=
  (headingText? none events).bind fun t =>
    let t := Text.strip t
    if t.isEmpty then none else some t

/-- What is reported up to the end of the first heading, or to the end if there is none. -/
def noticesToTitle : List Located → List Notice → List Notice
  | [], trailing => trailing
  | e :: es, trailing =>
    match e.event with
    | .stop (.heading _) => e.notices
    | _ => e.notices ++ noticesToTitle es trailing

/-- The title of a Markdown document. A text is read no further than its first heading. -/
def documentTitle (read : Reader) (markdown : Text) : Except Error (Option Text × List Notice) := do
  let (events, trailing) ← read.events (Text.normalizeNewlines markdown)
  return (title? (events.map (·.event)), noticesToTitle events trailing)

/-! ## Stems -/

def defaultStem : Text := "mdtex".toList

def stemWords : Nat := 2

/-- The length up to which a stem, with a separator behind it, says too little. -/
def shortestStem : Nat := 4

def separatesWords (c : Char) : Bool := Text.isBlank c || c == '-' || c == '_'

def titleWords (title : Text) : List Text :=
  Text.words (title.map fun c => if separatesWords c then ' ' else c)

/-- A word in a stem: its letters and digits in lower case. -/
def stemWord (word : Text) : Text := Text.lower (word.filter Text.isAlphanumeric)

/-- The stem of a title: its first words in lower case. -/
def titleStem (title : Option Text) : Text :=
  let beginning := ((titleWords (title.getD [])).take stemWords).flatMap fun w => stemWord w ++ ['_']
  if beginning.length ≤ shortestStem then defaultStem else beginning.dropLast

/-- What a document is named after: its title, or else the stem of the input it was read from. -/
def namingTitle (title inputName : Option Text) : Option Text :=
  title <|> inputName.bind fun n => if n.isEmpty then none else some (Path.stem n)

/-- The name of the file for a document with a title, or read from an input with a name. -/
def outputName (title inputName : Option Text) : Text :=
  titleStem (namingTitle title inputName) ++ ".tex".toList

end Texdown
