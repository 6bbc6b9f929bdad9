import Texdown.Markdown.Extensions
import Texdown.Options.Basic

/-!
# Options of the reader

The extensions of Markdown that are read. Any value will do for a switch; it is on if the value
counts as true.
-/
namespace Texdown

structure ReadingOptions where
  strikethrough : Value := .boolean true
  taskLists : Value := .boolean true
  tables : Value := .boolean true
  footnotes : Value := .boolean true
  deriving Repr, Inhabited

namespace ReadingOptions

def fields (o : ReadingOptions) : List (Text × Value) :=
  [("parse_strikethrough".toList, o.strikethrough),
   ("parse_task_lists".toList, o.taskLists),
   ("parse_tables".toList, o.tables),
   ("parse_footnotes".toList, o.footnotes)]

def set? (o : ReadingOptions) (name : Text) (v : Value) : Option ReadingOptions :=
  match String.ofList name with
  | "parse_strikethrough" => some { o with strikethrough := v }
  | "parse_task_lists" => some { o with taskLists := v }
  | "parse_tables" => some { o with tables := v }
  | "parse_footnotes" => some { o with footnotes := v }
  | _ => none

instance : Options.Record ReadingOptions := ⟨set?, fun _ => .ok (), fields⟩

def names : List Text := ({} : ReadingOptions).fields.map (·.1)

def extensions (o : ReadingOptions) : Markdown.Extensions where
  strikethrough := o.strikethrough.isTrue
  tables := o.tables.isTrue
  footnotes := o.footnotes.isTrue
  taskLists := o.taskLists.isTrue

end ReadingOptions

namespace Markdown.Extensions

def names (e : Extensions) : List Text :=
  (if e.strikethrough then ["strikethrough".toList] else [])
    ++ (if e.tables then ["table".toList] else [])
    ++ (if e.footnotes then ["footnotes".toList] else [])
    ++ (if e.taskLists then ["task_lists".toList] else [])

end Markdown.Extensions
end Texdown
