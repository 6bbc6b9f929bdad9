import Texdown.Notice
import Texdown.Span

/-!
# Events

A document as a flat list of events over its text. Containers open and close with equal tags;
everything else is a leaf. Every event has the span it covers, and carries the notices that were
made on the way to it.
-/
namespace Texdown

/-- How the destination of a link or an image is written. -/
inductive LinkForm where
  | inline
  | reference
  | autolink
  | email
  deriving DecidableEq, Repr

namespace LinkForm

def name : LinkForm → Text
  | inline => "inline".toList
  | reference => "reference".toList
  | autolink => "autolink".toList
  | email => "email".toList

end LinkForm

/-- Where a link leads or an image comes from. -/
structure Target where
  url : Option Text := none
  title : Option Text := none
  form : Option LinkForm := none
  label : Option Text := none
  deriving DecidableEq, Repr

namespace Target

def formName (t : Target) : Text := (t.form.map LinkForm.name).getD "unknown".toList

end Target

/-- A container and what is known about it. -/
inductive Tag where
  | paragraph
  | heading (level : Int)
  | blockQuote
  | codeBlock (language : Option Text)
  /-- A list; an ordered one has the number it starts from. -/
  | list (start : Option Int)
  | item
  | footnoteDefinition (label : Option Text)
  | table
  | tableHead
  | tableRow
  | tableCell
  | emphasis
  | strong
  | strikethrough
  | link (target : Target)
  | image (target : Target)
  deriving DecidableEq, Repr

namespace Tag

/-- Whether the container is left out with everything in it. -/
def isSkipped : Tag → Bool
  | table | footnoteDefinition _ => true
  | _ => false

def isHeading : Tag → Bool
  | heading _ => true
  | _ => false

end Tag

/-- One step of a document. -/
inductive Event where
  | start (tag : Tag)
  | stop (tag : Tag)
  /-- A container opens or closes, and it is not said which. -/
  | anonymous (opens : Bool)
  | text (content : Text)
  | code (content : Text)
  | html (content : Text)
  | softBreak
  | hardBreak
  | rule
  | taskMarker (checked : Bool)
  | footnoteReference (label : Option Text)
  deriving DecidableEq, Repr

namespace Event

def kind : Event → Text
  | start _ => "start".toList
  | stop _ => "end".toList
  | anonymous opens => (if opens then "start" else "end").toList
  | text _ => "text".toList
  | code _ => "code".toList
  | html _ => "html".toList
  | softBreak => "soft_break".toList
  | hardBreak => "hard_break".toList
  | rule => "rule".toList
  | taskMarker _ => "task_list_marker".toList
  | footnoteReference _ => "footnote_reference".toList

end Event

/-- An event with its span and the notices made since the event before it. -/
structure Located where
  event : Event
  span : Span
  notices : List Notice := []
  deriving DecidableEq, Repr

end Texdown
