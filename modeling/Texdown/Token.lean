import Texdown.Text.Blank

/-!
# Token trees

What a Markdown reader makes of a text: blocks and inline pieces without their positions. Groups
are transparent, and tokens of a kind that is not known are left out with everything in them.
-/
namespace Texdown

/-- The containers that carry nothing but their children. -/
inductive Container where
  | paragraph
  | blockQuote
  | table
  | tableHead
  | tableRow
  | tableCell
  | emphasis
  | strong
  | strikethrough
  deriving DecidableEq, Repr

/-- A node of a document. -/
inductive Token where
  | container (kind : Container) (children : List Token)
  | group (children : List Token)
  | heading (level : Int) (children : List Token)
  | codeBlock (info raw : Text)
  | list (start : Option Int) (children : List Token)
  /-- A list item; a task item knows whether it is done. -/
  | item (task : Option Bool) (children : List Token)
  | footnote (label : Text)
  | rule
  | html (raw : Text)
  | text (raw : Text)
  | codeSpan (raw : Text)
  | link (url : Text) (title label : Option Text) (children : List Token)
  | image (url : Text) (title label : Option Text)
  | softBreak
  | hardBreak
  | footnoteReference (label : Text)
  | blank
  | other (name : Text)
  deriving Repr, Inhabited

namespace Token

/-- The first word of the line that opens a code block names its language. -/
def language (info : Text) : Option Text := (Text.words info).head?

end Token
end Texdown
