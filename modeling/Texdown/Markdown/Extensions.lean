/-!
# Extensions of Markdown

What a reader understands beyond the common core. Each can be switched off, and what it would have read
is text then.
-/
namespace Texdown.Markdown

structure Extensions where
  strikethrough : Bool := true
  tables : Bool := true
  footnotes : Bool := true
  taskLists : Bool := true
  deriving DecidableEq, Repr

end Texdown.Markdown
