import Texdown.Program.Markdown.Destination

/-!
# Blocks

The block structure of a document, before inline content is read. Definitions of links and
footnotes stand where they are found; they give nothing by themselves.
-/
namespace Texdown.Markdown

inductive Block where
  | paragraph (text : Text)
  | heading (level : Nat) (text : Text)
  | code (info raw : Text)
  | html (raw : Text)
  | rule
  | quote (children : List Block)
  /-- A list; an ordered one has the number it starts from, and a tight one no paragraphs. -/
  | list (start : Option Nat) (tight : Bool) (items : List Block)
  | item (children : List Block)
  | table (head : List Text) (rows : List (List Text))
  | blank
  | definition (label : Text) (address : Address)
  | footnote (label : Text)
  deriving Repr, Inhabited

namespace Block

def isBlank : Block → Bool
  | blank => true
  | _ => false

def isParagraph : Block → Bool
  | paragraph _ => true
  | _ => false

def isSilent : Block → Bool
  | definition .. | footnote _ => true
  | _ => false

mutual

def addresses : Block → List (Text × Address)
  | quote bs | item bs => addressesOf bs
  | list _ _ bs => addressesOf bs
  | definition label a => [(labelKey label, a)]
  | _ => []

def addressesOf : List Block → List (Text × Address)
  | [] => []
  | b :: bs => b.addresses ++ addressesOf bs

end

def footnotes (bs : List Block) : List Text :=
  bs.filterMap fun
    | footnote label => some (labelKey label)
    | _ => none

end Block
end Texdown.Markdown
