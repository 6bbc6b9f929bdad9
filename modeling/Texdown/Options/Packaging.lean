import Texdown.Archive.Zip
import Texdown.Options.Basic

/-!
# Options of archives

The names inside an archive and how its entries are stored.

Results:
* `update_default`: the defaults are accepted.
-/
namespace Texdown

structure PackagingOptions where
  mainFilename : Value := .text "main".toList
  figuresDir : Value := .text "figures".toList
  compression : Value := .text "stored".toList
  deriving Repr, Inhabited

namespace PackagingOptions

def fields (o : PackagingOptions) : List (Text × Value) :=
  [("main_filename".toList, o.mainFilename),
   ("figures_dir".toList, o.figuresDir),
   ("compression".toList, o.compression)]

def set? (o : PackagingOptions) (name : Text) (v : Value) : Option PackagingOptions :=
  match String.ofList name with
  | "main_filename" => some { o with mainFilename := v }
  | "figures_dir" => some { o with figuresDir := v }
  | "compression" => some { o with compression := v }
  | _ => none

def compressions : List Text := [Archive.Compression.stored.name, Archive.Compression.deflated.name]

def check (o : PackagingOptions) : Except Error Unit := do
  Options.checkPlainName "main_filename".toList o.mainFilename
  Options.checkPlainName "figures_dir".toList o.figuresDir
  Options.checkChoice "compression".toList compressions o.compression

instance : Options.Record PackagingOptions := ⟨set?, check, fields⟩

def method (o : PackagingOptions) : Archive.Compression :=
  if o.compression.isText Archive.Compression.deflated.name then .deflated else .stored

def mainEntry (o : PackagingOptions) : Text := o.mainFilename.spoken ++ ".tex".toList

def figures (o : PackagingOptions) : Text := o.figuresDir.spoken

theorem update_default : Options.update ({} : PackagingOptions) [] = .ok {} := by rfl

end PackagingOptions
end Texdown
