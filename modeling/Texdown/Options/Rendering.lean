import Texdown.Conversion
import Texdown.Latex.Preamble
import Texdown.Options.Basic
import Texdown.Path
import Texdown.Text.Utf8

/-!
# Options of the output

How LaTeX is written, and how large a single asset may be.

Results:
* `update_default`: the defaults are accepted.
-/
namespace Texdown

structure RenderingOptions where
  maxAssetSize : Value := .integer 52428800
  includePreamble : Value := .boolean true
  preamblePath : Value := .null
  indentWidth : Value := .integer 2
  mathAware : Value := .boolean true
  softBreak : Value := .text "hard".toList
  imageWidth : Value := .text "\\textwidth".toList
  deriving Repr, Inhabited

namespace RenderingOptions

def softBreaks : List Text := ["hard".toList, "space".toList]

def fields (o : RenderingOptions) : List (Text × Value) :=
  [("max_asset_size_bytes".toList, o.maxAssetSize),
   ("include_preamble".toList, o.includePreamble),
   ("preamble_path".toList, o.preamblePath),
   ("indent_width".toList, o.indentWidth),
   ("math_aware_escaping".toList, o.mathAware),
   ("soft_break_mode".toList, o.softBreak),
   ("image_width".toList, o.imageWidth)]

def set? (o : RenderingOptions) (name : Text) (v : Value) : Option RenderingOptions :=
  match String.ofList name with
  | "max_asset_size_bytes" => some { o with maxAssetSize := v }
  | "include_preamble" => some { o with includePreamble := v }
  | "preamble_path" => some { o with preamblePath := v }
  | "indent_width" => some { o with indentWidth := v }
  | "math_aware_escaping" => some { o with mathAware := v }
  | "soft_break_mode" => some { o with softBreak := v }
  | "image_width" => some { o with imageWidth := v }
  | _ => none

def check (o : RenderingOptions) : Except Error Unit := do
  Options.checkPositive "max_asset_size_bytes".toList o.maxAssetSize
  Options.checkNonNegative "indent_width".toList o.indentWidth
  Options.checkChoice "soft_break_mode".toList softBreaks o.softBreak
  Options.checkFilled "image_width".toList o.imageWidth

instance : Options.Record RenderingOptions := ⟨set?, check, fields⟩

def names : List Text := ({} : RenderingOptions).fields.map (·.1)

/-! ## What the options mean -/

def wholeIndent? (o : RenderingOptions) : Option Int :=
  match o.indentWidth with
  | .integer n => some n
  | .boolean b => some (Value.ofBool b)
  | _ => none

def settings (o : RenderingOptions) : Latex.Settings where
  indentWidth := o.wholeIndent?.getD 0
  mathAware := o.mathAware.isTrue
  softBreak := if o.softBreak.isText "space".toList then .space else .hard
  imageWidth := o.imageWidth.spoken

/-- Where the preamble comes from. -/
inductive PreambleSource where
  | standard
  | file (path : Text)
  /-- The path is no text. -/
  | unusable (type : Text)
  deriving DecidableEq, Repr

/-- Where the preamble comes from, if there is one. -/
def preambleSource (o : RenderingOptions) : Option PreambleSource :=
  if !o.includePreamble.isTrue then none
  else if !o.preamblePath.isTrue then some .standard
  else match o.preamblePath with
    | .text path => some (.file path)
    | v => some (.unusable v.typeName)

def preambleOfFile (path : Text) : Except FileProblem Bytes → Except Error Text
  | .error _ => .error (.fileNotFoundAt (Path.plain path))
  | .ok data =>
    match Text.ofUtf8? data with
    | some t => .ok (Text.normalizeNewlines t)
    | none => .error .undecodable

/-- There is no preamble at something that is no path. -/
def unusablePreamble (type : Text) : Error :=
  .wrongType ("expected str, bytes or os.PathLike object, not ".toList ++ type)

variable {m : Type → Type} [Monad m]

/-- The preamble, loaded with what reads files. -/
def frame (o : RenderingOptions) (read : Text → m (Except FileProblem Bytes)) :
    m (Option (Except Error Text)) :=
  match o.preambleSource with
  | none => return none
  | some .standard => return some (.ok Latex.preamble)
  | some (.file path) => do return some (preambleOfFile path (← read path))
  | some (.unusable type) => return some (.error (unusablePreamble type))

/-- A conversion under these options. A width that is no whole number is an error as soon as a line
is to be indented, which is when anything has been written. -/
def convert (o : RenderingOptions) (frame : Option (Except Error Text)) (resolve : Latex.Resolver)
    (read : Reader) (markdown : Text) : Converted :=
  let c := ({ settings := o.settings, frame := frame, resolve := resolve } : Job).convert read markdown
  if o.wholeIndent?.isNone && !c.latex.isEmpty then
    { c with error := some (.wrongType "can't multiply sequence by non-int of type 'float'".toList) }
  else c

theorem update_default : Options.update ({} : RenderingOptions) [] = .ok {} := by rfl

end RenderingOptions
end Texdown
