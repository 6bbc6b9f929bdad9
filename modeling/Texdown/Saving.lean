import Texdown.Files
import Texdown.Options.Rendering
import Texdown.Output

/-!
# Saving documents

A document is rendered to a path, or to a stream that takes text or bytes. The text is read first. Then
the outlet is opened, which empties a file that stands at the path, and only then is the preamble loaded.
A file and a text stream get what is written as it is written; a byte stream gets nothing before the
document is complete.

Results:
* `deliver_unread`: a document that cannot be read leaves everything alone.
-/
namespace Texdown

/-- Where a document is rendered to. -/
inductive Outlet where
  | path (path : Text)
  | textStream
  | byteStream
  /-- A text stream that refuses what is written. -/
  | brokenStream
  /-- Something that cannot be written to. -/
  | unsupported
  deriving DecidableEq, Repr

/-- How a rendering to an outlet ends, what it reports, and what is there afterwards: the files, and
what a stream has received. -/
structure Delivery where
  result : Except Error Unit
  notices : List Notice
  files : Files
  received : Option Content := none

namespace Outlet

/-- Opens an outlet; a file is made or emptied. -/
def openIn (f : Files) (base : Place) : Outlet → Except Error Files
  | path p =>
    match f.write base p [] with
    | .ok f => .ok f
    | .error _ => .error (.outputWriteTo (some p))
  | unsupported => .error unsupportedOutput
  | _ => .ok f

/-- Hands a conversion to an open outlet. -/
def take (f : Files) (base : Place) (c : Converted) (outlet : Outlet) : Delivery :=
  let d : Delivery := { result := c.result.map fun _ => (), notices := c.notices, files := f }
  match outlet with
  | path p =>
    match f.write base p (Text.toUtf8 c.latex) with
    | .ok f => { d with files := f }
    | .error _ => { d with result := .error (.outputWriteTo (some p)) }
  | textStream => { d with received := some (.text c.latex) }
  | byteStream =>
    match c.result with
    | .ok latex => { d with received := some (.bytes (Text.toUtf8 latex)) }
    | .error _ => d
  | brokenStream => if c.latex.isEmpty then d else { d with result := .error (.outputWriteTo none) }
  | unsupported => d

end Outlet

/-- Whether a text can be read. -/
def Reader.check (read : Reader) (markdown : Text) : Except Error Unit :=
  (fun _ => ()) <$> read.tokens (Math.prepare (Text.normalizeNewlines markdown)).1

namespace RenderingOptions

def frameIn (o : RenderingOptions) (f : Files) (base : Place) : Option (Except Error Text) :=
  Id.run (o.frame fun path => pure (f.read base path))

def deliver (o : RenderingOptions) (resolve : Latex.Resolver) (read : Reader) (markdown : Text)
    (f : Files) (base : Place) (outlet : Outlet) : Delivery :=
  match read.check markdown >>= fun _ => outlet.openIn f base with
  | .error e => ⟨.error e, Math.prepareNotices (Math.prepare (Text.normalizeNewlines markdown)).2, f, none⟩
  | .ok f => outlet.take f base (o.convert (o.frameIn f base) resolve read markdown)

theorem deliver_unread {o : RenderingOptions} {resolve : Latex.Resolver} {read : Reader} {markdown : Text}
    {e : Error} (h : read.check markdown = .error e) (f : Files) (base : Place) (outlet : Outlet) :
    (o.deliver resolve read markdown f base outlet).result = .error e ∧
      (o.deliver resolve read markdown f base outlet).files = f ∧
      (o.deliver resolve read markdown f base outlet).received = none := by
  rw [deliver, h]
  exact ⟨rfl, rfl, rfl⟩

end RenderingOptions

end Texdown
