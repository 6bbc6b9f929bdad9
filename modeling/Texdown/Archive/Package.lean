import Texdown.Figure.Registry
import Texdown.Options.Packaging
import Texdown.Options.Rendering

/-!
# Packages

A package is an archive of a document and its figures: the directory of figures, one entry for every
file name among the images, and the document. Of images that share a file name the first one is kept.
-/
namespace Texdown.Archive

/-- The rights of everything in an archive: the owner may do anything, others may read. -/
def permissions : Nat := 0o755

/-- The attributes of a directory, for systems of both kinds. -/
def directoryAttributes : Nat := (0o40000 + permissions) * 0x10000 + 0x10

def fileAttributes : Nat := (0o100000 + permissions) * 0x10000

/-- The name of an entry ends in front of the first character with code point zero. -/
def entryName (name : Text) : Text := name.takeWhile (· ≠ '\x00')

def directoryEntry (name : Text) : Entry := ⟨entryName (name ++ ['/']), [], directoryAttributes, .stored⟩

def fileEntry (method : Compression) (name : Text) (data : Bytes) : Entry :=
  ⟨entryName name, data, fileAttributes, method⟩

/-- The images with different file names, in order. -/
def distinctFigures (images : List Figure.Image) : List Figure.Image :=
  images.foldl
    (fun kept i => if kept.any (·.filename == i.filename) then kept else kept ++ [i]) []

/-- The images that are left out although they differ from the kept one of the same name. -/
def shadowedFigures (images : List Figure.Image) : List Figure.Image :=
  let kept := distinctFigures images
  images.filter fun i =>
    ((kept.find? (·.filename == i.filename)).map fun k => k.data != i.data).getD false

def package (o : PackagingOptions) (latex : Text) (images : List Figure.Image) : List Entry :=
  directoryEntry o.figures ::
    (distinctFigures images).map
      (fun i => fileEntry o.method (o.figures ++ '/' :: i.filename) i.data)
    ++ [fileEntry o.method o.mainEntry (Text.toUtf8 latex)]

def packageNotices (o : PackagingOptions) (images : List Figure.Image) (size : Nat) : List Notice :=
  (shadowedFigures images).map (fun i => .filenameShared i.filename)
    ++ [.packaged o.mainEntry (distinctFigures images).length size]

/-- An archive, its entries, and what is reported about it. -/
structure Packaged where
  entries : List Entry
  data : Bytes
  notices : List Notice
  deriving DecidableEq, Repr

def Packaged.ofLatex (o : PackagingOptions) (latex : Text) (images : List Figure.Image) : Packaged :=
  let entries := package o latex images
  let data := zip entries
  ⟨entries, data, packageNotices o images data.length⟩

/-- The registered images among URLs, in order. -/
def usedFigures (registry : Figure.Registry) (urls : List Text) : List Figure.Image :=
  (distinct urls).filterMap registry.find?

/-- Converts a document and packages it with the registered images it refers to. -/
def packageMarkdown (o : PackagingOptions) (rendering : RenderingOptions)
    (frame : Option (Except Error Text)) (read : Reader) (registry : Figure.Registry)
    (markdown : Text) : Except Error Packaged × List Notice :=
  let c := (rendering.convert frame (registry.resolve o.figures) read markdown).announceUnresolved .imageLeftOut
  match c.result with
  | .error e => (.error e, c.notices)
  | .ok latex =>
    let p := Packaged.ofLatex o latex (usedFigures registry c.asked)
    (.ok p, c.notices ++ p.notices)

end Texdown.Archive
