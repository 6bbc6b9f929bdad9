import Texdown.Text.Quoted

/-!
# Notices

Everything the library reports on the side: one constructor per circumstance, and its level, the
channel it is reported on, and its wording as functions of it.
-/
namespace Texdown

/-- How important a notice is. -/
inductive Level where
  | debug
  | info
  | warning
  | error
  deriving DecidableEq, Repr

namespace Level

/-- The number that thresholds are compared with. -/
def number : Level → Int
  | debug => 10
  | info => 20
  | warning => 30
  | error => 40

def name : Level → Text
  | debug => "DEBUG".toList
  | info => "INFO".toList
  | warning => "WARNING".toList
  | error => "ERROR".toList

end Level

/-- What is reported. -/
inductive Notice where
  /-- So many math delimiters were disguised. -/
  | delimitersDisguised (count : Nat)
  /-- A fragment does not have the length of its range, so delimiters in it stay disguised. -/
  | fragmentAmbiguous
  /-- A fragment that begins with a dollar closed the open math span. -/
  | spanClosedAtDollar
  | spanClosedAtLineBreak
  | spanClosedAtBlock
  | fragmentNotFound (fragment : Text) (offset : Nat)
  | codeSpanNotFound (content : Text) (offset : Nat)
  | tokenIgnored (name : Text)
  | tableIgnored
  | footnoteIgnored (label : Option Text)
  | footnoteReferenceIgnored (label : Option Text)
  | linkIgnored (form : Text) (url : Option Text)
  | imageIgnored (form : Text) (url : Option Text)
  | imageUnresolved (url : Text)
  | htmlFound
  | renderingTimed
  | imageRegistered (url filename : Text) (size : Nat)
  | imageUnknown (url : Text)
  | imageLeftOut (url : Text)
  | filenameShared (filename : Text)
  | packaged (entry : Text) (figures size : Nat)
  | archiveWritten (path : Text)
  | imagesDiscovered (count : Nat)
  | configSkipped (path : Text)
  | configLoading (path : Text)
  | configKeyUnknown (key : Text)
  | insecureUrl (url : Text)
  | requestSent (url : Text) (status : Nat) (reason : Text)
  | contentFetched (size : Nat) (url : Text)
  | imageNotRemote (url : Text)
  | downloadFailed (url reason : Text)
  | imagesDownloaded (count : Nat)
  | stemDerived (stem : Text) (title : Option Text)
  | sourceDownloading (source : Text)
  | imageMissing (url : Text)
  | imageTooLarge (url : Text) (limit : Text)
  | remoteImagesSkipped
  | fetchImagesIdle
  | latexWritten (path : Text)
  | enginePass (engine : Text) (pass passes : Int)
  | compilingTimed (engine : Text)
  | pdfCompiled (size : Nat) (engine : Text)
  | logFileFailed (path reason : Text)
  | logFileOpened (path : Text)
  | failed (message : Text)
  | engineLog (engine log : Text)
  deriving DecidableEq, Repr

namespace Notice

def level : Notice → Level
  | delimitersDisguised _ | fragmentNotFound .. | codeSpanNotFound .. | tokenIgnored _
  | imageUnresolved _ | renderingTimed | imageRegistered .. | imagesDiscovered _
  | configSkipped _ | configLoading _ | contentFetched .. | imageNotRemote _ | stemDerived ..
  | enginePass .. | compilingTimed _ => .debug
  | htmlFound | imageUnknown _ | imageLeftOut _ | packaged .. | archiveWritten _
  | requestSent .. | imagesDownloaded _ | sourceDownloading _ | remoteImagesSkipped
  | latexWritten _ | pdfCompiled .. | logFileOpened _ => .info
  | failed _ | engineLog .. => .error
  | _ => .warning

def channel : Notice → Text
  | delimitersDisguised _ | fragmentAmbiguous => "mdtex.preprocess".toList
  | spanClosedAtDollar | spanClosedAtLineBreak | spanClosedAtBlock =>
    "mdtex.renderers.formatter".toList
  | fragmentNotFound .. | codeSpanNotFound .. | tokenIgnored _ => "mdtex.parsers.markdown".toList
  | tableIgnored | footnoteIgnored _ | footnoteReferenceIgnored _ | linkIgnored ..
  | imageIgnored .. | imageUnresolved _ | htmlFound | renderingTimed =>
    "mdtex.renderers.latex".toList
  | imageRegistered .. | imageUnknown _ => "mdtex.images".toList
  | imageLeftOut _ | filenameShared _ | packaged .. | archiveWritten _ =>
    "mdtex.packagers.archive".toList
  | imagesDiscovered _ => "mdtex.api".toList
  | configSkipped _ | configLoading _ | configKeyUnknown _ => "mdtex.cli.config".toList
  | insecureUrl _ | contentFetched .. | imageNotRemote _ | downloadFailed ..
  | imagesDownloaded _ => "mdtex.utils.network".toList
  | requestSent .. => "httpx".toList
  | stemDerived .. => "mdtex.cli.output".toList
  | enginePass .. | compilingTimed _ | pdfCompiled .. => "mdtex.compile".toList
  | logFileFailed .. | logFileOpened _ => "root".toList
  | _ => "mdtex.cli".toList

/-- The texts laid end to end. -/
private def sentence (parts : List Text) : Text := parts.flatten

private def labelText (label : Option Text) : Text := Text.quotedOr "None".toList label

/-- The wording; `elapsed` is the number of seconds a timed operation took. -/
def message (elapsed : Text) : Notice → Text
  | delimitersDisguised n => sentence ["Disguised ".toList, .ofNat n, " math delimiter(s)".toList]
  | fragmentAmbiguous =>
    "Ambiguous use of \"$$\". Some generated text may contain stray \"`\" characters instead of \"$\".".toList
  | spanClosedAtDollar => "Stray '$' at the start of a math span; closing the span".toList
  | spanClosedAtLineBreak => "Unterminated inline math span closed at line break".toList
  | spanClosedAtBlock => "Unterminated inline math span closed at block boundary".toList
  | fragmentNotFound s n =>
    sentence ["Could not locate fragment ".toList, Text.quoted (s.take 40), " after offset ".toList, .ofNat n]
  | codeSpanNotFound s n =>
    sentence ["Could not locate code span ".toList, Text.quoted (s.take 40), " after offset ".toList, .ofNat n]
  | tokenIgnored s => sentence ["Ignoring markdown token of type ".toList, s.quoted]
  | tableIgnored => "Ignoring table (tables are not supported)".toList
  | footnoteIgnored l =>
    sentence ["Ignoring footnote definition ".toList, labelText l, " (footnotes are not supported)".toList]
  | footnoteReferenceIgnored l =>
    sentence ["Ignoring footnote reference ".toList, labelText l, " (footnotes are not supported)".toList]
  | linkIgnored form url =>
    sentence ["Ignoring ".toList, form, " link to ".toList, labelText url,
      " (only inline links are supported)".toList]
  | imageIgnored form url =>
    sentence ["Ignoring ".toList, form, " image ".toList, labelText url,
      " (only inline images are supported)".toList]
  | imageUnresolved url => sentence ["Image ".toList, url.quoted, " not resolved; commenting it out".toList]
  | htmlFound => "Found HTML; including it as typewriter text".toList
  | renderingTimed => sentence ["Rendering LaTeX completed in ".toList, elapsed, "s".toList]
  | imageRegistered url filename size =>
    sentence ["Registered image ".toList, url.quoted, " as ".toList, filename.quoted, " (".toList,
      .ofNat size, " bytes)".toList]
  | imageUnknown url => sentence ["No registered image for ".toList, url.quoted]
  | imageLeftOut url =>
    sentence ["Image ".toList, url.quoted, " is not registered; leaving it out of the archive".toList]
  | filenameShared filename =>
    sentence ["Different images share the filename ".toList, filename.quoted, "; keeping the first".toList]
  | packaged entry figures size =>
    sentence ["Packaged ".toList, entry, " with ".toList, .ofNat figures, " figure(s), ".toList,
      .ofNat size, " bytes".toList]
  | archiveWritten path => sentence ["Wrote ".toList, path]
  | imagesDiscovered n => sentence ["Discovered ".toList, .ofNat n, " image URL(s)".toList]
  | configSkipped path => sentence ["Skipping unreadable ".toList, path]
  | configLoading path => sentence ["Loading configuration from ".toList, path]
  | configKeyUnknown key => sentence ["Ignoring unknown configuration key: ".toList, key.quoted]
  | insecureUrl url => sentence ["Fetching URL over insecure HTTP: ".toList, url]
  | requestSent url status reason =>
    sentence ["HTTP Request: GET ".toList, url, " \"HTTP/1.1 ".toList, .ofNat status, [' '], reason, ['"']]
  | contentFetched size url => sentence ["Fetched ".toList, .ofNat size, " bytes from ".toList, url]
  | imageNotRemote url => sentence ["Skipping non-remote image ".toList, url.quoted]
  | downloadFailed url reason => sentence ["Could not download image ".toList, url, ": ".toList, reason]
  | imagesDownloaded n => sentence ["Downloaded ".toList, .ofNat n, " image(s)".toList]
  | stemDerived stem title =>
    sentence ["Derived output stem ".toList, stem.quoted, " from title ".toList, labelText title]
  | sourceDownloading source => sentence ["Downloading markdown from ".toList, source]
  | imageMissing url => sentence ["Image not found: ".toList, url]
  | imageTooLarge url limit =>
    sentence ["Skipping image ".toList, url, ": larger than ".toList, limit, " bytes".toList]
  | remoteImagesSkipped =>
    "Remote images are commented out; use --fetch-images to include them".toList
  | fetchImagesIdle => "--fetch-images has no effect without --zip or --pdf".toList
  | latexWritten path => sentence ["Wrote LaTeX to ".toList, path]
  | enginePass engine pass passes => sentence [engine, " pass ".toList, .ofInt pass, ['/'], .ofInt passes]
  | compilingTimed engine =>
    sentence ["Compiling with ".toList, engine, " completed in ".toList, elapsed, "s".toList]
  | pdfCompiled size engine =>
    sentence ["Compiled PDF (".toList, .ofNat size, " bytes) with ".toList, engine]
  | logFileFailed path reason => sentence ["Could not create log file ".toList, path, ": ".toList, reason]
  | logFileOpened path => sentence ["Logging to file: ".toList, path]
  | failed message => message
  | engineLog engine log => sentence [engine, " log (last lines):\n".toList, log]

/-- A notice that is reported even when nobody asks for details. -/
def isWarning (n : Notice) : Bool := Level.warning.number ≤ n.level.number

end Notice
end Texdown
