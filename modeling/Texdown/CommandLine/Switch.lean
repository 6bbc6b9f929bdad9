import Texdown.Engine
import Texdown.Options.Reading
import Texdown.Options.Rendering
import Texdown.Text.Decimal

/-!
# Switches

The switches of the command line: how they are spelled, what they set, and what values they take. A
long switch may be shortened as long as it stays the only one that begins so.
-/
namespace Texdown.CommandLine

/-- What a switch sets. -/
inductive Target where
  | output
  | zip
  | fetchImages
  | pdf
  | engine
  | allowHttp
  | config
  | noConfig
  | quiet
  | verbose
  | logFile
  | trace
  | rendering (field : String)
  | reading (field : String)
  deriving DecidableEq, Repr

/-- What a switch takes, and what it then does. -/
inductive Effect where
  | setText (target : Target)
  | setNumber (target : Target)
  | setChoice (target : Target) (choices : List Text)
  /-- Without a value; sets a field to false, or switches a target on. -/
  | turn (target : Target)
  | showVersion
  | showHelp
  deriving DecidableEq, Repr

def Effect.takesValue : Effect → Bool
  | setText _ | setNumber _ | setChoice .. => true
  | _ => false

def switches : List (Text × Effect) :=
  [("-h", .showHelp),
   ("--help", .showHelp),
   ("-o", .setText .output),
   ("--output", .setText .output),
   ("--version", .showVersion),
   ("--zip", .setText .zip),
   ("--fetch-images", .turn .fetchImages),
   ("--pdf", .turn .pdf),
   ("--engine", .setChoice .engine Engine.names),
   ("--allow-http", .turn .allowHttp),
   ("--max-asset-size-bytes", .setNumber (.rendering "max_asset_size_bytes")),
   ("--no-preamble", .turn (.rendering "include_preamble")),
   ("--preamble", .setText (.rendering "preamble_path")),
   ("--indent-width", .setNumber (.rendering "indent_width")),
   ("--no-math-aware-escaping", .turn (.rendering "math_aware_escaping")),
   ("--soft-breaks", .setChoice (.rendering "soft_break_mode") RenderingOptions.softBreaks),
   ("--image-width", .setText (.rendering "image_width")),
   ("--no-parse-strikethrough", .turn (.reading "parse_strikethrough")),
   ("--no-parse-task-lists", .turn (.reading "parse_task_lists")),
   ("--no-parse-tables", .turn (.reading "parse_tables")),
   ("--no-parse-footnotes", .turn (.reading "parse_footnotes")),
   ("--config", .setText .config),
   ("--no-config", .turn .noConfig),
   ("-q", .turn .quiet),
   ("--quiet", .turn .quiet),
   ("-v", .turn .verbose),
   ("--verbose", .turn .verbose),
   ("--log-file", .setText .logFile),
   ("--trace", .turn .trace)].map fun p => (p.1.toList, p.2)

def effect? (spelling : Text) : Option Effect := switches.lookup spelling

/-- What stands behind a switch in its word: nothing, a value behind an equals sign, or further
letters. -/
inductive Tail where
  | nothing
  | equals (t : Text)
  | letters (t : Text)
  deriving DecidableEq, Repr

/-- A word of the command line: a value, the mark behind which there are only values, a switch with
what stands behind it, or what looks like a switch and is none. -/
inductive Word where
  | value (t : Text)
  | mark
  | switch (effect : Effect) (tail : Tail)
  | unknown
  deriving DecidableEq, Repr

/-- A negative number, perhaps at the end of a line. -/
def isNegativeNumber (t : Text) : Bool :=
  match if t.getLast? = some '\n' then t.dropLast else t with
  | '-' :: r =>
    match Text.splitFirst? '.' r with
    | none => !r.isEmpty && r.all Text.isDecimal
    | some (whole, fraction) =>
      whole.all Text.isDecimal && !fraction.isEmpty && fraction.all Text.isDecimal
  | _ => false

/-- A text cut at its first equals sign, as a spelling and what stands behind it. -/
def splitSpelling (t : Text) : Text × Tail :=
  match Text.splitFirst? '=' t with
  | some (front, rest) => (front, .equals rest)
  | none => (t, .nothing)

/-- The switches that a word may stand for, with what stands behind them. -/
def candidates (t : Text) : List (Effect × Tail) :=
  if "--".toList.isPrefixOf t then
    let (front, tail) := splitSpelling t
    (switches.filter fun s => front.isPrefixOf s.1).map fun s => (s.2, tail)
  else
    (switches.filter fun s => s.1 = t.take 2).map fun s => (s.2, .letters (t.drop 2))

/-- Reads one word; none if it may stand for several switches. -/
def Word.read? (t : Text) : Option Word :=
  if t.head? != some '-' || t = ['-'] then some (.value t)
  else match effect? t with
    | some e => some (.switch e .nothing)
    | none =>
      let (front, tail) := splitSpelling t
      match effect? front with
      | some e => some (.switch e tail)
      | none =>
        match candidates t with
        | [(e, tail)] => some (.switch e tail)
        | _ :: _ :: _ => none
        | [] => some (if isNegativeNumber t || t.contains ' ' then .value t else .unknown)

/-- Reads the words of a command line; behind the mark there are only values. -/
def Word.readAll? : List Text → Option (List Word)
  | [] => some []
  | t :: ts =>
    if t = "--".toList then some (.mark :: ts.map .value)
    else do
      let w ← Word.read? t
      let ws ← Word.readAll? ts
      return w :: ws

/-! ## Switches that share a dash -/

/-- How a word of switches ends: with a switch that takes no value, with a switch and its value, with
a switch whose value is the next word, or with a letter that is no switch. -/
inductive Ending where
  | plain
  | valued (e : Effect) (t : Text)
  | open (e : Effect)
  | stray
  deriving DecidableEq, Repr

/-- The switches of a word that take no value, in order, and how the word ends. -/
structure Shared where
  bare : List Effect := []
  ending : Ending := .plain
  deriving DecidableEq, Repr

/-- Reads the letters behind a short switch that takes no value; none if a dash or an equals sign
stands there. -/
def readLetters? : Text → Option Shared
  | [] => some {}
  | c :: r =>
    if c = '-' then none
    else match effect? ['-', c], r with
      | none, _ => some { ending := .stray }
      | some e, '=' :: t => if e.takesValue then some { ending := .valued e t } else none
      | some e, r =>
        if e.takesValue then some { ending := if r.isEmpty then .open e else .valued e r }
        else (readLetters? r).map fun s => { s with bare := e :: s.bare }

/-- Reads a switch and those that share its dash; none if something stands behind a switch that
takes no value and is no switch either. -/
def readShared? (e : Effect) : Tail → Option Shared
  | .nothing => some (if e.takesValue then { ending := .open e } else { bare := [e] })
  | .equals t => if e.takesValue then some { ending := .valued e t } else none
  | .letters t =>
    if e.takesValue then some { ending := .valued e t }
    else (readLetters? t).map fun s => { s with bare := e :: s.bare }

end Texdown.CommandLine
