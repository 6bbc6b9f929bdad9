import Texdown.CommandLine.Switch

/-!
# Arguments

What a command line asks for. There is one input; everything else is set by switches, of which later
ones win. Short switches without a value may share a dash.
-/
namespace Texdown.CommandLine

/-- What a command line asks for. -/
structure Arguments where
  input : Option Text := none
  output : Option Text := none
  zip : Option Text := none
  fetchImages : Option Bool := none
  pdf : Bool := false
  engine : Option Text := none
  allowHttp : Bool := false
  config : Option Text := none
  noConfig : Bool := false
  quiet : Bool := false
  verbose : Nat := 0
  logFile : Option Text := none
  trace : Bool := false
  /-- The options of the output that were given. -/
  rendering : List (Text × Value) := []
  /-- The options of the reader that were given. -/
  reading : List (Text × Value) := []
  deriving Repr, Inhabited

/-- Why a command line is not carried out. -/
inductive Stop where
  | misuse
  | version
  | help
  deriving DecidableEq, Repr

/-- What the program exits with when a command line is not carried out. -/
def Stop.exitCode : Stop → Nat
  | misuse => 2
  | version | help => 0

/-- The name and number that are shown for the version. -/
def versionLine : Text := "mdtex 0.1.0\n".toList

def setField (name : String) (v : Value) : List (Text × Value) → List (Text × Value)
  | [] => [(name.toList, v)]
  | f :: fs => if f.1 = name.toList then (f.1, v) :: fs else f :: setField name v fs

/-- A whole number, perhaps with a sign, with white space around it and single underscores in it. -/
def number? (t : Text) : Option Int :=
  let t := Text.strip t
  let (negative, digits) : Bool × Text :=
    match t with
    | '-' :: r => (true, r)
    | '+' :: r => (false, r)
    | r => (false, r)
  let groups := Text.splitOn '_' digits
  if groups.all fun g => !g.isEmpty && g.all Text.isDecimal then
    let n : Int := Text.readDecimals groups.flatten
    some (if negative then -n else n)
  else none

namespace Arguments

def set (a : Arguments) (v : Value) : Target → Arguments
  | .output => { a with output := v.asText? }
  | .zip => { a with zip := v.asText? }
  | .engine => { a with engine := v.asText? }
  | .config => { a with config := v.asText? }
  | .logFile => { a with logFile := v.asText? }
  | .rendering field => { a with rendering := setField field v a.rendering }
  | .reading field => { a with reading := setField field v a.reading }
  | _ => a

/-- Switches a target on, or a field off. -/
def turn (a : Arguments) : Target → Arguments
  | .fetchImages => { a with fetchImages := some true }
  | .pdf => { a with pdf := true }
  | .allowHttp => { a with allowHttp := true }
  | .noConfig => { a with noConfig := true }
  | .quiet => { a with quiet := true }
  | .verbose => { a with verbose := a.verbose + 1 }
  | .trace => { a with trace := true }
  | t => a.set (.boolean false) t

def apply (a : Arguments) (e : Effect) (t : Text) : Except Stop Arguments :=
  match e with
  | .setText target => .ok (a.set (.text t) target)
  | .setNumber target =>
    match number? t with
    | some n => .ok (a.set (.integer n) target)
    | none => .error .misuse
  | .setChoice target choices =>
    if choices.contains t then .ok (a.set (.text t) target) else .error .misuse
  | _ => .error .misuse

def applyBare (a : Arguments) : Effect → Except Stop Arguments
  | .turn target => .ok (a.turn target)
  | .showVersion => .error .version
  | .showHelp => .error .help
  | _ => .error .misuse

def applyAll (a : Arguments) : List Effect → Except Stop Arguments
  | [] => .ok a
  | e :: es => do applyAll (← a.applyBare e) es

/-- Reads words. `isDone` tells whether there has been a word that belongs nowhere; a mark belongs
in front of the input or directly behind it. -/
def readWords (a : Arguments) (isDone : Bool) : List Word → Except Stop Arguments
  | [] => if isDone || a.input.isNone then .error .misuse else .ok a
  | .value t :: .mark :: ws =>
    if a.input.isNone then readWords { a with input := some t } isDone ws
    else readWords a true ws
  | .value t :: ws =>
    if a.input.isNone then readWords { a with input := some t } isDone ws
    else readWords a true ws
  | .mark :: ws => readWords a (isDone || a.input.isSome) ws
  | .unknown :: ws => readWords a true ws
  | .switch e tail :: ws =>
    match readShared? e tail with
    | none => .error .misuse
    | some s =>
      match s.ending, ws with
      | .open e, .value t :: ws => do readWords (← (← a.applyAll s.bare).apply e t) isDone ws
      | .open _, _ => .error .misuse
      | .valued e t, ws => do readWords (← (← a.applyAll s.bare).apply e t) isDone ws
      | .plain, ws => do readWords (← a.applyAll s.bare) isDone ws
      | .stray, ws => do readWords (← a.applyAll s.bare) true ws

def read (words : List Text) : Except Stop Arguments :=
  match Word.readAll? words with
  | none => .error .misuse
  | some ws => readWords {} false ws

end Arguments
end Texdown.CommandLine
