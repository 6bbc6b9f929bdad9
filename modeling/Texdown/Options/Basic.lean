import Texdown.Error
import Texdown.Value.Basic

/-!
# Options

Options are records whose fields hold values that may come from a configuration file, so any field may
hold any value until it has been checked. Fields are assigned by name; a name that the record does
not have is an error, and a record is checked as a whole after all assignments.
-/
namespace Texdown.Options

/-- A record of named values. -/
class Record (α : Type) where
  /-- The record with one field replaced, if it has the field. -/
  set? : α → Text → Value → Option α
  /-- Why the record is refused. -/
  check : α → Except Error Unit
  /-- The fields in order. -/
  fields : α → List (Text × Value)

variable {α : Type} [Record α]

/-- Assigns fields one after the other. -/
def assign (o : α) : List (Text × Value) → Except Error α
  | [] => .ok o
  | (name, v) :: rest =>
    match Record.set? o name v with
    | some o => assign o rest
    | none => .error (.wrongType ("unexpected option ".toList ++ name.quoted))

/-- Options with fields assigned, provided the outcome is accepted. -/
def update (o : α) (assignments : List (Text × Value)) : Except Error α := do
  let o ← assign o assignments
  Record.check o
  return o

/-! ## Checks -/

def incomparable (relation : Text) (v : Value) : Error :=
  .wrongType (relation.quoted ++ " not supported between instances of ".toList
    ++ v.fullTypeName.quoted ++ " and 'int'".toList)

def checkPositive (name : Text) (v : Value) : Except Error Unit :=
  match v.ltInt? 0 with
  | none => .error (incomparable "<=".toList v)
  | some negative =>
    if negative || v.eqInt 0 then
      .error (.badValue (name ++ " must be positive, got ".toList ++ v.spoken))
    else .ok ()

def checkNonNegative (name : Text) (v : Value) : Except Error Unit :=
  match v.ltInt? 0 with
  | none => .error (incomparable ['<'] v)
  | some negative =>
    if negative then .error (.badValue (name ++ " must be non-negative, got ".toList ++ v.spoken))
    else .ok ()

def checkChoice (name : Text) (choices : List Text) (v : Value) : Except Error Unit :=
  if choices.any v.isText then .ok ()
  else .error (.badValue (name ++ " must be one of ".toList ++ Text.quotedTuple choices ++ ", got ".toList
    ++ v.shown))

/-- Refuses a text that is blank, and what is no text. -/
def checkFilled (name : Text) (v : Value) : Except Error Unit :=
  match v with
  | .text t =>
    if Text.isBlankText t then .error (.badValue (name ++ " must not be empty".toList)) else .ok ()
  | _ => .error (.unsupported (v.typeName.quoted ++ " object has no attribute 'strip'".toList))

/-- Whether a text occurs in a value: within a text, among the items of a list or the keys of a
mapping. -/
def occursIn? (t : Text) : Value → Option Bool
  | .text s => some (Text.occursIn t s)
  | .list vs => some (vs.any (·.isText t))
  | .mapping es => some (es.any (·.1.isText t))
  | _ => none

/-- Refuses what is no name of a single file or directory. -/
def checkPlainName (name : Text) (v : Value) : Except Error Unit :=
  let refused : Error :=
    .badValue (name ++ " must be a plain, non-empty name, got ".toList ++ v.shown)
  if !v.isTrue then .error refused
  else match occursIn? ['/'] v, occursIn? ['\\'] v with
    | some slash, some backslash =>
      if slash || backslash || v.isText ['.'] || v.isText ['.', '.'] then .error refused else .ok ()
    | _, _ => .error (.wrongType ("argument of type ".toList ++ v.fullTypeName.quoted ++ " is not iterable".toList))

end Texdown.Options
