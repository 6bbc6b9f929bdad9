import Texdown.Number.Double
import Texdown.Text.Blank
import Texdown.Text.Quoted
import Texdown.Value.Moment

/-!
# Values

What configuration files hold before anything is known about it: nothing, truth values, numbers, texts,
moments, lists and mappings. A mapping keeps its entries in order. Truth values count as the numbers
zero and one wherever a number is expected.
-/
namespace Texdown

inductive Value where
  | null
  | boolean (b : Bool)
  | integer (n : Int)
  | real (x : Double)
  | text (t : Text)
  | moment (m : Moment)
  | list (items : List Value)
  | mapping (entries : List (Value × Value))
  deriving Repr, Inhabited

namespace Value

def typeName : Value → Text
  | null => "NoneType".toList
  | boolean _ => "bool".toList
  | integer _ => "int".toList
  | real _ => "float".toList
  | text _ => "str".toList
  | moment m => m.name
  | list _ => "list".toList
  | mapping _ => "dict".toList

/-- The name of the type of a value, in full. -/
def fullTypeName : Value → Text
  | moment m => m.fullName
  | v => v.typeName

/-- Whether a value counts as true: everything does but nothing, false, zero and what is empty. -/
def isTrue : Value → Bool
  | null => false
  | boolean b => b
  | integer n => n != 0
  | real x => !x.eqInt 0
  | text t => !t.isEmpty
  | moment _ => true
  | list vs => !vs.isEmpty
  | mapping es => !es.isEmpty

/-- The text that a value is. -/
def asText? : Value → Option Text
  | text t => some t
  | _ => none

def isText (v : Value) (t : Text) : Bool := v.asText? == some t

/-! ## Written forms -/

mutual

/-- A value as messages show it: texts are quoted. -/
def shown : Value → Text
  | null => "None".toList
  | boolean b => if b then "True".toList else "False".toList
  | integer n => Text.ofInt n
  | real x => x.text
  | text t => t.quoted
  | moment m => m.shown
  | list vs => '[' :: shownItems vs ++ [']']
  | mapping es => '\x7b' :: shownEntries es ++ ['\x7d']

def shownItems : List Value → Text
  | [] => []
  | [v] => v.shown
  | v :: vs => v.shown ++ ',' :: ' ' :: shownItems vs

def shownEntries : List (Value × Value) → Text
  | [] => []
  | [(k, v)] => k.shown ++ ':' :: ' ' :: v.shown
  | (k, v) :: es => k.shown ++ ':' :: ' ' :: v.shown ++ ',' :: ' ' :: shownEntries es

end

/-- A value as part of a text: a text stands for itself. -/
def spoken : Value → Text
  | text t => t
  | moment m => m.text
  | v => v.shown

/-! ## Numbers -/

/-- The number that a truth value counts as. -/
def ofBool (b : Bool) : Int := if b then 1 else 0

def ltInt? (v : Value) (n : Int) : Option Bool :=
  match v with
  | boolean b => some (ofBool b < n)
  | integer k => some (k < n)
  | real x => some (x.ltInt n)
  | _ => none

def eqInt (v : Value) (n : Int) : Bool :=
  match v with
  | boolean b => ofBool b == n
  | integer k => k == n
  | real x => x.eqInt n
  | _ => false

/-- Whether a limit is below a number of bytes. -/
def isExceededBy (limit : Value) (size : Nat) : Bool := (limit.ltInt? size).getD false

/-! ## Mappings -/

/-- Whether two values are the same key: numbers are by their value, truth values among them. -/
def isSameKey : Value → Value → Bool
  | null, null => true
  | text s, text t => s == t
  | moment m, moment n => m == n
  | boolean b, v => v.eqInt (ofBool b)
  | integer n, v => v.eqInt n
  | v, boolean b => v.eqInt (ofBool b)
  | v, integer n => v.eqInt n
  | real x, real y => x == y && x != .undefined
  | _, _ => false

/-- The entries with a value put under a key: in place of the old one, or at the end. -/
def put (key value : Value) : List (Value × Value) → List (Value × Value)
  | [] => [(key, value)]
  | e :: es => if e.1.isSameKey key then (e.1, value) :: es else e :: put key value es

def find? (key : Value) : List (Value × Value) → Option Value
  | [] => none
  | e :: es => if e.1.isSameKey key then some e.2 else find? key es

def canBeKey : Value → Bool
  | list _ | mapping _ => false
  | _ => true

def field? (v : Value) (name : Text) : Option Value :=
  match v with
  | mapping es => find? (.text name) es
  | _ => none

end Value
end Texdown
