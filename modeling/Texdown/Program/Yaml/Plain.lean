import Texdown.Value.Basic

/-!
# Plain scalars of YAML

What a scalar without quotes stands for: nothing, a truth value, a whole number in one of five
notations, a floating-point number, a day, a moment, or else its own text.
-/
namespace Texdown.Yaml

def nullWords : List Text := [[], ['~'], "null".toList, "Null".toList, "NULL".toList]

def booleanWords : List (Text × Bool) :=
  [("yes".toList, true), ("no".toList, false), ("true".toList, true), ("false".toList, false),
   ("on".toList, true), ("off".toList, false)]

/-- The three spellings of a word: small, with a capital, in capitals. -/
def spellings (w : Text) : List Text :=
  match w with
  | [] => [[]]
  | c :: r => [w, c.toUpper :: r, w.map Char.toUpper]

def boolean? (t : Text) : Option Bool :=
  booleanWords.findSome? fun p => if (spellings p.1).contains t then some p.2 else none

/-! ## Numbers -/

def sign (t : Text) : Bool × Text :=
  match t with
  | '-' :: r => (true, r)
  | '+' :: r => (false, r)
  | _ => (false, t)

/-- Whether a text is a run of digits of a kind, with underscores anywhere. -/
def isRun (p : Char → Bool) (t : Text) : Bool := !t.isEmpty && t.all fun c => p c || c = '_'

/-- Whether a text is a decimal digit with a run behind it. -/
def isDecimalRun (t : Text) : Bool := (t.head?.any Text.isDigit) && isRun Text.isDigit t

def joined (t : Text) : Text := t.filter (· ≠ '_')

def isBinaryDigit (c : Char) : Bool := c = '0' || c = '1'

def isOctalDigit (c : Char) : Bool := '0' ≤ c && c ≤ '7'

/-- Whether a text is a number of sixtieths: one or two digits. -/
def isSixtieths (t : Text) : Bool :=
  match t with
  | [c] => Text.isDigit c
  | [c, d] => '0' ≤ c && c ≤ '5' && Text.isDigit d
  | _ => false

/-- The value of digit groups with colons between them, each counting sixty of the next. -/
def sexagesimal (groups : List Text) : Nat :=
  groups.foldl (fun n g => n * 60 + Text.readDigits 10 (joined g)) 0

def natural? (t : Text) : Option Nat :=
  match t with
  | ['0'] => some 0
  | '0' :: 'b' :: r => if isRun isBinaryDigit r then some (Text.readDigits 2 (joined r)) else none
  | '0' :: 'x' :: r => if isRun Text.isHexDigit r then some (Text.readDigits 16 (joined r)) else none
  | '0' :: r => if isRun isOctalDigit r then some (Text.readDigits 8 (joined r)) else none
  | _ =>
    match Text.splitOn ':' t with
    | [] => none
    | g :: gs => if isDecimalRun g && gs.all isSixtieths then some (sexagesimal (g :: gs)) else none

/-- The exponent of a floating-point number; its sign must be given. -/
def exponent? (t : Text) : Option Int :=
  match t with
  | [] => some 0
  | 'e' :: s :: r | 'E' :: s :: r =>
    if (s = '+' ∨ s = '-') ∧ !r.isEmpty ∧ r.all Text.isDigit then
      let n : Int := Text.readDigits 10 r
      some (if s = '-' then -n else n)
    else none
  | _ => none

def decimal? (signed : Bool) (t : Text) : Option Decimal := do
  let (whole, rest) ← Text.splitFirst? '.' t
  let (fraction, rest) := rest.span fun c => Text.isDigit c || c = '_'
  let ds := joined fraction
  match Text.splitOn ':' whole with
  | [w] =>
    let e ← exponent? rest
    if isDecimalRun w || (w.isEmpty && !signed && isDecimalRun fraction) then
      some ⟨Text.readDigits 10 (joined w ++ ds), e - ds.length⟩
    else none
  | w :: gs =>
    if isDecimalRun w && gs.all isSixtieths && rest.isEmpty then
      some ⟨sexagesimal (w :: gs) * tenTo ds.length + Text.readDigits 10 ds, -ds.length⟩
    else none
  | [] => none

def real? (t : Text) : Option Double :=
  let (negative, size) := sign t
  if [".inf".toList, ".Inf".toList, ".INF".toList].contains size then some (.infinite negative)
  else if [".nan".toList, ".NaN".toList, ".NAN".toList].contains t then some .undefined
  else (decimal? (size.length < t.length) size).map (.ofDecimal negative)

def integer? (t : Text) : Option Int :=
  let (negative, size) := sign t
  (natural? size).map fun n => if negative then -(n : Int) else n

/-! ## Days and times -/

/-- What stands behind a character that must come first. -/
def after? (c : Char) (t : Text) : Option Text :=
  match t with
  | d :: r => if d = c then some r else none
  | [] => none

/-- A day whose month and day have at least a number of digits. -/
def date? (least : Nat) (t : Text) : Option (Date × Text) := do
  let (year, t) ← Moment.numeral? 4 4 t
  let (month, t) ← Moment.numeral? least 2 (← after? '-' t)
  let (day, t) ← Moment.numeral? least 2 (← after? '-' t)
  return (⟨year, month, day⟩, t)

def isSpace (c : Char) : Bool := c = ' ' || c = '\t'

/-- What stands behind the mark between a day and a time. -/
def afterDay? (t : Text) : Option Text :=
  match t with
  | c :: r =>
    if c = 'T' ∨ c = 't' then some r
    else if isSpace c then some (r.dropWhile isSpace)
    else none
  | [] => none

/-- A time of day; its hour may have one digit. -/
def clock? (t : Text) : Option (Clock × Text) := do
  let (hour, t) ← Moment.numeral? 1 2 t
  let (minute, t) ← Moment.numeral? 2 2 (← after? ':' t)
  let (second, t) ← Moment.numeral? 2 2 (← after? ':' t)
  match t with
  | '.' :: r =>
    let (ds, r) := r.span Text.isDigit
    return (⟨hour, minute, second, Moment.microOfDigits ds⟩, r)
  | _ => return (⟨hour, minute, second, 0⟩, t)

/-- An offset from universal time that ends the text, in seconds. -/
def offset? (t : Text) : Option (Option Int) :=
  match t, t.dropWhile isSpace with
  | [], _ => some none
  | _, ['Z'] => some (some 0)
  | _, c :: r =>
    if c = '+' ∨ c = '-' then do
      let (hour, r) ← Moment.numeral? 1 2 r
      let (minute, r) ← match r with
        | ':' :: r => Moment.numeral? 2 2 r
        | r => some (0, r)
      let n : Int := (hour * 60 + minute) * 60
      if r.isEmpty then some (some (if c = '-' then -n else n)) else none
    else none
  | _, [] => none

/-- A day, or a day with a time. -/
def moment? (t : Text) : Option Moment :=
  match date? 2 t with
  | some (d, []) => some (.date d)
  | _ => do
    let (d, t) ← date? 1 t
    let (c, t) ← clock? (← afterDay? t)
    let offset ← offset? t
    return .stamp d c offset

def isValid : Moment → Bool
  | .date d => d.isValid
  | .clock c => c.isValid
  | .stamp d c offset => d.isValid && c.isValid && offset.all (·.natAbs < 86400)

/-! ## All of them -/

/-- The value of a plain scalar; none for a moment that does not exist, and for a lone sign of
equality, which has no value. -/
def ofPlain? (t : Text) : Option Value :=
  if nullWords.contains t then some .null
  else if t = ['='] then none
  else match boolean? t, integer? t, real? t, moment? t with
    | some b, _, _, _ => some (.boolean b)
    | _, some n, _, _ => some (.integer n)
    | _, _, some x, _ => some (.real x)
    | _, _, _, some m => if isValid m then some (.moment m) else none
    | none, none, none, none => some (.text t)

end Texdown.Yaml
