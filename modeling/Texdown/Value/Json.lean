import Texdown.Value.Basic

/-!
# JSON

The strict reader of JSON documents. Beyond the standard it knows the numbers that are infinite or
undefined. Of several values under one key the last one counts.
-/
namespace Texdown.Json

/-- What may stand between tokens. -/
def isSpace (c : Char) : Bool := c ∈ [' ', '\t', '\n', '\r']

def skipSpace (t : Text) : Text := t.dropWhile isSpace

/-! ## Numbers -/

def digits (t : Text) : Text × Text := t.span Text.isDigit

/-- The digits of a whole part: a zero stands alone. -/
def wholePart? (t : Text) : Option (Text × Text) :=
  match t with
  | '0' :: r => some (['0'], r)
  | _ => match digits t with
    | ([], _) => none
    | (ds, r) => some (ds, r)

/-- The digits behind a point; none if there is no point with digits behind it. -/
def fractionPart (t : Text) : Text × Text :=
  match t with
  | '.' :: r => match digits r with
    | ([], _) => ([], t)
    | (ds, r) => (ds, r)
  | _ => ([], t)

def exponentPart (t : Text) : Option Int × Text :=
  let signed (r : Text) : Bool × Text :=
    match r with
    | '-' :: r => (true, r)
    | '+' :: r => (false, r)
    | r => (false, r)
  match t with
  | c :: r =>
    if c = 'e' ∨ c = 'E' then
      let (negative, r) := signed r
      match digits r with
      | ([], _) => (none, t)
      | (ds, r) =>
        let n : Int := Text.readDigits 10 ds
        (some (if negative then -n else n), r)
    else (none, t)
  | [] => (none, t)

def number? (t : Text) : Option (Value × Text) := do
  let (negative, t) : Bool × Text := match t with
    | '-' :: r => (true, r)
    | r => (false, r)
  let (whole, t) ← wholePart? t
  let (fraction, t) := fractionPart t
  let (exponent, t) := exponentPart t
  if fraction.isEmpty && exponent.isNone then
    let n : Int := Text.readDigits 10 whole
    return (.integer (if negative then -n else n), t)
  else
    let d : Decimal := ⟨Text.readDigits 10 (whole ++ fraction), exponent.getD 0 - fraction.length⟩
    return (.real (.ofDecimal negative d), t)

/-! ## Texts -/

/-- The characters of the short escapes. -/
def shortEscapes : List (Char × Char) :=
  [('"', '"'), ('\\', '\\'), ('/', '/'), ('b', '\x08'), ('f', '\x0c'), ('n', '\n'), ('r', '\r'), ('t', '\t')]

/-- The value of four hexadecimal digits, and the rest. -/
def fourDigits? (t : Text) : Option (Nat × Text) :=
  let ds := t.take 4
  if ds.length = 4 ∧ ds.all Text.isHexDigit then some (Text.readDigits 16 ds, t.drop 4) else none

def isHighSurrogate (n : Nat) : Bool := 0xd800 ≤ n && n < 0xdc00

def isLowSurrogate (n : Nat) : Bool := 0xdc00 ≤ n && n < 0xe000

/-- The second half of a character that is written as two units. -/
def lowSurrogate? (t : Text) : Option (Nat × Text) :=
  match t with
  | '\\' :: 'u' :: r => (fourDigits? r).filter fun p => isLowSurrogate p.1
  | _ => none

/-- The character of an escape with four digits; a unit that stands for no character on its own is
replaced. -/
def unitEscape? (t : Text) : Option (Char × Text) := do
  let (n, rest) ← fourDigits? t
  if isHighSurrogate n then
    match lowSurrogate? rest with
    | some (k, rest) => return (Char.ofNat (0x10000 + (n - 0xd800) * 0x400 + (k - 0xdc00)), rest)
    | none => return ('\ufffd', rest)
  else if isLowSurrogate n then return ('\ufffd', rest)
  else return (Char.ofNat n, rest)

/-- The text up to the closing quote, and the rest. -/
def textEnd? : Nat → Text → Option (Text × Text)
  | 0, _ => none
  | fuel + 1, t =>
    match t with
    | [] => none
    | '"' :: r => some ([], r)
    | '\\' :: 'u' :: r => do
      let (c, r) ← unitEscape? r
      let (s, r) ← textEnd? fuel r
      return (c :: s, r)
    | '\\' :: c :: r => do
      let c ← shortEscapes.lookup c
      let (s, r) ← textEnd? fuel r
      return (c :: s, r)
    | c :: r =>
      if c.toNat < 0x20 || c = '\\' then none
      else do
        let (s, r) ← textEnd? fuel r
        return (c :: s, r)

/-! ## Values -/

def words : List (Text × Value) :=
  [("null".toList, .null), ("true".toList, .boolean true), ("false".toList, .boolean false),
   ("NaN".toList, .real .undefined), ("Infinity".toList, .real (.infinite false)),
   ("-Infinity".toList, .real (.infinite true))]

mutual

def value? : Nat → Text → Option (Value × Text)
  | 0, _ => none
  | fuel + 1, t =>
    match t with
    | '"' :: r => (textEnd? (r.length + 1) r).map fun p => (.text p.1, p.2)
    | '[' :: r =>
      match skipSpace r with
      | ']' :: r => some (.list [], r)
      | r => (items? fuel r).map fun p => (.list p.1, p.2)
    | '\x7b' :: r =>
      match skipSpace r with
      | '\x7d' :: r => some (.mapping [], r)
      | r => (entries? fuel [] r).map fun p => (.mapping p.1, p.2)
    | t =>
      match words.find? fun w => w.1.isPrefixOf t with
      | some w => some (w.2, t.drop w.1.length)
      | none => number? t

def items? : Nat → Text → Option (List Value × Text)
  | 0, _ => none
  | fuel + 1, t => do
    let (v, t) ← value? fuel t
    match skipSpace t with
    | ',' :: r =>
      let (vs, r) ← items? fuel (skipSpace r)
      return (v :: vs, r)
    | ']' :: r => return ([v], r)
    | _ => none

/-- The entries of a mapping up to its end, put behind earlier ones. -/
def entries? : Nat → List (Value × Value) → Text → Option (List (Value × Value) × Text)
  | 0, _, _ => none
  | fuel + 1, es, t =>
    match t with
    | '"' :: r => do
      let (key, t) ← textEnd? (r.length + 1) r
      match skipSpace t with
      | ':' :: r =>
        let (v, t) ← value? fuel (skipSpace r)
        let es := Value.put (.text key) v es
        match skipSpace t with
        | ',' :: r => entries? fuel es (skipSpace r)
        | '\x7d' :: r => return (es, r)
        | _ => none
      | _ => none
    | _ => none

end

def read? (t : Text) : Option Value := do
  let (v, rest) ← value? (2 * t.length + 1) (skipSpace t)
  if (skipSpace rest).isEmpty then some v else none

end Texdown.Json
