import Texdown.Value.Basic

/-!
# Scalars of TOML

Texts in four kinds of quotes, numbers, truth values, days and times. Every reader gives the value
and what stands behind it.
-/
namespace Texdown.Toml

/-! ## Characters -/

def isSpace (c : Char) : Bool := c = ' ' || c = '\t'

def isSpaceOrBreak (c : Char) : Bool := isSpace c || c = '\n'

/-- Control characters other than the tab stand in no text and in no comment. -/
def isBarred (c : Char) : Bool := (c.toNat < 0x20 || c.toNat = 0x7f) && c ≠ '\t'

/-- The characters that stand in a text of several lines. -/
def isBarredInLines (c : Char) : Bool := isBarred c && c ≠ '\n'

/-! ## Texts -/

/-- The characters of the short escapes. -/
def shortEscapes : List (Char × Char) :=
  [('b', '\x08'), ('t', '\t'), ('n', '\n'), ('f', '\x0c'), ('r', '\r'), ('"', '"'), ('\\', '\\')]

/-- The character of an escape with a number of hexadecimal digits. -/
def hexEscape? (width : Nat) (t : Text) : Option (Text × Text) :=
  let ds := t.take width
  let n := Text.readDigits 16 ds
  if ds.length = width ∧ ds.all Text.isHexDigit ∧ n.isValidChar then
    some ([Char.ofNat n], t.drop width)
  else none

/-- What a backslash before `t` stands for. In a text of several lines it may hide the end of a line
with all blanks behind it. -/
def escape? (lines : Bool) (t : Text) : Option (Text × Text) :=
  match t with
  | [] => none
  | 'u' :: r => hexEscape? 4 r
  | 'U' :: r => hexEscape? 8 r
  | c :: r =>
    match shortEscapes.lookup c with
    | some d => some ([d], r)
    | none =>
      match lines, t.dropWhile isSpace with
      | true, '\n' :: r => some ([], r.dropWhile isSpaceOrBreak)
      | _, _ => none

/-- The text up to the closing quotes, with its escapes resolved. -/
def quotedEnd? (lines : Bool) : Nat → Text → Option (Text × Text)
  | 0, _ => none
  | fuel + 1, t =>
    match t with
    | [] => none
    | '\\' :: r => do
      let (s, r) ← escape? lines r
      let (s', r) ← quotedEnd? lines fuel r
      return (s ++ s', r)
    | c :: r =>
      if c = '"' ∧ !lines then some ([], r)
      else if ['"', '"', '"'].isPrefixOf t then some ([], t.drop 3)
      else if (if lines then isBarredInLines c else isBarred c) then none
      else (quotedEnd? lines fuel r).map fun p => (c :: p.1, p.2)

/-- The text up to a closing delimiter, as it stands. -/
def literalEnd? (delimiter : Text) (barred : Char → Bool) (t : Text) : Option (Text × Text) := do
  let n ← Text.indexOf? delimiter t
  let s := t.take n
  if s.any barred then none else some (s, t.drop (n + delimiter.length))

/-- Up to two quotes that stand behind the three that close a text belong to it. -/
def withExtraQuotes (quote : Char) (p : Text × Text) : Text × Text :=
  let extra := (p.2.take 2).takeWhile (· = quote)
  (p.1 ++ extra, p.2.drop extra.length)

/-- A line end right behind opening quotes does not count. -/
def skipFirstBreak : Text → Text
  | '\n' :: r => r
  | t => t

def lineText? (t : Text) : Option (Text × Text) :=
  match t with
  | '"' :: r => quotedEnd? false (r.length + 1) r
  | '\'' :: r => literalEnd? ['\''] isBarred r
  | _ => none

def text? (t : Text) : Option (Text × Text) :=
  match t with
  | '"' :: '"' :: '"' :: r =>
    (quotedEnd? true (r.length + 1) (skipFirstBreak r)).map (withExtraQuotes '"')
  | '\'' :: '\'' :: '\'' :: r =>
    (literalEnd? ['\'', '\'', '\''] isBarredInLines (skipFirstBreak r)).map (withExtraQuotes '\'')
  | _ => lineText? t

/-! ## Numbers -/

/-- The rest of a run of digits, in which single underscores may stand between digits. -/
def digitRun (p : Char → Bool) : Text → Text × Text
  | '_' :: c :: r =>
    if p c then let (ds, r) := digitRun p r; (c :: ds, r) else ([], '_' :: c :: r)
  | c :: r => if p c then let (ds, r) := digitRun p r; (c :: ds, r) else ([], c :: r)
  | [] => ([], [])

/-- A run of digits that begins with one. -/
def digits? (p : Char → Bool) (t : Text) : Option (Text × Text) :=
  match t with
  | c :: _ => if p c then some (digitRun p t) else none
  | [] => none

def isBinaryDigit (c : Char) : Bool := c = '0' || c = '1'

def isOctalDigit (c : Char) : Bool := '0' ≤ c && c ≤ '7'

/-- A whole number in another base. -/
def based? (t : Text) : Option (Value × Text) :=
  let number (base : Nat) (p : Char → Bool) (r : Text) : Option (Value × Text) :=
    (digits? p r).map fun q => (.integer (Text.readDigits base q.1), q.2)
  match t with
  | '0' :: 'x' :: r => number 16 Text.isHexDigit r
  | '0' :: 'o' :: r => number 8 isOctalDigit r
  | '0' :: 'b' :: r => number 2 isBinaryDigit r
  | _ => none

/-- A sign, if there is one: whether it is a minus. -/
def sign (t : Text) : Bool × Text :=
  match t with
  | '-' :: r => (true, r)
  | '+' :: r => (false, r)
  | _ => (false, t)

/-- A decimal number. It is whole if it has neither a point nor an exponent. -/
def decimal? (t : Text) : Option (Value × Text) := do
  let (negative, t) := sign t
  let (whole, t) ← match t with
    | '0' :: r => some (['0'], r)
    | t => digits? Text.isDigit t
  let (fraction, t) : Text × Text := match t with
    | '.' :: r => (digits? Text.isDigit r).getD ([], t)
    | t => ([], t)
  let exponent : Option (Int × Text) := match t with
    | c :: r =>
      if c = 'e' ∨ c = 'E' then
        (digits? Text.isDigit (sign r).2).map fun p =>
          let n : Int := Text.readDigits 10 p.1
          (if (sign r).1 then -n else n, p.2)
      else none
    | [] => none
  match fraction, exponent with
  | [], none =>
    let n : Int := Text.readDigits 10 whole
    return (.integer (if negative then -n else n), t)
  | _, _ =>
    let (e, t) := exponent.getD (0, t)
    let d : Decimal := ⟨Text.readDigits 10 (whole ++ fraction), e - fraction.length⟩
    return (.real (.ofDecimal negative d), t)

/-! ## Days and times -/

/-- A numeral of fixed width within bounds. -/
def field? (width low high : Nat) (t : Text) : Option (Nat × Text) :=
  (Moment.numeral? width width t).filter fun p => low ≤ p.1 && p.1 ≤ high

/-- What stands behind a character that must come first. -/
def after? (c : Char) (t : Text) : Option Text :=
  match t with
  | d :: r => if d = c then some r else none
  | [] => none

/-- The day of a date; there may be no such day. -/
def date? (t : Text) : Option (Date × Text) := do
  let (year, t) ← field? 4 0 9999 t
  let (month, t) ← field? 2 1 12 (← after? '-' t)
  let (day, t) ← field? 2 1 31 (← after? '-' t)
  return (⟨year, month, day⟩, t)

/-- A fraction of a second, in millionths. -/
def micro (t : Text) : Nat × Text :=
  match t with
  | '.' :: r =>
    match r.takeWhile Text.isDigit with
    | [] => (0, t)
    | ds => (Moment.microOfDigits ds, r.drop ds.length)
  | _ => (0, t)

def clock? (t : Text) : Option (Clock × Text) := do
  let (hour, t) ← field? 2 0 23 t
  let (minute, t) ← field? 2 0 59 (← after? ':' t)
  let (second, t) ← field? 2 0 59 (← after? ':' t)
  let (micro, t) := micro t
  return (⟨hour, minute, second, micro⟩, t)

/-- An offset from universal time, in seconds. -/
def offset? (t : Text) : Option (Int × Text) :=
  match t with
  | [] => none
  | c :: r =>
    if c = 'Z' ∨ c = 'z' then some (0, r)
    else if c = '+' ∨ c = '-' then do
      let (hour, r) ← field? 2 0 23 r
      let (minute, r) ← field? 2 0 59 (← after? ':' r)
      let n : Int := (hour * 60 + minute) * 60
      return (if c = '-' then -n else n, r)
    else none

/-- The time behind the day of a date. -/
def timeOfDay? (t : Text) : Option ((Clock × Option Int) × Text) :=
  match t with
  | [] => none
  | c :: r =>
    if c = 'T' ∨ c = 't' ∨ c = ' ' then do
      let (clock, r) ← clock? r
      match offset? r with
      | some (offset, r) => return ((clock, some offset), r)
      | none => return ((clock, none), r)
    else none

/-! ## Scalars -/

def words : List (Text × Value) :=
  [("true".toList, .boolean true), ("false".toList, .boolean false),
   ("inf".toList, .real (.infinite false)), ("+inf".toList, .real (.infinite false)),
   ("-inf".toList, .real (.infinite true)), ("nan".toList, .real .undefined),
   ("+nan".toList, .real .undefined), ("-nan".toList, .real .undefined)]

/-- A value that is neither a list nor a table. What begins as a date is one, or an error if there is
no such day. -/
def scalar? (t : Text) : Option (Value × Text) :=
  match t with
  | '"' :: _ | '\'' :: _ => (text? t).map fun p => (.text p.1, p.2)
  | _ =>
    match date? t with
    | some (d, r) =>
      if d.isValid then
        match timeOfDay? r with
        | some ((c, offset), r) => some (.moment (.stamp d c offset), r)
        | none => some (.moment (.date d), r)
      else none
    | none =>
      match clock? t, words.find? fun w => w.1.isPrefixOf t with
      | some (c, r), _ => some (.moment (.clock c), r)
      | none, some w => some (w.2, t.drop w.1.length)
      | none, none => (based? t).orElse fun _ => decimal? t

end Texdown.Toml
