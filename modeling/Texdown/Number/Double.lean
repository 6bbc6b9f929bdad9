import Texdown.Text.Basic

/-!
# Floating-point numbers

Numbers of 53 significant bits, with infinities and a value that is no number. A decimal numeral is
read as the nearest of them, ties going to the even one. A number is written with the fewest digits
that read back as it; of two such numerals the nearer one is taken. All of it is exact arithmetic
on natural numbers.
-/
namespace Texdown

/-- A floating-point number: `mantissa · 2 ^ exponent`, or no finite value. -/
inductive Double where
  | finite (negative : Bool) (mantissa : Nat) (exponent : Int)
  | infinite (negative : Bool)
  | undefined
  deriving DecidableEq, Repr

/-- A decimal numeral: `digits · 10 ^ exponent`. -/
structure Decimal where
  digits : Nat
  exponent : Int
  deriving DecidableEq, Repr

def twoTo (n : Int) : Nat := Nat.pow 2 n.toNat

def tenTo (n : Int) : Nat := Nat.pow 10 n.toNat

namespace Decimal

def fraction (d : Decimal) : Nat × Nat := (d.digits * tenTo d.exponent, tenTo (-d.exponent))

def ofNat (n : Nat) : Decimal := ⟨n, 0⟩

def width (n : Nat) : Nat := (Nat.toDigits 10 n).length

/-- The numeral without zeros at its end, at most `fuel` of them. -/
def trim : Nat → Decimal → Decimal
  | 0, d => d
  | fuel + 1, d => if d.digits % 10 = 0 ∧ d.digits ≠ 0 then trim fuel ⟨d.digits / 10, d.exponent + 1⟩ else d

/-- The power of ten of the first digit. -/
def order (d : Decimal) : Int := d.exponent + width d.digits - 1

end Decimal

/-- A fraction rounded to the nearest whole number, ties to the even one. -/
def roundedRatio (num den : Nat) : Nat :=
  let q := num / den
  let r := 2 * (num % den)
  if r < den then q else if den < r then q + 1 else if q % 2 = 0 then q else q + 1

namespace Double

def precision : Nat := 53

def leastExponent : Int := -1074

def greatestExponent : Int := 971

/-- Numerals whose first digit is at this power of ten or above are infinite. -/
def decimalCeiling : Int := 310

/-- Numerals whose first digit is at this power of ten or below are zero. -/
def decimalFloor : Int := -330

/-- A fraction scaled by a power of two and rounded. -/
def scaled (num den : Nat) (exponent : Int) : Nat :=
  roundedRatio (num * twoTo (-exponent)) (den * twoTo exponent)

def ofFraction (negative : Bool) (num den : Nat) : Double :=
  let guess : Int := (num.log2 : Int) - den.log2 - (precision - 1)
  let fits (e : Int) : Bool := (num * twoTo (-e)) / (den * twoTo e) < twoTo precision
  let lower := guess - 1
  let exponent := max leastExponent (if fits lower then lower else if fits guess then guess else guess + 1)
  let mantissa := scaled num den exponent
  let (mantissa, exponent) :=
    if mantissa = twoTo precision then (twoTo (precision - 1), exponent + 1) else (mantissa, exponent)
  if greatestExponent < exponent then .infinite negative else .finite negative mantissa exponent

def ofDecimal (negative : Bool) (d : Decimal) : Double :=
  if d.digits = 0 ∨ d.order ≤ decimalFloor then .finite negative 0 leastExponent
  else if decimalCeiling ≤ d.order then .infinite negative
  else ofFraction negative d.fraction.1 d.fraction.2

def ofInt (n : Int) : Double := ofDecimal (n < 0) (.ofNat n.natAbs)

def fraction (mantissa : Nat) (exponent : Int) : Nat × Nat :=
  (mantissa * twoTo exponent, twoTo (-exponent))

/-! ## Order -/

def signed (negative : Bool) (n : Nat) : Int := if negative then -n else n

def ltInt (x : Double) (n : Int) : Bool :=
  match x with
  | undefined => false
  | infinite negative => negative
  | finite negative m e =>
    let (num, den) := fraction m e
    signed negative num < n * den

def eqInt (x : Double) (n : Int) : Bool :=
  match x with
  | finite negative m e =>
    let (num, den) := fraction m e
    signed negative num == n * den
  | _ => false

/-! ## Writing -/

/-- The power of ten of the first digit of a positive fraction, searched downwards from `top`. -/
def orderOf (num den : Nat) : Nat → Int → Int
  | 0, top => top
  | fuel + 1, top =>
    if den * tenTo top ≤ num * tenTo (-top) then top else orderOf num den fuel (top - 1)

/-- The two neighbours of a fraction among the numerals with a given exponent, the nearer one first;
of two equally near ones the even one first. -/
def neighbours (num den : Nat) (exponent : Int) : List Decimal :=
  let num := num * tenTo (-exponent)
  let den := den * tenTo exponent
  let near := roundedRatio num den
  let below := num / den
  let far := if near = below then below + 1 else below
  [⟨near, exponent⟩, ⟨far, exponent⟩]

/-- The first numeral that reads back, with `digits` digits or more. -/
def shortestFrom (num den : Nat) (x : Double) (order : Int) : Nat → Nat → Decimal
  | 0, digits => ⟨roundedRatio (num * tenTo (digits - 1 - order)) (den * tenTo (order - digits + 1)),
      order - digits + 1⟩
  | fuel + 1, digits =>
    match (neighbours num den (order - digits + 1)).find? fun d => ofDecimal false d == x with
    | some d => d
    | none => shortestFrom num den x order fuel (digits + 1)

/-- The most digits that are ever needed. -/
def mostDigits : Nat := 17

/-- The numeral with the fewest digits that reads back. -/
def shortest (mantissa : Nat) (exponent : Int) : Decimal :=
  if mantissa = 0 then ⟨0, 0⟩
  else
    let (num, den) := fraction mantissa exponent
    let order := orderOf num den 640 309
    (shortestFrom num den (.finite false mantissa exponent) order mostDigits 1).trim mostDigits

/-- How a numeral is laid out: the orders from `low` up to below `high` are written positionally,
and a whole number may keep a zero behind the point. -/
structure Layout where
  low : Int
  high : Int
  keepsPoint : Bool
  deriving DecidableEq, Repr

def exponentText (n : Int) : Text :=
  let ds := Text.ofNat n.natAbs
  (if n < 0 then '-' else '+') :: (if ds.length < 2 then '0' :: ds else ds)

/-- A numeral without a sign. -/
def Layout.write (l : Layout) (d : Decimal) : Text :=
  let ds := Text.ofNat d.digits
  let order := d.order
  if d.digits = 0 then (if l.keepsPoint then "0.0".toList else ['0'])
  else if l.low ≤ order ∧ order < l.high then
    if 0 ≤ d.exponent then
      ds ++ List.replicate d.exponent.toNat '0' ++ (if l.keepsPoint then ['.', '0'] else [])
    else if 0 ≤ order then ds.take (order.toNat + 1) ++ '.' :: ds.drop (order.toNat + 1)
    else '0' :: '.' :: List.replicate (-order - 1).toNat '0' ++ ds
  else
    let fractional := ds.drop 1
    ds.take 1 ++ (if fractional.isEmpty then [] else '.' :: fractional) ++ 'e' :: exponentText order

/-- The sign of a number, and its size if it is finite. -/
def write (size : Nat → Int → Text) : Double → Text
  | undefined => "nan".toList
  | infinite negative => (if negative then ['-'] else []) ++ "inf".toList
  | finite negative m e => (if negative then ['-'] else []) ++ size m e

/-- Numbers are written positionally below `10 ^ 16`, and always with a point or an exponent. -/
def plainLayout : Layout := ⟨-4, 16, true⟩

/-- The shortest numeral that reads back. -/
def text (x : Double) : Text := x.write fun m e => plainLayout.write (shortest m e)

def fewDigits : Nat := 6

/-- Short numerals are written positionally as far as their digits go. -/
def shortLayout : Layout := ⟨-4, fewDigits, false⟩

def roundedSize (m : Nat) (e : Int) : Decimal :=
  if m = 0 then ⟨0, 0⟩
  else
    let (num, den) := fraction m e
    let exponent := orderOf num den 640 309 - fewDigits + 1
    let digits := roundedRatio (num * tenTo (-exponent)) (den * tenTo exponent)
    (⟨digits, exponent⟩ : Decimal).trim (fewDigits + 1)

def shortText (x : Double) : Text := x.write fun m e => shortLayout.write (roundedSize m e)

end Double
end Texdown
