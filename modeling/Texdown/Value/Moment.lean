import Texdown.Text.Basic

/-!
# Moments

Days of the calendar, times of day, and both together, perhaps with an offset from universal time.
-/
namespace Texdown

/-- A day of the calendar. -/
structure Date where
  year : Nat
  month : Nat
  day : Nat
  deriving DecidableEq, Repr

/-- A time of day. -/
structure Clock where
  hour : Nat
  minute : Nat
  second : Nat
  micro : Nat
  deriving DecidableEq, Repr

/-- A point in time, as far as it is given. The offset is in seconds. -/
inductive Moment where
  | date (d : Date)
  | clock (c : Clock)
  | stamp (d : Date) (c : Clock) (offset : Option Int)
  deriving DecidableEq, Repr

namespace Date

def isLeap (year : Nat) : Bool := year % 4 == 0 && (year % 100 != 0 || year % 400 == 0)

def daysIn (year month : Nat) : Nat :=
  if month = 2 then (if isLeap year then 29 else 28)
  else if month ∈ [4, 6, 9, 11] then 30 else 31

/-- Whether there is such a day. -/
def isValid (d : Date) : Bool :=
  1 ≤ d.year && 1 ≤ d.month && d.month ≤ 12 && 1 ≤ d.day && d.day ≤ daysIn d.year d.month

end Date

namespace Clock

/-- Whether there is such a time. -/
def isValid (c : Clock) : Bool := c.hour < 24 && c.minute < 60 && c.second < 60 && c.micro < 1000000

end Clock

namespace Moment

def padded (width n : Nat) : Text :=
  let ds := Text.ofNat n
  List.replicate (width - ds.length) '0' ++ ds

def dateText (d : Date) : Text :=
  padded 4 d.year ++ '-' :: padded 2 d.month ++ '-' :: padded 2 d.day

def clockText (c : Clock) : Text :=
  padded 2 c.hour ++ ':' :: padded 2 c.minute ++ ':' :: padded 2 c.second
    ++ (if c.micro = 0 then [] else '.' :: padded 6 c.micro)

/-- An offset in hours and minutes, and seconds if there are any. -/
def offsetText (offset : Int) : Text :=
  let n := offset.natAbs
  (if offset < 0 then '-' else '+') :: padded 2 (n / 3600) ++ ':' :: padded 2 (n / 60 % 60)
    ++ (if n % 60 = 0 then [] else ':' :: padded 2 (n % 60))

def text : Moment → Text
  | date d => dateText d
  | clock c => clockText c
  | stamp d c offset => dateText d ++ ' ' :: clockText c ++ (offset.map offsetText).getD []

def name : Moment → Text
  | date _ => "date".toList
  | clock _ => "time".toList
  | stamp .. => "datetime".toList

/-- The name with the library of the calendar in front. -/
def fullName (m : Moment) : Text := "datetime.".toList ++ m.name

def dateParts (d : Date) : List Nat := [d.year, d.month, d.day]

/-- The parts of a time, without the smallest ones if they are zero. -/
def clockParts (c : Clock) : List Nat :=
  [c.hour, c.minute]
    ++ (if c.micro ≠ 0 then [c.second, c.micro] else if c.second ≠ 0 then [c.second] else [])

def offsetPart (offset : Int) : Text :=
  "tzinfo=datetime.timezone".toList ++
    if offset = 0 then ".utc".toList
    else if offset < 0 then
      "(datetime.timedelta(days=-1, seconds=".toList ++ Text.ofInt (86400 + offset) ++ "))".toList
    else "(datetime.timedelta(seconds=".toList ++ Text.ofInt offset ++ "))".toList

/-- The form that names the parts. -/
def shown (m : Moment) : Text :=
  let parts : List Text := match m with
    | date d => (dateParts d).map Text.ofNat
    | clock c => (clockParts c).map Text.ofNat
    | stamp d c offset => (dateParts d ++ clockParts c).map Text.ofNat ++ (offset.map offsetPart).toList
  m.fullName ++ '(' :: List.intercalate ", ".toList parts ++ [')']

/-! ## Reading parts -/

/-- A numeral of at least `least` and at most `most` digits, and the rest. -/
def numeral? (least most : Nat) (t : Text) : Option (Nat × Text) :=
  let ds := (t.take most).takeWhile Text.isDigit
  if least ≤ ds.length then some (Text.readDigits 10 ds, t.drop ds.length) else none

/-- Fractions of a second count as far as millionths go. -/
def microOfDigits (ds : Text) : Nat := Text.readDigits 10 ((ds ++ List.replicate 6 '0').take 6)

end Moment
end Texdown
