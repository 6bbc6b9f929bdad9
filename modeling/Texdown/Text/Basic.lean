/-!
# Texts

A text is a list of characters, and every offset, range and length in this library counts
characters. This module holds the searches and spellings the other modules share.

Results:
* `indexOf?_eq_some`: a reported occurrence is one.
* `eq_append_of_splitLast?`: what is split at a character is made up of both parts.
* `splitOn_ne_nil`: splitting at a character never gives nothing.
-/
namespace Texdown

/-- A text: its characters in order. -/
abbrev Text := List Char

abbrev Bytes := List UInt8

namespace Text

/-! ## Searching -/

/-- The offset of the leftmost occurrence of `needle`. -/
def indexOf? (needle : Text) : Text → Option Nat
  | [] => if needle.isEmpty then some 0 else none
  | c :: r => if needle.isPrefixOf (c :: r) then some 0 else (indexOf? needle r).map (· + 1)

def occursIn (needle t : Text) : Bool := (indexOf? needle t).isSome

theorem indexOf?_eq_some {needle t : Text} {i : Nat} (h : indexOf? needle t = some i) :
    needle <+: t.drop i := by
  induction t generalizing i with
  | nil =>
    simp only [indexOf?] at h
    split at h
    · next he => cases h; simpa using he
    · cases h
  | cons c r ih =>
    simp only [indexOf?] at h
    split at h
    · next hp => cases h; simpa using hp
    · obtain ⟨j, hj, rfl⟩ := Option.map_eq_some_iff.1 h
      simpa using ih hj

def splitOn (sep : Char) : Text → List Text
  | [] => [[]]
  | c :: r =>
    if c = sep then [] :: splitOn sep r
    else match splitOn sep r with
      | [] => [[c]]
      | p :: ps => (c :: p) :: ps

theorem splitOn_ne_nil (sep : Char) (t : Text) : splitOn sep t ≠ [] := by
  cases t with
  | nil => simp [splitOn]
  | cons c r =>
    simp only [splitOn]
    split
    · simp
    · split <;> simp

def substitute (old new : Char) (t : Text) : Text := t.map fun c => if c = old then new else c

/-- The last occurrence of a character splits the text in two. -/
def splitLast? (sep : Char) (t : Text) : Option (Text × Text) :=
  if sep ∈ t then
    let after := (t.reverse.takeWhile (· ≠ sep)).reverse
    some (t.take (t.length - after.length - 1), after)
  else none

theorem eq_append_of_splitLast? {sep : Char} {t a b : Text} (h : splitLast? sep t = some (a, b)) :
    a ++ sep :: b = t := by
  unfold splitLast? at h
  split at h
  · rename_i hmem
    simp only [Option.some.injEq, Prod.mk.injEq] at h
    obtain ⟨ha, hb⟩ := h
    have hsplit := List.takeWhile_append_dropWhile (p := fun c => decide (c ≠ sep)) (l := t.reverse)
    have hall := List.all_takeWhile (p := fun c => decide (c ≠ sep)) (l := t.reverse)
    have hhead := List.head?_dropWhile_not (fun c => decide (c ≠ sep)) t.reverse
    cases hr : t.reverse.dropWhile (fun c => decide (c ≠ sep)) with
    | nil =>
      rw [hr, List.append_nil] at hsplit
      rw [hsplit] at hall
      have := List.all_eq_true.1 hall sep (by simpa using hmem)
      simp at this
    | cons c r =>
      rw [hr] at hsplit hhead
      have hc : c = sep := by simpa using hhead
      subst hc
      have ht : t = r.reverse ++ c :: b := by
        have := congrArg List.reverse hsplit
        rw [List.reverse_reverse, List.reverse_append, hb] at this
        simpa using this.symm
      rw [hb] at ha
      have hn : t.length - b.length - 1 = r.reverse.length := by
        rw [ht]; simp; omega
      rw [← ha, hn, ht, List.take_left]
  · cases h

/-- The first occurrence of a character splits the text in two. -/
def splitFirst? (sep : Char) (t : Text) : Option (Text × Text) :=
  if sep ∈ t then some (t.takeWhile (· ≠ sep), (t.dropWhile (· ≠ sep)).drop 1) else none

/-- The text without the characters at its end that satisfy `p`. -/
def dropEndWhile (p : Char → Bool) (t : Text) : Text := (t.reverse.dropWhile p).reverse

/-- The text without the characters at either end that satisfy `p`. -/
def trimWhile (p : Char → Bool) (t : Text) : Text := dropEndWhile p (t.dropWhile p)

/-- An element at an offset; a negative offset counts from the end. -/
def at? (t : Text) (i : Int) : Option Char :=
  if i < 0 then (if -i ≤ t.length then t[(t.length + i).toNat]? else none) else t[i.toNat]?

/-- The text with the character at an offset replaced; a negative offset counts from the end. -/
def setAt (t : Text) (i : Int) (c : Char) : Text :=
  t.set (if i < 0 then (t.length + i).toNat else i.toNat) c

/-- The part between two offsets; a negative offset counts from the end. -/
def between (t : Text) (i j : Int) : Text :=
  let clamp (k : Int) : Nat := (if k < 0 then t.length + k else k).toNat
  (t.drop (clamp i)).take (clamp j - clamp i)

/-! ## Characters -/

def isDigit (c : Char) : Bool := '0' ≤ c && c ≤ '9'

/-- A letter from a to z, in either case. -/
def isLetter (c : Char) : Bool := ('a' ≤ c && c ≤ 'z') || ('A' ≤ c && c ≤ 'Z')

def isLetterOrDigit (c : Char) : Bool := isLetter c || isDigit c

def isHexDigit (c : Char) : Bool :=
  isDigit c || ('a' ≤ c && c ≤ 'f') || ('A' ≤ c && c ≤ 'F')

def hexValue (c : Char) : Nat :=
  if isDigit c then c.toNat - '0'.toNat
  else if 'a' ≤ c then c.toNat - 'a'.toNat + 10
  else c.toNat - 'A'.toNat + 10

/-! ## Numerals -/

/-- The value of a run of digits in a base, the most significant first. -/
def readDigits (base : Nat) (t : Text) : Nat := t.foldl (fun n c => n * base + hexValue c) 0

def ofNat (n : Nat) : Text := Nat.toDigits 10 n

theorem isDigit_of_mem_ofNat {n : Nat} {c : Char} (h : c ∈ ofNat n) : isDigit c = true :=
  Nat.isDigit_of_mem_toDigits (by decide) (by decide) h

def ofInt : Int → Text
  | .ofNat n => ofNat n
  | .negSucc n => '-' :: ofNat (n + 1)

/-- The hexadecimal numeral of `n`, padded with zeros to `width` digits. -/
def hex (width n : Nat) : Text :=
  let ds := Nat.toDigits 16 n
  List.replicate (width - ds.length) '0' ++ ds

/-- A plain decimal numeral, if the text is one. -/
def toNat? (t : Text) : Option Nat :=
  if t.isEmpty || !t.all isDigit then none else some (readDigits 10 t)

end Text
end Texdown
