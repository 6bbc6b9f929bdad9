import Texdown.Text.Basic
import Texdown.Text.NamedReference

/-!
# Character references

A document may name a character between `&` and `;`, by a name or by its code point in decimal or
hexadecimal. `decodeReferences` reads complete references in one pass: what a reference stands for
is never read again. `unescape` also reads the incomplete forms that old documents use.
-/
namespace Texdown.Text

/-! ## Code points -/

/-- What the code points from 0x80 to 0x9f stand for in references: the characters of the Windows
code page 1252, where it has any. -/
def windowsCodes : List Nat :=
  [0x20ac, 0x81, 0x201a, 0x192, 0x201e, 0x2026, 0x2020, 0x2021, 0x2c6, 0x2030, 0x160, 0x2039,
   0x152, 0x8d, 0x17d, 0x8f, 0x90, 0x2018, 0x2019, 0x201c, 0x201d, 0x2022, 0x2013, 0x2014,
   0x2dc, 0x2122, 0x161, 0x203a, 0x153, 0x9d, 0x17e, 0x178]

/-- Controls and noncharacters, which references may not stand for. -/
def isForbiddenCode (n : Nat) : Bool :=
  (1 ≤ n && n ≤ 8) || n == 0xb || (0xe ≤ n && n ≤ 0x1f) || (0x7f ≤ n && n ≤ 0x9f)
    || (0xfdd0 ≤ n && n ≤ 0xfdef) || n % 0x10000 == 0xfffe || n % 0x10000 == 0xffff

def codeReference (n : Nat) : Text :=
  if n = 0 then ['\ufffd']
  else if 0x80 ≤ n ∧ n ≤ 0x9f then [Char.ofNat (windowsCodes.getD (n - 0x80) n)]
  else if (0xd800 ≤ n ∧ n ≤ 0xdfff) ∨ 0x10ffff < n then ['\ufffd']
  else if isForbiddenCode n then []
  else [Char.ofNat n]

/-- The text that a name between `&` and `;` stands for. -/
def namedReference? (name : Text) : Option Text :=
  (namedReferences.lookup (String.ofList name)).map String.toList

/-- The text that a name without a semicolon stands for. -/
def bareReference? (name : Text) : Option Text :=
  if bareReferenceNames.contains (String.ofList name) then namedReference? name else none

/-! ## Complete references -/

/-- A run of at least one and at most `limit` characters that ends at a semicolon, and what follows
the semicolon. -/
def untilSemicolon? (p : Char → Bool) (limit : Nat) (t : Text) : Option (Text × Text) :=
  match t.takeWhile p, t.dropWhile p with
  | run, ';' :: rest => if 1 ≤ run.length ∧ run.length ≤ limit then some (run, rest) else none
  | _, _ => none

/-- Reads the reference that follows an ampersand: what it stands for, and what follows it. A name
that stands for nothing is kept as it is written. -/
def reference? : Text → Option (Text × Text)
  | '#' :: 'x' :: r => hexadecimal r
  | '#' :: 'X' :: r => hexadecimal r
  | '#' :: r => (untilSemicolon? isDigit 7 r).map fun (ds, rest) => (codeReference (readDigits 10 ds), rest)
  | c :: r =>
    if isLetter c then
      (untilSemicolon? isLetterOrDigit 31 r).map fun (name, rest) =>
        ((namedReference? (c :: name)).getD ('&' :: c :: name ++ [';']), rest)
    else none
  | [] => none
where
  /-- The digits of a hexadecimal reference. -/
  hexadecimal (r : Text) : Option (Text × Text) :=
    (untilSemicolon? isHexDigit 6 r).map fun (ds, rest) => (codeReference (readDigits 16 ds), rest)

theorem length_untilSemicolon? {p : Char → Bool} {limit : Nat} {t run rest : Text}
    (h : untilSemicolon? p limit t = some (run, rest)) : rest.length < t.length := by
  have hl : (t.dropWhile p).length ≤ t.length := (List.dropWhile_sublist p).length_le
  unfold untilSemicolon? at h
  split at h
  · next tail heq =>
    split at h
    · cases h
      rw [heq, List.length_cons] at hl
      omega
    · cases h
  · cases h

theorem length_reference? {t s rest : Text} (h : reference? t = some (s, rest)) :
    rest.length < t.length := by
  unfold reference? at h
  split at h
  all_goals try contradiction
  · obtain ⟨⟨a, b⟩, hu, he⟩ := Option.map_eq_some_iff.1 h
    have := length_untilSemicolon? hu
    cases he; simp only [List.length_cons]; omega
  · obtain ⟨⟨a, b⟩, hu, he⟩ := Option.map_eq_some_iff.1 h
    have := length_untilSemicolon? hu
    cases he; simp only [List.length_cons]; omega
  · obtain ⟨⟨a, b⟩, hu, he⟩ := Option.map_eq_some_iff.1 h
    have := length_untilSemicolon? hu
    cases he; simp only [List.length_cons]; omega
  · split at h
    · obtain ⟨⟨a, b⟩, hu, he⟩ := Option.map_eq_some_iff.1 h
      have := length_untilSemicolon? hu
      cases he; simp only [List.length_cons]; omega
    · cases h

/-- The text with every complete reference replaced by what it stands for. -/
def decodeReferences (t : Text) : Text :=
  match t with
  | [] => []
  | c :: r =>
    if c = '&' then
      match _h : reference? r with
      | some (s, rest) => s ++ decodeReferences rest
      | none => '&' :: decodeReferences r
    else c :: decodeReferences r
termination_by t.length
decreasing_by
  · have := length_reference? _h; simp only [List.length_cons]; omega
  · simp
  · simp

/-! ## Incomplete references -/

/-- The characters that no name holds. -/
def endsName (c : Char) : Bool := c ∈ ['\t', '\n', '\x0c', ' ', '<', '&', '#', ';']

/-- The longest beginning of `name`, of at least two characters, that is read without a semicolon;
the rest of the name stays. -/
def bareBeginning? (name : Text) : Nat → Option Text
  | 0 => none
  | n + 1 =>
    if n + 1 < 2 then none
    else match bareReference? (name.take (n + 1)) with
      | some s => some (s ++ name.drop (n + 1))
      | none => bareBeginning? name n

/-- The text that a name stands for, with or without its semicolon. -/
def looseName (name : Text) (closed : Bool) : Text :=
  let written := name ++ (if closed then [';'] else [])
  match if closed then namedReference? name else bareReference? name with
  | some s => s
  | none => (bareBeginning? written (written.length - 1)).getD ('&' :: written)

/-- What follows an optional semicolon, and whether there is one. -/
def dropSemicolon : Text → Bool × Text
  | ';' :: r => (true, r)
  | r => (false, r)

/-- Reads the reference that follows an ampersand, complete or not. -/
def looseReference? (t : Text) : Option (Text × Text) :=
  let digits (base : Nat) (p : Char → Bool) (r : Text) : Option (Text × Text) :=
    let ds := r.takeWhile p
    if ds.isEmpty then none
    else some (codeReference (readDigits base ds), (dropSemicolon (r.dropWhile p)).2)
  match t with
  | '#' :: 'x' :: r => digits 16 isHexDigit r
  | '#' :: 'X' :: r => digits 16 isHexDigit r
  | '#' :: r => digits 10 isDigit r
  | r =>
    let name := (r.takeWhile (!endsName ·)).take 32
    if name.isEmpty then none
    else
      let (closed, rest) := dropSemicolon (r.drop name.length)
      some (looseName name closed, rest)

/-- The text with every reference replaced, complete or not. -/
def unescape (t : Text) : Text :=
  go t.length t
where
  /-- The first argument bounds the number of characters. -/
  go : Nat → Text → Text
    | 0, t => t
    | _, [] => []
    | n + 1, c :: r =>
      if c = '&' then
        match looseReference? r with
        | some (s, rest) => s ++ go n rest
        | none => '&' :: go n r
      else c :: go n r

end Texdown.Text
