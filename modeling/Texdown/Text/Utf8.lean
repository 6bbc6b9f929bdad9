import Texdown.Text.Basic

/-!
# UTF-8

Texts are written as UTF-8. Bytes are read either strictly or leniently: a lenient reading puts
one replacement character in place of every maximal run of bytes that begins a sequence and does
not complete it.

Results:
* `ofUtf8Lossy_ascii`: ASCII bytes are characters of their own.
-/
namespace Texdown.Text

def utf8Char (c : Char) : Bytes :=
  let n := c.toNat
  let last (unit : Nat) : UInt8 := UInt8.ofNat (0x80 + n / unit % 64)
  if n < 0x80 then [UInt8.ofNat n]
  else if n < 0x800 then [UInt8.ofNat (0xc0 + n / 64), last 1]
  else if n < 0x10000 then [UInt8.ofNat (0xe0 + n / 4096), last 64, last 1]
  else [UInt8.ofNat (0xf0 + n / 262144), last 4096, last 64, last 1]

def toUtf8 (t : Text) : Bytes := t.flatMap utf8Char

/-- How a sequence begins: the number of bytes that continue it, the bits of its first byte, and
the range of its second byte, which excludes overlong forms, surrogates and values past the last
code point. -/
structure Utf8Lead where
  more : Nat
  bits : Nat
  low : Nat := 0x80
  high : Nat := 0xbf
  deriving DecidableEq, Repr

/-- The sequence that a byte begins, if any. -/
def utf8Lead? (b : Nat) : Option Utf8Lead :=
  if b < 0x80 then some ⟨0, b, 0x80, 0xbf⟩
  else if b < 0xc2 then none
  else if b < 0xe0 then some ⟨1, b - 0xc0, 0x80, 0xbf⟩
  else if b = 0xe0 then some ⟨2, 0, 0xa0, 0xbf⟩
  else if b = 0xed then some ⟨2, 0xd, 0x80, 0x9f⟩
  else if b < 0xf0 then some ⟨2, b - 0xe0, 0x80, 0xbf⟩
  else if b = 0xf0 then some ⟨3, 0, 0x90, 0xbf⟩
  else if b < 0xf4 then some ⟨3, b - 0xf0, 0x80, 0xbf⟩
  else if b = 0xf4 then some ⟨3, 4, 0x80, 0x8f⟩
  else none

/-- A sequence that is being read: its value so far, the bytes still missing, and the range of the
next one. -/
structure Utf8Partial where
  value : Nat
  more : Nat
  low : Nat
  high : Nat
  deriving DecidableEq, Repr

/-- The characters of the bytes; `none` stands where bytes begin or continue no sequence. -/
def utf8Units : Option Utf8Partial → Bytes → List (Option Char)
  | none, [] => []
  | some _, [] => [none]
  | none, b :: bs => start b.toNat bs
  | some p, b :: bs =>
    if p.low ≤ b.toNat ∧ b.toNat ≤ p.high then
      let value := p.value * 64 + (b.toNat - 0x80)
      if p.more = 1 then some (Char.ofNat value) :: utf8Units none bs
      else utf8Units (some ⟨value, p.more - 1, 0x80, 0xbf⟩) bs
    else none :: start b.toNat bs
where
  /-- Reads a byte that is not part of an earlier sequence. -/
  start (b : Nat) (bs : Bytes) : List (Option Char) :=
    match utf8Lead? b with
    | none => none :: utf8Units none bs
    | some l =>
      if l.more = 0 then some (Char.ofNat l.bits) :: utf8Units none bs
      else utf8Units (some ⟨l.bits, l.more, l.low, l.high⟩) bs

/-- The text of bytes that are UTF-8 throughout. -/
def ofUtf8? (bs : Bytes) : Option Text := (utf8Units none bs).mapM id

/-- The text of the bytes, with a replacement character for every broken sequence. -/
def ofUtf8Lossy (bs : Bytes) : Text := (utf8Units none bs).map (·.getD '\ufffd')

theorem utf8Units_ascii {bs : Bytes} (h : ∀ b ∈ bs, b.toNat < 0x80) :
    utf8Units none bs = bs.map fun b => some (Char.ofNat b.toNat) := by
  induction bs with
  | nil => simp [utf8Units]
  | cons b bs ih =>
    rw [List.forall_mem_cons] at h
    simp [utf8Units, utf8Units.start, utf8Lead?, h.1, ih h.2]

theorem ofUtf8Lossy_ascii {bs : Bytes} (h : ∀ b ∈ bs, b.toNat < 0x80) :
    ofUtf8Lossy bs = bs.map fun b => Char.ofNat b.toNat := by
  rw [ofUtf8Lossy, utf8Units_ascii h, List.map_map]
  rfl

end Texdown.Text
