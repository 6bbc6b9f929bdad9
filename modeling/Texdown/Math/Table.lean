import Texdown.Error
import Texdown.Notice
import Texdown.Span
import Texdown.Math.Disguise

/-!
# The table of disguised delimiters

The recorded offsets with a cursor that only moves forward. Queries come in document order: whether
a delimiter was disguised at an offset, and what a fragment was before its delimiters were
disguised. The last entry of the table is a sentinel, the length of the text.

A fragment whose length differs from its span cannot be placed, so it is given back unchanged, with
a notice. A recorded offset inside a fragment that does not hold two backticks there is an error.
-/
namespace Texdown.Math

/-- Recorded offsets, a sentinel behind them, and the index of the next one. -/
structure Table where
  entries : List Nat
  cursor : Nat := 0
  deriving DecidableEq, Repr

/-- Why a fragment could not be restored. -/
inductive RestoreFault where
  /-- A recorded offset does not hold a disguised delimiter, but this. -/
  | notDisguised (offset : Nat) (found : Text)
  /-- An offset past the end of the table or of the fragment was asked for. -/
  | outOfRange
  deriving DecidableEq, Repr

namespace RestoreFault

def toError : RestoreFault → Error
  | notDisguised offset found =>
    .inconsistentTable
      ("Expected disguised delimiter at offset ".toList ++ .ofNat offset ++ ", found ".toList
        ++ found.quoted) (some offset)
  | outOfRange => .outOfRange

end RestoreFault

namespace Table

/-- The table of the offsets recorded for a text of the given length. -/
def ofOffsets (offsets : List Nat) (length : Nat) : Table := ⟨offsets ++ [length], 0⟩

/-- The recorded offsets without the sentinel. -/
def offsets (t : Table) : List Nat := t.entries.dropLast

/-- The index of the first entry from `i` on that is at least `pos`, or of the sentinel. -/
def seek (entries : List Nat) (pos i : Nat) : Nat :=
  if h : i + 1 < entries.length then
    if entries[i] < pos then seek entries pos (i + 1) else i
  else i
termination_by entries.length - i

def advance (t : Table) (pos : Nat) : Table := { t with cursor := seek t.entries pos t.cursor }

def current? (t : Table) : Option Nat := t.entries[t.cursor]?

/-- Whether a delimiter was disguised at `pos`; `none` past the end of the table. -/
def isRecorded? (t : Table) (pos : Nat) : Option Bool × Table :=
  let t := t.advance pos
  (t.current?.map (· == pos), t)

/-- Restores the delimiters from the cursor on as long as they lie inside the span. -/
def restoreFrom (entries : List Nat) (span : Span) (fragment chars : Text) (i : Nat) :
    Except RestoreFault Text × Nat :=
  if h : i < entries.length then
    let pos := entries[i]
    if pos + 1 < span.stop then
      let at_ : Int := pos - span.start
      match chars.at? at_ with
      | none => (.error .outOfRange, i)
      | some a =>
        let fault : RestoreFault := .notDisguised pos (fragment.between at_ (at_ + 2))
        if a ≠ '`' then (.error fault, i)
        else match chars.at? (at_ + 1) with
          | none => (.error .outOfRange, i)
          | some b =>
            if b ≠ '`' then (.error fault, i)
            else restoreFrom entries span fragment ((chars.setAt at_ '$').setAt (at_ + 1) '$') (i + 1)
    else (.ok chars, i)
  else (.error .outOfRange, i)
termination_by entries.length - i

/-- What the fragment at `span` was before its delimiters were disguised, with the notices. -/
def restore (t : Table) (fragment : Text) (span : Span) :
    Except RestoreFault Text × List Notice × Table :=
  if (fragment.length : Int) ≠ span.length then (.ok fragment, [.fragmentAmbiguous], t)
  else
    let t := t.advance span.start
    match t.current? with
    | none => (.error .outOfRange, [], t)
    | some pos =>
      if fragment.length < 2 ∨ span.stop ≤ pos + 1 then (.ok fragment, [], t)
      else
        let (r, i) := restoreFrom t.entries span fragment fragment t.cursor
        (r, [], { t with cursor := i })

end Table

/-- The disguised text of a document and the table of its disguised delimiters. -/
def prepare (t : Text) : Text × Table :=
  let (disguised, offsets) := disguise t
  (disguised, .ofOffsets offsets t.length)

def prepareNotices (table : Table) : List Notice :=
  if table.offsets.isEmpty then [] else [.delimitersDisguised table.offsets.length]

end Texdown.Math
