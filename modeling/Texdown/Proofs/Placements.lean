import Mathlib.Data.List.Forall2
import Texdown.Proofs.Searching

/-!
# Fragments in turn

A walk takes every fragment where it stands first, which may be in markup or in a part that was left out, and
not where the reader saw it. That never costs a later fragment: what is taken no later than it was given also
ends no later, so whatever was given for the rest is still in front of the cursor.

Results:
* `find_of_standsAt`: a fragment that stands in front of the cursor is found, and ends no later than there.
* `findAll_no_later`: fragments that can be placed in turn are all found, and each of them ends no later than
  in any placement.
-/
namespace Texdown

/-- The fragments stand in the source at these spans, one behind the other, from an offset on. -/
inductive InTurn (src : Text) : Nat → List Text → List Span → Prop where
  | nil {lo : Nat} : InTurn src lo [] []
  | cons {lo : Nat} {t : Text} {ts : List Text} {s : Span} {ss : List Span} (from_lo : lo ≤ s.start)
      (stands : t.StandsAt src s.start) (stop_eq : s.stop = s.start + t.length)
      (rest : InTurn src s.stop ts ss) : InTurn src lo (t :: ts) (s :: ss)

/-- What stands from an offset on stands from any offset before. -/
theorem InTurn.mono {src : Text} {lo lo' : Nat} {ts : List Text} {ss : List Span} (h : InTurn src lo ts ss)
    (hle : lo' ≤ lo) : InTurn src lo' ts ss := by
  cases h with
  | nil => exact .nil
  | cons from_lo stands stop_eq rest => exact .cons (Nat.le_trans hle from_lo) stands stop_eq rest

namespace Locator

/-- The spans of fragments that are looked for one after the other. -/
def findAll (l : Locator) : List Text → List Span
  | [] => []
  | t :: ts => (l.find t).1 :: (l.find t).2.findAll ts

/-- A fragment that stands in front of the cursor is found there or before, and the walk goes past it. -/
theorem find_of_standsAt {l : Locator} {t : Text} (ht : t ≠ []) {j : Nat} (hj : l.cursor ≤ j)
    (h : t.StandsAt l.source j) :
    ∃ i ≤ j, l.cursor ≤ i ∧ t.StandsAt l.source i ∧
      l.find t = (⟨i, i + t.length⟩, { l with cursor := i + t.length }) := by
  obtain ⟨i, hle, hi⟩ := exists_indexOf? ht hj h
  have hfirst := (indexOf?_eq_some_iff ht).1 hi
  refine ⟨i, hle, hfirst.from_cursor, hfirst.stands, ?_⟩
  rw [find, if_neg (by simpa using ht), span?, hi]
  rfl

/-- Fragments that can be placed in turn at or after the cursor are all found in turn. Whatever the placement
was, each of them ends no later than it does there. -/
theorem findAll_no_later {l : Locator} {ts : List Text} (hne : ∀ t ∈ ts, t ≠ []) {given : List Span}
    (h : InTurn l.source l.cursor ts given) :
    InTurn l.source l.cursor ts (l.findAll ts) ∧
      List.Forall₂ (fun found s => found.stop ≤ s.stop) (l.findAll ts) given := by
  induction ts generalizing l given with
  | nil =>
    cases h
    exact ⟨.nil, .nil⟩
  | cons t ts ih =>
    obtain ⟨ht, hts⟩ := List.forall_mem_cons.1 hne
    cases h with
    | @cons _ _ _ s ss from_lo stands stop_eq rest =>
      obtain ⟨i, hle, hi, hstands, hfind⟩ := find_of_standsAt ht from_lo stands
      -- The rest was placed behind a span that ends no earlier than the one that was found.
      have hstop : i + t.length ≤ s.stop := stop_eq ▸ Nat.add_le_add_right hle _
      have hrest : InTurn l.source (i + t.length) ts ss := rest.mono hstop
      obtain ⟨hturn, hends⟩ := ih (l := { l with cursor := i + t.length }) hts hrest
      rw [findAll, hfind]
      exact ⟨.cons hi hstands rfl hturn, .cons hstop hends⟩

/-- Both fragments were given at the end, and both are found before. -/
theorem findAll_no_later_twice :
    (∀ t ∈ [['a'], ['b']], t ≠ []) ∧ InTurn "xabab".toList 1 [['a'], ['b']] [⟨3, 4⟩, ⟨4, 5⟩] ∧
      InTurn "xabab".toList 1 [['a'], ['b']] [⟨1, 2⟩, ⟨2, 3⟩] ∧
      List.Forall₂ (fun found s : Span => found.stop ≤ s.stop) [⟨1, 2⟩, ⟨2, 3⟩] [⟨3, 4⟩, ⟨4, 5⟩] := by
  have hne : ∀ t ∈ [['a'], ['b']], t ≠ [] := by decide
  have hgiven : InTurn "xabab".toList 1 [['a'], ['b']] [⟨3, 4⟩, ⟨4, 5⟩] :=
    .cons (by decide) ⟨['b'], rfl⟩ rfl (.cons (by decide) ⟨[], rfl⟩ rfl .nil)
  exact ⟨hne, hgiven, findAll_no_later (l := ⟨"xabab".toList, 1⟩) hne hgiven⟩

end Locator

end Texdown
