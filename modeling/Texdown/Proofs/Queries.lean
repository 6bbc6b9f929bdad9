import Texdown.Proofs.Restoring

/-!
# Queries do not see the cursor

A table answers with one cursor, which every query moves on by as much as it needs. As long as the
queries come in the order of the text, no answer shows where the cursor stands: each is the one that
the text and the recorded offsets give by themselves (`Query.answer`). A fragment that has not the
length of its span takes no part in the order.

Results:
* `exists_ask_eq`: one query in order is answered by the text, and the next one is in order behind it.
* `answers_in_order`: so are all of any number of queries, and none of them fails.
-/
namespace Texdown.Math

/-- What a table can be asked. -/
inductive Query where
  /-- Whether a delimiter was disguised at an offset. -/
  | point (pos : Nat)
  /-- What a fragment was before its delimiters were disguised. -/
  | fragment (content : Text) (span : Span)
  deriving DecidableEq, Repr

inductive Answer where
  | recorded (yes : Bool)
  | restored (content : Text) (notices : List Notice)
  deriving DecidableEq, Repr

namespace Table

/-- The answer to a query, or what is wrong with it, and the table behind it. -/
def ask (t : Table) : Query → Except RestoreFault Answer × Table
  | .point pos =>
    let (answer, t) := t.isRecorded? pos
    match answer with
    | some yes => (.ok (.recorded yes), t)
    | none => (.error .outOfRange, t)
  | .fragment content span =>
    let (result, notices, t) := t.restore content span
    (result.map (.restored · notices), t)

def answers (t : Table) : List Query → List (Except RestoreFault Answer)
  | [] => []
  | q :: qs => (t.ask q).1 :: (t.ask q).2.answers qs

end Table

/-- The answer that a text and the offsets recorded for it give to a query. -/
def Query.answer (o : Text) (offsets : List Nat) : Query → Answer
  | .point pos => .recorded (decide (pos ∈ offsets))
  | .fragment content span =>
    if (content.length : Int) = span.length then .restored (sliceVeiled offsets span o) []
    else .restored content [.fragmentAmbiguous]

/-- Queries about a disguised text, from an offset on: each point, and each slice, begins behind the
end of the one before it, or at that end. A fragment of another length than its span may come anywhere. -/
def InOrder (d : Text) : Nat → List Query → Prop
  | _, [] => True
  | c, .point pos :: qs => c ≤ pos ∧ pos < d.length ∧ InOrder d pos qs
  | c, .fragment content span :: qs =>
    if (content.length : Int) = span.length then
      c ≤ span.start ∧ span.stop ≤ d.length ∧ content = span.slice d ∧ InOrder d span.stop qs
    else InOrder d c qs

/-- Whether queries are in order is computed along them. -/
def decideInOrder (d : Text) : ∀ (c : Nat) (qs : List Query), Decidable (InOrder d c qs)
  | _, [] => inferInstanceAs (Decidable True)
  | _, .point pos :: qs =>
    have := decideInOrder d pos qs
    inferInstanceAs (Decidable (_ ∧ _ ∧ _))
  | c, .fragment content span :: qs =>
    have := decideInOrder d span.stop qs
    have := decideInOrder d c qs
    inferInstanceAs (Decidable (if (content.length : Int) = span.length then c ≤ span.start ∧
      span.stop ≤ d.length ∧ content = span.slice d ∧ InOrder d span.stop qs else InOrder d c qs))

instance (d : Text) (c : Nat) (qs : List Query) : Decidable (InOrder d c qs) := decideInOrder d c qs

theorem offsets_prepare (o : Text) : (prepare o).2.offsets = (disguise o).2 := by
  simp [prepare, Table.offsets, Table.ofOffsets]

/-- No end of the whole text cuts a delimiter in two. -/
theorem Disguised.sliceVeiled_all {o d : Text} {offsets : List Nat} (h : Disguised o d offsets) :
    sliceVeiled offsets ⟨0, d.length⟩ o = o := by
  have hcut : ∀ i, ¬ Cut offsets ⟨0, d.length⟩ i := by
    rintro i (⟨hi, p, -, hp⟩ | ⟨hi, hp⟩)
    · simp only at hi
      omega
    · have := h.lt_length hp
      have := h.length
      simp only at hi
      omega
  rw [sliceVeiled_eq_slice hcut]
  simp [Span.slice, h.length]

namespace Table

section Order

variable {o d : Text} {offsets : List Nat} {t : Table} {c : Nat}

theorem ask_mismatched (t : Table) {content : Text} {span : Span}
    (hlen : (content.length : Int) ≠ span.length) :
    t.ask (.fragment content span) = (.ok (.restored content [.fragmentAmbiguous]), t) := by
  simp [ask, restore_mismatched t hlen, Except.map]

/-- The cursor is behind the end of every query in order, wherever it has been moved. -/
theorem exists_ask_eq (h : Disguised o d offsets) (hov : t.Over offsets d.length) (hb : t.Behind c)
    {q : Query} {qs : List Query} (hq : InOrder d c (q :: qs)) :
    ∃ t' c', t.ask q = (.ok (q.answer o offsets), t') ∧ t'.Over offsets d.length ∧ t'.Behind c' ∧
      InOrder d c' qs := by
  cases q with
  | point pos =>
    obtain ⟨hle, hlt, hqs⟩ := hq
    have hpos := hb.mono hle
    refine ⟨t.advance pos, pos, ?_, hov.advance pos, hov.behind_advance hpos, hqs⟩
    simp [ask, isRecorded?_eq hov h.sorted hpos hlt, Query.answer]
  | fragment content span =>
    unfold InOrder at hq
    split at hq
    · next hlen =>
      obtain ⟨hle, hstop, rfl, hqs⟩ := hq
      have hspan : span.start ≤ span.stop := by
        simp only [Span.length] at hlen
        omega
      obtain ⟨t', hr, hov', hb'⟩ := restore_slice h hov (hb.mono hle) hspan hstop
      refine ⟨t', span.stop, ?_, hov', hb', hqs⟩
      simp [ask, hr, Except.map, Query.answer, hlen]
    · next hlen =>
      refine ⟨t, c, ?_, hov, hb, hq⟩
      rw [ask_mismatched t hlen, Query.answer, if_neg hlen]

theorem answers_eq (h : Disguised o d offsets) {qs : List Query} (hov : t.Over offsets d.length)
    (hb : t.Behind c) (hqs : InOrder d c qs) :
    t.answers qs = (qs.map (Query.answer o offsets)).map .ok := by
  induction qs generalizing t c with
  | nil => rfl
  | cons q qs ih =>
    obtain ⟨t', c', hask, hov', hb', hrest⟩ := exists_ask_eq h hov hb hqs
    rw [answers, hask, List.map_cons, List.map_cons, ih hov' hb' hrest]

end Order

/-- Queries in order are answered by the text and its recorded offsets alone, and none of them fails. A
fragment of another length than its span comes back as it is, and leaves every table as it was. In
particular, the whole disguised text comes back as the text. -/
theorem answers_in_order (o : Text) (qs : List Query) (h : InOrder (prepare o).1 0 qs) :
    (prepare o).2.answers qs = (qs.map (Query.answer o (prepare o).2.offsets)).map .ok ∧
      (∀ (t : Table) (content : Text) (span : Span), (content.length : Int) ≠ span.length →
        t.ask (.fragment content span) = (.ok (.restored content [.fragmentAmbiguous]), t)) ∧
      ((prepare o).2.restore (prepare o).1 ⟨0, (prepare o).1.length⟩).1 = .ok o := by
  have hd : Disguised o (prepare o).1 (disguise o).2 := disguised_disguise o
  have hov : (prepare o).2.Over (disguise o).2 (prepare o).1.length :=
    hd.length.symm ▸ over_ofOffsets (disguise o).2 o.length
  have hb : (prepare o).2.Behind 0 := behind_ofOffsets _ _ 0
  rw [offsets_prepare]
  refine ⟨answers_eq hd hov hb h, fun t content span hlen => ask_mismatched t hlen, ?_⟩
  obtain ⟨t', hr, -, -⟩ := restore_slice hd hov (s := ⟨0, (prepare o).1.length⟩) hb
    (Nat.zero_le _) (Nat.le_refl _)
  have hslice : (⟨0, (prepare o).1.length⟩ : Span).slice (prepare o).1 = (prepare o).1 := by
    simp [Span.slice]
  rw [hslice, hd.sliceVeiled_all] at hr
  rw [hr]

/-- Two slices cut the second delimiter in two, and a fragment out of place comes in between. -/
theorem answers_in_order_cut :
    let o := "a$$x$$y".toList
    let qs : List Query := [.point 1, .fragment "``".toList ⟨1, 3⟩, .fragment "zz".toList ⟨0, 7⟩,
      .fragment "x`".toList ⟨3, 5⟩, .point 5, .fragment "`y".toList ⟨5, 7⟩]
    let found : List Answer := [.recorded true, .restored "$$".toList [],
      .restored "zz".toList [.fragmentAmbiguous], .restored "x`".toList [], .recorded false,
      .restored "`y".toList []]
    InOrder (prepare o).1 0 qs ∧ (prepare o).2.answers qs = found.map .ok := by
  intro o qs found
  have h : InOrder (prepare o).1 0 qs := by decide +kernel
  have hfound : qs.map (Query.answer o (prepare o).2.offsets) = found := by decide +kernel
  exact ⟨h, hfound ▸ (answers_in_order o qs h).1⟩

end Table
end Texdown.Math
