import Texdown.Proofs.Blocks
import Texdown.Proofs.Faithful

/-!
# Frames

A document with a preamble and a body by itself are runs over the same events. The one starts behind a
preamble and the request for two line breaks, the other afresh, so the body is written twice as it is
(`Runs.follows`). Only the line breaks at its two ends tell the runs apart.

Results:
* `framing_keeps_body`: a frame changes nothing of the body but the line breaks behind it.
-/
namespace Texdown.Latex.Rendering

open Formatter (Waits Follows)

variable {settings : Settings} {resolve : Resolver} {r : Rendering}

/-! ## The ends of a document -/

/-- The last line comes behind as many line breaks as may stand there, but no more than three. -/
theorem flush_text_last {f : Formatter} (hflat : f.spacing.level = 0) {k : Nat}
    (hk : min f.spacing.limit 3 = k) : ((f.cap 3).add 3).flush.text
      = (if k = 0 then f.text else f.closed) ++ List.replicate k '\n' := by
  have hcount : ((f.cap 3).add 3).spacing.count = k := by
    simp only [Formatter.cap, Formatter.add, Spacing.count, Spacing.cap, Spacing.add, maxBreaks]
    omega
  exact Formatter.flush_text_flat (f := (f.cap 3).add 3) (k := k) hflat hcount

theorem closeDocument_latex (hflat : r.formatter.spacing.level = 0) {k : Nat}
    (hk : min r.formatter.spacing.limit 3 = k) (ts : List Notice) :
    (r.hear ts).closeDocument.latex = (if k = 0 then r.formatter.text else r.formatter.closed)
      ++ List.replicate k '\n' ++ endsDocument := by
  rw [hear_eq]
  refine (Formatter.text_put _ .command endsDocument).trans (congrArg (· ++ endsDocument) ?_)
  exact flush_text_last (f := { r.formatter with notices := r.formatter.notices ++ ts }) hflat hk

/-- Behind a preamble, two line breaks come in front of the first text. -/
theorem waits_openDocument (settings : Settings) (table : Math.Table) (preamble : Text) :
    Waits 2 2 (ofTable settings table).formatter (initial settings (some preamble) table).formatter ∧
      (initial settings (some preamble) table).formatter.closed
        = Text.dropEndWhile (· == '\n') preamble := by
  have hlimit : 2 ≤ min (min maxBreaks 2) maxBreaks ∧ min (min maxBreaks 2) maxBreaks ≤ 2 := by decide
  refine ⟨⟨rfl, rfl, rfl, ⟨rfl, rfl⟩, by decide, Int.le_refl 2, hlimit, rfl, rfl⟩, ?_⟩
  refine (List.append_nil _).trans ((Formatter.text_put _ .command _).trans ?_)
  rw [Formatter.flush_text_flat (k := 0) rfl rfl]
  rfl

/-- With a preamble, a body without its last line break comes behind two line breaks, and two or three
come behind it. If there is no body, the end comes behind the first two. -/
theorem framing_keeps_body {xs : List Located} (h : WellNested .blockwise xs) {ts : List Notice}
    {table : Math.Table} (hok : (document settings resolve none xs ts table).2 = none)
    (preamble : Text) :
    let front := Text.dropEndWhile (· == '\n') preamble ++ ['\n', '\n']
    let body := (document settings resolve none xs ts table).1.latex
    let framed := document settings resolve (some preamble) xs ts table
    framed.2 = none ∧
      (body = [] ∧ framed.1.latex = front ++ endsDocument ∨
        ∃ b k, body = b ++ ['\n'] ∧ 2 ≤ k ∧ k ≤ 3 ∧
          framed.1.latex = front ++ b ++ List.replicate k '\n' ++ endsDocument) := by
  intro front body framed
  obtain ⟨r, hruns⟩ := runs_of_document hok
  have harr : Arranged settings [] _ r := h.2 ▸ (arranged_ofTable settings table).runs hruns h.1
  have hflat : r.formatter.spacing.level = 0 := harr.spaced.level
  obtain ⟨hwaits, hfront⟩ := waits_openDocument settings table preamble
  obtain ⟨g, q, hrunsf, hfollows⟩ := hruns.follows [] (.inl ⟨hwaits, hfront⟩)
  have hbody : body = (r.hear ts).closeBody.latex :=
    congrArg (fun d => d.1.latex) (document_of_runs none hruns ts)
  have hframed : framed = (((r.on g q).hear ts).closeDocument.note .renderingTimed, none) :=
    document_of_runs (some preamble) hrunsf ts
  refine ⟨congrArg Prod.snd hframed, ?_⟩
  have hlatex : framed.1.latex = ((r.on g q).hear ts).closeDocument.latex :=
    congrArg (fun d => d.1.latex) hframed
  rw [hbody, hlatex]
  rcases hfollows with ⟨hwaits, hclosed⟩ | ⟨k, h2, hk2, htrails⟩
  · -- Nothing was written, so the two line breaks are still to come.
    refine .inl ⟨(closeBody_latex_shut hflat hwaits.shut ts).trans hwaits.fresh, ?_⟩
    have hk : min g.spacing.limit 3 = (2 : Nat) := by
      have := hwaits.limit
      simp only [maxBreaks] at this
      omega
    rw [closeDocument_latex (r := r.on g q) hwaits.flat.2 hk ts, if_neg (by decide)]
    exact congrArg (· ++ _ ++ _) hclosed
  · obtain rfl : k = 2 := by omega
    have hflatg : g.spacing.level = 0 := htrails.spacing ▸ hflat
    have hlimitg : g.spacing.limit = r.formatter.spacing.limit := congrArg _ htrails.spacing
    rcases harr.spaced.limit with hlimit | ⟨hfresh, -, hshut⟩ | htight
    · obtain ⟨k, hk⟩ := Int.eq_ofNat_of_zero_le (show 0 ≤ min g.spacing.limit 3 by omega)
      have hclosed : g.closed = front ++ r.formatter.closed := by
        rw [Formatter.closed, htrails.text, htrails.mathOpen, List.append_assoc]
        rfl
      refine .inr ⟨r.formatter.closed, k, closeBody_latex hflat (by omega) ts, by omega, by omega, ?_⟩
      rw [closeDocument_latex (r := r.on g q) hflatg hk ts, if_neg (by omega)]
      exact congrArg (· ++ _ ++ _) hclosed
    · -- All that was written is empty, and no line break may follow it.
      refine .inl ⟨(closeBody_latex_shut hflat hshut ts).trans hfresh, ?_⟩
      have hk : min g.spacing.limit 3 = (0 : Nat) := by omega
      have htext : g.text = front := by
        rw [htrails.text, hfresh]
        exact List.append_nil _
      rw [closeDocument_latex (r := r.on g q) hflatg hk ts, if_pos rfl]
      exact congrArg (· ++ endsDocument) ((List.append_nil _).trans htext)
    · cases htight

/-- Two line breaks come behind a heading, and the dollar that its math lacks in front of them. -/
theorem framing_keeps_body_heading :
    let xs : List Located := [⟨.start (.heading 1), ⟨0, 0⟩, []⟩, ⟨.text "a$$b".toList, ⟨2, 6⟩, []⟩,
      ⟨.stop (.heading 1), ⟨6, 6⟩, []⟩]
    let table := Math.Table.ofOffsets [] 6
    let body := (document {} (fun _ => none) none xs [] table).1.latex
    let framed := document {} (fun _ => none) (some "p\n".toList) xs [] table
    WellNested .blockwise xs ∧ (document {} (fun _ => none) none xs [] table).2 = none ∧
      framed.2 = none ∧ (body = [] ∧ framed.1.latex = "p\n\n".toList ++ endsDocument ∨
        ∃ b k, body = b ++ ['\n'] ∧ 2 ≤ k ∧ k ≤ 3 ∧
          framed.1.latex = "p\n\n".toList ++ b ++ List.replicate k '\n' ++ endsDocument) := by
  intro xs table body framed
  have hnested : WellNested .blockwise xs := by decide
  have hok : (document {} (fun _ => none) none xs [] table).2 = none := by decide +kernel
  exact ⟨hnested, hok, framing_keeps_body hnested hok "p\n".toList⟩

end Texdown.Latex.Rendering
