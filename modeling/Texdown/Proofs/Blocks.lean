import Texdown.Proofs.Arrangement
import Texdown.Proofs.Faithful

/-!
# Blocks are independent of what precedes them

A stream that nests leaves a rendering as it found it, but for what is written, for math that is still
open, and for the line breaks to come. Over a text without disguised delimiters that holds of its table
too (`Settled`), so a second document goes on as if it were the first.

Results:
* `Runs.eq_ofOffsets_nil`: a table without offsets stays as it is.
* `blocks_independent`: two documents of blocks, one behind the other, are rendered as each of them
  is, with one to four line breaks between.
-/
namespace Texdown

open Math

namespace Math.Table

/-! ## A table without offsets -/

theorem advance_ofOffsets_nil (n pos : Nat) : (ofOffsets [] n).advance pos = ofOffsets [] n := by
  have hseek : seek [n] pos 0 = 0 := by
    rw [seek]
    rfl
  simp only [advance, ofOffsets, List.nil_append, hseek]

/-- Past the end of the text there is nothing to restore, and trying to is an error. -/
theorem restoreFrom_sentinel {n : Nat} {span : Span} (h : n + 1 < span.stop)
    (fragment chars t : Text) : (restoreFrom [n] span fragment chars 0).1 ≠ .ok t := by
  have hend : ∀ cs, restoreFrom [n] span fragment cs 1 = (.error .outOfRange, 1) := fun cs => by
    rw [restoreFrom]
    rfl
  rw [restoreFrom, dif_pos (by simp)]
  simp only [List.getElem_cons_zero, if_pos h, hend]
  repeat' split
  all_goals
    intro h
    cases h

/-- Without offsets, nothing is restored. -/
theorem restore_ofOffsets_nil {n : Nat} {fragment restored : Text} {span : Span} {ns : List Notice}
    {t : Table} (h : (ofOffsets [] n).restore fragment span = (.ok restored, ns, t)) :
    restored = fragment ∧ t = ofOffsets [] n := by
  unfold restore at h
  split at h
  · cases h
    exact ⟨rfl, rfl⟩
  · have hcurrent : (ofOffsets [] n).current? = some n := rfl
    simp only [advance_ofOffsets_nil, hcurrent] at h
    split at h
    · cases h
      exact ⟨rfl, rfl⟩
    · next hlong =>
      have hlt : n + 1 < span.stop := by omega
      exact absurd (Prod.mk.inj h).1 (restoreFrom_sentinel hlt fragment fragment restored)

theorem Queried.eq_ofOffsets_nil {t u : Table} (h : Queried t u) {n : Nat} (ht : t = ofOffsets [] n) :
    u = ofOffsets [] n := by
  induction h with
  | none => exact ht
  | advance pos _ ih => rw [ih, advance_ofOffsets_nil]
  | restore _ hr ih => exact (restore_ofOffsets_nil (ih ▸ hr)).2

end Math.Table

/-! ## Settled renderings -/

namespace Latex.Rendering

variable {settings : Settings} {resolve : Resolver} {n : Nat} {st : List Tag} {last : Option Event}
  {r r' : Rendering}

/-- A step only asks the table. -/
theorem queried_step {e : Event} {span : Span} (h : r.step settings e span = .ok r') :
    Table.Queried r.table r'.table := by
  rcases Nat.eq_zero_or_pos r.skipDepth with h0 | hpos
  · have hleaf : e.isLeaf = true → Table.Queried r.table r'.table := fun he => by
      obtain ⟨hq, b, -, hb⟩ := beside_leaf he h0 h
      have htable : r'.table = tableAfter r.table span e := (congrArg Rendering.table hb :)
      exact htable ▸ hq
    unfold Rendering.step at h
    rw [if_neg (by omega)] at h
    cases e with
    | start t =>
      cases h
      obtain ⟨links, -, hb⟩ := beside_openTag r t
      have htable : (r.openTag t).table = r.table := (congrArg Rendering.table hb :)
      exact htable ▸ .none
    | stop t =>
      obtain ⟨links, -, hb⟩ := beside_closeTag h
      have htable : r'.table = r.table := (congrArg Rendering.table hb :)
      exact htable ▸ .none
    | _ => exact hleaf rfl
  · unfold Rendering.step at h
    rw [if_pos hpos] at h
    cases h
    have htable : ∀ e : Event, (r.skip e).table = r.table := fun e => by
      unfold Rendering.skip
      repeat' split
      all_goals rfl
    exact htable e ▸ .none

/-- Nothing is ever found in a table without offsets. -/
theorem Runs.eq_ofOffsets_nil {xs : List Located} (hruns : Runs settings resolve xs r r')
    (h : r.table = .ofOffsets [] n) : r'.table = .ofOffsets [] n := by
  induction hruns with
  | nil r => exact h
  | event _ hs _ ih => exact ih ((queried_step hs).eq_ofOffsets_nil ((table_hear _ _).trans h))
  | image _ _ _ ih => exact ih (by simpa using h)

/-- A rendering without disguised delimiters that its open containers settle. -/
structure Settled (settings : Settings) (n : Nat) (st : List Tag) (last : Option Event)
    (r : Rendering) : Prop extends Arranged settings st last r where
  table : r.table = .ofOffsets [] n

/-- A well placed stream settles a rendering on the containers that it leaves open. -/
theorem Settled.runs {xs : List Located} (hruns : Runs settings resolve xs r r') {st : List Tag}
    {last : Option Event} (h : Settled settings n st last r)
    (hp : placed .blockwise st last (eventsOf xs) = true) :
    Settled settings n (openTags st (eventsOf xs)) (lastOf last (eventsOf xs)) r' :=
  ⟨h.toArranged.runs hruns hp, hruns.eq_ofOffsets_nil h.table⟩

theorem settled_ofTable (settings : Settings) (n : Nat) :
    Settled settings n [] none (ofTable settings (.ofOffsets [] n)) :=
  ⟨arranged_ofTable settings _, rfl⟩

/-! ## One document behind the other -/

/-- A settled rendering without open containers is as it was at first, but for the text. -/
theorem Settled.eq_on (h : Settled settings n [] last r) :
    r = (ofTable settings (.ofOffsets [] n)).on r.formatter r.asked := by
  obtain ⟨hin, hclosed⟩ := h.code_shut rfl
  obtain ⟨⟨hn, henum, -, -, -, -, -⟩, htable⟩ := h
  have hlinks : r.openLinks = [] := List.length_eq_zero_iff.1 hn.links
  obtain ⟨f, t, e, k, c, o, l, q⟩ := r
  cases htable
  cases henum
  cases hn.skips
  cases hin
  cases hclosed
  cases hlinks
  rfl

/-- Behind what is written, the end of a body breaks the line. -/
theorem finish_text {f : Formatter} (hflat : f.spacing.level = 0) (hlimit : 1 ≤ f.spacing.limit) :
    ((f.cap 1).add 1).finish.text = f.closed ++ ['\n'] := by
  have hcount : ((f.cap 1).add 1).spacing.count = (1 : Nat) := by
    simp only [Formatter.cap, Formatter.add, Spacing.count, Spacing.cap, Spacing.add, maxBreaks]
    omega
  exact Formatter.flush_text_flat (f := (f.cap 1).add 1) hflat hcount

/-- Where nothing may follow, it does not. -/
theorem finish_text_shut {f : Formatter} (hflat : f.spacing.level = 0) (hshut : f.spacing.limit = 0) :
    ((f.cap 1).add 1).finish.text = f.text := by
  have hcount : ((f.cap 1).add 1).spacing.count = (0 : Nat) := by
    simp only [Formatter.cap, Formatter.add, Spacing.count, Spacing.cap, Spacing.add, maxBreaks]
    omega
  exact (Formatter.flush_text_flat (f := (f.cap 1).add 1) hflat hcount).trans (List.append_nil _)

theorem closeBody_latex (hflat : r.formatter.spacing.level = 0) (hlimit : 1 ≤ r.formatter.spacing.limit)
    (ts : List Notice) : (r.hear ts).closeBody.latex = r.formatter.closed ++ ['\n'] := by
  rw [hear_eq]
  exact finish_text (f := { r.formatter with notices := r.formatter.notices ++ ts }) hflat hlimit

theorem closeBody_latex_shut (hflat : r.formatter.spacing.level = 0)
    (hshut : r.formatter.spacing.limit = 0) (ts : List Notice) :
    (r.hear ts).closeBody.latex = r.formatter.text := by
  rw [hear_eq]
  exact finish_text_shut (f := { r.formatter with notices := r.formatter.notices ++ ts }) hflat hshut

/-- The conversion of a body without disguised delimiters; the text has length `n`. -/
def bodyOf (settings : Settings) (resolve : Resolver) (n : Nat) (xs : List Located)
    (trailing : List Notice) : Converted :=
  Job.render ⟨settings, none, resolve⟩ xs trailing (.ofOffsets [] n)

theorem bodyOf_of_runs {xs : List Located}
    (h : Runs settings resolve xs (ofTable settings (.ofOffsets [] n)) r) (ts : List Notice) :
    (bodyOf settings resolve n xs ts).error = none ∧
      (bodyOf settings resolve n xs ts).latex = (r.hear ts).closeBody.latex := by
  have hdocument := document_of_runs none h ts
  simp only [bodyOf, Job.render]
  rw [hdocument]
  exact ⟨rfl, rfl⟩

theorem runs_of_bodyOf {xs : List Located} {ts : List Notice}
    (h : (bodyOf settings resolve n xs ts).error = none) :
    ∃ r, Runs settings resolve xs (ofTable settings (.ofOffsets [] n)) r := by
  have hdocument : (document settings resolve none xs ts (.ofOffsets [] n)).2 = none := h
  exact runs_of_document hdocument

/-- A document of blocks that is not empty ends in a line break, which comes behind all of its text. -/
theorem Settled.closeBody (h : Settled settings n [] last r) {ts : List Notice}
    (hne : (r.hear ts).closeBody.latex ≠ []) :
    1 ≤ r.formatter.spacing.limit ∧
      ∀ ts, (r.hear ts).closeBody.latex = r.formatter.closed ++ ['\n'] := by
  have hflat : r.formatter.spacing.level = 0 := h.spaced.level
  rcases h.spaced.limit with hlimit | ⟨hfresh, -, hshut⟩ | hlist
  · have hlimit : 1 ≤ r.formatter.spacing.limit := by omega
    exact ⟨hlimit, closeBody_latex hflat hlimit⟩
  · exact absurd ((closeBody_latex_shut hflat hshut ts).trans hfresh) hne
  · cases hlist

/-- A document behind this one starts as if it were the first, once a line break is asked for. -/
theorem Settled.waits (h : Settled settings n [] last r) (hlimit : 1 ≤ r.formatter.spacing.limit) :
    Formatter.Waits 1 4 (ofTable settings (.ofOffsets [] n)).formatter (r.formatter.add 1) := by
  have hpending : 1 ≤ (r.formatter.add 1).spacing.pending := Int.le_max_right _ _
  have hmost : (r.formatter.add 1).spacing.limit = r.formatter.spacing.limit := rfl
  refine ⟨rfl, rfl, rfl, ⟨rfl, h.spaced.level⟩, Nat.le_refl 1, hpending, ?_, h.spaced.indentWidth,
    h.spaced.mathAware⟩
  rw [hmost]
  simp only [maxBreaks]
  omega

/-! ### The first block -/

/-- The starts of blocks. -/
def startsBlock : Event → Bool
  | .start .paragraph | .start (.heading _) | .start .blockQuote | .start (.codeBlock _)
  | .start (.list _) => true
  | _ => false

theorem add_one_add (f : Formatter) {m : Int} (hm : 1 ≤ m) : (f.add 1).add m = f.add m := by
  have hmax : max (max f.spacing.pending 1) m = max f.spacing.pending m := by omega
  simp only [Formatter.add, Spacing.add, hmax]

/-- Blocks begin on a line of their own, whether or not one was asked for. -/
theorem openTag_add_one {t : Tag} (ht : startsBlock (.start t) = true) (r : Rendering) (f : Formatter)
    (q : List Text) : (r.on (f.add 1) q).openTag t = (r.on f q).openTag t := by
  have hline : ∀ text, (f.add 1).writeLine .command text = f.writeLine .command text := fun text => by
    rw [Formatter.writeLine, Formatter.writeLine, add_one_add f (Int.le_refl 1)]
  cases t with
  | paragraph =>
    simp only [openTag, format, on, add_one_add f (show (1 : Int) ≤ 2 by decide)]
  | heading level =>
    have hlevel : 1 ≤ (headingCommand level).2 + 1 := by
      unfold headingCommand
      split
      · decide
      · split
        · decide
        · split <;> decide
    simp only [openTag, format, on, add_one_add f hlevel]
  | blockQuote => simp only [openTag, format, on, hline]
  | codeBlock language => simp only [openTag, format, on, hline]
  | list start =>
    cases start with
    | none => simp only [openTag, openList, format, on, hline]
    | some k => simp only [openTag, openList, format, on, hline]
  | _ => cases ht

theorem notes_add (f : Formatter) (m : Int) (ns : List Notice) :
    (f.add m).perform (ns.map .note) = (f.perform (ns.map .note)).add m := by
  induction ns generalizing f with
  | nil => rfl
  | cons n ns ih => exact ih (f.note n)

theorem runs_add_one {x : Located} {xs : List Located} {f : Formatter} {q : List Text}
    (hx : startsBlock x.event = true) (h0 : r.skipDepth = 0)
    (h : Runs settings resolve (x :: xs) (r.on (f.add 1) q) r') :
    Runs settings resolve (x :: xs) (r.on f q) r' := by
  obtain ⟨t, ht⟩ : ∃ t, x.event = .start t := by
    cases hevent : x.event with
    | start t => exact ⟨t, rfl⟩
    | _ => rw [hevent] at hx; cases hx
  rw [ht] at hx
  cases h with
  | @event e rest r0 r1 r2 hi hs h =>
    refine .event hi ?_ h
    have hskip : ∀ f q, ¬ 0 < ((r.hear x.notices).on f q).skipDepth := fun f q => by
      exact Nat.not_lt.2 (Nat.le_of_eq ((skipDepth_hear r x.notices).trans h0))
    rw [hear_on, ht] at hs ⊢
    rw [notes_add] at hs
    unfold Rendering.step at hs ⊢
    rw [if_neg (hskip _ _)] at hs ⊢
    simp only at hs ⊢
    rw [← openTag_add_one hx]
    exact hs
  | @image y z rest r0 r2 target hi hy h =>
    obtain ⟨himage, -⟩ := eq_of_startsImage? hi
    rw [ht] at himage
    cases himage
    cases hx

/-- The text of one document of blocks comes behind that of another, with some line breaks between. -/
theorem blocks_independent {s1 s2 : List Located} {t1 t2 : List Notice}
    (h1 : WellNested .blockwise s1) (h2 : WellNested .blockwise s2)
    (hblock : (s2.head?.any fun x => startsBlock x.event) = true)
    (hok1 : (bodyOf settings resolve n s1 t1).error = none)
    (hok2 : (bodyOf settings resolve n s2 t2).error = none)
    (hne1 : (bodyOf settings resolve n s1 t1).latex ≠ [])
    (hne2 : (bodyOf settings resolve n s2 t2).latex ≠ []) (t3 : List Notice) :
    ∃ b1 b2 k, (bodyOf settings resolve n s1 t1).latex = b1 ++ ['\n'] ∧
      (bodyOf settings resolve n s2 t2).latex = b2 ++ ['\n'] ∧ 1 ≤ k ∧ k ≤ 4 ∧
      (bodyOf settings resolve n (s1 ++ s2) t3).error = none ∧
      (bodyOf settings resolve n (s1 ++ s2) t3).latex
        = b1 ++ List.replicate k '\n' ++ b2 ++ ['\n'] := by
  obtain ⟨r1, hruns1⟩ := runs_of_bodyOf hok1
  obtain ⟨r2, hruns2⟩ := runs_of_bodyOf hok2
  have hs1 := Settled.runs hruns1 (settled_ofTable settings n) h1.1
  have hs2 := Settled.runs hruns2 (settled_ofTable settings n) h2.1
  rw [h1.2] at hs1
  rw [h2.2] at hs2
  rw [(bodyOf_of_runs hruns1 t1).2] at hne1 ⊢
  rw [(bodyOf_of_runs hruns2 t2).2] at hne2 ⊢
  obtain ⟨hlimit1, hlatex1⟩ := hs1.closeBody hne1
  obtain ⟨hlimit2, hlatex2⟩ := hs2.closeBody hne2
  have hflat2 : r2.formatter.spacing.level = 0 := hs2.spaced.level
  -- The second document starts on the formatter of the first, as if a line break were asked for.
  have hwaits := hs1.waits hlimit1
  obtain ⟨g, q, hruns, hfollows⟩ := Runs.follows hruns2 r1.asked
    (.inl ⟨hwaits, (rfl : _ = r1.formatter.closed)⟩)
  obtain ⟨x, xs, rfl⟩ : ∃ x xs, s2 = x :: xs := by
    cases s2 with
    | nil => cases hblock
    | cons x xs => exact ⟨x, xs, rfl⟩
  have hruns := runs_add_one (by simpa using hblock) rfl hruns
  rw [← hs1.eq_on] at hruns
  rcases hfollows with ⟨hwaits, -⟩ | ⟨k, h1k, hk4, htrails⟩
  · have := hwaits.shut
    omega
  have hall : Runs settings resolve (s1 ++ x :: xs) (ofTable settings (.ofOffsets [] n)) (r2.on g q) :=
    runs_of_run (hruns1.run_append.trans hruns.run_eq)
  have hclosed : g.closed
      = r1.formatter.closed ++ List.replicate k '\n' ++ r2.formatter.closed := by
    rw [Formatter.closed, htrails.text, htrails.mathOpen, List.append_assoc]
    rfl
  have hlatex := closeBody_latex (r := r2.on g q) (htrails.spacing ▸ hflat2 : g.spacing.level = 0)
    (htrails.spacing ▸ hlimit2 : 1 ≤ g.spacing.limit) t3
  obtain ⟨hok, hbody⟩ := bodyOf_of_runs hall t3
  refine ⟨r1.formatter.closed, r2.formatter.closed, k, hlatex1 t1, hlatex2 t2, h1k, hk4, hok, ?_⟩
  rw [hbody, hlatex]
  exact congrArg (· ++ ['\n']) hclosed

/-- A line of code that a numbered list leaves open does not reach into the list behind it. -/
theorem blocks_independent_list :
    let s1 : List Located := [⟨.start (.list (some 1)), ⟨0, 0⟩, []⟩, ⟨.start .item, ⟨0, 0⟩, []⟩,
      ⟨.start (.codeBlock none), ⟨3, 3⟩, []⟩, ⟨.text "x".toList, ⟨3, 4⟩, []⟩,
      ⟨.stop (.codeBlock none), ⟨4, 4⟩, []⟩, ⟨.stop .item, ⟨4, 4⟩, []⟩,
      ⟨.stop (.list (some 1)), ⟨4, 4⟩, []⟩]
    let s2 : List Located := [⟨.start (.list none), ⟨5, 5⟩, []⟩, ⟨.start .item, ⟨5, 5⟩, []⟩,
      ⟨.stop .item, ⟨7, 7⟩, []⟩, ⟨.stop (.list none), ⟨7, 7⟩, []⟩]
    ∃ b1 b2 k, (bodyOf {} (fun _ => none) 7 s1 []).latex = b1 ++ ['\n'] ∧
      (bodyOf {} (fun _ => none) 7 s2 []).latex = b2 ++ ['\n'] ∧ 1 ≤ k ∧ k ≤ 4 ∧
      (bodyOf {} (fun _ => none) 7 (s1 ++ s2) []).error = none ∧
      (bodyOf {} (fun _ => none) 7 (s1 ++ s2) []).latex
        = b1 ++ List.replicate k '\n' ++ b2 ++ ['\n'] :=
  blocks_independent (by decide) (by decide) (by decide) (by decide +kernel) (by decide +kernel)
    (by decide +kernel) (by decide +kernel) []

end Latex.Rendering
end Texdown
