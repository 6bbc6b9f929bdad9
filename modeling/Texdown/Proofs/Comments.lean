import Texdown.Proofs.OutsideMath

/-!
# Figures that are commented out

A figure without a path is a comment, and a comment reaches to the end of its line. The line break that
ends it is only asked for behind the figure, and whatever is written next has to write it first. So until
then nothing may keep it back: no limit on line breaks, and no open math, whose dollar would come before
it (`Breaks`). Every event obeys, since it limits line breaks only behind something that it has written
(`Act.courteous`), and the line that the figure itself begins has closed the math in front of it.

Results:
* `Breaks.perform`: courteous acts break the line before they write anything else.
* `breaks_image`: behind a figure, the line breaks.
* `breaks_ended`: at the latest, the end of a document breaks it.
* `comment_ends_line`: in a document, a figure that is commented out is all that its comment holds.
-/
namespace Texdown.Latex

namespace Formatter

/-- Behind this text comes a line break: either nothing is written there yet, and a line break has to be
written first, or it has been written. -/
inductive Breaks (front : Text) (f : Formatter) : Prop where
  | asked (text : f.text = front) (closed : f.mathOpen = false) (pending : 1 ≤ f.spacing.pending)
    (limit : 1 ≤ f.spacing.limit)
  | written (rest : Text) (text : f.text = front ++ '\n' :: rest)

/-- Where line breaks are due, the gap begins with one. -/
theorem exists_gap {s : Spacing} (h : 1 ≤ s.count) : ∃ rest, s.gap = '\n' :: rest := by
  obtain ⟨n, hn⟩ : ∃ n, s.count.toNat = n + 1 := ⟨s.count.toNat - 1, by omega⟩
  unfold Spacing.gap
  rw [if_neg (by omega), hn, List.replicate_succ]
  exact ⟨_, rfl⟩

namespace Breaks

variable {front : Text} {f : Formatter}

/-- What is behind a line break stays behind it. -/
theorem of_behind {t rest : Text} {g : Formatter} (ht : t = front ++ '\n' :: rest) (hg : t <+: g.text) :
    Breaks front g := by
  obtain ⟨more, hmore⟩ := hg
  refine .written (rest ++ more) ?_
  rw [← hmore, ht]
  simp

/-- What is written next comes behind the line break. -/
theorem flush (h : Breaks front f) : ∃ rest, f.flush.text = front ++ '\n' :: rest := by
  cases h with
  | asked htext hclosed hpending hlimit =>
    have hcount : 1 ≤ f.spacing.count := by
      unfold Spacing.count maxBreaks
      omega
    obtain ⟨rest, hgap⟩ := exists_gap hcount
    refine ⟨rest, ?_⟩
    rw [flush_text, if_neg (by omega), hgap, Formatter.closed, hclosed, htext]
    simp
  | written rest htext =>
    obtain ⟨more, hmore⟩ := f.prefix_flush
    refine ⟨rest ++ more, ?_⟩
    rw [← hmore, htext]
    simp

/-- An act that waits does not keep the line break back. -/
theorem wait (h : Breaks front f) {a : Act} (ha : a.waits = true) : Breaks front (f.act a) := by
  cases h with
  | written rest htext => exact of_behind htext (f.prefix_perform [a])
  | asked htext hclosed hpending hlimit =>
    cases a with
    | add n =>
      refine .asked htext hclosed ?_ hlimit
      exact Int.le_trans hpending (Int.le_max_left _ _)
    | dedent | note => exact .asked htext hclosed hpending hlimit
    | cap | indent | write | escaped => cases ha

theorem perform {acts : List Act} (h : Breaks front f) (ha : Act.courteous acts = true) :
    Breaks front (f.perform acts) := by
  induction acts generalizing f with
  | nil => exact h
  | cons a acts ih =>
    simp only [Act.courteous, Bool.or_eq_true, Bool.and_eq_true] at ha
    rcases ha with hwrites | ⟨hwaits, hacts⟩
    · obtain ⟨rest, hflush⟩ := h.flush
      exact of_behind hflush ((f.prefix_act hwrites).trans ((f.act a).prefix_perform acts))
    · exact ih (h.wait hwaits) hacts

/-- Behind a piece on a line of its own, the line breaks. -/
theorem of_line {cs : List Text} (h : Wrote cs f) (origin : Origin) (t : Text) :
    Breaks (f.writeLine origin t).text (f.writeLine origin t) := by
  have hlimit : (f.writeLine origin t).spacing.limit = maxBreaks :=
    congrArg Spacing.limit (f.add 1).flush_spacing
  refine .asked rfl (h.line_closed origin t) (Wrote.pending_add _ (Int.le_refl 1)) ?_
  rw [hlimit]
  decide

/-- A limit of at least one does not keep it back either. -/
theorem cap (h : Breaks front f) {n : Int} (hn : 1 ≤ n) : Breaks front (f.cap n) := by
  cases h with
  | asked htext hclosed hpending hlimit =>
    exact .asked htext hclosed hpending (Int.le_min.2 ⟨hlimit, hn⟩)
  | written rest htext => exact .written rest htext

end Breaks
end Formatter

namespace Rendering

open Formatter (Breaks Wrote text_put)
open Math (prepare)

variable {settings : Settings} {resolve : Resolver} {r r' : Rendering} {cs : List Text} {front : Text}

/-- A figure ends what is written, and behind it the line breaks. -/
theorem breaks_image (settings : Settings) (resolve : Resolver) (h : Wrote cs r.formatter)
    {target : Target} (hform : target.form = some .inline) :
    let url := target.url.getD []
    let q := image settings resolve r target
    ∃ before, q.formatter.text = before ++ figure settings.imageWidth url (resolve url) ∧
      Breaks q.formatter.text q.formatter := by
  intro url q
  let noted : List Act := if (resolve url).isNone then [.note (.imageUnresolved url)] else []
  have hq : q.formatter = (r.formatter.perform noted).writeLine .figure
      (figure settings.imageWidth url (resolve url)) := by
    refine (formatter_image settings resolve r target).trans ?_
    rw [imageActs, if_pos hform]
    exact r.formatter.perform_append noted (Act.line .figure _)
  have hnoted : Wrote cs (r.formatter.perform noted) := by
    unfold noted
    split
    · exact h.note _
    · exact h
  rw [hq]
  exact ⟨_, text_put ((r.formatter.perform noted).add 1).flush .figure _, Breaks.of_line hnoted _ _⟩

/-- Whatever events come, they break the line before they write anything else. -/
theorem Runs.breaks {xs : List Located} (hruns : Runs settings resolve xs r r')
    (h : Breaks front r.formatter) : Breaks front r'.formatter := by
  obtain ⟨_, _, -, h'⟩ := hruns.carry (R := fun f _ => Breaks front f) (fun _ ha hf => hf.perform ha)
    (g := {}) [] h
  exact h'

/-- At the latest, the end of a document breaks the line. -/
theorem breaks_ended (h : Breaks front r.formatter) (frame : Option Text) :
    ∃ rest, (ended frame r).formatter.text = front ++ '\n' :: rest := by
  cases frame with
  | none => exact ((h.cap (Int.le_refl 1)).wait (a := .add 1) rfl).flush
  | some preamble =>
    obtain ⟨rest, hflush⟩ := ((h.cap (show (1 : Int) ≤ 3 by decide)).wait (a := .add 3) rfl).flush
    refine ⟨rest ++ endsDocument, ?_⟩
    refine (text_put ((r.formatter.cap 3).add 3).flush .command endsDocument).trans ?_
    refine (congrArg (· ++ endsDocument) hflush).trans ?_
    simp

theorem breaks_hear (h : Breaks front r.formatter) (ns : List Notice) :
    Breaks front (r.hear ns).formatter := by
  rw [formatter_hear]
  exact h.perform (courteous_notes ns)

/-! ## Documents -/

/-- The comment that stands for a figure without a path. -/
def commented (width url : Text) : Text :=
  "%\\includegraphics[width=".toList ++ width ++ "]\x7b".toList ++ url ++ "\x7d".toList

theorem figure_none (width url : Text) : figure width url none = commented width url := by
  have hfront : "%\\includegraphics[width=".toList
      = '%' :: '\\' :: "includegraphics".toList ++ '[' :: "width=".toList := by decide
  have hmiddle : "]\x7b".toList = [']', '\x7b'] := by decide
  have hback : "\x7d".toList = ['\x7d'] := by decide
  unfold figure commented commandWith braced
  rw [hfront, hmiddle, hback]
  simp only [List.append_assoc, List.cons_append, List.nil_append]

theorem commented_line {width url : Text} (hwidth : '\n' ∉ width) (hurl : '\n' ∉ url) :
    '\n' ∉ commented width url := by
  have hfront : '\n' ∉ "%\\includegraphics[width=".toList := by decide
  have hmiddle : '\n' ∉ "]\x7b".toList := by decide
  have hback : '\n' ∉ "\x7d".toList := by decide
  unfold commented
  simp only [List.mem_append, hfront, hwidth, hmiddle, hurl, hback, or_self, not_false_eq_true]

/-- In a stream of tokens, the event behind the start of an image is its end. -/
theorem exists_stop_image {source : Text} {tokens : List Token} {pre post : List Located} {x : Located}
    {target : Target} (hxs : (streamOf source tokens).1 = pre ++ x :: post)
    (hx : x.event = .start (.image target)) :
    ∃ y rest, post = y :: rest ∧ y.event = .stop (.image target) := by
  have hevents : eventsOf (streamOf source tokens).1
      = eventsOf pre ++ .start (.image target) :: eventsOf post := by
    rw [hxs, eventsOf_append, eventsOf_cons, hx]
  obtain ⟨-, hplaced, hopen⟩ := (wellNested_streamOf source tokens).split hevents
  have hstop := head?_eq_stop isStop_of_image hplaced hopen
  cases post with
  | nil => cases hstop
  | cons y rest => exact ⟨y, rest, rfl, Option.some.inj hstop⟩

/-- In a document, a figure that is commented out is all that its comment holds: the line breaks behind
its brace, whatever comes next. -/
theorem comment_ends_line (settings : Settings) (resolve : Resolver) (frame : Option Text)
    (markdown : Text) (tokens : List Token) {pre post : List Located} {x : Located} {target : Target}
    (hxs : (streamOf (prepare (Text.normalizeNewlines markdown)).1 tokens).1 = pre ++ x :: post)
    (hout : Outside pre) (hx : x.event = .start (.image target)) (hform : target.form = some .inline)
    (hnone : resolve (target.url.getD []) = none) :
    let o := Text.normalizeNewlines markdown
    let xs := streamOf (prepare o).1 tokens
    let comment := commented settings.imageWidth (target.url.getD [])
    ∃ y rest r r' before after, post = y :: rest ∧ y.event = .stop (.image target) ∧
      run settings resolve (pre ++ [x, y]) (initial settings frame (prepare o).2) = (r, none) ∧
      r.formatter.text = before ++ comment ∧
      document settings resolve frame xs.1 xs.2 (prepare o).2 = (r', none) ∧
      r'.latex = before ++ comment ++ '\n' :: after ∧
      ('\n' ∉ settings.imageWidth → '\n' ∉ target.url.getD [] → '\n' ∉ comment) := by
  intro o xs comment
  obtain ⟨y, rest, rfl, hy⟩ := exists_stop_image hxs hx
  obtain ⟨r0, hruns0, hready⟩ := exists_runs_to hxs (by rw [hx]; rfl) settings resolve frame
  have hstarts : r0.startsImage? x.event = some target := by
    have hskip : r0.skipDepth = 0 := hready.nested.skips.trans hout
    rw [hx, startsImage?, if_neg (by omega)]
  -- The figure comes outside of math, as every command does.
  have hplaced := (wellNested_streamOf (prepare o).1 tokens).1
  rw [hxs, eventsOf_append, placed_append, Bool.and_eq_true] at hplaced
  have hclear := Clear.runs hruns0 (clear_initial settings frame _) hplaced.1
  obtain ⟨before, htext, hbreaks⟩ := breaks_image settings resolve
    (wrote_hear hclear.wrote x.notices) hform
  rw [hnone, figure_none] at htext
  rw [htext] at hbreaks
  let r1 := (image settings resolve (r0.hear x.notices) target).hear y.notices
  have hruns1 : Runs settings resolve [x, y] r0 r1 := .image hstarts (by rw [hy]; rfl) (.nil _)
  -- The rest of the stream and the end of the document come behind the line break.
  obtain ⟨r2, hruns⟩ := exists_runs_streamOf o tokens settings resolve frame
  have hrun2 : run settings resolve rest r1 = (r2, none) := by
    have hrun := hruns.run_eq
    rw [hxs, hruns0.run_append, show x :: y :: rest = [x, y] ++ rest from rfl, hruns1.run_append] at hrun
    exact hrun
  have hend := ((runs_of_run hrun2).breaks (breaks_hear hbreaks y.notices))
  obtain ⟨after, hafter⟩ := breaks_ended (breaks_hear hend xs.2) frame
  refine ⟨y, rest, _, _, before, after, rfl, hy, hruns0.run_append.trans hruns1.run_eq, ?_,
    document_of_runs frame hruns xs.2, hafter, commented_line⟩
  unfold r1
  rw [hear_eq]
  exact htext

/-- Behind a task marker, which forbids line breaks, and in open math, the comment still ends its line. -/
theorem comment_ends_line_task :
    let o := "- [x] a$$b ![](c) d".toList
    let tokens : List Token := [.list none [.item (some true) [.text "a``b ".toList,
      .image "c".toList none none, .text " d".toList]]]
    let xs := streamOf (prepare o).1 tokens
    let comment := "%\\includegraphics[width=\\textwidth]\x7bc\x7d".toList
    ∃ r before after, document {} (fun _ => none) none xs.1 xs.2 (prepare o).2 = (r, none) ∧
      r.latex = before ++ comment ++ '\n' :: after ∧ '\n' ∉ comment := by
  intro o tokens xs comment
  let target : Target := ⟨some "c".toList, none, some .inline, none⟩
  let pre : List Located := [⟨.start (.list none), ⟨0, 0⟩, []⟩, ⟨.start .item, ⟨0, 0⟩, []⟩,
    ⟨.taskMarker true, ⟨2, 5⟩, []⟩, ⟨.text "a``b ".toList, ⟨6, 11⟩, []⟩]
  let x : Located := ⟨.start (.image target), ⟨11, 17⟩, []⟩
  let post : List Located := [⟨.stop (.image target), ⟨11, 17⟩, []⟩, ⟨.text " d".toList, ⟨17, 19⟩, []⟩,
    ⟨.stop .item, ⟨19, 19⟩, []⟩, ⟨.stop (.list none), ⟨19, 19⟩, []⟩]
  have ho : Text.normalizeNewlines o = o := by decide +kernel
  have hxs : (streamOf (prepare (Text.normalizeNewlines o)).1 tokens).1 = pre ++ x :: post := by
    decide +kernel
  have hcomment : commented "\\textwidth".toList "c".toList = comment := by decide +kernel
  obtain ⟨_, _, _, r, before, after, -, -, -, -, hdoc, hlatex, hline⟩ :=
    comment_ends_line {} (fun _ => none) none o tokens hxs (by decide) rfl rfl rfl
  rw [ho] at hdoc
  refine ⟨r, before, after, hdoc, ?_, ?_⟩
  · rw [← hcomment]
    exact hlatex
  · rw [← hcomment]
    exact hline (by decide) (by decide)

end Rendering
end Texdown.Latex
