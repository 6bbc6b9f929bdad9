import Texdown.Proofs.Balance
import Texdown.Proofs.Faithful

/-!
# Math and groups

Math that a text leaves open stays open until another text closes it or the line breaks. Nothing else
changes it: a run goes through the line breaks and texts that it writes one after the other (`Cue`), and
each of them leaves math open or closed by itself (`mathBehind`). So the brace that closes a group is
written in the mode that they make of the one in which the group was opened.

Results:
* `spans_mathOpen`, `perform_mathOpen`: what is written opens and closes math as its cues do.
* `Runs.formatter_eq`: a run performs its acts.
* `group_keeps_math`: a group closes in the mode that it opened in, if what stands in it leaves it so.
-/
namespace Texdown

/-- The command that opens a container, if that is a group, and its part in the output. -/
def Tag.groupOf? : Tag → Option (Latex.Origin × Text)
  | heading level => some (.heading, (Latex.headingCommand level).1)
  | emphasis => some (.opening, "\\emph\x7b".toList)
  | strong => some (.opening, "\\textbf\x7b".toList)
  | strikethrough => some (.opening, "\\sout\x7b".toList)
  | link target =>
    if target.form = some .inline then
      some (.opening, Latex.command "href".toList (target.url.getD []) ++ ['\x7b'])
    else none
  | _ => none

namespace Latex

/-! ## What opens and closes math -/

/-- What can open or close math. -/
inductive Cue where
  /-- A line break in front of what is written. -/
  | lineBreak
  /-- A text that is escaped. -/
  | text (t : Text)
  deriving DecidableEq, Repr

/-- Whether math is open behind a text, if it is or is not in front of it. In math, a backslash keeps
the character behind it, and a line feed ends it. -/
def mathIn : Bool → Text → Bool
  | opened, [] => opened
  | false, '$' :: '$' :: t => mathIn true t
  | false, _ :: t => mathIn false t
  | true, '\\' :: _ :: t => mathIn true t
  | true, '$' :: '$' :: t => mathIn false t
  | true, c :: t => mathIn (c != '\n') t

/-- Whether math that is open in front of a text is so behind it. A dollar at its start closes it. -/
def mathOver : Text → Bool
  | '$' :: '$' :: t => mathIn false t
  | '$' :: t => mathIn false t
  | t => mathIn true t

/-- Whether math is open behind a cue. -/
def Cue.behind (opened : Bool) : Cue → Bool
  | lineBreak => false
  | text t => if opened then mathOver t else mathIn false t

def mathBehind (opened : Bool) (cues : List Cue) : Bool := cues.foldl Cue.behind opened

/-- The line break that is asked for here. -/
def Spacing.cues (s : Spacing) : List Cue := if s.count = 0 then [] else [.lineBreak]

def cues : Spacing → List Act → List Cue
  | _, [] => []
  | s, .write _ _ :: acts => s.cues ++ cues s.flushed acts
  | s, .escaped t :: acts => s.cues ++ .text t :: cues s.flushed acts
  | s, a :: acts => cues (s.act a) acts

theorem mathBehind_append (opened : Bool) (as bs : List Cue) :
    mathBehind opened (as ++ bs) = mathBehind (mathBehind opened as) bs := List.foldl_append

theorem mathBehind_cons (opened : Bool) (a : Cue) (as : List Cue) :
    mathBehind opened (a :: as) = mathBehind (a.behind opened) as := rfl

/-! ### Texts -/

theorem mathIn_of_split (t : Text) : mathIn false t = match splitAtDelimiter? t with
    | none => false
    | some (_, b) => mathIn true b := by
  fun_induction splitAtDelimiter? t with
  | case1 r => rfl
  | case2 c r hne ih =>
    have hc : mathIn false (c :: r) = mathIn false r := by
      rw [mathIn]
      exact hne
    rw [hc, ih]
    cases splitAtDelimiter? r <;> rfl
  | case3 => rfl

theorem mathIn_of_read (t : Text) : mathIn true t = match (readMath t).2 with
    | .never => true
    | .delimiter r => mathIn false r
    | .lineBreak r => mathIn false r := by
  fun_induction readMath t with
  | case1 c r s ih => exact ih
  | case2 r => rfl
  | case3 r => rfl
  | case4 c r hpair hdollars hc s ih =>
    have hgoes : mathIn true (c :: r) = mathIn true r := by
      rw [mathIn, bne_iff_ne.2 hc]
      · exact hpair
      · exact hdollars
    exact hgoes.trans ih
  | case5 => rfl

/-- What is written of a text opens and closes math as it reads. -/
theorem spans_mathOpen (f : Formatter) (t : Text) : (f.spans t).mathOpen = mathIn f.mathOpen t := by
  fun_induction Formatter.spans f t with
  | case1 f t ho f' h => rw [ho, mathIn_of_read, h]; exact ho
  | case2 f t ho f' r h ih => rw [ih, ho, mathIn_of_read, h]; exact congrArg (mathIn · r) (congrArg not ho)
  | case3 f t ho f' r h ih => rw [ih, ho, mathIn_of_read, h]; exact congrArg (mathIn · r) (congrArg not ho)
  | case4 f t ho h =>
    have ho : f.mathOpen = false := by simpa using ho
    rw [ho, mathIn_of_split, h]
    exact ho
  | case5 f t ho a b h ih =>
    have ho : f.mathOpen = false := by simpa using ho
    rw [ih, ho, mathIn_of_split, h]
    exact congrArg (mathIn · b) (congrArg not ho)

theorem flush_mathOpen_eq (f : Formatter) :
    f.flush.mathOpen = mathBehind f.mathOpen f.spacing.cues := by
  rw [Formatter.flush_mathOpen, Spacing.cues]
  split <;> rfl

theorem writeEscaped_mathOpen {f : Formatter} (h : f.mathAware = true) (t : Text) :
    (f.writeEscaped t).mathOpen = (Cue.text t).behind f.flush.mathOpen := by
  have haware : f.flush.mathAware = true := f.flush_mathAware.trans h
  unfold Formatter.writeEscaped
  simp only [haware, Bool.not_true, Bool.false_eq_true, if_false]
  have hclosed : ((f.flush.note .spanClosedAtDollar).toggleMath [' ', '$']).mathOpen
      = !f.flush.mathOpen := rfl
  cases ho : f.flush.mathOpen with
  | false =>
    rw [if_neg (by simp), spans_mathOpen, ho]
    rfl
  | true =>
    rw [if_pos rfl, Cue.behind, if_pos rfl]
    split
    · rw [spans_mathOpen, hclosed, ho]
      rfl
    · next r hone =>
      rw [spans_mathOpen, hclosed, ho, mathOver]
      · rfl
      · exact hone
    · next htwo hone =>
      rw [spans_mathOpen, ho, mathOver]
      · exact htwo
      · exact hone

/-- Math is open behind some acts as their cues leave it. -/
theorem perform_mathOpen {f : Formatter} (h : f.mathAware = true) (acts : List Act) :
    (f.perform acts).mathOpen = mathBehind f.mathOpen (cues f.spacing acts) := by
  induction acts generalizing f with
  | nil => rfl
  | cons a acts ih =>
    have haware : (f.act a).mathAware = true := (Formatter.perform_mathAware f [a]).trans h
    rw [Formatter.perform_cons, ih haware, Formatter.spacing_act]
    cases a with
    | write origin t =>
      rw [cues, mathBehind_append, ← flush_mathOpen_eq]
      rfl
    | escaped t =>
      rw [cues, mathBehind_append, mathBehind_cons, ← flush_mathOpen_eq, ← writeEscaped_mathOpen h]
      rfl
    | _ => rfl

/-- Text without delimiters opens no math. -/
theorem mathIn_of_not_infix {t : Text} (h : ¬ ['$', '$'] <:+: t) : mathIn false t = false := by
  rw [mathIn_of_split, Pass.splitAtDelimiter?_eq_none h]

/-- Behind a line break, math is closed for as long as no text has a delimiter. -/
theorem mathBehind_lineBreak {front rest : List Cue}
    (h : ∀ t, Cue.text t ∈ rest → ¬ ['$', '$'] <:+: t) (opened : Bool) :
    mathBehind opened (front ++ .lineBreak :: rest) = false := by
  rw [mathBehind_append, mathBehind_cons]
  have hclosed : ∀ cs : List Cue, (∀ t, Cue.text t ∈ cs → ¬ ['$', '$'] <:+: t) →
      mathBehind false cs = false := by
    intro cs hcs
    induction cs with
    | nil => rfl
    | cons c cs ih =>
      have hc : c.behind false = false := by
        cases c with
        | lineBreak => rfl
        | text t => exact mathIn_of_not_infix (hcs t List.mem_cons_self)
      rw [mathBehind_cons, hc]
      exact ih fun t ht => hcs t (List.mem_cons_of_mem c ht)
  exact hclosed rest h

namespace Rendering

open Math (Disguised prepare disguise)

variable {settings : Settings} {resolve : Resolver} {r r' : Rendering} {t : Tag} {origin : Origin}
  {opening : Text}

/-! ## Runs -/

def actsOf (settings : Settings) (resolve : Resolver) : List Located → Rendering → List Act
  | [], _ => []
  | x :: rest, r =>
    let r := r.hear x.notices
    x.notices.map .note ++
      match r.startsImage? x.event with
      | some target =>
        imageActs settings resolve target ++
          match rest with
          | [] => []
          | y :: rest => y.notices.map .note
            ++ actsOf settings resolve rest ((r.image settings resolve target).hear y.notices)
      | none =>
        r.acts settings x.event x.span ++
          match r.step settings x.event x.span with
          | .ok r => actsOf settings resolve rest r
          | .error _ => []

theorem Runs.formatter_eq {xs : List Located} (h : Runs settings resolve xs r r') :
    r'.formatter = r.formatter.perform (actsOf settings resolve xs r) := by
  induction h with
  | nil r => rfl
  | @event e rest r r1 r2 hi hs _ ih =>
    have hi : (r.hear e.notices).startsImage? e.event = none := (startsImage?_hear _ _ _).trans hi
    rw [ih, formatter_step hs, formatter_hear]
    simp only [actsOf, hi, hs, Formatter.perform_append]
  | @image x y rest r r2 target hi hy _ ih =>
    have hi : (r.hear x.notices).startsImage? x.event = some target :=
      (startsImage?_hear _ _ _).trans hi
    rw [ih, formatter_hear, formatter_image, formatter_hear]
    simp only [actsOf, hi, Formatter.perform_append]

theorem Runs.mathAware_eq {xs : List Located} (h : Runs settings resolve xs r r') :
    r'.formatter.mathAware = r.formatter.mathAware := by
  rw [h.formatter_eq, Formatter.perform_mathAware]

/-- The line breaks and texts of a run. -/
def cuesOf (settings : Settings) (resolve : Resolver) (xs : List Located) (r : Rendering) : List Cue :=
  cues r.formatter.spacing (actsOf settings resolve xs r)

/-- Math is open behind a run as its line breaks and texts leave it. -/
theorem Runs.mathOpen_eq {xs : List Located} (h : Runs settings resolve xs r r')
    (haware : r.formatter.mathAware = true) :
    r'.formatter.mathOpen = mathBehind r.formatter.mathOpen (cuesOf settings resolve xs r) := by
  rw [h.formatter_eq, perform_mathOpen haware, cuesOf]

theorem mathAware_initial (settings : Settings) (frame : Option Text) (table : Math.Table) :
    (initial settings frame table).formatter.mathAware = settings.mathAware := by
  cases frame with
  | none => rfl
  | some preamble =>
    exact Formatter.perform_mathAware (ofTable settings table).formatter
      [.write .command (Text.dropEndWhile (· == '\n') preamble), .cap 2, .add 2]

/-! ## Groups -/

/-- Where a group opens, the command that opens it is written last. -/
theorem getLast?_openActs (h : t.groupOf? = some (origin, opening)) (depth : Nat) (f : Formatter) :
    (f.perform (openActs depth t)).out.getLast?
      = some ⟨origin, opening, (f.perform (openActs depth t)).mathOpen⟩ := by
  have hput : ∀ (g : Formatter) (o : Origin) (u : Text),
      (g.put o u).out.getLast? = some ⟨o, u, g.mathOpen⟩ := fun g o u => List.getLast?_concat
  cases t with
  | heading | emphasis | strong | strikethrough =>
    cases h
    exact hput _ _ _
  | link target =>
    simp only [Tag.groupOf?] at h
    split at h
    · next hform =>
      cases h
      rw [openActs, if_pos hform]
      exact hput _ _ _
    · cases h
  | _ => cases h

/-- Where it closes, its brace is. -/
theorem getLast?_closeActs (h : t.groupOf? = some (origin, opening)) {links : List Bool}
    (hlinks : ∀ target, t = .link target → links.head? = some (decide (target.form = some .inline)))
    (lineOpen : Bool) (f : Formatter) : (f.perform (closeActs lineOpen links t)).out.getLast?
      = some ⟨.closing, ['\x7d'], (f.perform (closeActs lineOpen links t)).mathOpen⟩ := by
  have hput : ∀ g : Formatter, (g.put .closing ['\x7d']).out.getLast?
      = some ⟨.closing, ['\x7d'], g.mathOpen⟩ := fun g => List.getLast?_concat
  cases t with
  | heading | emphasis | strong | strikethrough => exact hput _
  | link target =>
    simp only [Tag.groupOf?] at h
    split at h
    · next hform =>
      rw [closeActs, hlinks target rfl, decide_eq_true hform, if_pos rfl]
      exact hput _
    · cases h
  | _ => cases h

theorem openTags_of_balanced {es : List Event} (h : Balanced es) (st : List Tag) : openTags st es = st := by
  induction h generalizing st with
  | nil => rfl
  | @plain e he => cases e <;> first | rfl | cases he
  | container t _ ih =>
    rw [List.cons_append, openTags_cons, openTags_append, Event.opened, ih]
    rfl
  | append _ _ ih1 ih2 => rw [openTags_append, ih1, ih2]

/-- A group is no image, and not left out. -/
theorem of_groupOf? (h : t.groupOf? = some (origin, opening)) : t.isImage = false ∧ t.isSkipped = false := by
  cases t <;> first | exact ⟨rfl, rfl⟩ | cases h

/-- A rendering that is ready for a group reads it to its end. What it writes first and last of it are its
command and its brace. -/
theorem Ready.exists_group (settings : Settings) (resolve : Resolver) {o d : Text} {offsets : List Nat}
    (h : Disguised o d offsets) {st : List Tag} {last : Option Event} {inner post : List Located}
    {x y : Located} (hr : Ready offsets d st last (x :: (inner ++ y :: post)) r) (hlinked : Linked r st)
    (h0 : skipping st = 0) (hx : x.event = .start t) (hinner : Balanced (eventsOf inner))
    (hy : y.event = .stop t) (ht : t.groupOf? = some (origin, opening)) :
    ∃ r1 r2, Runs settings resolve [x] r r1 ∧ Runs settings resolve (inner ++ [y]) r1 r2 ∧
      r1.formatter.out.getLast? = some ⟨origin, opening, r1.formatter.mathOpen⟩ ∧
      r2.formatter.out.getLast? = some ⟨.closing, ['\x7d'], r2.formatter.mathOpen⟩ := by
  obtain ⟨himage, hskipped⟩ := of_groupOf? ht
  have hin : openTags (t :: st) (eventsOf inner) = t :: st := openTags_of_balanced hinner _
  have h0' : skipping (t :: st) = 0 := by simp [h0, hskipped]
  have hi : r.startsImage? x.event = none := by
    rw [hx]
    cases t <;> first | rfl | cases himage
  obtain ⟨r1, hs1, hready1⟩ := hr.step settings h hi
  have hlinked1 := (hlinked.hear x.notices).step (by rw [hx]; rfl) ((startsImage?_hear _ _ _).trans hi) hs1
  rw [hx, Event.opened] at hready1 hlinked1
  obtain ⟨r2, hruns, hready2⟩ := hready1.exists_runs settings resolve h inner fun _ => by
    rw [hin]
    exact himage
  have hplaced := hready1.placed
  rw [eventsOf_append, placed_append, Bool.and_eq_true] at hplaced
  have hlinked2 := (hlinked1.runs hruns hplaced.1).hear y.notices
  rw [hin] at hready2 hlinked2
  have hi2 : r2.startsImage? y.event = none := by
    rw [hy]
    rfl
  obtain ⟨r3, hs2, -⟩ := hready2.step settings h hi2
  have hlinks : ∀ target, t = .link target →
      (r2.hear y.notices).openLinks.head? = some (decide (target.form = some .inline)) := by
    rintro target rfl
    rw [hlinked2.groups, shown_eq_self h0']
    rfl
  have hopening : r1.formatter
      = (r.hear x.notices).formatter.perform (openActs (r.hear x.notices).enumDepth t) := by
    rw [formatter_step hs1, hx]
    exact congrArg _ (if_neg (Nat.not_lt.2 (Nat.le_of_eq ((hlinked.hear x.notices).skips.trans h0))))
  have hclosing : r3.formatter = (r2.hear y.notices).formatter.perform
      (closeActs (r2.hear y.notices).codeLineOpen (r2.hear y.notices).openLinks t) := by
    rw [formatter_step hs2, hy]
    exact congrArg _ (if_neg (Nat.not_lt.2 (Nat.le_of_eq (hlinked2.skips.trans h0'))))
  refine ⟨r1, r3, .event hi hs1 (.nil r1), runs_of_run ?_, ?_, ?_⟩
  · rw [hruns.run_append]
    exact (Runs.event hi2 hs2 (.nil r3)).run_eq
  · rw [hopening]
    exact getLast?_openActs ht _ _
  · rw [hclosing]
    exact getLast?_closeActs ht hlinks _ _

/-- A group closes in the mode that it was opened in, if the line breaks and texts in it leave math open
or closed as they find it. It closes outside of math if the line breaks in it and no text behind that has
a delimiter. -/
theorem group_keeps_math (settings : Settings) (haware : settings.mathAware = true) (resolve : Resolver)
    (frame : Option Text) (markdown : Text) (tokens : List Token) {pre inner post : List Located}
    {x y : Located} {t : Tag} {origin : Origin} {opening : Text}
    (hxs : (streamOf (prepare (Text.normalizeNewlines markdown)).1 tokens).1
      = pre ++ x :: (inner ++ y :: post))
    (hx : x.event = .start t) (hinner : Balanced (eventsOf inner)) (hy : y.event = .stop t)
    (hout : Outside pre) (ht : t.groupOf? = some (origin, opening)) :
    let start := initial settings frame (prepare (Text.normalizeNewlines markdown)).2
    ∃ r1 r2, run settings resolve (pre ++ [x]) start = (r1, none) ∧
      run settings resolve (pre ++ x :: (inner ++ [y])) start = (r2, none) ∧
      r1.formatter.out.getLast? = some ⟨origin, opening, r1.formatter.mathOpen⟩ ∧
      r2.formatter.out.getLast? = some ⟨.closing, ['\x7d'], r2.formatter.mathOpen⟩ ∧
      (mathBehind r1.formatter.mathOpen (cuesOf settings resolve (inner ++ [y]) r1)
          = r1.formatter.mathOpen → r2.formatter.mathOpen = r1.formatter.mathOpen) ∧
      ∀ front rest, cuesOf settings resolve (inner ++ [y]) r1 = front ++ .lineBreak :: rest →
        (∀ u, .text u ∈ rest → ¬ ['$', '$'] <:+: u) → r2.formatter.mathOpen = false := by
  intro start
  obtain ⟨r0, hruns0, hready⟩ := exists_runs_to hxs (by rw [hx]; rfl) settings resolve frame
  have hlinked : Linked start [] := by cases frame <;> exact ⟨nested_begin rfl rfl, rfl⟩
  have hplaced := (wellNested_streamOf (prepare (Text.normalizeNewlines markdown)).1 tokens).1
  rw [hxs, eventsOf_append, placed_append, Bool.and_eq_true] at hplaced
  obtain ⟨r1, r2, hruns1, hruns2, hopening, hclosing⟩ := hready.exists_group settings resolve
    (Math.disguised_disguise _) (hlinked.runs hruns0 hplaced.1) hout hx hinner hy ht
  have haware1 : r1.formatter.mathAware = true := by
    rw [hruns1.mathAware_eq, hruns0.mathAware_eq, mathAware_initial, haware]
  have hmode := hruns2.mathOpen_eq haware1
  have hrun1 : run settings resolve (pre ++ [x]) start = (r1, none) :=
    hruns0.run_append.trans hruns1.run_eq
  have hrun2 : run settings resolve (pre ++ [x] ++ (inner ++ [y])) start = (r2, none) :=
    (runs_of_run hrun1).run_append.trans hruns2.run_eq
  rw [List.append_assoc] at hrun2
  refine ⟨r1, r2, hrun1, hrun2, hopening, hclosing, fun hkeeps => hmode.trans hkeeps, ?_⟩
  intro front rest hcues hrest
  rw [hmode, hcues]
  exact mathBehind_lineBreak hrest _

/-- A line break closes the math that a text has opened in front of it. -/
theorem group_keeps_math_lineBreak :
    let o := "*a $$b\nc*".toList
    let tokens : List Token := [.container .paragraph
      [.container .emphasis [.text "a ``b".toList, .softBreak, .text "c".toList]]]
    let pre : List Located := [⟨.start .paragraph, ⟨0, 0⟩, []⟩]
    let x : Located := ⟨.start .emphasis, ⟨0, 0⟩, []⟩
    let inner : List Located := [⟨.text "a ``b".toList, ⟨1, 6⟩, []⟩, ⟨.softBreak, ⟨6, 6⟩, []⟩,
      ⟨.text "c".toList, ⟨7, 8⟩, []⟩]
    let y : Located := ⟨.stop .emphasis, ⟨8, 8⟩, []⟩
    let start := initial {} none (prepare o).2
    (streamOf (prepare o).1 tokens).1 = pre ++ x :: (inner ++ y :: [⟨.stop .paragraph, ⟨8, 8⟩, []⟩]) ∧
      ∃ r1 r2, run {} (fun _ => none) (pre ++ [x]) start = (r1, none) ∧
        run {} (fun _ => none) (pre ++ x :: (inner ++ [y])) start = (r2, none) ∧
        cuesOf {} (fun _ => none) (inner ++ [y]) r1
          = [.text "a $$b".toList, .lineBreak, .text "c".toList] ∧
        r1.formatter.out.getLast? = some ⟨.opening, "\\emph\x7b".toList, false⟩ ∧
        r2.formatter.out.getLast? = some ⟨.closing, ['\x7d'], false⟩ := by
  intro o tokens pre x inner y start
  have ho : Text.normalizeNewlines o = o := by decide +kernel
  have hxs : (streamOf (prepare (Text.normalizeNewlines o)).1 tokens).1
      = pre ++ x :: (inner ++ y :: [⟨.stop .paragraph, ⟨8, 8⟩, []⟩]) := by decide +kernel
  have hinner : Balanced (eventsOf inner) :=
    (Balanced.plain rfl).append ((Balanced.plain rfl).append (.plain rfl))
  obtain ⟨r1, r2, hrun1, hrun2, hopening, hclosing, -, hbreak⟩ :=
    group_keeps_math {} rfl (fun _ => none) none o tokens hxs rfl hinner rfl (by decide) rfl
  rw [ho] at hrun1 hrun2 hxs
  obtain rfl : (run {} (fun _ => none) (pre ++ [x]) start).1 = r1 := congrArg Prod.fst hrun1
  have hcues : cuesOf {} (fun _ => none) (inner ++ [y]) (run {} (fun _ => none) (pre ++ [x]) start).1
      = [.text "a $$b".toList, .lineBreak, .text "c".toList] := by decide +kernel
  have hout : (run {} (fun _ => none) (pre ++ [x]) start).1.formatter.mathOpen = false := by
    decide +kernel
  have hclosed : r2.formatter.mathOpen = false :=
    hbreak [.text "a $$b".toList] [.text "c".toList] hcues fun u hu => by
      cases List.mem_singleton.1 hu
      decide
  rw [hout] at hopening
  rw [hclosed] at hclosing
  exact ⟨hxs, _, r2, hrun1, hrun2, hcues, hopening, hclosing⟩

/-- Math that nothing closes in a group is still open at its brace. -/
theorem group_leaves_math :
    let o := "*a $$b*".toList
    let tokens : List Token := [.container .paragraph [.container .emphasis [.text "a ``b".toList]]]
    let pre : List Located := [⟨.start .paragraph, ⟨0, 0⟩, []⟩]
    let x : Located := ⟨.start .emphasis, ⟨0, 0⟩, []⟩
    let inner : List Located := [⟨.text "a ``b".toList, ⟨1, 6⟩, []⟩]
    let y : Located := ⟨.stop .emphasis, ⟨6, 6⟩, []⟩
    let start := initial {} none (prepare o).2
    (streamOf (prepare (Text.normalizeNewlines o)).1 tokens).1
        = pre ++ x :: (inner ++ y :: [⟨.stop .paragraph, ⟨6, 6⟩, []⟩]) ∧
      Balanced (eventsOf inner) ∧ Outside pre ∧
      ∃ r1 r2, run {} (fun _ => none) (pre ++ [x]) start = (r1, none) ∧
        run {} (fun _ => none) (pre ++ x :: (inner ++ [y])) start = (r2, none) ∧
        r1.formatter.out.getLast? = some ⟨.opening, "\\emph\x7b".toList, r1.formatter.mathOpen⟩ ∧
        r1.formatter.mathOpen = false ∧
        r2.formatter.out.getLast? = some ⟨.closing, ['\x7d'], r2.formatter.mathOpen⟩ ∧
        r2.formatter.mathOpen = true := by
  intro o tokens pre x inner y start
  have hrun : run {} (fun _ => none) (pre ++ x :: (inner ++ [y])) start
      = ((run {} (fun _ => none) (pre ++ x :: (inner ++ [y])) start).1, none) :=
    Prod.ext rfl (by decide +kernel)
  have hruns := runs_of_run hrun
  refine ⟨by decide +kernel, .plain rfl, by decide, _, _, Prod.ext rfl (by decide +kernel), hrun,
    by decide +kernel, by decide +kernel, ?_, ?_⟩
  · have hacts : actsOf {} (fun _ => none) (pre ++ x :: (inner ++ [y])) start
        = [.add 2, .write .opening "\\emph\x7b".toList, .escaped "a $$b".toList]
          ++ [.write .closing ['\x7d']] := by decide +kernel
    rw [hruns.formatter_eq, hacts, Formatter.perform_append]
    exact List.getLast?_concat
  · rw [hruns.mathOpen_eq rfl]
    decide +kernel

end Rendering

end Latex
end Texdown
