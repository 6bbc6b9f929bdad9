import Texdown.Proofs.Arrangement
import Texdown.Proofs.OutsideMath

/-!
# Lists and their counters

Two counters follow the nesting of lists: the level of indentation goes up by two for every list that is
open, and the depth of numbered lists by one for those. An item takes a level back while its mark is
written, so it has to stand in a list. LaTeX numbers the items of numbered lists with one counter for
each depth, of which it has four, and a list that begins at another number than one resets the counter
of its own depth, between the command that begins it and its first item.

Results:
* `Listed.step`, `Listed.image`: an event keeps both counters in step with the open lists.
* `resets_acts`: only the start of a numbered list resets a counter.
* `out_openList`: where it stands in what the start of a numbered list writes.
* `Listed.runs`: along a run, the counters follow the nesting, and every list resets its own.
* `lists_follow_nesting`: so it is at every event of a stream that nests, and at its end.
-/
namespace Texdown.Latex

/-! ## What lists reset -/

/-- The counters that LaTeX has for numbered lists, by depth. -/
def enumCounter : Nat → Text
  | 0 => "enumi".toList
  | 1 => "enumii".toList
  | 2 => "enumiii".toList
  | _ => "enumiv".toList

/-- What makes a list inside of so many numbered lists begin at a number: nothing if it is one, nor where
LaTeX has no counter left. -/
def resetsAt (depth : Nat) (n : Int) : List Text :=
  if n ≠ 1 ∧ depth < 4 then
    [command "setcounter".toList (enumCounter depth) ++ braced (Text.ofInt (n - 1))]
  else []

/-- What an event resets inside of so many numbered lists. -/
def resetsIn (depth : Nat) : Event → List Text
  | .start (.list (some n)) => resetsAt depth n
  | _ => []

/-- What the lists of a stream reset inside of these containers, but for what is left out. -/
def resetsOf : List Tag → List Event → List Text
  | _, [] => []
  | st, e :: es =>
    (if 0 < skipping st then [] else resetsIn (st.countP Tag.isOrdered) e) ++ resetsOf (e.opened st) es

theorem resetsOf_cons {e : Event} (h : ∀ depth, resetsIn depth e = []) (st : List Tag)
    (es : List Event) : resetsOf st (e :: es) = resetsOf (e.opened st) es := by
  rw [resetsOf, h, ite_self, List.nil_append]

theorem toList_setCounter? (depth : Nat) (n : Int) : (setCounter? depth n).toList = resetsAt depth n := by
  unfold setCounter? resetsAt
  by_cases hone : n = 1
  · rw [if_pos hone, if_neg fun h => h.1 hone]
    rfl
  · rw [if_neg hone]
    match depth with
    | 0 | 1 | 2 | 3 =>
      rw [if_pos ⟨hone, by decide⟩]
      rfl
    | depth + 4 =>
      rw [if_neg fun h => by omega]
      rfl

/-- Whether a piece resets a counter. The text of a document is not a command, whatever it says. -/
def Piece.isReset (p : Piece) : Bool := p.origin != .content && "\\setcounter".toList.isPrefixOf p.text

theorem isKind_reset : IsKind Piece.isReset where
  plain := fun p hp => by
    obtain ⟨origin, t, m⟩ := p
    cases origin with
    | content => rfl
    | gap =>
      cases t with
      | nil => rfl
      | cons c t =>
        simp [Piece.isPlain, Piece.isSpacing] at hp
        rcases hp.1 with rfl | rfl <;> rfl
    | dollar =>
      simp [Piece.isPlain, Piece.isSpacing] at hp
      rcases hp with rfl | rfl <;> rfl
    | _ => cases hp
  mode := fun _ _ _ => rfl

/-- The commands that have reset a counter so far. -/
def Formatter.resets (f : Formatter) : List Text := f.picked Piece.isReset

namespace Rendering

variable {settings : Settings} {resolve : Resolver} {st : List Tag} {r r' : Rendering}

/-! ## What an event resets -/

theorem isReset_setCounter? {depth : Nat} {n : Int} {t : Text} (h : setCounter? depth n = some t) :
    Piece.isReset ⟨.command, t, false⟩ = true := by
  unfold setCounter? at h
  split at h
  · cases h
  · obtain ⟨numeral, -, rfl⟩ := Option.map_eq_some_iff.1 h
    rfl

theorem resets_openActs (depth : Nat) (t : Tag) :
    (openActs depth t).flatMap (Act.picked Piece.isReset) = resetsIn depth (.start t) := by
  cases t with
  | list start =>
    cases start with
    | none => rfl
    | some n =>
      rw [resetsIn, ← toList_setCounter?, openActs]
      cases hset : setCounter? depth n with
      | none => rfl
      | some t =>
        have ht : Act.picked Piece.isReset (.write .command t) = [t] := if_pos (isReset_setCounter? hset)
        exact congrArg (· ++ []) ht
  | heading level =>
    simp only [openActs, headingCommand]
    repeat' split
    all_goals rfl
  | link target =>
    simp only [openActs]
    split <;> rfl
  | _ => rfl

theorem resets_closeActs (lineOpen : Bool) (links : List Bool) (t : Tag) :
    (closeActs lineOpen links t).flatMap (Act.picked Piece.isReset) = [] := by
  cases t with
  | list start => cases start <;> rfl
  | codeBlock language => cases lineOpen <;> rfl
  | link target =>
    simp only [closeActs]
    split <;> rfl
  | _ => rfl

/-- Only the start of a numbered list resets a counter. -/
theorem resets_acts (settings : Settings) {r : Rendering} (h0 : r.skipDepth = 0) (e : Event)
    (span : Span) :
    (r.acts settings e span).flatMap (Act.picked Piece.isReset) = resetsIn r.enumDepth e := by
  have hskip : ¬ 0 < r.skipDepth := by omega
  unfold acts
  rw [if_neg hskip]
  cases e with
  | start t => exact resets_openActs r.enumDepth t
  | stop t => exact resets_closeActs _ _ t
  | _ => exact picked_leafActs isKind_reset settings r span _

theorem resets_imageActs (settings : Settings) (resolve : Resolver) (target : Target) :
    (imageActs settings resolve target).flatMap (Act.picked Piece.isReset) = [] := by
  unfold imageActs
  split
  · cases hpath : resolve (target.url.getD []) <;> simp only [hpath] <;> rfl
  · rfl

/-! ## What the start of a numbered list writes -/

theorem out_writeLine (f : Formatter) (origin : Origin) (t : Text) : ∃ ps m,
    (f.writeLine origin t).out = f.out ++ ps ++ [⟨origin, t, m⟩] ∧ ps.all Piece.isSpacing = true := by
  obtain ⟨ps, hout, hps⟩ := (f.add 1).out_flush
  refine ⟨ps, (f.add 1).flush.mathOpen, ?_, hps⟩
  show (f.add 1).flush.out ++ [_] = f.out ++ ps ++ [_]
  rw [hout]
  rfl

/-- The command that begins a numbered list, and behind it the one that resets its counter, if it has to:
there is only spacing between them. -/
theorem out_openList (r : Rendering) (n : Int) : ∃ front between m m',
    (r.openTag (.list (some n))).formatter.out
      = r.formatter.out ++ front ++ [⟨.command, command "begin".toList "enumerate".toList, m⟩]
        ++ (resetsAt r.enumDepth n).flatMap (fun t => between ++ [⟨.command, t, m'⟩]) ∧
      front.all Piece.isSpacing = true ∧ between.all Piece.isSpacing = true := by
  let f := r.formatter.writeLine .command (command "begin".toList "enumerate".toList)
  obtain ⟨front, m, hbegin, hfront⟩ :=
    out_writeLine r.formatter .command (command "begin".toList "enumerate".toList)
  rw [← toList_setCounter?]
  simp only [openTag, openList, format]
  cases setCounter? r.enumDepth n with
  | none =>
    refine ⟨front, [], m, m, ?_, hfront, rfl⟩
    rw [Option.toList_none, List.flatMap_nil, List.append_nil]
    exact hbegin
  | some t =>
    obtain ⟨between, m', hset, hbetween⟩ := out_writeLine f.indent .command t
    refine ⟨front, between, m, m', ?_, hfront, hbetween⟩
    rw [Option.toList_some, List.flatMap_singleton, ← hbegin, ← List.append_assoc]
    exact hset

/-! ## The counters along a run -/

/-- The counters of a rendering inside of these containers. -/
structure Counts (r : Rendering) (st : List Tag) : Prop where
  level : r.formatter.spacing.level = 2 * st.countP Tag.isList
  enumDepth : r.enumDepth = st.countP Tag.isOrdered

/-- What a rendering knows of the lists that are open. -/
structure Listed (r : Rendering) (st : List Tag) : Prop extends Nested r st where
  counts : Counts r (shown st)

theorem Counts.hear (h : Counts r st) (ns : List Notice) : Counts (r.hear ns) st := by
  rw [hear_eq]
  exact ⟨h.level, h.enumDepth⟩

theorem Listed.hear (h : Listed r st) (ns : List Notice) : Listed (r.hear ns) st :=
  ⟨h.toNested.hear ns, h.counts.hear ns⟩

/-- An event keeps both counters in step with the open lists, if items stand in lists. -/
theorem Listed.step (h : Listed r st) {last : Option Event} {e : Event} {span : Span}
    (he : e.fits st = true) (hitem : Placement.itemInList st last e = true)
    (hi : r.startsImage? e = none) (hr : r.step settings e span = .ok r') :
    Listed r' (e.opened st) := by
  refine ⟨h.toNested.step he hi hr, ?_⟩
  obtain ⟨hlevel, hdepth⟩ := h.counts
  rcases Nat.eq_zero_or_pos (skipping st) with h0 | hpos
  · have hzero : r.skipDepth = 0 := h.skips.trans h0
    refine ⟨?_, ?_⟩
    · -- An item takes back a level that its list has added, so nothing is lost where levels stop at zero.
      have hskipped : ∀ t : Tag, t.isSkipped = true → t.isList = false := fun t => by
        cases t <;> simp [Tag.isSkipped, Tag.isList]
      rw [shown_eq_self h0] at hlevel
      rw [countP_shown_opened h0 he hskipped, ← levelAfter_opened he hitem, formatter_step hr,
        Formatter.spacing_perform, (effect_acts settings hzero e span).level, hlevel]
    · have hr' := hr
      unfold Rendering.step at hr'
      rw [if_neg (by omega)] at hr'
      cases e with
      | start t =>
        cases hr'
        exact enumDepth_openTag h0 hdepth t
      | stop t =>
        obtain ⟨outer, rfl⟩ := eq_cons_of_fits he
        exact enumDepth_closeTag h0 hdepth hr'
      | _ =>
        obtain ⟨-, b, -, hb⟩ := beside_leaf rfl hzero hr
        exact (congrArg Rendering.enumDepth hb :).trans hdepth
  · unfold Rendering.step at hr
    rw [if_pos (h.skips ▸ hpos)] at hr
    cases hr
    rw [skip_eq r h.skips he, shown_opened hpos he]
    exact ⟨hlevel, hdepth⟩

/-- An image leaves both as they were. -/
theorem Counts.image (h : Counts r st) (target : Target) :
    Counts (image settings resolve r target) st := by
  refine ⟨?_, ?_⟩
  · rw [formatter_image, Formatter.spacing_perform, (effect_imageActs settings resolve target).level]
    exact h.level
  · exact (congrArg Rendering.enumDepth (beside_image settings resolve r target) :).trans h.enumDepth

theorem Listed.image (h : Listed r st) (target : Target) :
    Listed (image settings resolve r target) st :=
  ⟨h.toNested.of_beside (beside_image settings resolve r target), h.counts.image target⟩

theorem resets_hear (r : Rendering) (ns : List Notice) :
    (r.hear ns).formatter.resets = r.formatter.resets := by
  rw [hear_eq]
  rfl

theorem resets_perform (f : Formatter) (acts : List Act) :
    (f.perform acts).resets = f.resets ++ acts.flatMap (Act.picked Piece.isReset) :=
  Formatter.picked_perform isKind_reset f acts

theorem resets_image (r : Rendering) (target : Target) :
    (image settings resolve r target).formatter.resets = r.formatter.resets := by
  rw [formatter_image, resets_perform, resets_imageActs, List.append_nil]

/-- An event resets what it has to at the depth of the lists around it. -/
theorem Listed.resets_step (h : Listed r st) {e : Event} {span : Span}
    (hr : r.step settings e span = .ok r') : r'.formatter.resets = r.formatter.resets
      ++ if 0 < skipping st then [] else resetsIn (st.countP Tag.isOrdered) e := by
  rw [formatter_step hr, resets_perform]
  by_cases hpos : 0 < skipping st
  · have hnone : r.acts settings e span = [] := if_pos (h.skips ▸ hpos)
    rw [if_pos hpos, hnone]
    rfl
  · have h0 : skipping st = 0 := by omega
    rw [if_neg hpos, resets_acts settings (h.skips.trans h0), h.counts.enumDepth, shown_eq_self h0]

/-- Along a run, the counters follow the nesting, and every list resets its own. -/
theorem Listed.runs {xs : List Located} (hruns : Runs settings resolve xs r r') :
    ∀ {st : List Tag} {last : Option Event}, Listed r st →
      placed .itemInList st last (eventsOf xs) = true →
      Listed r' (openTags st (eventsOf xs)) ∧
        r'.formatter.resets = r.formatter.resets ++ resetsOf st (eventsOf xs) := by
  induction hruns with
  | nil r => exact fun h _ => ⟨h, (List.append_nil _).symm⟩
  | @event e rest r r1 r2 hi hs _ ih =>
    intro st last h hp
    obtain ⟨hfits, hitem, hp⟩ := placed_cons hp
    have hheard := h.hear e.notices
    obtain ⟨hlisted, hresets⟩ :=
      ih (hheard.step hfits hitem ((startsImage?_hear r _ _).trans hi) hs) hp
    refine ⟨hlisted, ?_⟩
    rw [hresets, hheard.resets_step hs, resets_hear, List.append_assoc]
    rfl
  | @image x y rest r r2 target hi hy _ ih =>
    intro st last h hp
    simp only [eventsOf_cons] at hp ⊢
    obtain ⟨-, -, hp⟩ := placed_cons hp
    obtain ⟨-, -, hp⟩ := placed_cons hp
    obtain ⟨hopened, -⟩ := opened_image hi hy st
    rw [openTags_cons, openTags_cons, hopened]
    rw [hopened] at hp
    obtain ⟨hlisted, hresets⟩ := ih (((h.hear x.notices).image target).hear y.notices) hp
    refine ⟨hlisted, ?_⟩
    have hx : ∀ depth, resetsIn depth x.event = [] := fun depth => by
      rw [(eq_of_startsImage? hi).1]
      rfl
    have hstop : ∀ depth, resetsIn depth y.event = [] := fun depth => by
      cases hevent : y.event with
      | stop t => rfl
      | _ => rw [hevent] at hy; cases hy
    rw [hresets, resets_hear, resets_image, resets_hear, resetsOf_cons hx, resetsOf_cons hstop, hopened]

/-- What a run writes comes behind what was written before. -/
theorem Runs.out_behind {xs : List Located} (h : Runs settings resolve xs r r') :
    r.formatter.out <+: r'.formatter.out := by
  obtain ⟨_, _, -, h'⟩ := h.carry (R := fun f _ => r.formatter.out <+: f.out)
    (fun {f _} acts _ hf => hf.trans (f.prefix_out acts)) (g := {}) [] (List.prefix_refl _)
  exact h'

/-! ## Documents -/

theorem listed_initial (settings : Settings) (frame : Option Text) (table : Math.Table) :
    Listed (initial settings frame table) [] := by
  cases frame with
  | none => exact ⟨nested_begin rfl rfl, rfl, rfl⟩
  | some preamble => exact ⟨nested_begin rfl rfl, rfl, rfl⟩

/-- The end of a document leaves the counters, and resets none. -/
theorem Counts.ended (h : Counts r st) (frame : Option Text) :
    Counts (ended frame r) st ∧ (ended frame r).formatter.resets = r.formatter.resets := by
  cases frame with
  | none =>
    let f := (r.formatter.cap 1).add 1
    refine ⟨⟨?_, h.enumDepth⟩, Formatter.picked_flush isKind_reset f⟩
    show f.flush.spacing.level = _
    rw [Formatter.flush_spacing]
    exact h.level
  | some preamble =>
    let f := (r.formatter.cap 3).add 3
    have hresets := resets_perform r.formatter [.cap 3, .add 3, .write .command endsDocument]
    refine ⟨⟨?_, h.enumDepth⟩, hresets.trans (List.append_nil _)⟩
    show f.flush.spacing.level = _
    rw [Formatter.flush_spacing]
    exact h.level

theorem Counts.document {xs : List Located} {frame : Option Text} {table : Math.Table}
    (hruns : Runs settings resolve xs (initial settings frame table) r) (h : Counts r st)
    (ts : List Notice) : ∃ r', document settings resolve frame xs ts table = (r', none) ∧
      Counts r' st ∧ r'.formatter.resets = r.formatter.resets := by
  obtain ⟨hcounts, hresets⟩ := (h.hear ts).ended frame
  refine ⟨_, document_of_runs frame hruns ts, ⟨hcounts.level, hcounts.enumDepth⟩, ?_⟩
  exact hresets.trans (resets_hear r ts)

/-- A numbered list starts, resetting the counter of its own depth if it has to. -/
theorem Listed.exists_runs_list (h : Listed r st) (settings : Settings) (resolve : Resolver)
    (h0 : skipping st = 0) {x : Located} {n : Int} (hx : x.event = .start (.list (some n))) :
    ∃ r1 front between m m', Runs settings resolve [x] r r1 ∧
      r1.formatter.out
        = r.formatter.out ++ front ++ [⟨.command, command "begin".toList "enumerate".toList, m⟩]
          ++ (resetsAt (st.countP Tag.isOrdered) n).flatMap
            (fun t => between ++ [⟨.command, t, m'⟩]) ∧
      front.all Piece.isSpacing = true ∧ between.all Piece.isSpacing = true := by
  have hheard := h.hear x.notices
  have hdepth : (r.hear x.notices).enumDepth = st.countP Tag.isOrdered := by
    rw [hheard.counts.enumDepth, shown_eq_self h0]
  have hstep : (r.hear x.notices).step settings x.event x.span
      = .ok ((r.hear x.notices).openTag (.list (some n))) := by
    have hskip : ¬ 0 < (r.hear x.notices).skipDepth := by
      rw [hheard.skips]
      omega
    unfold Rendering.step
    rw [if_neg hskip, hx]
  have hout : (r.hear x.notices).formatter.out = r.formatter.out := by
    rw [hear_eq]
    rfl
  obtain ⟨front, between, m, m', hwritten, hspacing⟩ := out_openList (r.hear x.notices) n
  rw [hdepth, hout] at hwritten
  refine ⟨_, front, between, m, m', .event ?_ hstep (.nil _), hwritten, hspacing⟩
  rw [hx]
  rfl

/-- In a stream that nests, with every item in a list, both counters follow the open lists at every event
outside of what is left out, in front of the end of an image as well, and are back at zero at the end.
Counters are reset by numbered lists only, and by each of them right behind the command that begins it,
in front of everything that is in the list. -/
theorem lists_follow_nesting (settings : Settings) (resolve : Resolver) (frame : Option Text)
    (table : Math.Table) {xs pre post : List Located} {r : Rendering}
    (hnested : WellNested .itemInList xs) (hxs : xs = pre ++ post)
    (hrun : run settings resolve pre (initial settings frame table) = (r, none)) :
    let begun := initial settings frame table
    let st := openTags [] (eventsOf pre)
    (Outside pre → Counts r st ∧
      ∀ ns target, Counts (image settings resolve (r.hear ns) target) st) ∧
    r.formatter.resets = begun.formatter.resets ++ resetsOf [] (eventsOf pre) ∧
    (post = [] → ∀ ts, ∃ r', document settings resolve frame xs ts table = (r', none) ∧
      r'.formatter.spacing.level = 0 ∧ r'.enumDepth = 0 ∧ r'.formatter.resets = r.formatter.resets) ∧
    (∀ x rest n, post = x :: rest → Outside pre → x.event = .start (.list (some n)) →
      ∃ r1 front between m m', run settings resolve (pre ++ [x]) begun = (r1, none) ∧
        r1.formatter.out
          = r.formatter.out ++ front ++ [⟨.command, command "begin".toList "enumerate".toList, m⟩]
            ++ (resetsAt (st.countP Tag.isOrdered) n).flatMap
              (fun t => between ++ [⟨.command, t, m'⟩]) ∧
        front.all Piece.isSpacing = true ∧ between.all Piece.isSpacing = true ∧
        ∀ more r2, run settings resolve (pre ++ x :: more) begun = (r2, none) →
          r1.formatter.out <+: r2.formatter.out) := by
  intro begun st
  obtain ⟨hplaced, hopen⟩ := hnested
  rw [hxs, eventsOf_append, placed_append, Bool.and_eq_true] at hplaced
  have hruns := runs_of_run hrun
  obtain ⟨hlisted, hresets⟩ := Listed.runs hruns (listed_initial settings frame table) hplaced.1
  have hcounts : Outside pre → Counts r st := fun hout => by
    have h := hlisted.counts
    rwa [shown_eq_self hout] at h
  refine ⟨fun hout => ⟨hcounts hout, fun ns target => ?_⟩, hresets, ?_, ?_⟩
  · -- A run takes an image at once, so the state in front of its end is none that a run ends in.
    have h := (hlisted.hear ns).counts
    rw [shown_eq_self hout] at h
    exact h.image target
  · rintro rfl ts
    rw [List.append_nil] at hxs
    subst hxs
    have hout : Outside xs := by
      rw [Outside, hopen]
      rfl
    have hempty : Counts r [] := hopen ▸ hcounts hout
    obtain ⟨r', hdoc, hzero, hsame⟩ := hempty.document hruns ts
    exact ⟨r', hdoc, hzero.level, hzero.enumDepth, hsame⟩
  · rintro x rest n rfl hout hx
    obtain ⟨r1, front, between, m, m', hruns1, hwritten, hfront, hbetween⟩ :=
      hlisted.exists_runs_list settings resolve hout hx
    refine ⟨r1, front, between, m, m', hruns.run_append.trans hruns1.run_eq, hwritten, hfront, hbetween,
      fun more r2 hrun2 => ?_⟩
    rw [hruns.run_append, ← List.singleton_append, hruns1.run_append] at hrun2
    exact (runs_of_run hrun2).out_behind

/-- A list in a quote in an item of a numbered list: the one that a table left out does not count. -/
theorem lists_follow_nesting_seven :
    let at0 (e : Event) : Located := ⟨e, ⟨0, 0⟩, []⟩
    let pre := [Event.start (.list none), .start .item, .start (.list (some 1)), .start .item,
      .start .table, .start (.list (some 5)), .stop (.list (some 5)), .stop .table,
      .start .blockQuote].map at0
    let x := at0 (.start (.list (some 7)))
    let post := [Event.start .item, .stop .item, .stop (.list (some 7)), .stop .blockQuote, .stop .item,
      .stop (.list (some 1)), .stop .item, .stop (.list none)].map at0
    let xs := pre ++ x :: post
    let start := initial {} none (.ofOffsets [] 0)
    ∃ r r1 r' front between m m',
      run {} (fun _ => none) pre start = (r, none) ∧
      r.formatter.spacing.level = 4 ∧ r.enumDepth = 1 ∧
      run {} (fun _ => none) (pre ++ [x]) start = (r1, none) ∧
      r1.formatter.out
        = r.formatter.out ++ front ++ [⟨.command, "\\begin\x7benumerate\x7d".toList, m⟩]
          ++ (between ++ [⟨.command, "\\setcounter\x7benumii\x7d\x7b6\x7d".toList, m'⟩]) ∧
      front.all Piece.isSpacing = true ∧ between.all Piece.isSpacing = true ∧
      document {} (fun _ => none) none xs [] (.ofOffsets [] 0) = (r', none) ∧
      r'.formatter.spacing.level = 0 ∧ r'.enumDepth = 0 ∧
      r'.formatter.resets = ["\\setcounter\x7benumii\x7d\x7b6\x7d".toList] := by
  intro at0 pre x post xs start
  have hnested : WellNested .itemInList xs := by decide +kernel
  have hpre : (run {} (fun _ => none) pre start).2 = none := by decide +kernel
  have hall : (run {} (fun _ => none) xs start).2 = none := by decide +kernel
  obtain ⟨hcounts, -, -, hlist⟩ :=
    lists_follow_nesting {} (fun _ => none) none (.ofOffsets [] 0) hnested rfl (Prod.ext rfl hpre)
  obtain ⟨-, hresets, hend, -⟩ :=
    lists_follow_nesting {} (fun _ => none) none (.ofOffsets [] 0) hnested (List.append_nil xs).symm
      (Prod.ext rfl hall)
  have hlists : 2 * (openTags [] (eventsOf pre)).countP Tag.isList = 4 := by decide
  have hordered : (openTags [] (eventsOf pre)).countP Tag.isOrdered = 1 := by decide
  have hreset : resetsAt 1 7 = ["\\setcounter\x7benumii\x7d\x7b6\x7d".toList] := by decide
  have hwhole : start.formatter.resets ++ resetsOf [] (eventsOf xs)
      = ["\\setcounter\x7benumii\x7d\x7b6\x7d".toList] := by decide +kernel
  have hbegin : command "begin".toList "enumerate".toList = "\\begin\x7benumerate\x7d".toList := by
    decide
  have hout : Outside pre := by decide
  obtain ⟨⟨hlevel, hdepth⟩, -⟩ := hcounts hout
  obtain ⟨r1, front, between, m, m', hrun1, hwritten, hfront, hbetween, -⟩ :=
    hlist x post 7 rfl hout rfl
  obtain ⟨r', hdoc, hlevel', hdepth', hsame⟩ := hend rfl []
  rw [hordered, hreset, List.flatMap_singleton, hbegin] at hwritten
  exact ⟨_, r1, r', front, between, m, m', Prod.ext rfl hpre, hlevel.trans hlists, hdepth.trans hordered,
    hrun1, hwritten, hfront, hbetween, hdoc, hlevel', hdepth', hsame.trans (hresets.trans hwhole)⟩

end Rendering
end Texdown.Latex
