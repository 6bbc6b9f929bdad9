import Texdown.Proofs.Effects
import Texdown.Proofs.Faithful

/-!
# Commands stand outside of math

Math that the text leaves open is closed in front of the next line breaks, and commands between blocks
ask for one. But behind an item and behind a task marker there is none, whatever is asked for. So the
limit on line breaks must not forbid them while math is open (`Wrote.guarded`). That goes on from event
to event (`Clear`): an item closes math before it sets the limit, a task marker stands directly behind
the start of an item, and in a block of code, whose end asks for no line break, only text is written,
and as it is.

Results:
* `Clear.step`, `Clear.image`: each event writes its commands outside of math.
* `Clear.runs`: so does a run.
* `commands_outside_math`: a conversion writes the commands of its events, all of them outside of math,
  and ends outside of math.
-/
namespace Texdown.Latex

/-- Commands between blocks, headings and figures. -/
def Origin.isCommand : Origin → Bool
  | command | heading | figure => true
  | gap | dollar | opening | closing | content => false

/-! ## The commands of a document -/

/-- The commands that open a container inside of so many numbered lists. -/
def opening (depth : Nat) : Tag → List Text
  | .heading level => [(headingCommand level).1]
  | .blockQuote => [command "begin".toList "quote".toList]
  | .codeBlock _ => [command "begin".toList "verbatim".toList]
  | .list none => [command "begin".toList "itemize".toList]
  | .list (some start) =>
    command "begin".toList "enumerate".toList :: (setCounter? depth start).toList
  | .item => ["\\item ".toList]
  | _ => []

/-- The commands that close a container. -/
def closing : Tag → List Text
  | .blockQuote => [command "end".toList "quote".toList]
  | .codeBlock _ => [command "end".toList "verbatim".toList]
  | .list none => [command "end".toList "itemize".toList]
  | .list (some _) => [command "end".toList "enumerate".toList]
  | _ => []

/-- The figure of an image whose URL stands in the text. -/
def figureOf (settings : Settings) (resolve : Resolver) (target : Target) : List Text :=
  if target.form = some .inline then
    let url := target.url.getD []
    [figure settings.imageWidth url (resolve url)]
  else []

/-- The commands of an event inside of so many numbered lists. -/
def commandsAt (settings : Settings) (resolve : Resolver) (depth : Nat) : Event → List Text
  | .start (.image target) => figureOf settings resolve target
  | .start t => opening depth t
  | .stop t => closing t
  | _ => []

/-- The commands of a stream inside of these containers, but for what is left out. -/
def commandsOf (settings : Settings) (resolve : Resolver) : List Tag → List Event → List Text
  | _, [] => []
  | st, e :: es =>
    (if 0 < skipping st then [] else commandsAt settings resolve (st.countP Tag.isOrdered) e)
      ++ commandsOf settings resolve (e.opened st) es

/-! ## What a formatter writes -/

theorem isKind_command : IsKind (·.origin.isCommand) where
  plain := fun p hp => by
    obtain ⟨origin, t, m⟩ := p
    cases origin with
    | gap | dollar | content => rfl
    | _ => cases hp
  mode := fun _ _ _ => rfl

namespace Formatter

def commands (f : Formatter) : List Piece := f.out.filter (·.origin.isCommand)

theorem commands_put {origin : Origin} (h : origin.isCommand = false) (f : Formatter) (t : Text) :
    (f.put origin t).commands = f.commands := by
  simp [commands, put, h]

theorem commands_flush (f : Formatter) : f.flush.commands = f.commands := filter_flush isKind_command f

theorem commands_writeEscaped (f : Formatter) (t : Text) : (f.writeEscaped t).commands = f.commands :=
  filter_writeEscaped isKind_command f t

/-- These are the commands written so far, all outside of math. While math is open, a line break may
follow. -/
structure Wrote (cs : List Text) (f : Formatter) : Prop where
  commands : f.commands.map (·.text) = cs
  outside : ∀ p ∈ f.commands, p.inMath = false
  guarded : f.mathOpen = true → 1 ≤ f.spacing.limit

namespace Wrote

variable {cs : List Text} {f g : Formatter}

theorem congr (h : Wrote cs f) (hg : g.commands = f.commands)
    (hguarded : g.mathOpen = true → 1 ≤ g.spacing.limit) : Wrote cs g :=
  ⟨hg ▸ h.commands, hg ▸ h.outside, hguarded⟩

theorem add (h : Wrote cs f) (n : Int) : Wrote cs (f.add n) := h.congr rfl h.guarded

theorem indent (h : Wrote cs f) : Wrote cs f.indent := h.congr rfl h.guarded

theorem dedent (h : Wrote cs f) : Wrote cs f.dedent := h.congr rfl h.guarded

theorem note (h : Wrote cs f) (n : Notice) : Wrote cs (f.note n) := h.congr rfl h.guarded

theorem notes (h : Wrote cs f) (ns : List Notice) : Wrote cs (f.perform (ns.map .note)) := by
  induction ns generalizing f with
  | nil => exact h
  | cons n ns ih => exact ih (h.note n)

theorem cap (h : Wrote cs f) {n : Int} (hn : 1 ≤ n) : Wrote cs (f.cap n) :=
  h.congr rfl fun ho => Int.le_min.2 ⟨h.guarded ho, hn⟩

/-- Line breaks may be forbidden outside of math. -/
theorem cap_of_closed (h : Wrote cs f) (hclosed : f.mathOpen = false) (n : Int) :
    Wrote cs (f.cap n) :=
  h.congr rfl fun ho => by cases hclosed.symm.trans ho

/-- A line break that was asked for closes math. -/
theorem flush_closed (h : Wrote cs f) (hbreak : f.mathOpen = false ∨ 1 ≤ f.spacing.pending) :
    f.flush.mathOpen = false := by
  rw [flush_mathOpen]
  split
  · next hcount =>
    rcases hbreak with hclosed | hpending
    · exact hclosed
    · cases ho : f.mathOpen with
      | false => rfl
      | true =>
        have := h.guarded ho
        simp only [Spacing.count, maxBreaks] at hcount
        omega
  · rfl

theorem flush (h : Wrote cs f) : Wrote cs f.flush := by
  refine h.congr (commands_flush f) fun _ => ?_
  rw [flush_spacing]
  exact (by decide : 1 ≤ maxBreaks)

theorem inline (h : Wrote cs f) {origin : Origin} (ho : origin.isCommand = false) (t : Text) :
    Wrote cs (f.write origin t) :=
  h.flush.congr (commands_put ho f.flush t) h.flush.guarded

theorem escaped (h : Wrote cs f) (t : Text) : Wrote cs (f.writeEscaped t) := by
  refine h.congr (commands_writeEscaped f t) fun _ => ?_
  rw [writeEscaped_spacing]
  exact (by decide : 1 ≤ maxBreaks)

/-- A command is written outside of math if a line break comes in front of it. -/
theorem command (h : Wrote cs f) (origin : Origin) (ho : origin.isCommand = true)
    (hbreak : f.mathOpen = false ∨ 1 ≤ f.spacing.pending) (t : Text) :
    Wrote (cs ++ [t]) (f.write origin t) := by
  have hcommands : (f.write origin t).commands = f.flush.commands ++ [⟨origin, t, false⟩] := by
    simp [Formatter.commands, write, put, ho, h.flush_closed hbreak]
  refine ⟨?_, ?_, h.flush.guarded⟩
  · rw [hcommands, List.map_append, h.flush.commands]
    rfl
  · rw [hcommands]
    intro p hp
    rcases List.mem_append.1 hp with hp | hp
    · exact h.flush.outside p hp
    · cases List.mem_singleton.1 hp
      rfl

theorem pending_add (f : Formatter) {n : Int} (hn : 1 ≤ n) : 1 ≤ (f.add n).spacing.pending :=
  Int.le_trans hn (Int.le_max_right _ _)

/-- A command on a line of its own. -/
theorem line (h : Wrote cs f) (origin : Origin) (ho : origin.isCommand = true) (t : Text) :
    Wrote (cs ++ [t]) (f.writeLine origin t) :=
  ((h.add 1).command origin ho (.inr (pending_add f (Int.le_refl 1))) t).add 1

theorem line_closed (h : Wrote cs f) (origin : Origin) (t : Text) :
    (f.writeLine origin t).mathOpen = false :=
  (h.add 1).flush_closed (.inr (pending_add f (Int.le_refl 1)))

end Wrote
end Formatter

namespace Rendering

open Formatter (Wrote)
open Math (prepare)

variable {cs : List Text} {settings : Settings} {resolve : Resolver} {r r' : Rendering}

/-! ## What an event writes -/

theorem wrote_hear (h : Wrote cs r.formatter) (ns : List Notice) : Wrote cs (r.hear ns).formatter := by
  rw [formatter_hear]
  exact h.notes ns

theorem mathOpen_hear (r : Rendering) (ns : List Notice) :
    (r.hear ns).formatter.mathOpen = r.formatter.mathOpen := by
  rw [hear_eq]
  rfl

theorem wrote_openTag (h : Wrote cs r.formatter) (t : Tag) :
    Wrote (cs ++ opening r.enumDepth t) (r.openTag t).formatter := by
  have hnone : Wrote (cs ++ []) r.formatter := (List.append_nil cs).symm ▸ h
  cases t with
  | heading level =>
    have hbreak : 1 ≤ (headingCommand level).2 + 1 := by
      unfold headingCommand
      repeat' split
      all_goals decide
    exact (h.add _).command .heading rfl (.inr (Wrote.pending_add _ hbreak)) _
  | blockQuote => exact h.line .command rfl _
  | codeBlock language => exact (h.line .command rfl _).cap (Int.le_refl 1)
  | list start =>
    cases start with
    | none => exact (h.line .command rfl _).indent.indent
    | some n =>
      have hbegin := (h.line .command rfl (command "begin".toList "enumerate".toList)).indent
      simp only [openTag, openList, opening, format]
      cases setCounter? r.enumDepth n with
      | none => exact hbegin.indent
      | some t =>
        have hset := (hbegin.line .command rfl t).indent
        rw [List.append_assoc] at hset
        exact hset
  | item =>
    have hbreak : 1 ≤ (r.formatter.add 1).dedent.spacing.pending :=
      Wrote.pending_add r.formatter (Int.le_refl 1)
    have hitem : Wrote (cs ++ ["\\item ".toList]) _ :=
      (h.add 1).dedent.command .command rfl (.inr hbreak) _
    exact hitem.indent.cap_of_closed ((h.add 1).dedent.flush_closed (.inr hbreak)) 0
  | paragraph => exact hnone.add 2
  | footnoteDefinition | table => exact hnone.note _
  | tableHead | tableRow | tableCell | image => exact hnone
  | emphasis | strong | strikethrough => exact hnone.inline rfl _
  | link target =>
    simp only [openTag]
    split
    · exact hnone.inline rfl _
    · exact hnone.note _

/-- No math is open behind the start of a block of code, nor behind that of an item. -/
theorem openTag_closed (h : Wrote cs r.formatter) {t : Tag} (ht : t.isCodeBlock = true ∨ t = .item) :
    (r.openTag t).formatter.mathOpen = false := by
  cases t with
  | codeBlock language => exact h.line_closed .command (command "begin".toList "verbatim".toList)
  | item =>
    exact (h.add 1).dedent.flush_closed (.inr (Wrote.pending_add r.formatter (Int.le_refl 1)))
  | _ => rcases ht with ht | ht <;> cases ht

/-- The end of a block of code asks for no line break, so no math may be open in front of it. -/
theorem wrote_closeTag (h : Wrote cs r.formatter) {t : Tag} (hr : r.closeTag t = .ok r')
    (hcode : t.isCodeBlock = true → r.formatter.mathOpen = false) :
    Wrote (cs ++ closing t) r'.formatter := by
  have hnone : Wrote (cs ++ []) r.formatter := (List.append_nil cs).symm ▸ h
  cases t with
  | heading level =>
    cases hr
    exact ((hnone.inline rfl _).add _).cap (by decide)
  | blockQuote =>
    cases hr
    exact h.line .command rfl _
  | codeBlock language =>
    cases hr
    have hclosed := hcode rfl
    split
    · have hline : (r.formatter.write .content ['\n']).mathOpen = false :=
        h.flush_closed (.inl hclosed)
      exact ((h.inline rfl _).command .command rfl (.inl hline) _).add 1
    · exact (h.command .command rfl (.inl hclosed) _).add 1
  | list start =>
    cases start with
    | none =>
      cases hr
      exact h.dedent.dedent.line .command rfl _
    | some n =>
      cases hr
      exact h.dedent.dedent.line .command rfl _
  | paragraph =>
    cases hr
    exact hnone.add 2
  | item | footnoteDefinition | table | tableHead | tableRow | tableCell =>
    cases hr
    exact hnone
  | emphasis | strong | strikethrough =>
    cases hr
    exact hnone.inline rfl _
  | link target =>
    simp only [closeTag] at hr
    split at hr
    · cases hr
    · cases hr
      split
      · exact hnone.inline rfl _
      · exact hnone
  | image target => cases hr

/-- Leaves write no commands. -/
theorem wrote_leaf (h : Wrote cs r.formatter) {e : Event} {span : Span} (he : e.isLeaf = true)
    (h0 : r.skipDepth = 0) (hr : r.step settings e span = .ok r')
    (hmarker : ∀ checked, e = .taskMarker checked → r.formatter.mathOpen = false) :
    Wrote cs r'.formatter := by
  rw [formatter_step hr, acts_of_isLeaf h0 he]
  cases e with
  | start | stop => cases he
  | anonymous opens => exact h
  | text t =>
    simp only [leafActs, Formatter.perform_append]
    split
    · exact (h.notes _).inline rfl _
    · exact (h.notes _).escaped _
  | code t | html t =>
    simp only [leafActs, Formatter.perform_append]
    exact (h.notes _).inline rfl _
  | softBreak =>
    simp only [leafActs]
    split
    · exact (h.inline rfl _).add 1
    · exact h.add 1
  | hardBreak => exact (h.inline rfl _).add 1
  | rule => exact h.inline rfl _
  | taskMarker checked =>
    exact (h.inline rfl _).cap_of_closed (h.flush_closed (.inl (hmarker checked rfl))) 0
  | footnoteReference label => exact h.note _

/-- Text in code opens no math. -/
theorem text_closed {t : Text} {span : Span} (h : Wrote cs r.formatter) (h0 : r.skipDepth = 0)
    (hr : r.step settings (.text t) span = .ok r') (hin : r.inCode = true)
    (hclosed : r.formatter.mathOpen = false) : r'.formatter.mathOpen = false := by
  rw [formatter_step hr, acts_of_isLeaf h0 rfl]
  simp only [leafActs, hin, if_true, Formatter.perform_append, ← formatter_hear]
  exact (wrote_hear h _).flush_closed (.inl ((mathOpen_hear r _).trans hclosed))

theorem wrote_image (h : Wrote cs r.formatter) (target : Target) :
    Wrote (cs ++ figureOf settings resolve target) (image settings resolve r target).formatter := by
  unfold image figureOf
  split
  · refine Wrote.line ?_ .figure rfl _
    split
    · exact h.note _
    · exact h
  · exact (List.append_nil cs).symm ▸ h.note _

/-! ## Runs -/

/-- Inside of these containers a rendering has written these commands, and no math is open where the
next line break may be forbidden. -/
structure Clear (cs : List Text) (st : List Tag) (last : Option Event) (r : Rendering) : Prop where
  nested : Nested r st
  wrote : Wrote cs r.formatter
  enumDepth : r.enumDepth = (shown st).countP Tag.isOrdered
  codeOnTop : st.tail.countP Tag.isCodeBlock = 0
  inCode : skipping st = 0 → st.head?.any Tag.isCodeBlock = true →
    r.inCode = true ∧ r.formatter.mathOpen = false
  behindItem : skipping st = 0 → last = some (.start .item) → r.formatter.mathOpen = false

variable {st : List Tag} {last : Option Event}

theorem Clear.hear (h : Clear cs st last r) (ns : List Notice) : Clear cs st last (r.hear ns) where
  nested := h.nested.hear ns
  wrote := wrote_hear h.wrote ns
  enumDepth := (congrArg Rendering.enumDepth (beside_hear r ns) :).trans h.enumDepth
  codeOnTop := h.codeOnTop
  inCode := fun h0 hcode =>
    ⟨(congrArg Rendering.inCode (beside_hear r ns) :).trans (h.inCode h0 hcode).1,
      (mathOpen_hear r ns).trans (h.inCode h0 hcode).2⟩
  behindItem := fun h0 hlast => (mathOpen_hear r ns).trans (h.behindItem h0 hlast)

/-- Inside of what is left out, nothing is written. -/
theorem Clear.skip (h : Clear cs st last r) (hpos : 0 < skipping st) {e : Event}
    (he : e.fits st = true) (htext : Placement.textInCode st last e = true) :
    Clear cs (e.opened st) (some e) (r.skip e) := by
  have hnested := h.nested.skip hpos he
  have hshown := shown_opened hpos he
  rw [skip_eq r h.nested.skips he] at hnested ⊢
  refine ⟨hnested, h.wrote, hshown ▸ h.enumDepth, countP_isCodeBlock_opened h.codeOnTop htext,
    fun h0 hcode => ?_, fun h0 hlast => ?_⟩
  · -- What was left out has just ended, so what is around it is no code.
    cases e with
    | start t =>
      rw [Event.opened, skipping_cons] at h0
      omega
    | stop t =>
      rw [Event.opened, head?_isCodeBlock h.codeOnTop] at hcode
      cases hcode
    | _ => exact absurd h0 (Nat.ne_of_gt hpos)
  · cases hlast
    rw [Event.opened, skipping_cons] at h0
    omega

theorem Clear.openTag (h : Clear cs st last r) (h0 : skipping st = 0) {t : Tag}
    (hi : t.isImage = false) (htext : Placement.textInCode st last (.start t) = true) :
    Clear (cs ++ opening (st.countP Tag.isOrdered) t) (t :: st) (some (.start t)) (r.openTag t) := by
  have hdepth := h.enumDepth
  rw [shown_eq_self h0] at hdepth
  refine ⟨h.nested.openTag h0 hi, hdepth ▸ wrote_openTag h.wrote t, enumDepth_openTag h0 h.enumDepth t,
    countP_isCodeBlock_opened h.codeOnTop htext, fun _ hcode => ?_, fun _ hlast => ?_⟩
  · have ht : t.isCodeBlock = true := hcode
    obtain ⟨links, -, hb⟩ := beside_openTag r t
    refine ⟨(congrArg Rendering.inCode hb :).trans ?_, openTag_closed h.wrote (.inl ht)⟩
    rw [beside, ht, Bool.true_or]
  · cases hlast
    exact openTag_closed h.wrote (.inr rfl)

theorem Clear.closeTag {t : Tag} (h : Clear cs (t :: st) last r) (h0 : skipping (t :: st) = 0)
    (hr : r.closeTag t = .ok r') : Clear (cs ++ closing t) st (some (.stop t)) r' := by
  have hst : skipping st = 0 := by
    rw [skipping_cons] at h0
    omega
  have hcode : st.countP Tag.isCodeBlock = 0 := h.codeOnTop
  refine ⟨h.nested.closeTag h0 hr, wrote_closeTag h.wrote hr fun ht => (h.inCode h0 ht).2,
    enumDepth_closeTag h0 h.enumDepth hr, ?_, fun _ hhead => ?_, fun _ hlast => by cases hlast⟩
  · exact Nat.eq_zero_of_le_zero (hcode ▸ (List.tail_sublist st).countP_le)
  · rw [head?_isCodeBlock hcode] at hhead
    cases hhead

theorem Clear.leaf (h : Clear cs st last r) (h0 : skipping st = 0) {e : Event} {span : Span}
    (he : e.isLeaf = true) (hmay : Placement.walked st last e = true)
    (hr : r.step settings e span = .ok r') : Clear cs st (some e) r' := by
  have hdepth : r.skipDepth = 0 := h.nested.skips.trans h0
  obtain ⟨-, b, -, hb⟩ := beside_leaf he hdepth hr
  obtain ⟨-, htext, -, -⟩ := Placement.walked_iff.1 hmay
  refine ⟨h.nested.of_beside hb, wrote_leaf h.wrote he hdepth hr ?_,
    (congrArg Rendering.enumDepth hb :).trans h.enumDepth, h.codeOnTop, fun _ hcode => ?_,
    fun _ hlast => by cases hlast; cases he⟩
  · rintro checked rfl
    exact h.behindItem h0 (eq_start_item_of_marker hmay)
  · obtain ⟨hin, hclosed⟩ := h.inCode h0 hcode
    refine ⟨(congrArg Rendering.inCode hb :).trans hin, ?_⟩
    cases e with
    | text t => exact text_closed h.wrote hdepth hr hin hclosed
    | start | stop => cases he
    | _ => simp [Placement.textInCode, hcode, Event.isText, Event.isStop] at htext

/-- The commands of an event at its place, unless it is left out. -/
theorem commandsOf_cons (st : List Tag) (e : Event) (es : List Event) :
    commandsOf settings resolve st (e :: es)
      = commandsOf settings resolve st [e] ++ commandsOf settings resolve (e.opened st) es := by
  simp [commandsOf]

theorem commandsOf_image (h0 : skipping st = 0) {e : Event} (he : endsImage e = true) (target : Target)
    (es : List Event) : commandsOf settings resolve st (.start (.image target) :: e :: es)
      = figureOf settings resolve target ++ commandsOf settings resolve st es := by
  cases e with
  | stop t =>
    cases t with
    | image target' => simp [commandsOf, commandsAt, closing, Event.opened, Tag.isSkipped, h0]
    | _ => cases he
  | _ => cases he

/-- An event writes its commands, outside of math. -/
theorem Clear.step (h : Clear cs st last r) {e : Event} {span : Span} (he : e.fits st = true)
    (hmay : Placement.walked st last e = true) (hi : r.startsImage? e = none)
    (hr : r.step settings e span = .ok r') :
    Clear (cs ++ commandsOf settings resolve st [e]) (e.opened st) (some e) r' := by
  obtain ⟨-, htext, -, -⟩ := Placement.walked_iff.1 hmay
  simp only [commandsOf, List.append_nil]
  rcases Nat.eq_zero_or_pos (skipping st) with h0 | hpos
  · have hzero : ¬ 0 < r.skipDepth := by
      rw [h.nested.skips]
      omega
    rw [if_neg (by omega)]
    have hr' := hr
    unfold Rendering.step at hr'
    rw [if_neg hzero] at hr'
    cases e with
    | start t =>
      cases hr'
      cases t with
      | image target => rw [startsImage?, if_neg hzero] at hi; cases hi
      | _ => exact h.openTag h0 rfl htext
    | stop t =>
      obtain ⟨outer, rfl⟩ := eq_cons_of_fits he
      exact h.closeTag h0 hr'
    | _ => exact (List.append_nil cs).symm ▸ h.leaf h0 rfl hmay hr
  · unfold Rendering.step at hr
    rw [if_pos (h.nested.skips ▸ hpos)] at hr
    cases hr
    rw [if_pos hpos, List.append_nil]
    exact h.skip hpos he htext

/-- An image writes its figure, outside of math. -/
theorem Clear.image (h : Clear cs st last r) (hcode : st.head?.any Tag.isCodeBlock = false)
    (target : Target) {last' : Option Event} (hlast : last' ≠ some (.start .item)) :
    Clear (cs ++ figureOf settings resolve target) st last' (r.image settings resolve target) where
  nested := h.nested.of_beside (beside_image settings resolve r target)
  wrote := wrote_image h.wrote target
  enumDepth := (congrArg Rendering.enumDepth (beside_image settings resolve r target) :).trans h.enumDepth
  codeOnTop := h.codeOnTop
  inCode := fun _ hhead => by cases hcode.symm.trans hhead
  behindItem := fun _ hitem => absurd hitem hlast

/-- A run over a stream of tokens writes the commands of its events, outside of math. -/
theorem Clear.runs {xs : List Located} (hruns : Runs settings resolve xs r r') :
    ∀ {cs : List Text} {st : List Tag} {last : Option Event}, Clear cs st last r →
      placed .walked st last (eventsOf xs) = true →
      Clear (cs ++ commandsOf settings resolve st (eventsOf xs)) (openTags st (eventsOf xs))
        (lastOf last (eventsOf xs)) r' := by
  induction hruns with
  | nil r => exact fun h _ => (List.append_nil _).symm ▸ h
  | @event e rest r r1 r2 hi hs _ ih =>
    intro cs st last h hp
    obtain ⟨hfits, hmay, hp⟩ := placed_cons hp
    have h1 : Clear (cs ++ commandsOf settings resolve st [e.event]) _ _ r1 :=
      (h.hear e.notices).step hfits hmay (startsImage?_hear r _ _ ▸ hi) hs
    rw [eventsOf_cons, commandsOf_cons, ← List.append_assoc]
    exact ih h1 hp
  | @image x y rest r r2 target hi hy _ ih =>
    intro cs st last h hp
    simp only [eventsOf_cons] at hp ⊢
    obtain ⟨-, hmay, hp⟩ := placed_cons hp
    obtain ⟨-, -, hp⟩ := placed_cons hp
    obtain ⟨hopened, hlast⟩ := opened_image hi hy st
    obtain ⟨hx, hzero⟩ := eq_of_startsImage? hi
    have h0 : skipping st = 0 := h.nested.skips.symm.trans hzero
    have hcode : st.head?.any Tag.isCodeBlock = false := by
      obtain ⟨-, htext, -, -⟩ := Placement.walked_iff.1 hmay
      exact head?_isCodeBlock_of_start (hx ▸ htext)
    rw [openTags_cons, openTags_cons, hopened, hx, commandsOf_image h0 hy, ← List.append_assoc]
    rw [hopened] at hp
    exact ih (((h.hear x.notices).image hcode target hlast).hear y.notices) hp

/-! ## Conversions -/

/-- The commands in front of a body. -/
def framing : Option Text → List Text
  | some preamble => [Text.dropEndWhile (· == '\n') preamble]
  | none => []

/-- The commands behind a body. -/
def ending (frame : Option Text) : List Text := if frame.isSome then [endsDocument] else []

theorem clear_initial (settings : Settings) (frame : Option Text) (table : Math.Table) :
    Clear (framing frame) [] none (initial settings frame table) where
  nested := by cases frame <;> exact nested_begin rfl rfl
  wrote := by
    have hfresh : Wrote [] (ofTable settings table).formatter :=
      ⟨rfl, fun p hp => (by cases hp), fun ho => by cases ho⟩
    cases frame with
    | none => exact hfresh
    | some preamble => exact ((hfresh.command .command rfl (.inl rfl) _).cap (by decide)).add 2
  enumDepth := by cases frame <;> rfl
  codeOnTop := rfl
  inCode := fun _ h => by cases h
  behindItem := fun _ h => by cases h

/-- The end of a document breaks the line, which closes math. -/
theorem wrote_closeDocument (h : Wrote cs r.formatter) :
    Wrote (cs ++ [endsDocument]) r.closeDocument.formatter ∧
      r.closeDocument.formatter.mathOpen = false := by
  have hbreak : 1 ≤ ((r.formatter.cap 3).add 3).spacing.pending :=
    Wrote.pending_add _ (by decide)
  have hend := (h.cap (show (1 : Int) ≤ 3 by decide)).add 3
  exact ⟨hend.command .command rfl (.inr hbreak) _, hend.flush_closed (.inr hbreak)⟩

/-- So does the end of a body. -/
theorem wrote_closeBody (h : Wrote cs r.formatter) :
    Wrote cs r.closeBody.formatter ∧ r.closeBody.formatter.mathOpen = false := by
  have hend := (h.cap (Int.le_refl 1)).add 1
  exact ⟨hend.flush, hend.flush_closed (.inr (Wrote.pending_add _ (Int.le_refl 1)))⟩

/-- What a document ends with once its events are read. -/
theorem exists_document {frame : Option Text} {events : List Located} {table : Math.Table}
    (hrun : run settings resolve events (initial settings frame table) = (r, none))
    (h : Wrote cs r.formatter) (trailing : List Notice) :
    ∃ r', document settings resolve frame events trailing table = (r', none) ∧
      Wrote (cs ++ ending frame) r'.formatter ∧ r'.formatter.mathOpen = false := by
  have h := wrote_hear h trailing
  refine ⟨_, document_of_runs frame (runs_of_run hrun) trailing, ?_⟩
  cases frame with
  | none =>
    obtain ⟨hwrote, hclosed⟩ := wrote_closeBody h
    exact ⟨(List.append_nil cs).symm ▸ hwrote.note _, hclosed⟩
  | some preamble =>
    obtain ⟨hwrote, hclosed⟩ := wrote_closeDocument h
    exact ⟨hwrote.note _, hclosed⟩

/-- A conversion writes the commands of the events of its tree in their order, and each of them, as
well as the end, comes outside of math. -/
theorem commands_outside_math (settings : Settings) (resolve : Resolver) (frame : Option Text)
    (markdown : Text) (tokens : List Token) :
    let o := Text.normalizeNewlines markdown
    let xs := streamOf (prepare o).1 tokens
    ∃ r, document settings resolve frame xs.1 xs.2 (prepare o).2 = (r, none) ∧
      r.formatter.mathOpen = false ∧
      (∀ p ∈ r.formatter.commands, p.inMath = false) ∧
      r.formatter.commands.map (·.text)
        = framing frame ++ commandsOf settings resolve [] (eventsOf xs.1) ++ ending frame := by
  intro o xs
  obtain ⟨r, hruns⟩ := exists_runs_streamOf o tokens settings resolve frame
  have hclear := Clear.runs hruns (clear_initial settings frame _) (wellNested_streamOf _ tokens).1
  obtain ⟨r', hdoc, hwrote, hclosed⟩ := exists_document hruns.run_eq hclear.wrote xs.2
  exact ⟨r', hdoc, hclosed, hwrote.outside, hwrote.commands⟩

/-- A heading that a task marker keeps on its line comes outside of the math left open above the list. -/
theorem commands_outside_math_task :
    let o := "a$$b\n\n- [x] # c".toList
    let tokens : List Token := [.container .paragraph [.text "a``b".toList],
      .list none [.item (some true) [.heading 1 [.text "c".toList]]]]
    let xs := streamOf (prepare o).1 tokens
    ∃ r, document {} (fun _ => none) none xs.1 xs.2 (prepare o).2 = (r, none) ∧
      r.formatter.mathOpen = false ∧ (∀ p ∈ r.formatter.commands, p.inMath = false) ∧
      r.formatter.commands.map (·.text) = ["\\begin\x7bitemize\x7d".toList, "\\item ".toList,
        "\\section\x7b".toList, "\\end\x7bitemize\x7d".toList] := by
  intro o tokens xs
  have ho : Text.normalizeNewlines o = o := by decide +kernel
  have hcommands : framing none ++ commandsOf {} (fun _ => none) [] (eventsOf xs.1) ++ ending none
      = ["\\begin\x7bitemize\x7d".toList, "\\item ".toList, "\\section\x7b".toList,
        "\\end\x7bitemize\x7d".toList] := by
    decide +kernel
  obtain ⟨r, hdoc, hclosed, houtside, hr⟩ :=
    commands_outside_math {} (fun _ => none) none o tokens
  rw [ho] at hdoc hr
  exact ⟨r, hdoc, hclosed, houtside, hr.trans hcommands⟩

end Rendering
end Texdown.Latex
