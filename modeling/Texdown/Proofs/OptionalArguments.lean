import Texdown.Proofs.NextText
import Texdown.Proofs.OutsideMath

/-!
# What is read as an optional argument

Behind the command of an item and behind a line break LaTeX looks for a bracket, behind a line break for
a star as well. It looks past blanks, so what it finds may come from a text that stands some events
further on. Escaping leaves brackets and stars as they are, and nothing else protects them.

An event that is hushed writes blanks and boxes only (`Event.isHushed`). Of any other event something of
the renderer is seen first (`Speaks`), unless it is a text, of which its first mark is seen (`Shows`).
Where math is open, the line break that is asked for closes it, and that dollar is seen first (`Cut`).

Results:
* `shows_transcribe`, `shows_sayEscaped`: a bracket or a star that begins a text is seen first.
* `speaks_event`: otherwise something of the renderer is seen first.
* `Cut.glyphsOf`: in open math, a dollar of the renderer is written first.
* `firstSeen_glyphsOf`: outside of math, what is seen first behind some events.
* `exists_behind_command`: and behind a command that takes an optional argument.
-/
namespace Texdown

/-- The first character of a text that is not blank. -/
def Latex.firstMark (t : Text) : Option Char := t.find? fun c => !c.isWhitespace

/-- The events that write only blanks and boxes. -/
def Event.isHushed (settings : Latex.Settings) : Event → Bool
  | start .paragraph | stop .paragraph | taskMarker _ => true
  | softBreak => settings.softBreak == .space
  | text t => (Latex.firstMark t).isNone
  | e => e.isMute

/-- The command that an event writes, if LaTeX looks for an optional argument behind it. -/
def Event.argumentCommand? (settings : Latex.Settings) : Event → Option Text
  | start .item => some "\\item ".toList
  | hardBreak => some Latex.lineBreak
  | softBreak => if settings.softBreak = .hard then some Latex.lineBreak else none
  | _ => none

namespace Latex

/-- LaTeX skips blanks. The box of a task is the renderer's own, and skipped as well. -/
def Glyph.isSeen (g : Glyph) : Bool := !g.char.isWhitespace && g.voice != .label

/-- What is seen first. -/
def firstSeen (gs : Glyphs) : Option Glyph := gs.find? Glyph.isSeen

theorem firstSeen_append (as bs : Glyphs) :
    firstSeen (as ++ bs) = (firstSeen as).or (firstSeen bs) := List.find?_append

/-- In any voice but that of a box, the first mark is seen first. -/
theorem firstSeen_say {v : Voice} (hv : v ≠ .label) (t : Text) :
    firstSeen (v.say t) = (firstMark t).map (⟨·, v⟩) := by
  unfold firstSeen Voice.say firstMark
  rw [List.find?_map]
  have hseen : (Glyph.isSeen ∘ fun c => ⟨c, v⟩) = fun c : Char => !c.isWhitespace := by
    funext c
    simp [Glyph.isSeen, hv]
  rw [hseen]

theorem firstSeen_label (t : Text) : firstSeen (Voice.label.say t) = none := by
  rw [firstSeen, List.find?_eq_none]
  intro g hg
  obtain ⟨c, -, rfl⟩ := List.mem_map.1 hg
  simp [Glyph.isSeen]

theorem firstMark_eq_none {t : Text} : firstMark t = none ↔ ∀ c ∈ t, c.isWhitespace = true := by
  simp [firstMark]

theorem firstMark_cons {c : Char} (hc : c.isWhitespace = false) (t : Text) :
    firstMark (c :: t) = some c := by
  simp [firstMark, hc]

theorem firstMark_blank {c : Char} (hc : c.isWhitespace = true) (t : Text) :
    firstMark (c :: t) = firstMark t := by
  simp [firstMark, hc]

/-! ## The renderer -/

/-- Something of the renderer is seen first. -/
def Speaks (gs : Glyphs) : Prop := ∃ g, firstSeen gs = some g ∧ g.voice = .own

theorem Speaks.append {as : Glyphs} (h : Speaks as) (bs : Glyphs) : Speaks (as ++ bs) := by
  obtain ⟨g, hg, hown⟩ := h
  exact ⟨g, by rw [firstSeen_append, hg]; rfl, hown⟩

/-- What the renderer writes in front changes nothing. -/
theorem Speaks.behind {gs : Glyphs} (h : Speaks gs) (t : Text) : Speaks (Voice.own.say t ++ gs) := by
  obtain ⟨g, hg, hown⟩ := h
  rw [Speaks, firstSeen_append, firstSeen_say (by decide), hg]
  cases firstMark t with
  | none => exact ⟨g, rfl, hown⟩
  | some c => exact ⟨⟨c, .own⟩, rfl, rfl⟩

theorem speaks_say {t : Text} (h : (firstMark t).isSome = true) : Speaks (Voice.own.say t) := by
  obtain ⟨c, hc⟩ := Option.isSome_iff_exists.1 h
  exact ⟨⟨c, .own⟩, by rw [firstSeen_say (by decide), hc]; rfl, rfl⟩

/-- The acts write more than blanks, and no text before that. -/
def Act.speak : List Act → Bool
  | .write _ t :: acts => (firstMark t).isSome || speak acts
  | .escaped _ :: _ | [] => false
  | _ :: acts => speak acts

theorem speaks_sayActs {acts : List Act} (h : Act.speak acts = true) (f : Formatter) :
    Speaks (f.sayActs Voice.own.say acts) := by
  induction acts generalizing f with
  | nil => cases h
  | cons a acts ih =>
    rw [Formatter.sayActs]
    cases a with
    | write origin t =>
      rw [Formatter.sayAct, List.append_assoc]
      refine Speaks.behind ?_ f.breaks
      cases ht : (firstMark t).isSome with
      | true => exact (speaks_say ht).append _
      | false => exact (ih (by simpa [Act.speak, ht] using h) _).behind t
    | escaped t => cases h
    | _ => exact ih h _

/-- The act writes nothing that is seen. -/
def Act.Quiet (w : Text → Glyphs) : Act → Prop
  | .write _ t => firstSeen (w t) = none
  | .escaped _ => False
  | _ => True

/-- Where no math is open, the line breaks are blanks. -/
theorem firstMark_breaks {f : Formatter} (h : f.mathOpen = false) : firstMark f.breaks = none := by
  rw [firstMark_eq_none]
  intro c hc
  rw [Formatter.breaks, h] at hc
  rcases blank_gap _ c (by simpa using hc) with rfl | rfl <;> rfl

/-- Quiet acts open no math. -/
theorem quiet_sayActs {w : Text → Glyphs} {acts : List Act} (hquiet : ∀ a ∈ acts, a.Quiet w)
    {f : Formatter} (hf : f.mathOpen = false) :
    firstSeen (f.sayActs w acts) = none ∧ (f.perform acts).mathOpen = false := by
  induction acts generalizing f with
  | nil => exact ⟨rfl, hf⟩
  | cons a acts ih =>
    rw [List.forall_mem_cons] at hquiet
    obtain ⟨ha, hacts⟩ := hquiet
    have hact : firstSeen (f.sayAct w a) = none ∧ (f.act a).mathOpen = false := by
      cases a with
      | write origin t =>
        rw [Formatter.sayAct, firstSeen_append, firstSeen_say (by decide), firstMark_breaks hf, ha]
        exact ⟨rfl, (flush_of_closed hf).2⟩
      | escaped t => exact ha.elim
      | _ => exact ⟨rfl, hf⟩
    obtain ⟨hseen, hclosed⟩ := ih hacts hact.2
    rw [Formatter.sayActs, firstSeen_append, hact.1, hseen]
    exact ⟨rfl, hclosed⟩

/-! ## Texts -/

/-- Output that shows a text: its first mark is seen first if it is a bracket or a star, and otherwise
that or something of the renderer. -/
structure Shows (t : Text) (gs : Glyphs) : Prop where
  blank : firstMark t = none → firstSeen gs = none
  mark : ∀ c, firstMark t = some c → ∃ g, firstSeen gs = some g ∧
    (g = ⟨c, .text⟩ ∨ g.voice = .own ∧ c ≠ '[' ∧ c ≠ '*')

/-- A move that copies what it reads, or writes something for it. -/
theorem shows_mark {c : Char} (hc : c.isWhitespace = false) {r w t' : Text}
    (h : w ≠ [] ∧ w ++ t' = c :: r ∨ (firstMark w).isSome = true ∧ c ≠ '[' ∧ c ≠ '*') (gs : Glyphs) :
    Shows (c :: r) (sayMove .text w (c :: r) t' ++ gs) := by
  refine ⟨fun hnone => ?_, fun d hd => ?_⟩
  · rw [firstMark_cons hc] at hnone
    cases hnone
  · rw [firstMark_cons hc] at hd
    cases hd
    unfold sayMove
    rw [firstSeen_append]
    split
    · next hcopy =>
      have hfirst : firstMark w = some c ∨ w = [] := by
        cases w with
        | nil => exact .inr rfl
        | cons d w =>
          obtain ⟨rfl, -⟩ := List.cons.inj hcopy
          exact .inl (firstMark_cons hc w)
      rcases hfirst with hfirst | rfl
      · rw [firstSeen_say (by decide), hfirst]
        exact ⟨⟨c, .text⟩, rfl, .inl rfl⟩
      · rcases h with h | h
        · exact absurd rfl h.1
        · cases h.1
    · next hcopy =>
      obtain ⟨hw, hother⟩ := h.resolve_left fun h => hcopy h.2
      obtain ⟨d, hd⟩ := Option.isSome_iff_exists.1 hw
      rw [firstSeen_say (by decide), hd]
      exact ⟨⟨d, .own⟩, rfl, .inr ⟨rfl, hother⟩⟩

/-- A move that reads and writes blanks. -/
theorem shows_blank {t w t' : Text} {gs : Glyphs} (hw : firstMark w = none) (ht : firstMark t = firstMark t')
    (h : Shows t' gs) : Shows t (sayMove .text w t t' ++ gs) := by
  have hnone : firstSeen (sayMove .text w t t') = none := by
    unfold sayMove
    split <;> rw [firstSeen_say (by decide), hw] <;> rfl
  refine ⟨fun hblank => ?_, fun c hc => ?_⟩
  · rw [firstSeen_append, hnone, h.blank (ht ▸ hblank)]
    rfl
  · rw [firstSeen_append, hnone]
    exact h.mark c (ht ▸ hc)

theorem firstMark_dropWhile (r : Text) : firstMark (r.dropWhile (· == ' ')) = firstMark r := by
  induction r with
  | nil => rfl
  | cons c r ih =>
    by_cases hc : c = ' '
    · subst hc
      exact ih
    · rw [List.dropWhile_cons_of_neg (by simpa using hc)]

/-- A blank is read and written as one. -/
theorem token_blank {c : Char} (hc : c.isWhitespace = true) (r : Text) :
    firstMark (token c r).1 = none ∧ firstMark (c :: r) = firstMark (token c r).2 := by
  rw [firstMark_blank hc]
  have hcases : c = ' ' ∨ c = '\t' ∨ c = '\r' ∨ c = '\n' := by
    simpa [Char.isWhitespace, or_assoc] using hc
  rcases hcases with rfl | rfl | rfl | rfl
  · exact ⟨rfl, (firstMark_dropWhile r).symm⟩
  · exact ⟨rfl, rfl⟩
  · exact ⟨rfl, rfl⟩
  · exact ⟨rfl, rfl⟩

theorem token_mark {c : Char} (hc : c.isWhitespace = false) (r : Text) :
    (token c r).1 ≠ [] ∧ (token c r).1 ++ (token c r).2 = c :: r ∨
      (firstMark (token c r).1).isSome = true ∧ c ≠ '[' ∧ c ≠ '*' := by
  unfold token
  split
  · exact .inr ⟨by dsimp only; decide, by decide, by decide⟩
  · cases hc
  · dsimp only
    unfold escapeChar
    split
    all_goals first
      | exact .inr (by decide)
      | exact .inl ⟨by simp, rfl⟩

/-- Read as tokens, a text shows as its rest does. -/
theorem shows_token (c : Char) (r : Text) {gs : Glyphs} (h : Shows (token c r).2 gs) :
    Shows (c :: r) (sayMove .text (token c r).1 (c :: r) (token c r).2 ++ gs) := by
  cases hc : c.isWhitespace with
  | true =>
    obtain ⟨hw, ht⟩ := token_blank hc r
    exact shows_blank hw ht h
  | false => exact shows_mark hc (token_mark hc r) gs

theorem shows_nil : Shows [] [] := ⟨fun _ => rfl, fun _ h => by cases h⟩

theorem shows_sayEscaped (t : Text) : Shows t (sayEscaped .text t) := by
  fun_induction sayEscaped .text t with
  | case1 => exact shows_nil
  | case2 c r ih => exact shows_token c r ih

theorem shows_transcribe (t : Text) : Shows t (transcribe .text t) := by
  generalize hm : Reading.text = m
  fun_induction transcribe m t with
  | case1 m t h =>
    rw [eq_nil_of_step h]
    exact shows_nil
  | case2 m t w m' t' h ih =>
    subst hm
    have h : moveInText t = some (w, m', t') := h
    unfold moveInText at h
    split at h
    · cases h
      exact shows_mark rfl (.inr (by decide)) _
    · cases h
      exact shows_token _ _ (ih rfl)
    · cases h

/-- Outside of math, a text shows behind the line breaks. -/
theorem shows_sayText {f : Formatter} (h : f.mathOpen = false) (t : Text) : Shows t (f.sayText t) := by
  have hshows : Shows t
      (if f.mathAware then transcribe (.start f.flush.mathOpen) t else sayEscaped .text t) := by
    rw [(flush_of_closed h).2]
    split
    · exact shows_transcribe t
    · exact shows_sayEscaped t
  have hseen : firstSeen (f.sayText t) = firstSeen
      (if f.mathAware then transcribe (.start f.flush.mathOpen) t else sayEscaped .text t) := by
    rw [Formatter.sayText, firstSeen_append, firstSeen_say (by decide), firstMark_breaks h]
    rfl
  refine ⟨fun hblank => hseen ▸ hshows.blank hblank, fun c hc => hseen ▸ hshows.mark c hc⟩

/-- A blank text opens no math. -/
theorem writeEscaped_blank {f : Formatter} (h : f.mathOpen = false) {t : Text} (ht : firstMark t = none) :
    (f.writeEscaped t).mathOpen = false := by
  have hsplit : splitAtDelimiter? t = none := by
    refine Pass.splitAtDelimiter?_eq_none fun hinfix => ?_
    have hmem : '$' ∈ t := hinfix.subset List.mem_cons_self
    cases firstMark_eq_none.1 ht '$' hmem
  rw [Formatter.writeEscaped_of_split h hsplit]
  exact (flush_of_closed h).2

/-! ## Open math -/

/-- Line breaks that are asked for will cut math that is open. -/
structure Cut (f : Formatter) : Prop where
  mathOpen : f.mathOpen = true
  pending : 1 ≤ f.spacing.pending
  limit : 1 ≤ f.spacing.limit

namespace Cut

variable {f : Formatter}

/-- The dollar that closes the math comes first. -/
theorem breaks (h : Cut f) : ∃ t, f.breaks = '$' :: t := by
  have hcount : f.spacing.count ≠ 0 := by
    have := h.pending
    have := h.limit
    simp only [Spacing.count, maxBreaks]
    omega
  exact ⟨f.spacing.gap, by rw [Formatter.breaks, if_pos ⟨h.mathOpen, hcount⟩]; rfl⟩

theorem wait (h : Cut f) {a : Act} (ha : a.waits = true) : Cut (f.act a) := by
  cases a with
  | add n => exact ⟨h.mathOpen, Int.le_trans h.pending (Int.le_max_left _ _), h.limit⟩
  | dedent | note => exact ⟨h.mathOpen, h.pending, h.limit⟩
  | cap | indent | write | escaped => cases ha

/-- Whatever some acts write, they write the dollar first. -/
theorem sayActs (h : Cut f) (w : Text → Glyphs) {acts : List Act} (hacts : Act.courteous acts = true) :
    (∃ gs, f.sayActs w acts = ⟨'$', .own⟩ :: gs) ∨ f.sayActs w acts = [] ∧ Cut (f.perform acts) := by
  induction acts generalizing f with
  | nil => exact .inr ⟨rfl, h⟩
  | cons a acts ih =>
    simp only [Act.courteous, Bool.or_eq_true, Bool.and_eq_true] at hacts
    rcases hacts with hwrites | ⟨hwaits, hacts⟩
    · obtain ⟨t, ht⟩ := h.breaks
      left
      cases a with
      | write origin u => rw [Formatter.sayActs, Formatter.sayAct, ht]; exact ⟨_, rfl⟩
      | escaped u => rw [Formatter.sayActs, Formatter.sayAct, Formatter.sayText, ht]; exact ⟨_, rfl⟩
      | _ => cases hwrites
    · have hnone : f.sayAct w a = [] := by
        cases a with
        | write | escaped => cases hwaits
        | _ => rfl
      rw [Formatter.sayActs, hnone]
      exact ih (h.wait hwaits) hacts

theorem cap (h : Cut f) {n : Int} (hn : 1 ≤ n) : Cut (f.cap n) :=
  ⟨h.mathOpen, h.pending, Int.le_min.2 ⟨h.limit, hn⟩⟩

theorem perform_notes (h : Cut f) (ns : List Notice) : Cut (f.perform (ns.map .note)) := by
  rw [Rendering.perform_notes]
  exact ⟨h.mathOpen, h.pending, h.limit⟩

end Cut

namespace Rendering

open Formatter (Wrote text_put)
open Math (Disguised prepare disguise)

variable {settings : Settings} {resolve : Resolver} {r r' : Rendering} {st : List Tag}
  {last : Option Event} {e : Event} {span : Span}

theorem cut_hear (h : Cut r.formatter) (ns : List Notice) : Cut (r.hear ns).formatter := by
  rw [formatter_hear]
  exact h.perform_notes ns

/-- Whatever events come, they write the dollar first. -/
theorem cut_glyphsOf {xs : List Located} (hruns : Runs settings resolve xs r r')
    (h : Cut r.formatter) : (∃ gs, glyphsOf settings resolve xs r = ⟨'$', .own⟩ :: gs) ∨
      glyphsOf settings resolve xs r = [] ∧ Cut r'.formatter := by
  induction hruns with
  | nil r => exact .inr ⟨rfl, h⟩
  | @event x rest r r1 r2 hi hs _ ih =>
    rw [glyphsOf_event hi hs, sayEvent]
    rcases (cut_hear h x.notices).sayActs ((r.hear x.notices).wording x.span x.event)
      (courteous_acts settings (r.hear x.notices) x.event x.span) with ⟨gs, hgs⟩ | ⟨hnone, hcut⟩
    · rw [hgs]
      exact .inl ⟨_, rfl⟩
    · rw [hnone]
      exact ih (formatter_step hs ▸ hcut)
  | @image x y rest r r2 target hi hy _ ih =>
    rw [glyphsOf_image hi]
    rcases (cut_hear h x.notices).sayActs Voice.own.say
      (effect_imageActs settings resolve target).courteous with ⟨gs, hgs⟩ | ⟨hnone, hcut⟩
    · rw [hgs]
      exact .inl ⟨_, rfl⟩
    · rw [hnone]
      exact ih (cut_hear (formatter_image settings resolve _ target ▸ hcut) y.notices)

/-- In open math, the dollar that closes it is seen first behind a line break. -/
theorem firstSeen_cut {xs : List Located} (hruns : Runs settings resolve xs r r')
    (h : Cut r.formatter) (frame : Option Text) :
    firstSeen (glyphsBehind settings resolve frame xs r) = some ⟨'$', .own⟩ := by
  unfold glyphsBehind
  rcases cut_glyphsOf hruns h with ⟨gs, hgs⟩ | ⟨hnone, hcut⟩
  · rw [hgs]
    rfl
  · have hending : ∃ t, endingText frame r'.formatter = '$' :: t := by
      cases frame with
      | none => exact ((hcut.cap (Int.le_refl 1)).wait (a := .add 1) rfl).breaks
      | some preamble =>
        obtain ⟨t, ht⟩ := ((hcut.cap (show (1 : Int) ≤ 3 by decide)).wait (a := .add 3) rfl).breaks
        exact ⟨t ++ endsDocument, congrArg (· ++ endsDocument) ht⟩
    obtain ⟨t, ht⟩ := hending
    rw [hnone, hruns.run_eq, ht]
    rfl

/-! ## Events -/

theorem speak_openActs {depth : Nat} {t : Tag} (hi : t.isImage = false)
    (hhushed : (Event.start t).isHushed settings = false) : Act.speak (openActs depth t) = true := by
  cases t with
  | heading level =>
    have hmark : (firstMark (headingCommand level).1).isSome = true := by
      unfold headingCommand
      repeat' split
      all_goals rfl
    simp [openActs, Act.speak, hmark]
  | list start => cases start <;> rfl
  | link target =>
    have hform : target.form = some .inline := by simpa [Event.isHushed, Event.isMute, Tag.isMute] using hhushed
    rw [openActs, if_pos hform]
    rfl
  | image => cases hi
  | paragraph | footnoteDefinition | table | tableHead | tableRow | tableCell => cases hhushed
  | _ => rfl

theorem speak_closeActs {lineOpen : Bool} {links : List Bool} {t : Tag}
    (hlinks : ∀ target, t = .link target → target.form = some .inline → links.head? = some true)
    (hhushed : (Event.stop t).isHushed settings = false) :
    Act.speak (closeActs lineOpen links t) = true := by
  cases t with
  | codeBlock language => cases lineOpen <;> rfl
  | list start => cases start <;> rfl
  | link target =>
    have hform : target.form = some .inline := by simpa [Event.isHushed, Event.isMute, Tag.isMute] using hhushed
    rw [closeActs, if_pos (hlinks target rfl hform)]
    rfl
  | paragraph | item | footnoteDefinition | table | tableHead | tableRow | tableCell | image => cases hhushed
  | _ => rfl

theorem speaks_typewriter (v : Voice) (t : Text) : Speaks (sayTypewriter v t) :=
  ⟨⟨'\\', .own⟩, rfl, rfl⟩

theorem speaks_code (math : Bool) (t : Text) : Speaks (sayCode math t) := by
  cases math with
  | true => exact ⟨⟨'$', .own⟩, rfl, rfl⟩
  | false => exact speaks_typewriter .code t

/-- Of an event that is neither hushed nor a text, something of the renderer is seen first. -/
theorem speaks_event (hl : Linked r st) (h0 : skipping st = 0) (he : e.fits st = true)
    (hi : r.startsImage? e = none) (hhushed : e.isHushed settings = false) (htext : e.isText = false)
    (hr : r.step settings e span = .ok r') : Speaks (sayEvent settings r e span) := by
  have hdepth : r.skipDepth = 0 := hl.skips.trans h0
  have hshown : ¬ 0 < r.skipDepth := by omega
  have hacts : e.isLeaf = true → r.acts settings e span = leafActs settings r span e := fun hleaf =>
    acts_of_isLeaf hdepth hleaf span
  cases e with
  | start t =>
    have himage : t.isImage = false := by
      cases t with
      | image target => rw [startsImage?, if_neg hshown] at hi; cases hi
      | _ => rfl
    have hopen : r.acts settings (.start t) span = openActs r.enumDepth t := if_neg hshown
    rw [sayEvent, hopen]
    exact speaks_sayActs (speak_openActs himage hhushed) _
  | stop t =>
    obtain ⟨outer, rfl⟩ := eq_cons_of_fits he
    have hclose : r.acts settings (.stop t) span = closeActs r.codeLineOpen r.openLinks t := if_neg hshown
    rw [sayEvent, hclose]
    refine speaks_sayActs (speak_closeActs (fun target ht hform => ?_) hhushed) _
    have hgroups := hl.groups
    rw [shown_eq_self h0, ht] at hgroups
    simp [hgroups, grouped?, hform]
  | code t =>
    obtain ⟨hsaid, -⟩ := sayEvent_single (hacts rfl) hr
    rw [hsaid]
    exact (speaks_code _ _).behind _
  | html t =>
    obtain ⟨hsaid, -⟩ := sayEvent_single (hacts rfl) hr
    rw [hsaid]
    exact (speaks_typewriter .html _).behind _
  | softBreak =>
    cases hmode : settings.softBreak with
    | hard =>
      rw [sayEvent, hacts rfl, leafActs, hmode]
      exact speaks_sayActs rfl _
    | space => simp [Event.isHushed, hmode] at hhushed
  | hardBreak | rule =>
    rw [sayEvent, hacts rfl]
    exact speaks_sayActs rfl _
  | text t => cases htext
  | anonymous opens => cases he
  | taskMarker | footnoteReference => cases hhushed

/-- Of a hushed event nothing is seen, and it opens no math. -/
theorem quiet_event (hl : Linked r st) (h0 : skipping st = 0) (he : e.fits st = true)
    (hhushed : e.isHushed settings = true) (htext : e.isText = false)
    (hr : r.step settings e span = .ok r') (hclosed : r.formatter.mathOpen = false) :
    firstSeen (sayEvent settings r e span) = none ∧ r'.formatter.mathOpen = false := by
  rw [sayEvent, formatter_step hr]
  refine quiet_sayActs ?_ hclosed
  have hdepth : r.skipDepth = 0 := hl.skips.trans h0
  cases hmute : e.isMute with
  | true =>
    obtain ⟨ns, hacts⟩ := acts_of_isMute settings hl h0 he hmute htext span
    rw [hacts]
    intro a ha
    obtain ⟨n, -, rfl⟩ := List.mem_map.1 ha
    trivial
  | false =>
    unfold acts
    rw [if_neg (by omega)]
    cases e with
    | start t =>
      cases t with
      | paragraph => simp [openActs, Act.Quiet]
      | _ => cases hmute.symm.trans hhushed
    | stop t =>
      cases t with
      | paragraph => simp [closeActs, Act.Quiet]
      | _ => cases hmute.symm.trans hhushed
    | text t => cases htext
    | taskMarker checked => simp [leafActs, Act.Quiet, wording, firstSeen_label]
    | softBreak =>
      have hmode : settings.softBreak = .space := by simpa [Event.isHushed] using hhushed
      simp [leafActs, hmode, Act.Quiet]
    | _ => cases hmute.symm.trans hhushed

/-! ## Runs -/

/-- Whether a bracket or a star is seen first is left to the events behind this one, outside of math and
of code, or it is settled by this one, as the text that comes next says. -/
inductive Verdict (settings : Settings) (c : Char) (st : List Tag) (e : Event) (gs : Glyphs)
    (r : Rendering) : Prop where
  | passed (seen : firstSeen gs = none) (closed : r.formatter.mathOpen = false) (outside : r.inCode = false)
    (behind : ∀ es, textBehind (Event.isHushed settings) st (e :: es)
      = textBehind (Event.isHushed settings) (e.opened st) es)
  | settled (seen : ∀ rest es, firstSeen (gs ++ rest) = some ⟨c, .text⟩ ↔
      firstMark (textBehind (Event.isHushed settings) st (e :: es)) = some c)

section verdict

variable {c : Char}

/-- Where something of the renderer is seen first, no text comes next. -/
theorem Speaks.settles {gs : Glyphs} (h : Speaks gs) (h0 : skipping st = 0)
    (hhushed : e.isHushed settings = false) (htext : e.isText = false) (rest : Glyphs)
    (es : List Event) : firstSeen (gs ++ rest) = some ⟨c, .text⟩ ↔
      firstMark (textBehind (Event.isHushed settings) st (e :: es)) = some c := by
  obtain ⟨g, hg, hown⟩ := h
  rw [firstSeen_append, hg, textBehind_other h0 hhushed htext]
  constructor
  · rintro ⟨⟩
    cases hown
  · rintro ⟨⟩

/-- A text settles it, unless it is blank. -/
theorem verdict_text {f : Formatter} {t : Text} (hc : c = '[' ∨ c = '*') (h0 : skipping st = 0)
    (hclosed : f.mathOpen = false) (hin : r'.inCode = false) (hr' : r'.formatter = f.writeEscaped t) :
    Verdict settings c st (.text t) (f.sayText t) r' := by
  have hshows := shows_sayText hclosed t
  cases hmark : firstMark t with
  | none =>
    have hhushed : Event.isHushed settings (.text t) = true := by simp [Event.isHushed, hmark]
    have hclosed' : r'.formatter.mathOpen = false := by
      rw [hr']
      exact writeEscaped_blank hclosed hmark
    exact .passed (hshows.blank hmark) hclosed' hin fun es => textBehind_passes hhushed
  | some e =>
    have hhushed : Event.isHushed settings (.text t) = false := by simp [Event.isHushed, hmark]
    obtain ⟨g, hg, hfirst⟩ := hshows.mark e hmark
    refine .settled fun rest es => ?_
    rw [firstSeen_append, hg, textBehind_text h0 hhushed, hmark]
    rcases hfirst with rfl | ⟨hown, hbracket, hstar⟩
    · simp
    · constructor
      · rintro ⟨⟩
        cases hown
      · rintro ⟨⟩
        exact hc.elim (fun h => absurd h hbracket) fun h => absurd h hstar

end verdict

variable {o d : Text} {offsets : List Nat} {x y : Located} {xs : List Located} {c : Char}

theorem verdict_step (h : Disguised o d offsets) (hc : c = '[' ∨ c = '*')
    (hr : Ready offsets d st last (x :: xs) r) (hcoded : Coded r st) (hin : r.inCode = false)
    (hclosed : r.formatter.mathOpen = false) (hi : r.startsImage? x.event = none)
    (hs : (r.hear x.notices).step settings x.event x.span = .ok r') :
    Verdict settings c st (x.decoded offsets o) (sayEvent settings (r.hear x.notices) x.event x.span) r' := by
  have hq := hcoded.hear x.notices
  have hqi := (startsImage?_hear r x.notices x.event).trans hi
  have hqclosed : (r.hear x.notices).formatter.mathOpen = false := (mathOpen_hear r _).trans hclosed
  have hqin : (r.hear x.notices).inCode = false := (inCode_hear r x.notices).trans hin
  have hout : ((r.hear x.notices).skipDepth = 0 → ∀ language, x.event ≠ .start (.codeBlock language)) →
      r'.inCode = false := fun hcode =>
    Bool.eq_false_iff.2 fun hr' => by cases hqin.symm.trans (inCode_of_step hs hcode hr')
  obtain ⟨hfits, -, -⟩ := placed_cons hr.placed
  rcases Nat.eq_zero_or_pos (skipping st) with h0 | hpos
  · cases htext : x.event.isText with
    | true =>
      obtain ⟨payload, hx⟩ := Event.exists_eq_text htext
      obtain ⟨f, hmath, -, hsaid, hr'⟩ := exists_said_text h hr h0 hin hx hs
      rw [Located.decoded_text hx, hsaid]
      refine verdict_text hc h0 (hmath.trans hclosed) (hout fun _ language hcode => ?_) hr'
      rw [hx] at hcode
      cases hcode
    | false =>
      rw [x.decoded_of_not_text htext]
      cases hhushed : x.event.isHushed settings with
      | true =>
        obtain ⟨hnone, hclosed'⟩ := quiet_event hq.toLinked h0 hfits hhushed htext hs hqclosed
        refine .passed hnone hclosed' (hout fun _ language hcode => ?_) fun es => textBehind_passes hhushed
        rw [hcode] at hhushed
        cases hhushed
      | false =>
        have hspeaks := speaks_event hq.toLinked h0 hfits hqi hhushed htext hs
        exact .settled (Speaks.settles hspeaks h0 hhushed htext)
  · have hnone := acts_of_skipping settings hq.toNested hpos x.event x.span
    refine .passed ?_ ?_ (hout fun hzero => ?_) fun es => ?_
    · rw [sayEvent, hnone]
      rfl
    · rw [formatter_step hs, hnone]
      exact hqclosed
    · exact absurd (hq.skips.symm.trans hzero) (Nat.ne_of_gt hpos)
    · rw [textBehind_skipped hpos]

/-- An image that stands in the text is drawn; any other writes nothing. -/
theorem firstSeen_image (settings : Settings) (resolve : Resolver) (f : Formatter) (target : Target) :
    if (Tag.image target).isMute then f.sayActs Voice.own.say (imageActs settings resolve target) = [] ∧
      (f.perform (imageActs settings resolve target)).mathOpen = f.mathOpen
    else Speaks (f.sayActs Voice.own.say (imageActs settings resolve target)) := by
  split
  · next hmute =>
    obtain ⟨ns, hacts⟩ := imageActs_of_isMute settings resolve hmute
    rw [hacts, perform_notes]
    exact ⟨Formatter.sayActs_silent _ _ (by simp [Act.writes]), rfl⟩
  · next hmute =>
    have hform : target.form = some .inline := by simpa [Tag.isMute] using hmute
    have hmark : ∀ width url path, (firstMark (figure width url path)).isSome = true := by
      intro width url path
      cases path <;> rfl
    refine speaks_sayActs ?_ f
    rw [imageActs, if_pos hform]
    dsimp only
    split <;> simp [Act.line, Act.speak, hmark]

/-- Outside of math and of code, a bracket or a star of the document is seen first behind some events
exactly if the text that comes next begins with it. -/
theorem firstSeen_glyphsOf (h : Disguised o d offsets) (hc : c = '[' ∨ c = '*')
    (hruns : Runs settings resolve xs r r') : ∀ {st : List Tag} {last : Option Event},
      Ready offsets d st last xs r → Coded r st → r.inCode = false → r.formatter.mathOpen = false →
        (firstSeen (glyphsOf settings resolve xs r) = some ⟨c, .text⟩ ↔ firstMark
          (textBehind (Event.isHushed settings) st (decodedEvents offsets o xs)) = some c) := by
  induction hruns with
  | nil r =>
    intro st last _ _ _ _
    simp [glyphsOf, firstSeen, textBehind, firstMark]
  | @event x rest r r1 r2 hi hs _ ih =>
    intro st last hr hcoded hin hclosed
    obtain ⟨r1', hs', hr1⟩ := hr.step settings h hi
    cases hs.symm.trans hs'
    obtain ⟨hfits, hmay, -⟩ := placed_cons hr.placed
    have hc1 := (hcoded.hear x.notices).step hfits (Placement.walked_iff.1 hmay).2.1
      ((startsImage?_hear r x.notices x.event).trans hi) hs
    rw [glyphsOf_event hi hs, decodedEvents_cons]
    cases verdict_step h hc hr hcoded hin hclosed hi hs with
    | passed hnone hclosed1 hin1 hbehind =>
      rw [firstSeen_append, hnone, Option.none_or, hbehind, opened_decoded]
      exact ih hr1 hc1 hin1 hclosed1
    | settled hseen => exact hseen _ _
  | @image x y rest r r2 target hi hy _ ih =>
    intro st last hr hcoded hin hclosed
    obtain ⟨hyevent, hr1⟩ := hr.image settings resolve hi
    obtain ⟨hx, hzero⟩ := eq_of_startsImage? hi
    have h0 : skipping st = 0 := hcoded.skips.symm.trans hzero
    have hxd : x.decoded offsets o = .start (.image target) := by
      rw [x.decoded_of_not_text (by rw [hx]; rfl), hx]
    have hyd : y.decoded offsets o = .stop (.image target) := by
      rw [y.decoded_of_not_text (by rw [hyevent]; rfl), hyevent]
    have hseen := firstSeen_image settings resolve (r.hear x.notices).formatter target
    rw [glyphsOf_image hi, decodedEvents_cons, decodedEvents_cons, hxd, hyd]
    cases hmute : (Tag.image target).isMute with
    | true =>
      rw [if_pos hmute] at hseen
      obtain ⟨hnone, hmath⟩ := hseen
      have hpassed : ∀ es, textBehind (Event.isHushed settings) st
          (.start (.image target) :: .stop (.image target) :: es)
            = textBehind (Event.isHushed settings) st es := fun es => by
        rw [textBehind_passes (e := .start (.image target)) hmute,
          textBehind_passes (e := .stop (.image target)) rfl]
        rfl
      rw [hnone, List.nil_append, hpassed]
      refine ih hr1 (((hcoded.hear x.notices).image settings resolve target).hear y.notices) ?_ ?_
      · rw [inCode_hear, inCode_image, inCode_hear, hin]
      · rw [mathOpen_hear, formatter_image, hmath, mathOpen_hear, hclosed]
    | false =>
      rw [if_neg (by simp [hmute])] at hseen
      have hhushed : Event.isHushed settings (.start (.image target)) = false := hmute
      exact Speaks.settles hseen h0 hhushed rfl _ _

/-! ## Behind commands -/

/-- The end of the document is the renderer's. -/
theorem firstSeen_glyphsBehind (settings : Settings) (resolve : Resolver) (frame : Option Text)
    (xs : List Located) (r : Rendering) :
    firstSeen (glyphsBehind settings resolve frame xs r) = some ⟨c, .text⟩ ↔
      firstSeen (glyphsOf settings resolve xs r) = some ⟨c, .text⟩ := by
  rw [glyphsBehind, firstSeen_append, firstSeen_say (by decide)]
  cases firstSeen (glyphsOf settings resolve xs r) with
  | some g => rfl
  | none => cases firstMark (endingText frame (run settings resolve xs r).1.formatter) <;> simp

/-- Behind a command, no code is open, and math is closed or will be cut. -/
theorem behind_command {w : Text} {cs : List Text} (hcoded : Coded r st) (hwrote : Wrote cs r.formatter)
    (h0 : skipping st = 0) (hin : r.inCode = false) (he : e.argumentCommand? settings = some w)
    (hs : r.step settings e span = .ok r') :
    w <:+ r'.latex ∧ r'.inCode = false ∧ (r'.formatter.mathOpen = false ∨ Cut r'.formatter) := by
  have hdepth : r.skipDepth = 0 := hcoded.skips.trans h0
  have hout : (∀ language, e ≠ .start (.codeBlock language)) → r'.inCode = false := fun hcode =>
    Bool.eq_false_iff.2 fun hr' => by cases hin.symm.trans (inCode_of_step hs (fun _ => hcode) hr')
  have hbreak : r.acts settings e span = [.write .content lineBreak, .add 1] →
      lineBreak <:+ r'.latex ∧ (r'.formatter.mathOpen = false ∨ Cut r'.formatter) := fun hacts => by
    have hf : r'.formatter = (r.formatter.flush.put .content lineBreak).add 1 := by
      rw [formatter_step hs, hacts]
      rfl
    refine ⟨⟨r.formatter.flush.text, ?_⟩, ?_⟩
    · show _ = r'.formatter.text
      rw [hf]
      exact (text_put r.formatter.flush .content lineBreak).symm
    · rw [hf]
      cases hmath : r.formatter.flush.mathOpen with
      | false => exact .inl hmath
      | true =>
        have hflushed := r.formatter.flush_spacing
        refine .inr ⟨hmath, Int.le_max_right _ _, ?_⟩
        show (1 : Int) ≤ r.formatter.flush.spacing.limit
        rw [hflushed]
        exact (by decide : (1 : Int) ≤ maxBreaks)
  cases e with
  | start t =>
    cases t with
    | item =>
      cases he
      have hr' : r.openTag .item = r' := by
        unfold step at hs
        rw [if_neg (by omega)] at hs
        exact Except.ok.inj hs
      refine ⟨⟨((r.formatter.add 1).dedent).flush.text, ?_⟩, hout (by simp), ?_⟩
      · have hf : r'.formatter
            = (((((r.formatter.add 1).dedent).flush.put .command "\\item ".toList).indent).cap 0) := by
          rw [← hr']
          rfl
        show _ = r'.formatter.text
        rw [hf]
        exact (text_put ((r.formatter.add 1).dedent).flush .command "\\item ".toList).symm
      · rw [← hr']
        exact .inl (openTag_closed hwrote (.inr rfl))
    | _ => cases he
  | hardBreak =>
    cases he
    obtain ⟨hsuffix, hmath⟩ := hbreak (acts_of_isLeaf hdepth rfl span)
    exact ⟨hsuffix, hout (by simp), hmath⟩
  | softBreak =>
    cases hmode : settings.softBreak with
    | hard =>
      simp only [Event.argumentCommand?, hmode, if_true, Option.some.injEq] at he
      subst he
      have hacts : r.acts settings .softBreak span = [.write .content lineBreak, .add 1] := by
        rw [acts_of_isLeaf hdepth rfl span, leafActs, hmode]
      obtain ⟨hsuffix, hmath⟩ := hbreak hacts
      exact ⟨hsuffix, hout (by simp), hmath⟩
    | space => simp [Event.argumentCommand?, hmode] at he
  | _ => cases he

/-- In every stream, what is seen first behind such a command. -/
theorem exists_behind_command (settings : Settings) (resolve : Resolver) (frame : Option Text)
    {tokens : List Token} {pre post : List Located} {w : Text}
    (hxs : (streamOf (prepare o).1 tokens).1 = pre ++ x :: post) (hout : Outside pre)
    (hx : x.event.argumentCommand? settings = some w) (hc : c = '[' ∨ c = '*') :
    ∃ r r', Runs settings resolve (pre ++ [x]) (initial settings frame (prepare o).2) r ∧
      Runs settings resolve post r r' ∧
      Runs settings resolve (streamOf (prepare o).1 tokens).1 (initial settings frame (prepare o).2) r' ∧
      w <:+ r.latex ∧
      (firstSeen (glyphsBehind settings resolve frame post r) = some ⟨c, .text⟩ ↔
        r.formatter.mathOpen = false ∧ firstMark (textBehind (Event.isHushed settings)
          (openTags [] (eventsOf (pre ++ [x]))) (decodedEvents (disguise o).2 o post)) = some c) := by
  have hkind : x.event.isStop = false ∧ x.event.isText = false ∧
      ∀ target, x.event ≠ .start (.image target) := by
    cases hevent : x.event with
    | start t =>
      cases t with
      | item => exact ⟨rfl, rfl, by simp⟩
      | _ => rw [hevent] at hx; cases hx
    | softBreak | hardBreak => exact ⟨rfl, rfl, by simp⟩
    | _ => rw [hevent] at hx; cases hx
  obtain ⟨hstop, htext, himage⟩ := hkind
  obtain ⟨r0, hruns0, hready, hcoded⟩ := exists_coded_to hxs hstop settings resolve frame
  have hi : r0.startsImage? x.event = none := by
    by_contra hne
    obtain ⟨target, ht⟩ := Option.ne_none_iff_exists'.1 hne
    exact himage target (eq_of_startsImage? ht).1
  obtain ⟨r, hs, hready1⟩ := hready.step settings (Math.disguised_disguise o) hi
  obtain ⟨hfits, hmay, -⟩ := placed_cons hready.placed
  have hplaced := (wellNested_streamOf (prepare o).1 tokens).1
  rw [hxs, eventsOf_append, placed_append, Bool.and_eq_true] at hplaced
  have hclear := Clear.runs hruns0 (clear_initial settings frame _) hplaced.1
  have hcode := (Placement.walked_iff.1 hmay).2.1
  have hin : (r0.hear x.notices).inCode = false := by
    rw [(hcoded.hear x.notices).inCode_eq hout]
    simpa [Placement.textInCode, htext, hstop] using hcode
  obtain ⟨hsuffix, hin1, hmath⟩ := behind_command (hcoded.hear x.notices)
    (wrote_hear hclear.wrote x.notices) hout hin hx hs
  have hcoded1 := (hcoded.hear x.notices).step hfits hcode ((startsImage?_hear r0 _ _).trans hi) hs
  have hruns1 : Runs settings resolve [x] r0 r := .event hi hs (.nil r)
  obtain ⟨r', hruns'⟩ := exists_runs_streamOf o tokens settings resolve frame
  have hrun : run settings resolve post r = (r', none) := by
    have hrun := hruns'.run_eq
    rw [hxs, hruns0.run_append, show x :: post = [x] ++ post from rfl, hruns1.run_append] at hrun
    exact hrun
  have hruns2 := runs_of_run hrun
  refine ⟨r, r', runs_of_run (hruns0.run_append.trans hruns1.run_eq), hruns2, hruns', hsuffix, ?_⟩
  have hopen : openTags [] (eventsOf (pre ++ [x])) = x.event.opened (openTags [] (eventsOf pre)) := by
    rw [eventsOf_append, openTags_append]
    rfl
  cases hclosed : r.formatter.mathOpen with
  | false =>
    rw [firstSeen_glyphsBehind, hopen]
    rw [firstSeen_glyphsOf (Math.disguised_disguise o) hc hruns2 hready1 hcoded1 hin1 hclosed]
    simp
  | true =>
    have hcut := hmath.resolve_left (by simp [hclosed])
    rw [firstSeen_cut hruns2 hcut frame]
    simp

/-- Behind the command of an item or a line break, a conversion goes on with a bracket or a star of a text,
past blanks and the box of a task, exactly if math is closed there and the text that comes next begins
with it, past events that write only blanks and boxes. -/
theorem argument_behind_command_iff (settings : Settings) (resolve : Resolver) (preamble : Option Text)
    (markdown : Text) (tokens : List Token) {pre post : List Located} {x : Located} {w : Text} {c : Char}
    (hxs : (streamOf (prepare (Text.normalizeNewlines markdown)).1 tokens).1 = pre ++ x :: post)
    (hout : Outside pre) (hx : x.event.argumentCommand? settings = some w) (hc : c = '[' ∨ c = '*') :
    let o := Text.normalizeNewlines markdown
    let result := Job.convert ⟨settings, preamble.map .ok, resolve⟩ (fun _ => .ok tokens) markdown
    ∃ r, run settings resolve (pre ++ [x]) (initial settings preamble (prepare o).2) = (r, none) ∧
      w <:+ r.latex ∧ result.error = none ∧
      let gs := glyphsBehind settings resolve preamble post r
      result.latex = r.latex ++ chars gs ∧
      (firstSeen gs = some ⟨c, .text⟩ ↔ r.formatter.mathOpen = false ∧
        firstMark (textBehind (Event.isHushed settings) (openTags [] (eventsOf (pre ++ [x])))
          (decodedEvents (disguise o).2 o post)) = some c) := by
  intro o result
  obtain ⟨r, r', hruns, hruns', hwhole, hsuffix, hseen⟩ :=
    exists_behind_command settings resolve preamble hxs hout hx hc
  refine ⟨r, hruns.run_eq, hsuffix, (convert_chars settings resolve preamble markdown tokens).1, ?_, hseen⟩
  exact (convert_latex preamble markdown tokens hwhole).trans (hruns'.ending preamble)

/-- A star behind a line end. -/
theorem argument_behind_command_star :
    let markdown := "a\n\\*b".toList
    let o := Text.normalizeNewlines markdown
    let tokens : List Token := [.container .paragraph [.text "a".toList, .softBreak, .text "*b".toList]]
    let result := Job.convert ⟨{}, none, fun _ => none⟩ (fun _ => .ok tokens) markdown
    let pre : List Located := [⟨.start .paragraph, ⟨0, 0⟩, []⟩, ⟨.text "a".toList, ⟨0, 1⟩, []⟩]
    let x : Located := ⟨.softBreak, ⟨1, 1⟩, []⟩
    let post : List Located := [⟨.text "*b".toList, ⟨3, 5⟩, []⟩, ⟨.stop .paragraph, ⟨5, 5⟩, []⟩]
    (streamOf (prepare o).1 tokens).1 = pre ++ x :: post ∧ Outside pre ∧
      ∃ r, run {} (fun _ => none) (pre ++ [x]) (initial {} none (prepare o).2) = (r, none) ∧
        lineBreak <:+ r.latex ∧ result.error = none ∧
        let gs := glyphsBehind {} (fun _ => none) none post r
        result.latex = r.latex ++ chars gs ∧ firstSeen gs = some ⟨'*', .text⟩ := by
  intro markdown o tokens result pre x post
  have hxs : (streamOf (prepare o).1 tokens).1 = pre ++ x :: post := by decide +kernel
  obtain ⟨r, hrun, hsuffix, hnone, hlatex, hseen⟩ := argument_behind_command_iff {} (fun _ => none) none
    markdown tokens (c := '*') hxs (by decide) rfl (.inr rfl)
  have hclosed : r.formatter.mathOpen = false := by
    rw [(runs_of_run hrun).mathOpen_eq rfl]
    decide +kernel
  have hmark : firstMark (textBehind (Event.isHushed {}) (openTags [] (eventsOf (pre ++ [x])))
      (decodedEvents (disguise o).2 o post)) = some '*' := by decide +kernel
  exact ⟨hxs, by decide, r, hrun, hsuffix, hnone, hlatex, hseen.2 ⟨hclosed, hmark⟩⟩

/-- A bracket at the start of an item is read as its label. -/
theorem bracket_behind_item :
    let markdown := "- \\[a]".toList
    let o := Text.normalizeNewlines markdown
    let tokens : List Token := [.list none [.item none [.group [.text "[a]".toList]]]]
    let result := Job.convert ⟨{}, none, fun _ => none⟩ (fun _ => .ok tokens) markdown
    let pre : List Located := [⟨.start (.list none), ⟨0, 0⟩, []⟩]
    let x : Located := ⟨.start .item, ⟨0, 0⟩, []⟩
    let post : List Located := [⟨.text "[a]".toList, ⟨3, 6⟩, []⟩, ⟨.stop .item, ⟨6, 6⟩, []⟩,
      ⟨.stop (.list none), ⟨6, 6⟩, []⟩]
    (streamOf (prepare o).1 tokens).1 = pre ++ x :: post ∧ Outside pre ∧
      ∃ r, run {} (fun _ => none) (pre ++ [x]) (initial {} none (prepare o).2) = (r, none) ∧
        r.latex = "\\begin\x7bitemize\x7d\n  \\item ".toList ∧
        let gs := glyphsBehind {} (fun _ => none) none post r
        result.latex = r.latex ++ chars gs ∧ firstSeen gs = some ⟨'[', .text⟩ := by
  intro markdown o tokens result pre x post
  have hxs : (streamOf (prepare o).1 tokens).1 = pre ++ x :: post := by decide +kernel
  obtain ⟨r, r', hruns, hruns', hwhole, -, hseen⟩ := exists_behind_command {} (fun _ => none) none hxs
    (c := '[') (by decide) rfl (.inl rfl)
  have hr : r = (run {} (fun _ => none) (pre ++ [x]) (initial {} none (prepare o).2)).1 := by
    rw [hruns.run_eq]
  have hmark : firstMark (textBehind (Event.isHushed {}) (openTags [] (eventsOf (pre ++ [x])))
      (decodedEvents (disguise o).2 o post)) = some '[' := by decide +kernel
  refine ⟨hxs, by decide, r, hruns.run_eq, ?_, ?_, hseen.2 ⟨?_, hmark⟩⟩
  · rw [hr]
    decide +kernel
  · exact (convert_latex none markdown tokens hwhole).trans (hruns'.ending none)
  · rw [hr]
    decide +kernel

end Rendering

end Latex
end Texdown
