import Texdown.Proofs.Effects

/-!
# What the open containers settle

Everything that a rendering keeps from one event to the next, apart from its table, is settled by the
open containers (`Arranged`): the indentation, the depth of lists, whether code is open, and how many
line breaks may follow. So a stream that nests leaves a rendering as it found it, but for what is
written, for math that is still open, and for the line breaks to come.

Results:
* `Arranged.step`, `Arranged.image`: an event keeps a rendering arranged.
* `Arranged.runs`: a well placed stream arranges a rendering for the containers it leaves open.
-/
namespace Texdown

/-- The containers in which line breaks are limited. -/
def Tag.isTight (t : Tag) : Bool := t.isList || t.isCodeBlock

namespace Latex

/-- In these containers the next line is indented as it should be. Two line breaks may come in front of
it, unless nothing is written yet, or a list or a block of code is open. -/
structure Spaced (settings : Settings) (st : List Tag) (f : Formatter) : Prop where
  indentWidth : f.spacing.indentWidth = settings.indentWidth
  mathAware : f.mathAware = settings.mathAware
  level : f.spacing.level = 2 * st.countP Tag.isList
  limit : 2 ≤ f.spacing.limit ∨ (f.text = [] ∧ f.mathOpen = false ∧ f.spacing.limit = 0) ∨
    0 < st.countP Tag.isTight

theorem indentWidth_act (s : Spacing) (acts : List Act) :
    (acts.foldl Spacing.act s).indentWidth = s.indentWidth := by
  induction acts generalizing s with
  | nil => rfl
  | cons a acts ih =>
    rw [List.foldl_cons, ih]
    cases a <;> rfl

/-- An event spaces the text for the containers behind it. -/
theorem Spaced.perform {settings : Settings} {st st' : List Tag} {f : Formatter} {e : Event}
    {acts : List Act} (h : Spaced settings st f) (heff : Effect e acts)
    (hlevel : e.levelAfter (2 * st.countP Tag.isList) = 2 * st'.countP Tag.isList)
    (htight : e.limitAfter < 2 → 0 < st'.countP Tag.isTight)
    (hkeep : e.loosens = false → st.countP Tag.isTight ≤ st'.countP Tag.isTight) :
    Spaced settings st' (f.perform acts) := by
  refine ⟨?_, ?_, ?_, ?_⟩
  · rw [Formatter.spacing_perform, indentWidth_act, h.indentWidth]
  · rw [Formatter.perform_mathAware, h.mathAware]
  · rw [Formatter.spacing_perform, heff.level, h.level, hlevel]
  · rcases heff.limit with hset | hsilent
    · by_cases ht : e.limitAfter < 2
      · exact .inr (.inr (htight ht))
      · refine .inl ?_
        rw [Formatter.spacing_perform, hset]
        omega
    · simp only [Bool.and_eq_true, Bool.not_eq_true'] at hsilent
      obtain ⟨htext, hmath, hlimit⟩ := Formatter.perform_silent (f := f) hsilent.1
      rcases h.limit with hl | ⟨h1, h2, h3⟩ | hl
      · exact .inl (hlimit ▸ hl)
      · exact .inr (.inl ⟨htext.trans h1, hmath.trans h2, hlimit.trans h3⟩)
      · exact .inr (.inr (Nat.lt_of_lt_of_le hl (hkeep hsilent.2)))

/-- Notices change nothing of it. -/
theorem Spaced.notes {settings : Settings} {st : List Tag} {f : Formatter} (h : Spaced settings st f)
    (ns : List Notice) : Spaced settings st (f.perform (ns.map .note)) := by
  induction ns generalizing f with
  | nil => exact h
  | cons n ns ih => exact ih ⟨h.indentWidth, h.mathAware, h.level, h.limit⟩

namespace Rendering

/-- What a rendering of blocks keeps is settled by the open containers. Only text may stand in code, so
a block of code is the innermost container. -/
structure Arranged (settings : Settings) (st : List Tag) (last : Option Event) (r : Rendering) :
    Prop where
  nested : Nested r st
  enumDepth : r.enumDepth = (shown st).countP Tag.isOrdered
  code : (shown st).countP Tag.isCodeBlock = r.inCode.toNat
  codeOnTop : (shown st).tail.countP Tag.isCodeBlock = 0
  codeLine : r.codeLineOpen = true → r.inCode = true
  spaced : Spaced settings (shown st) r.formatter
  behindItem : skipping st = 0 → last = some (.start .item) → 0 < st.countP Tag.isList

variable {settings : Settings} {resolve : Resolver} {st : List Tag} {last : Option Event}
  {r r' : Rendering}

/-- It depends on the text in its spacing only. -/
theorem Arranged.congr (h : Arranged settings st last r) (hb : r'.beside = r.beside)
    (hs : Spaced settings (shown st) r'.formatter) : Arranged settings st last r' where
  nested := h.nested.congr (congrArg Rendering.skipDepth hb :) (congrArg Rendering.openLinks hb :)
  enumDepth := (congrArg Rendering.enumDepth hb :).trans h.enumDepth
  code := h.code.trans (congrArg (fun x => x.inCode.toNat) hb.symm :)
  codeOnTop := h.codeOnTop
  codeLine := by
    have h1 : r'.codeLineOpen = r.codeLineOpen := (congrArg Rendering.codeLineOpen hb :)
    have h2 : r'.inCode = r.inCode := (congrArg Rendering.inCode hb :)
    rw [h1, h2]
    exact h.codeLine
  spaced := hs
  behindItem := h.behindItem

theorem Arranged.hear (h : Arranged settings st last r) (ns : List Notice) :
    Arranged settings st last (r.hear ns) :=
  h.congr (beside_hear r ns) (formatter_hear r ns ▸ h.spaced.notes ns)

/-- Inside of what is left out, nothing happens. -/
theorem Arranged.skip (h : Arranged settings st last r) (hpos : 0 < skipping st) {e : Event}
    (he : e.fits st = true) : Arranged settings (e.opened st) (some e) (r.skip e) := by
  have hnested := h.nested.skip hpos he
  have hshown := shown_opened hpos he
  rw [skip_eq r h.nested.skips he] at hnested ⊢
  refine ⟨hnested, hshown ▸ h.enumDepth, hshown ▸ h.code, hshown ▸ h.codeOnTop, h.codeLine,
    hshown ▸ h.spaced, fun h0 hlast => ?_⟩
  cases hlast
  simp only [Event.opened, skipping_cons] at h0
  omega

/-- While no block of code is open, no line of code is. -/
theorem Arranged.code_shut (h : Arranged settings st last r)
    (h0 : (shown st).countP Tag.isCodeBlock = 0) : r.inCode = false ∧ r.codeLineOpen = false := by
  have hin : r.inCode = false := by
    have hcode := h.code
    rw [h0] at hcode
    cases hc : r.inCode with
    | false => rfl
    | true => rw [hc] at hcode; cases hcode
  refine ⟨hin, ?_⟩
  cases hl : r.codeLineOpen with
  | false => rfl
  | true => rw [h.codeLine hl] at hin; cases hin

/-- An item stands in a list. -/
theorem countP_isList_pos (h : Placement.itemInList st last (.start .item) = true) :
    0 < st.countP Tag.isList := by
  cases st with
  | nil => simp [Placement.itemInList] at h
  | cons u st =>
    rw [List.countP_cons_of_pos (by simpa [Placement.itemInList] using h)]
    exact Nat.succ_pos _

/-- The indentation follows the open lists. An item, which takes a level back, stands in one. -/
theorem levelAfter_opened {st : List Tag} {last : Option Event} {e : Event} (he : e.fits st = true)
    (hitem : Placement.itemInList st last e = true) :
    e.levelAfter (2 * st.countP Tag.isList) = 2 * (e.opened st).countP Tag.isList := by
  cases e with
  | start t =>
    rw [Event.opened, List.countP_cons]
    cases t with
    | list start =>
      simp only [Event.levelAfter, Tag.isList, if_true]
      omega
    | item =>
      have hlist := countP_isList_pos hitem
      simp only [Event.levelAfter, Tag.isList, Bool.false_eq_true, if_false]
      omega
    | _ => rfl
  | stop t =>
    obtain ⟨outer, rfl⟩ := eq_cons_of_fits he
    rw [Event.opened, List.tail_cons, List.countP_cons]
    cases t with
    | list start =>
      simp only [Event.levelAfter, Tag.isList, if_true]
      omega
    | _ => rfl
  | _ => rfl

theorem countP_isList_le_isTight (st : List Tag) : st.countP Tag.isList ≤ st.countP Tag.isTight :=
  List.countP_mono_left fun t _ ht => by simp [Tag.isTight, ht]

theorem Arranged.openTag (h : Arranged settings st last r) (h0 : skipping st = 0) {t : Tag}
    (hi : t.isImage = false) (hmay : Placement.blockwise st last (.start t) = true) :
    Arranged settings (t :: st) (some (.start t)) (r.openTag t) := by
  simp only [Placement.blockwise, Bool.and_eq_true] at hmay
  obtain ⟨⟨hitem, -⟩, htext⟩ := hmay
  have hcode0 : st.countP Tag.isCodeBlock = 0 :=
    countP_isCodeBlock_of_start (shown_eq_self h0 ▸ h.codeOnTop) htext
  obtain ⟨hin, hshut⟩ := h.code_shut ((shown_eq_self h0).symm ▸ hcode0)
  have hlist : t = .item → 0 < st.countP Tag.isList := by
    rintro rfl
    exact countP_isList_pos hitem
  obtain ⟨hn, henum, -, htop, -, hspaced, -⟩ := h
  have hnested := hn.openTag h0 hi
  rw [shown_eq_self h0] at htop hspaced
  obtain ⟨links, -, hb⟩ := beside_openTag r t
  have hlists := countP_shown_cons h0 (t := t) (p := Tag.isList)
    (by cases t <;> simp [Tag.isSkipped, Tag.isList])
  have htights := countP_shown_cons h0 (t := t) (p := Tag.isTight)
    (by cases t <;> simp [Tag.isSkipped, Tag.isTight, Tag.isList, Tag.isCodeBlock])
  have hle := countP_isList_le_isTight st
  have hinside : (r.openTag t).inCode = t.isCodeBlock := by
    refine (congrArg Rendering.inCode hb :).trans ?_
    rw [beside, hin, Bool.or_false]
  have hclosed : (r.openTag t).codeLineOpen = false := by
    exact (congrArg Rendering.codeLineOpen hb :).trans hshut
  refine ⟨hnested, enumDepth_openTag h0 henum t, ?_, ?_, ?_, ?_, ?_⟩
  · rw [countP_shown_cons h0 (by cases t <;> simp [Tag.isSkipped, Tag.isCodeBlock]), hcode0, hinside]
    cases t.isCodeBlock <;> rfl
  · rw [shown_cons h0]
    split
    · exact htop
    · exact hcode0
  · rw [hclosed]
    intro h
    cases h
  · have hf : (r.openTag t).formatter = r.formatter.perform (openActs r.enumDepth t) :=
      (congrArg Rendering.formatter (openTag_on r t r.formatter r.asked) :)
    rw [hf]
    refine hspaced.perform (effect_openActs _ t) ?_ ?_ ?_
    · rw [levelAfter_opened rfl hitem, Event.opened, hlists, List.countP_cons]
    · intro ht
      rw [htights]
      cases t with
      | item =>
        have := hlist rfl
        omega
      | codeBlock => simp [Tag.isTight, Tag.isCodeBlock]
      | _ => simp [Event.limitAfter, maxBreaks] at ht
    · omega
  · intro _ hlast
    have := hlist (by cases hlast; rfl)
    rw [List.countP_cons]
    omega

theorem Arranged.closeTag {t : Tag} (h : Arranged settings (t :: st) last r)
    (h0 : skipping (t :: st) = 0) (hr : r.closeTag t = .ok r') :
    Arranged settings st (some (.stop t)) r' := by
  obtain ⟨hn, henum, hcode, htop, hline, hspaced, -⟩ := h
  have hst : skipping st = 0 := by
    rw [skipping_cons] at h0
    omega
  rw [shown_eq_self h0] at hcode htop hspaced
  rw [List.tail_cons] at htop
  rw [List.countP_cons] at hcode
  obtain ⟨links, -, hb⟩ := beside_closeTag hr
  -- A block of code is open exactly if it is what closes.
  have hcode : r.inCode = t.isCodeBlock := by
    rw [htop, Nat.zero_add] at hcode
    cases hc : r.inCode with
    | false => cases ht : t.isCodeBlock <;> simp_all
    | true => cases ht : t.isCodeBlock <;> simp_all
  have hin : r'.inCode = false := by
    refine (congrArg Rendering.inCode hb :).trans ?_
    simp [beside, hcode]
  have hclosed : r'.codeLineOpen = false := by
    refine (congrArg Rendering.codeLineOpen hb :).trans ?_
    cases hl : r.codeLineOpen with
    | false => simp [beside]
    | true => simp [beside, ← hcode, hline hl]
  refine ⟨hn.closeTag h0 hr, enumDepth_closeTag h0 henum hr, ?_, ?_, ?_, ?_,
    fun _ hlast => by cases hlast⟩
  · rw [shown_eq_self hst, htop, hin]
    rfl
  · rw [shown_eq_self hst]
    exact Nat.eq_zero_of_le_zero (htop ▸ (List.tail_sublist st).countP_le)
  · rw [hclosed]
    intro h
    cases h
  · have hf := closeTag_on hr r.formatter r.asked
    have hf : r'.formatter = r.formatter.perform (closeActs r.codeLineOpen r.openLinks t) :=
      (congrArg Rendering.formatter (Except.ok.inj (hr.symm.trans hf)) :)
    rw [shown_eq_self hst, hf]
    have hfits : (Event.stop t).fits (t :: st) = true := beq_self_eq_true (some t)
    have hplace : Placement.itemInList (t :: st) last (.stop t) = true := rfl
    refine hspaced.perform (effect_closeActs _ _ t) (levelAfter_opened hfits hplace) ?_ ?_
    · intro ht
      cases t <;> simp [Event.limitAfter, maxBreaks] at ht
    · intro hc
      rw [List.countP_cons]
      cases t with
      | list | codeBlock => cases hc
      | _ => exact Nat.le_refl _

theorem Arranged.leaf (h : Arranged settings st last r) (h0 : skipping st = 0) {e : Event} {span : Span}
    (he : e.isLeaf = true) (hmay : Placement.blockwise st last e = true)
    (hr : r.step settings e span = .ok r') : Arranged settings st (some e) r' := by
  have hzero : r.skipDepth = 0 := h.nested.skips.trans h0
  obtain ⟨-, b, hline, hb⟩ := beside_leaf he hzero hr
  have htight : e.limitAfter < 2 → 0 < st.countP Tag.isList := fun ht => by
    refine h.behindItem h0 ?_
    cases e with
    | taskMarker done =>
      simp only [Placement.blockwise, Placement.markerBehindItem, Bool.and_eq_true, beq_iff_eq] at hmay
      exact hmay.1.2
    | start | stop => cases he
    | _ => simp [Event.limitAfter, maxBreaks] at ht
  have hle := countP_isList_le_isTight st
  have hin : r'.inCode = r.inCode := (congrArg Rendering.inCode hb :)
  refine ⟨h.nested.of_beside hb, ?_, ?_, h.codeOnTop, ?_, ?_, ?_⟩
  · exact (congrArg Rendering.enumDepth hb :).trans h.enumDepth
  · rw [hin]
    exact h.code
  · have hopen : r'.codeLineOpen = b := (congrArg Rendering.codeLineOpen hb :)
    rw [hopen, hin]
    intro hb
    cases hc : r.inCode with
    | true => rfl
    | false => exact hc.symm.trans (h.codeLine (hline hc ▸ hb))
  · rw [formatter_step hr, shown_eq_self h0]
    refine (shown_eq_self h0 ▸ h.spaced).perform (effect_acts settings hzero e span) ?_
      (fun ht => Nat.lt_of_lt_of_le (htight ht) hle) fun _ => Nat.le_refl _
    cases e with
    | start | stop => cases he
    | _ => rfl
  · rintro - hlast
    cases hlast
    cases he

/-- An event keeps a rendering arranged. -/
theorem Arranged.step (h : Arranged settings st last r) {e : Event} {span : Span}
    (he : e.fits st = true) (hmay : Placement.blockwise st last e = true)
    (hi : r.startsImage? e = none) (hr : r.step settings e span = .ok r') :
    Arranged settings (e.opened st) (some e) r' := by
  have hr' := hr
  unfold Rendering.step at hr'
  rcases Nat.eq_zero_or_pos (skipping st) with h0 | hpos
  · have hzero : ¬ 0 < r.skipDepth := by
      rw [h.nested.skips]
      omega
    rw [if_neg hzero] at hr'
    cases e with
    | start t =>
      cases hr'
      refine h.openTag h0 ?_ hmay
      cases t with
      | image target => rw [startsImage?, if_neg hzero] at hi; cases hi
      | _ => rfl
    | stop t =>
      obtain ⟨outer, rfl⟩ := eq_cons_of_fits he
      exact h.closeTag h0 hr'
    | _ => exact h.leaf h0 rfl hmay hr
  · rw [if_pos (h.nested.skips ▸ hpos)] at hr'
    cases hr'
    exact h.skip hpos he

theorem Arranged.image (h : Arranged settings st last r) (target : Target) (last' : Option Event)
    (hlast : last' ≠ some (.start .item)) :
    Arranged settings st last' (Rendering.image settings resolve r target) := by
  have hs : Spaced settings (shown st) (Rendering.image settings resolve r target).formatter := by
    rw [formatter_image]
    exact h.spaced.perform (effect_imageActs settings resolve target) rfl
      (fun ht => by simp [Event.limitAfter, maxBreaks] at ht) fun _ => Nat.le_refl _
  have h' := h.congr (beside_image settings resolve r target) hs
  exact { h' with behindItem := fun _ hl => absurd hl hlast }

/-- A well placed stream arranges a rendering for the containers that it leaves open. -/
theorem Arranged.runs {xs : List Located} (hruns : Runs settings resolve xs r r') :
    ∀ {st : List Tag} {last : Option Event}, Arranged settings st last r →
      placed .blockwise st last (eventsOf xs) = true →
      Arranged settings (openTags st (eventsOf xs)) (lastOf last (eventsOf xs)) r' := by
  induction hruns with
  | nil r => exact fun h _ => h
  | @event e rest r r1 r2 hi hs _ ih =>
    intro st last h hp
    obtain ⟨hfits, hmay, hp⟩ := placed_cons hp
    exact ih ((h.hear e.notices).step hfits hmay (startsImage?_hear r _ _ ▸ hi) hs) hp
  | @image x y rest r r2 target hi hy _ ih =>
    intro st last h hp
    simp only [eventsOf_cons] at hp ⊢
    obtain ⟨-, -, hp⟩ := placed_cons hp
    obtain ⟨hfits, -, hp⟩ := placed_cons hp
    obtain ⟨hopened, hlast⟩ := opened_image hi hy st
    rw [openTags_cons, openTags_cons, hopened]
    rw [hopened] at hp
    exact ih (((h.hear x.notices).image target (some y.event) hlast).hear y.notices) hp

theorem arranged_ofTable (settings : Settings) (table : Math.Table) :
    Arranged settings [] none (ofTable settings table) where
  nested := nested_begin rfl rfl
  enumDepth := rfl
  code := rfl
  codeOnTop := rfl
  codeLine := fun h => by cases h
  spaced := ⟨rfl, rfl, rfl, .inr (.inl ⟨rfl, rfl, rfl⟩)⟩
  behindItem := fun _ h => by cases h

end Rendering
end Latex
end Texdown
