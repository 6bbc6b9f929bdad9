import Texdown.Proofs.Voices

/-!
# The text that comes next

What stands behind an event in the output depends on the events behind it. Some of them write nothing, so
the text that a reader sees next may stand several events further on (`textBehind`). Where it is written,
its delimiters have been given back and its character references are decoded (`Located.decoded`).

Results:
* `Coded.step`, `Coded.runs`: a rendering is in code exactly while a block of code is open.
* `inCode_of_step`: only a block of code begins code.
* `acts_text`, `exists_said_text`: outside of code, text is escaped as it is decoded.
* `acts_of_isMute`: a mute event does nothing to the output.
-/
namespace Texdown

/-- What a fragment says, with its delimiters and its character references. A fragment that was not
located has no delimiters. -/
def wordsAt (offsets : List Nat) (o : Text) (span : Span) (payload : Text) : Text :=
  Text.decodeReferences (if span.start < span.stop then Math.sliceVeiled offsets span o else payload)

/-- An event, with what its text says. -/
def Located.decoded (offsets : List Nat) (o : Text) (x : Located) : Event :=
  match x.event with
  | .text t => .text (wordsAt offsets o x.span t)
  | e => e

/-- The events of a stream, with what their texts say. -/
def decodedEvents (offsets : List Nat) (o : Text) (xs : List Located) : List Event :=
  xs.map (·.decoded offsets o)

/-- The containers that write nothing where they begin, and ask for no line break. -/
def Tag.isMute : Tag → Bool
  | footnoteDefinition _ | table | tableHead | tableRow | tableCell => true
  | link target | image target => target.form != some .inline
  | _ => false

/-- The events that write nothing, and ask for no line break. -/
def Event.isMute : Event → Bool
  | start t => t.isMute
  | stop .item | stop (.image _) => true
  | stop t => t.isMute
  | text t => t.isEmpty
  | footnoteReference _ => true
  | _ => false

/-- The text that comes first behind the events that pass, and what is left out; none if another event
comes before it. -/
def textBehind (passes : Event → Bool) : List Tag → List Event → Text
  | _, [] => []
  | st, e :: es =>
    if 0 < skipping st ∨ passes e = true then textBehind passes (e.opened st) es
    else match e with
      | .text t => t
      | _ => []

section decoded

variable {offsets : List Nat} {o : Text} {x : Located} {xs : List Located} {passes : Event → Bool}
  {st : List Tag} {e : Event} {es : List Event}

@[simp] theorem decodedEvents_nil : decodedEvents offsets o [] = [] := rfl

@[simp] theorem decodedEvents_cons :
    decodedEvents offsets o (x :: xs) = x.decoded offsets o :: decodedEvents offsets o xs := rfl

theorem Event.exists_eq_text {e : Event} (h : e.isText = true) : ∃ t, e = .text t := by
  cases e with
  | text t => exact ⟨t, rfl⟩
  | _ => cases h

theorem Located.decoded_text {t : Text} (h : x.event = .text t) :
    x.decoded offsets o = .text (wordsAt offsets o x.span t) := by
  rw [Located.decoded, h]

theorem Located.decoded_of_not_text (h : x.event.isText = false) : x.decoded offsets o = x.event := by
  unfold Located.decoded
  split
  · next t ht =>
    rw [ht] at h
    cases h
  · rfl

/-- The containers do not depend on what texts say. -/
@[simp] theorem opened_decoded (offsets : List Nat) (o : Text) (x : Located) (st : List Tag) :
    (x.decoded offsets o).opened st = x.event.opened st := by
  cases h : x.event with
  | text t => rw [x.decoded_text h]; rfl
  | _ => rw [x.decoded_of_not_text (by rw [h]; rfl), h]

theorem textBehind_skipped (h : 0 < skipping st) :
    textBehind passes st (e :: es) = textBehind passes (e.opened st) es := if_pos (.inl h)

theorem textBehind_passes (h : passes e = true) :
    textBehind passes st (e :: es) = textBehind passes (e.opened st) es := if_pos (.inr h)

theorem textBehind_text (h0 : skipping st = 0) {t : Text} (h : passes (.text t) = false) :
    textBehind passes st (.text t :: es) = t := if_neg (by simp [h0, h])

theorem textBehind_other (h0 : skipping st = 0) (h : passes e = false) (ht : e.isText = false) :
    textBehind passes st (e :: es) = [] := by
  refine (if_neg (by simp [h0, h])).trans ?_
  cases e with
  | text t => cases ht
  | _ => rfl

end decoded

namespace Latex.Rendering

open Math (Disguised prepare disguise)

variable {settings : Settings} {resolve : Resolver} {r r' : Rendering} {st : List Tag}
  {last : Option Event} {e : Event}

/-! ## Code -/

theorem inCode_hear (r : Rendering) (ns : List Notice) : (r.hear ns).inCode = r.inCode :=
  (congrArg Rendering.inCode (beside_hear r ns) :)

theorem inCode_image (settings : Settings) (resolve : Resolver) (r : Rendering) (target : Target) :
    (r.image settings resolve target).inCode = r.inCode :=
  (congrArg Rendering.inCode (beside_image settings resolve r target) :)

/-- A rendering knows which links are open, and whether a block of code is. -/
structure Coded (r : Rendering) (st : List Tag) : Prop extends Linked r st where
  codeOnTop : st.tail.countP Tag.isCodeBlock = 0
  code : r.inCode = (decide (skipping st = 0) && st.head?.any Tag.isCodeBlock)

namespace Coded

theorem of_beside (h : Coded r st) {table : Math.Table} {b : Bool}
    (hb : r'.beside = { r with table := table, codeLineOpen := b }.beside) : Coded r' st :=
  ⟨h.toLinked.of_beside hb, h.codeOnTop, (congrArg Rendering.inCode hb :).trans h.code⟩

theorem hear (h : Coded r st) (ns : List Notice) : Coded (r.hear ns) st :=
  h.of_beside (beside_hear r ns)

theorem inCode_eq (h : Coded r st) (h0 : skipping st = 0) :
    r.inCode = st.head?.any Tag.isCodeBlock := by
  rw [h.code, decide_eq_true h0, Bool.true_and]

/-- Inside of what is left out, no code is open, nor is it where that ends. -/
theorem skip (h : Coded r st) (hpos : 0 < skipping st) (he : e.fits st = true)
    (hmay : Placement.textInCode st last e = true) (hlinked : Linked (r.skip e) (e.opened st)) :
    Coded (r.skip e) (e.opened st) := by
  have hin : r.inCode = false := by
    rw [h.code, decide_eq_false (Nat.ne_of_gt hpos), Bool.false_and]
  have hskip : (r.skip e).inCode = r.inCode := by rw [skip_eq r h.skips he]
  refine ⟨hlinked, countP_isCodeBlock_opened h.codeOnTop hmay, (hskip.trans hin).trans ?_⟩
  cases e with
  | start t =>
    have hne : skipping (t :: st) ≠ 0 := by
      rw [skipping_cons]
      omega
    rw [Event.opened, decide_eq_false hne, Bool.false_and]
  | stop t => rw [Event.opened, head?_isCodeBlock h.codeOnTop, Bool.and_false]
  | _ => exact (h.code ▸ hin).symm

theorem openTag (h : Coded r st) (h0 : skipping st = 0) {t : Tag}
    (hmay : Placement.textInCode st last (.start t) = true) (hlinked : Linked (r.openTag t) (t :: st)) :
    Coded (r.openTag t) (t :: st) := by
  obtain ⟨links, -, hb⟩ := beside_openTag r t
  have hin : (r.openTag t).inCode = (t.isCodeBlock || r.inCode) := (congrArg Rendering.inCode hb :)
  refine ⟨hlinked, countP_isCodeBlock_of_start h.codeOnTop hmay, ?_⟩
  rw [hin, h.inCode_eq h0, head?_isCodeBlock_of_start hmay, Bool.or_false]
  cases t <;> simp [Tag.isCodeBlock, Tag.isSkipped, h0]

theorem closeTag {t : Tag} (h : Coded r (t :: st)) (h0 : skipping (t :: st) = 0)
    (hr : r.closeTag t = .ok r') (hlinked : Linked r' st) : Coded r' st := by
  obtain ⟨links, -, hb⟩ := beside_closeTag hr
  have hin : r'.inCode = (!t.isCodeBlock && r.inCode) := (congrArg Rendering.inCode hb :)
  have hopen : r.inCode = t.isCodeBlock := h.inCode_eq h0
  refine ⟨hlinked, ?_, ?_⟩
  · exact Nat.eq_zero_of_le_zero (h.codeOnTop ▸ (List.tail_sublist st).countP_le)
  · have houter : st.head?.any Tag.isCodeBlock = false := head?_isCodeBlock h.codeOnTop
    rw [hin, hopen, Bool.not_and_self, houter, Bool.and_false]

theorem step (h : Coded r st) {span : Span} (he : e.fits st = true)
    (hmay : Placement.textInCode st last e = true) (hi : r.startsImage? e = none)
    (hr : r.step settings e span = .ok r') : Coded r' (e.opened st) := by
  have hlinked := h.toLinked.step he hi hr
  rcases Nat.eq_zero_or_pos (skipping st) with h0 | hpos
  · have hzero : r.skipDepth = 0 := h.skips.trans h0
    have hr' := hr
    unfold Rendering.step at hr'
    rw [if_neg (by omega)] at hr'
    cases e with
    | start t =>
      cases hr'
      exact h.openTag h0 hmay hlinked
    | stop t =>
      obtain ⟨outer, rfl⟩ := eq_cons_of_fits he
      exact h.closeTag h0 hr' hlinked
    | _ =>
      obtain ⟨-, b, -, hb⟩ := beside_leaf rfl hzero hr
      exact h.of_beside hb
  · unfold Rendering.step at hr
    rw [if_pos (h.skips ▸ hpos)] at hr
    cases hr
    exact h.skip hpos he hmay hlinked

theorem image (h : Coded r st) (settings : Settings) (resolve : Resolver) (target : Target) :
    Coded (image settings resolve r target) st :=
  h.of_beside (beside_image settings resolve r target)

theorem runs {xs : List Located} (hruns : Runs settings resolve xs r r') :
    ∀ {st : List Tag} {last : Option Event}, Coded r st →
      placed .walked st last (eventsOf xs) = true → Coded r' (openTags st (eventsOf xs)) := by
  induction hruns with
  | nil r => exact fun h _ => h
  | @event x rest r r1 r2 hi hs _ ih =>
    intro st last h hp
    obtain ⟨hfits, hmay, hp⟩ := placed_cons hp
    exact ih ((h.hear x.notices).step hfits (Placement.walked_iff.1 hmay).2.1
      ((startsImage?_hear r _ _).trans hi) hs) hp
  | @image x y rest r r2 target hi hy _ ih =>
    intro st last h hp
    obtain ⟨-, -, hp⟩ := placed_cons hp
    obtain ⟨-, -, hp⟩ := placed_cons hp
    obtain ⟨hopened, -⟩ := opened_image hi hy st
    rw [eventsOf_cons, eventsOf_cons, openTags_cons, openTags_cons, hopened]
    exact ih (((h.hear x.notices).image settings resolve target).hear y.notices) (hopened ▸ hp)

end Coded

/-- Only a block of code begins code. -/
theorem inCode_of_step {e : Event} {span : Span} (hr : r.step settings e span = .ok r')
    (he : r.skipDepth = 0 → ∀ language, e ≠ .start (.codeBlock language)) (hin : r'.inCode = true) :
    r.inCode = true := by
  rcases Nat.eq_zero_or_pos r.skipDepth with hzero | hpos
  · cases e with
    | start t =>
      unfold step at hr
      rw [if_neg (by omega)] at hr
      cases hr
      obtain ⟨links, -, hb⟩ := beside_openTag r t
      have hcode : t.isCodeBlock = false := by
        cases t with
        | codeBlock language => exact absurd rfl (he hzero language)
        | _ => rfl
      have heq : (r.openTag t).inCode = (t.isCodeBlock || r.inCode) := (congrArg Rendering.inCode hb :)
      rwa [heq, hcode, Bool.false_or] at hin
    | stop t =>
      unfold step at hr
      rw [if_neg (by omega)] at hr
      obtain ⟨links, -, hb⟩ := beside_closeTag hr
      have heq : r'.inCode = (!t.isCodeBlock && r.inCode) := (congrArg Rendering.inCode hb :)
      rw [heq, Bool.and_eq_true] at hin
      exact hin.2
    | _ =>
      obtain ⟨-, b, -, hb⟩ := beside_leaf rfl hzero hr
      exact (congrArg Rendering.inCode hb :).symm.trans hin
  · unfold step at hr
    rw [if_pos hpos] at hr
    cases hr
    unfold skip at hin
    split at hin
    · split at hin <;> exact hin
    · split at hin <;> exact hin
    · exact hin

theorem coded_initial (settings : Settings) (frame : Option Text) (table : Math.Table) :
    Coded (initial settings frame table) [] := by
  cases frame <;> exact ⟨⟨nested_begin rfl rfl, rfl⟩, rfl, rfl⟩

/-- In a stream, a run comes to every event that ends nothing, and knows whether it is in code there. -/
theorem exists_coded_to {o : Text} {tokens : List Token} {pre post : List Located} {x : Located}
    (hxs : (streamOf (prepare o).1 tokens).1 = pre ++ x :: post) (hx : x.event.isStop = false)
    (settings : Settings) (resolve : Resolver) (frame : Option Text) :
    ∃ r, Runs settings resolve pre (initial settings frame (prepare o).2) r ∧
      Ready (disguise o).2 (disguise o).1 (openTags [] (eventsOf pre)) (lastOf none (eventsOf pre))
        (x :: post) r ∧ Coded r (openTags [] (eventsOf pre)) := by
  obtain ⟨r, hruns, hready⟩ := exists_runs_to hxs hx settings resolve frame
  have hplaced := (wellNested_streamOf (prepare o).1 tokens).1
  rw [hxs, eventsOf_append, placed_append, Bool.and_eq_true] at hplaced
  exact ⟨r, hruns, hready, (coded_initial settings frame (prepare o).2).runs hruns hplaced.1⟩

/-! ## What events do -/

/-- A fragment that is ready is given back as it stands in the text. -/
theorem Ready.exists_restored {o d : Text} {offsets : List Nat} (h : Disguised o d offsets) {x : Located}
    {xs : List Located} (hr : Ready offsets d st last (x :: xs) r) {payload : Text}
    (hx : x.event = .text payload ∨ x.event = .html payload) :
    ∃ t ns table, r.table.restore payload x.span = (.ok t, ns, table) ∧
      wordsAt offsets o x.span payload = Text.decodeReferences t := by
  obtain ⟨c, hb, hs, -⟩ := hr.order
  obtain ⟨t, ns, table, hrestore, -, -, ht⟩ := exists_restore h hr.table hb hx hs
  refine ⟨t, ns, table, hrestore, ?_⟩
  unfold wordsAt
  split
  · next hlt => rw [if_pos hlt] at ht; rw [ht.1]
  · next hge => rw [if_neg hge] at ht; rw [ht.1]

/-- Outside of code, a text is escaped as it is decoded. -/
theorem acts_text (settings : Settings) {o d : Text} {offsets : List Nat} (h : Disguised o d offsets)
    {x : Located} {xs : List Located} (hr : Ready offsets d st last (x :: xs) r) (h0 : skipping st = 0)
    (hcode : r.inCode = false) {payload : Text} (hx : x.event = .text payload) :
    ∃ ns : List Notice, (r.hear x.notices).acts settings x.event x.span
      = ns.map .note ++ [.escaped (wordsAt offsets o x.span payload)] := by
  obtain ⟨t, ns, table, hrestore, hwords⟩ := hr.exists_restored h (.inl hx)
  have hdepth : (r.hear x.notices).skipDepth = 0 :=
    (skipDepth_hear r x.notices).trans (hr.nested.skips.trans h0)
  have hin : (r.hear x.notices).inCode = false := (inCode_hear r x.notices).trans hcode
  refine ⟨ns, ?_⟩
  rw [acts_of_isLeaf hdepth (by rw [hx]; rfl), hx, hwords]
  simp only [leafActs, restored, table_hear, hrestore, hin, Bool.false_eq_true, if_false]

/-- Behind what it reports, it says what it writes. -/
theorem exists_said_text {o d : Text} {offsets : List Nat} (h : Disguised o d offsets) {x : Located}
    {xs : List Located} (hr : Ready offsets d st last (x :: xs) r) (h0 : skipping st = 0)
    (hcode : r.inCode = false) {payload : Text} (hx : x.event = .text payload)
    (hs : (r.hear x.notices).step settings x.event x.span = .ok r') :
    let t := wordsAt offsets o x.span payload
    ∃ f : Formatter, f.mathOpen = r.formatter.mathOpen ∧ f.mathAware = r.formatter.mathAware ∧
      sayEvent settings (r.hear x.notices) x.event x.span = f.sayText t ∧
        r'.formatter = f.writeEscaped t := by
  intro t
  obtain ⟨ns, hacts⟩ := acts_text settings h hr h0 hcode hx
  let f := (r.hear x.notices).formatter.perform (ns.map .note)
  have hf : f.mathOpen = r.formatter.mathOpen ∧ f.mathAware = r.formatter.mathAware := by
    unfold f
    rw [perform_notes, formatter_hear, perform_notes]
    exact ⟨rfl, rfl⟩
  refine ⟨f, hf.1, hf.2, ?_, ?_⟩
  · rw [sayEvent, hacts, Formatter.sayActs_append, Formatter.sayActs_silent _ _ (by simp [Act.writes]),
      List.nil_append]
    exact List.append_nil _
  · rw [formatter_step hs, hacts, Formatter.perform_append]
    rfl

/-- The acts of an event that is left out. -/
theorem acts_of_skipping (settings : Settings) (h : Nested r st) (hpos : 0 < skipping st) (e : Event)
    (span : Span) : r.acts settings e span = [] := if_pos (h.skips ▸ hpos)

/-- A mute event only reports something. -/
theorem acts_of_isMute (settings : Settings) (h : Linked r st) (h0 : skipping st = 0) (he : e.fits st = true)
    (hmute : e.isMute = true) (htext : e.isText = false) (span : Span) :
    ∃ ns : List Notice, r.acts settings e span = ns.map .note := by
  have hdepth : r.skipDepth = 0 := h.skips.trans h0
  unfold acts
  rw [if_neg (by omega)]
  cases e with
  | start t =>
    cases t with
    | footnoteDefinition label => exact ⟨[_], rfl⟩
    | table => exact ⟨[_], rfl⟩
    | tableHead | tableRow | tableCell | image => exact ⟨[], rfl⟩
    | link target =>
      have hform : target.form ≠ some .inline := bne_iff_ne.1 hmute
      exact ⟨[.linkIgnored target.formName target.url], if_neg hform⟩
    | _ => cases hmute
  | stop t =>
    obtain ⟨outer, rfl⟩ := eq_cons_of_fits he
    cases t with
    | link target =>
      have hform : target.form ≠ some .inline := bne_iff_ne.1 hmute
      have hgroups := h.groups
      rw [shown_eq_self h0] at hgroups
      refine ⟨[], if_neg ?_⟩
      rw [hgroups]
      simp [grouped?, hform]
    | item | footnoteDefinition | table | tableHead | tableRow | tableCell | image => exact ⟨[], rfl⟩
    | _ => cases hmute
  | text t => cases htext
  | footnoteReference label => exact ⟨[_], rfl⟩
  | _ => cases hmute

/-- An image that does not stand in the text only reports that. -/
theorem imageActs_of_isMute (settings : Settings) (resolve : Resolver) {target : Target}
    (hmute : (Tag.image target).isMute = true) :
    ∃ ns : List Notice, imageActs settings resolve target = ns.map .note :=
  ⟨[.imageIgnored target.formName target.url], if_neg (bne_iff_ne.1 hmute)⟩

end Latex.Rendering
end Texdown
