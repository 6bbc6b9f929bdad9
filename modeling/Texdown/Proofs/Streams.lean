import Texdown.Stream
import Texdown.Proofs.Locating
import Texdown.Proofs.Nesting

/-!
# The streams of token trees

Whatever tree a reader gives, its walk is put together from a few kinds of walks (`Built`), so what
these kinds keep is kept by every walk. The tree need not match the source.

Results:
* `wellNested_streamOf`: the stream of a tree nests; images and footnote definitions are empty, code
  blocks hold only text, and task markers stand behind the start of an item.
* `streamOf_wellFormed`: the same as a property of the word of events.
* `ordered_streamOf`: texts, code spans and HTML come in the order of the source. Each stands behind
  the one before it, where its span says, or has an empty span.
* `content_in_order`: the same as a property of the spans.
-/
namespace Texdown

/-! ## The kinds of walks -/

/-- Containers whose tag alone says nothing about what they hold. -/
def Tag.isRoomy (t : Tag) : Bool := !(t.isCodeBlock || t.isImage || t.isFootnote)

/-- The walks that token trees are made of. -/
inductive Built : Walker → Prop where
  | skip : Built .skip
  | ignored (name : Text) : Built fun w => ([], w.note (.tokenIgnored name))
  | rule : Built (.leaf .rule)
  | softBreak : Built (.leaf .softBreak)
  | hardBreak : Built (.leaf .hardBreak)
  | text (raw : Text) : Built (.nonempty .text raw)
  | html (raw : Text) : Built (.nonempty .html raw)
  | codeSpan (raw : Text) : Built (.codeSpan raw)
  | image (url : Text) (title label : Option Text) : Built (.image url title label)
  | footnoteReference (label : Text) :
    Built (.bracketed ['[', '^'] (.footnoteReference (some label)))
  | footnote (label : Text) : Built (.enclose (.footnoteDefinition (some label)) .skip)
  | codeBlock (language : Option Text) (raw : Text) :
    Built (.enclose (.codeBlock language) (.codeLines (Text.splitLines raw)))
  | task (done : Bool) {inner : Walker} : Built inner →
    Built (.enclose .item (.andThen (.bracketed ['['] (.taskMarker done)) inner))
  | enclose {t : Tag} (ht : t.isRoomy = true) {inner : Walker} : Built inner → Built (.enclose t inner)
  | link (url : Text) (title label : Option Text) {inner : Walker} : Built inner →
    Built (.link url title label inner)
  | andThen {a b : Walker} : Built a → Built b → Built (.andThen a b)

mutual

theorem built_walk : ∀ t : Token, Built t.walk
  | .container kind children => by
    rw [Token.walk]
    exact .enclose (by cases kind <;> rfl) (built_walkAll children)
  | .group children => by rw [Token.walk]; exact built_walkAll children
  | .heading level children => by rw [Token.walk]; exact .enclose rfl (built_walkAll children)
  | .codeBlock info raw => by rw [Token.walk]; exact .codeBlock _ raw
  | .list start children => by rw [Token.walk]; exact .enclose rfl (built_walkAll children)
  | .item none children => by rw [Token.walk]; exact .enclose rfl (built_walkAll children)
  | .item (some done) children => by rw [Token.walk]; exact .task done (built_walkAll children)
  | .footnote label => by rw [Token.walk]; exact .footnote label
  | .rule => by rw [Token.walk]; exact .rule
  | .html raw => by rw [Token.walk]; exact .html raw
  | .text raw => by rw [Token.walk]; exact .text raw
  | .codeSpan raw => by rw [Token.walk]; exact .codeSpan raw
  | .link url title label children => by
    rw [Token.walk]
    exact .link url title label (built_walkAll children)
  | .image url title label => by rw [Token.walk]; exact .image url title label
  | .softBreak => by rw [Token.walk]; exact .softBreak
  | .hardBreak => by rw [Token.walk]; exact .hardBreak
  | .footnoteReference label => by rw [Token.walk]; exact .footnoteReference label
  | .blank => by rw [Token.walk]; exact .skip
  | .other name => by rw [Token.walk]; exact .ignored _

theorem built_walkAll : ∀ ts : List Token, Built (Token.walkAll ts)
  | [] => by rw [Token.walkAll]; exact .skip
  | t :: ts => by rw [Token.walkAll]; exact .andThen (built_walk t) (built_walkAll ts)

end

/-! ## Nesting -/

/-- Inside these containers there may be anything. -/
def Roomy (st : List Tag) : Prop := st.head?.all Tag.isRoomy = true

/-- A walk whose events nest wherever there may be anything, and leave open what was. -/
def Nests (k : Walker) : Prop :=
  ∀ w st last, Roomy st →
    placed .walked st last (eventsOf (k w).1) = true ∧ openTags st (eventsOf (k w).1) = st

theorem walked_of_roomy {st : List Tag} (hst : Roomy st) (last : Option Event) {e : Event}
    (he : ∀ done, e ≠ .taskMarker done) : Placement.walked st last e = true := by
  have hmark : Placement.markerBehindItem st last e = true := by
    cases e with
    | taskMarker done => exact absurd rfl (he done)
    | _ => rfl
  cases st with
  | nil => simp [Placement.walked, hmark, Placement.textInCode, Placement.imageEmpty,
      Placement.footnoteEmpty]
  | cons t st =>
    have ht : t.isRoomy = true := hst
    simp only [Tag.isRoomy, Bool.not_eq_true', Bool.or_eq_false_iff] at ht
    simp [Placement.walked, hmark, Placement.textInCode, Placement.imageEmpty,
      Placement.footnoteEmpty, ht]

theorem nests_nil {k : Walker} (h : ∀ w, (k w).1 = []) : Nests k := fun w st last _ => by
  rw [h w]
  exact ⟨rfl, rfl⟩

/-- A single event that neither opens nor closes anything. -/
theorem nests_single {k : Walker} {w : Walk} {st : List Tag} {last : Option Event} {e : Event}
    (hst : Roomy st) (hk : eventsOf (k w).1 = [e]) (hm : ∀ done, e ≠ .taskMarker done)
    (hf : e.fits st = true) (ho : e.opened st = st) :
    placed .walked st last (eventsOf (k w).1) = true ∧ openTags st (eventsOf (k w).1) = st := by
  rw [hk]
  simp [placed, hf, ho, walked_of_roomy hst last hm]

theorem eventsOf_enclose (t : Tag) (k : Walker) (w : Walk) :
    eventsOf (Walker.enclose t k w).1
      = .start t :: (eventsOf (k { w with notices := [] }).1 ++ [.stop t]) := by
  simp [Walker.enclose, Walker.andThen, Walker.leaf, Walk.emit]

/-- A container whose events nest in it. -/
theorem placed_enclose {st : List Tag} (hst : Roomy st) (last : Option Event) (t : Tag)
    {es : List Event} (hp : placed .walked (t :: st) (some (.start t)) es = true)
    (ho : openTags (t :: st) es = t :: st)
    (hstop : ∀ last, Placement.walked (t :: st) last (.stop t) = true) :
    placed .walked st last (.start t :: (es ++ [.stop t])) = true ∧
      openTags st (.start t :: (es ++ [.stop t])) = st := by
  refine ⟨?_, ?_⟩
  · simp only [placed, placed_append, Bool.and_eq_true]
    refine ⟨⟨rfl, walked_of_roomy hst last (by simp)⟩, hp, ?_⟩
    rw [show Event.opened st (.start t) = t :: st from rfl, ho]
    simp [Event.fits, hstop]
  · rw [openTags_cons, openTags_append]
    change openTags (openTags (t :: st) es) _ = st
    rw [ho]
    rfl

theorem walked_stop (st : List Tag) (last : Option Event) (t : Tag) :
    Placement.walked st last (.stop t) = true := by
  simp [Placement.walked, Placement.markerBehindItem, Placement.textInCode, Placement.imageEmpty,
    Placement.footnoteEmpty, Event.isStop]

theorem eventsOf_fragment (event : Text → Event) (content : Text) (w : Walk) :
    eventsOf (Walker.fragment event content w).1 = [event content] := rfl

theorem eventsOf_codeLines (ls : List Text) (w : Walk) :
    eventsOf (Walker.codeLines ls w).1 = ls.map .text := by
  induction ls generalizing w with
  | nil => rfl
  | cons l ls ih =>
    simp only [Walker.codeLines, Walker.andThen, eventsOf_append, eventsOf_fragment,
      List.singleton_append, List.map_cons, ih]

theorem eventsOf_codeSpan (content : Text) (w : Walk) :
    ∃ found, eventsOf (Walker.codeSpan content w).1 = [.code found] := ⟨_, rfl⟩

theorem eventsOf_bracketed (opener : Text) (event : Event) (w : Walk) :
    eventsOf (Walker.bracketed opener event w).1 = [event] := rfl

theorem eventsOf_image (url : Text) (title label : Option Text) (w : Walk) :
    ∃ target, eventsOf (Walker.image url title label w).1
      = [.start (.image target), .stop (.image target)] := ⟨_, rfl⟩

/-- A walk that has passed the opener of a link. -/
def linkStart (w : Walk) : Walk :=
  w.move (w.locator.skipPast (if w.locator.nextOpener? == some .angle then ['<'] else ['['])).2

/-- A link stands around what the walk behind its opener gives. The walk goes on behind its
destination, where its own events are. -/
theorem link_eq (url : Text) (title label : Option Text) (inner : Walker) (w : Walk) :
    ∃ target autolink a z, (Walker.link url title label inner w).1
        = a :: ((inner (linkStart w)).1.map fun x => { x with notices := [] }) ++ [z] ∧
      a.event = .start (.link target) ∧ z.event = .stop (.link target) ∧
      (Walker.link url title label inner w).2.locator
        = (Walker.linkTarget autolink url title label (inner (linkStart w)).2.locator).2 ∧
      a.span = (Walker.link url title label inner w).2.locator.here ∧
      z.span = (Walker.link url title label inner w).2.locator.here :=
  ⟨_, _, _, _, rfl, rfl, rfl, rfl, rfl, rfl⟩

theorem eventsOf_clear (xs : List Located) :
    eventsOf (xs.map fun x => { x with notices := [] }) = eventsOf xs := by
  simp [eventsOf, Function.comp_def]

theorem eventsOf_link (url : Text) (title label : Option Text) (inner : Walker) (w : Walk) :
    ∃ target, eventsOf (Walker.link url title label inner w).1
      = .start (.link target) :: (eventsOf (inner (linkStart w)).1 ++ [.stop (.link target)]) := by
  obtain ⟨target, _, a, z, h, ha, hz, -⟩ := link_eq url title label inner w
  exact ⟨target, by simp [h, ha, hz, eventsOf_clear]⟩

theorem nests_fragments (language : Option Text) (st : List Tag) (ls : List Text) (w : Walk)
    (last : Option Event) :
    placed .walked (.codeBlock language :: st) last (eventsOf (Walker.codeLines ls w).1) = true ∧
      openTags (.codeBlock language :: st) (eventsOf (Walker.codeLines ls w).1)
        = .codeBlock language :: st := by
  induction ls generalizing w last with
  | nil => exact ⟨rfl, rfl⟩
  | cons l ls ih =>
    obtain ⟨h1, h2⟩ := ih (Walker.fragment .text l w).2 (some (.text l))
    simp only [Walker.codeLines, Walker.andThen, eventsOf_append, eventsOf_fragment,
      List.singleton_append]
    exact ⟨by simpa [placed] using ⟨⟨rfl, rfl⟩, h1⟩, h2⟩

theorem nests_nonempty {event : Text → Event} (raw : Text) (hm : ∀ t done, event t ≠ .taskMarker done)
    (hf : ∀ st t, (event t).fits st = true) (ho : ∀ st t, (event t).opened st = st) :
    Nests (.nonempty event raw) := by
  unfold Walker.nonempty
  split
  · exact nests_nil fun _ => rfl
  · exact fun w st last hst =>
      nests_single hst (eventsOf_fragment _ _ _) (hm raw) (hf st raw) (ho st raw)

theorem nests_of_built {k : Walker} (h : Built k) : Nests k := by
  induction h with
  | skip => exact nests_nil fun _ => rfl
  | ignored name => exact nests_nil fun _ => rfl
  | rule | softBreak | hardBreak =>
    exact fun w st last hst => nests_single hst rfl (by simp) rfl rfl
  | text raw => exact nests_nonempty raw (by simp) (fun _ _ => rfl) fun _ _ => rfl
  | html raw => exact nests_nonempty raw (by simp) (fun _ _ => rfl) fun _ _ => rfl
  | codeSpan raw =>
    intro w st last hst
    obtain ⟨found, hk⟩ := eventsOf_codeSpan raw w
    exact nests_single hst hk (by simp) rfl rfl
  | footnoteReference label =>
    exact fun w st last hst => nests_single hst (eventsOf_bracketed _ _ _) (by simp) rfl rfl
  | image url title label =>
    intro w st last hst
    obtain ⟨target, hk⟩ := eventsOf_image url title label w
    rw [hk]
    exact placed_enclose hst last _ (placed_nil _ _ _) (openTags_nil _) fun _ => walked_stop _ _ _
  | footnote label =>
    intro w st last hst
    rw [eventsOf_enclose]
    exact placed_enclose hst last _ (placed_nil _ _ _) (openTags_nil _) fun _ => walked_stop _ _ _
  | codeBlock language raw =>
    intro w st last hst
    rw [eventsOf_enclose]
    obtain ⟨hp, ho⟩ := nests_fragments language st (Text.splitLines raw) { w with notices := [] }
      (some (.start (.codeBlock language)))
    exact placed_enclose hst last _ hp ho fun _ => walked_stop _ _ _
  | @task done inner _ ih =>
    intro w st last hst
    rw [eventsOf_enclose]
    simp only [Walker.andThen, eventsOf_append, eventsOf_bracketed]
    obtain ⟨hp, ho⟩ := ih (Walker.bracketed ['['] (.taskMarker done) { w with notices := [] }).2
      (.item :: st) (some (.taskMarker done)) rfl
    exact placed_enclose hst last _ (by simpa [placed] using ⟨⟨rfl, rfl⟩, hp⟩) ho
      fun _ => walked_stop _ _ _
  | @enclose t ht inner _ ih =>
    intro w st last hst
    rw [eventsOf_enclose]
    obtain ⟨hp, ho⟩ := ih { w with notices := [] } (t :: st) (some (.start t)) ht
    exact placed_enclose hst last _ hp ho fun _ => walked_stop _ _ _
  | @link url title label inner _ ih =>
    intro w st last hst
    obtain ⟨target, hk⟩ := eventsOf_link url title label inner w
    obtain ⟨hp, ho⟩ := ih (linkStart w) (.link target :: st) (some (.start (.link target))) rfl
    rw [hk]
    exact placed_enclose hst last _ hp ho fun _ => walked_stop _ _ _
  | @andThen a b _ _ iha ihb =>
    intro w st last hst
    obtain ⟨hp, ho⟩ := iha w st last hst
    obtain ⟨hp', ho'⟩ := ihb (a w).2 st (lastOf last (eventsOf (a w).1)) hst
    simp only [Walker.andThen, eventsOf_append, placed_append, openTags_append, ho, hp, hp', ho',
      Bool.and_self, and_self]

theorem wellNested_streamOf (source : Text) (tokens : List Token) :
    WellNested .walked (streamOf source tokens).1 :=
  nests_of_built (built_walkAll tokens) ⟨⟨source, 0⟩, []⟩ [] none rfl

/-! ### Words of events -/

/-- A word of events as a token tree gives it. -/
structure WellFormed (es : List Event) : Prop where
  balanced : Balanced es
  image : ∀ pre target post, es = pre ++ .start (.image target) :: post →
    post.head? = some (.stop (.image target))
  footnote : ∀ pre label post, es = pre ++ .start (.footnoteDefinition label) :: post →
    post.head? = some (.stop (.footnoteDefinition label))
  code : ∀ pre language post, es = pre ++ .start (.codeBlock language) :: post →
    ∃ (lines : List Text) (rest : List Event),
      post = lines.map .text ++ .stop (.codeBlock language) :: rest
  marker : ∀ pre done post, es = pre ++ .taskMarker done :: post →
    pre.getLast? = some (.start .item)

theorem isStop_of_image {st : List Tag} {last : Option Event} {target : Target} (e : Event)
    (h : Placement.walked (.image target :: st) last e = true) : e.isStop = true := by
  obtain ⟨-, -, himage, -⟩ := Placement.walked_iff.1 h
  simpa [Placement.imageEmpty, Tag.isImage] using himage

theorem isStop_of_footnote {st : List Tag} {last : Option Event} {label : Option Text} (e : Event)
    (h : Placement.walked (.footnoteDefinition label :: st) last e = true) : e.isStop = true := by
  obtain ⟨-, -, -, hfootnote⟩ := Placement.walked_iff.1 h
  simpa [Placement.footnoteEmpty, Tag.isFootnote] using hfootnote

theorem text_or_stop_of_code {st : List Tag} {last : Option Event} {language : Option Text} {e : Event}
    (h : Placement.walked (.codeBlock language :: st) last e = true) :
    e.isText = true ∨ e.isStop = true := by
  obtain ⟨-, htext, -, -⟩ := Placement.walked_iff.1 h
  simpa [Placement.textInCode, Tag.isCodeBlock] using htext

/-- A code block ends behind its lines. -/
theorem exists_lines {language : Option Text} {st : List Tag} {last : Option Event} {es : List Event}
    (hp : placed .walked (.codeBlock language :: st) last es = true)
    (ho : openTags (.codeBlock language :: st) es = []) :
    ∃ (lines : List Text) (rest : List Event),
      es = lines.map .text ++ .stop (.codeBlock language) :: rest := by
  induction es generalizing last with
  | nil => cases ho
  | cons e es ih =>
    obtain ⟨hfits, hmay, hp⟩ := placed_cons hp
    rcases text_or_stop_of_code hmay with htext | hstop
    · cases e with
      | text t =>
        obtain ⟨lines, rest, rfl⟩ := ih hp ho
        exact ⟨t :: lines, rest, rfl⟩
      | _ => cases htext
    · cases e with
      | stop t =>
        obtain ⟨outer, houter⟩ := eq_cons_of_fits hfits
        cases houter
        exact ⟨[], es, rfl⟩
      | _ => cases hstop

theorem eq_start_item_of_marker {st : List Tag} {last : Option Event} {done : Bool}
    (h : Placement.walked st last (.taskMarker done) = true) : last = some (.start .item) := by
  obtain ⟨hmarker, -, -, -⟩ := Placement.walked_iff.1 h
  simpa [Placement.markerBehindItem] using hmarker

/-- Whatever tree a text is taken for, every container of its stream ends with the tag that it started
with, images and footnote definitions at once. Code blocks hold only text, and a task marker stands
directly behind the start of an item. -/
theorem streamOf_wellFormed (source : Text) (tokens : List Token) :
    WellFormed (eventsOf (streamOf source tokens).1) := by
  have h := wellNested_streamOf source tokens
  refine ⟨balanced_of_placed _ h.1 h.2, ?_, ?_, ?_, ?_⟩
  · intro pre target post hes
    obtain ⟨-, hp, ho⟩ := h.split hes
    exact head?_eq_stop isStop_of_image hp ho
  · intro pre label post hes
    obtain ⟨-, hp, ho⟩ := h.split hes
    exact head?_eq_stop isStop_of_footnote hp ho
  · intro pre language post hes
    obtain ⟨-, hp, ho⟩ := h.split hes
    exact exists_lines hp ho
  · intro pre done post hes
    obtain ⟨hmay, -⟩ := h.split hes
    rw [← lastOf_none]
    exact eq_start_item_of_marker hmay

/-- A link whose text was walked first, and an image whose text stands nowhere, in a task. -/
theorem streamOf_wellFormed_task :
    let link : Target := ⟨some "c".toList, none, some .inline, none⟩
    let image : Target := ⟨some "e".toList, none, some .reference, none⟩
    let es := eventsOf (streamOf "- [ ] [a](c)".toList [.list none [.item (some false)
      [.link "b".toList none none [.other "x".toList, .text "a".toList],
        .image "e".toList none none]]]).1
    let pre : List Event := [.start (.list none), .start .item]
    let mid : List Event := [.start (.link link), .text "a".toList, .stop (.link link)]
    let post : List Event := [.stop (.image image), .stop .item, .stop (.list none)]
    es = pre ++ .taskMarker false :: (mid ++ .start (.image image) :: post) ∧ Balanced es ∧
      pre.getLast? = some (.start .item) ∧ post.head? = some (.stop (.image image)) := by
  intro link image es pre mid post
  have hes : es = pre ++ .taskMarker false :: (mid ++ .start (.image image) :: post) := by
    decide +kernel
  have h : WellFormed es := streamOf_wellFormed _ _
  exact ⟨hes, h.balanced, h.marker _ _ _ hes, h.image (pre ++ .taskMarker false :: mid) _ _ hes⟩

/-! ## Order -/

namespace Located

/-- The span of an event with content, where nothing is found before `c`: it is empty, or the
content stands there. -/
def Sits (src : Text) (c : Nat) (e : Located) : Prop :=
  match e.event with
  | .text t | .html t =>
    c ≤ e.span.start ∧ e.span.stop ≤ src.length ∧ t ≠ [] ∧
      (e.span.start = e.span.stop ∨ e.span.start < e.span.stop ∧ e.span.slice src = t)
  | .code t =>
    c ≤ e.span.start ∧ e.span.stop ≤ src.length ∧
      (e.span.start = e.span.stop ∨ ∃ n, Locator.CodeAt src e.span t n)
  | _ => True

/-- Where the content behind an event may begin. -/
def reach (c : Nat) (e : Located) : Nat :=
  match e.event with
  | .text _ | .html _ | .code _ => e.span.stop
  | _ => c

end Located

/-- The content of the events stands in the source in their order, from `c` on. -/
def Ordered (src : Text) : Nat → List Located → Prop
  | _, [] => True
  | c, e :: r => e.Sits src c ∧ Ordered src (e.reach c) r

theorem Located.Sits.weaken {src : Text} {c d : Nat} {e : Located} (h : e.Sits src c) (hd : d ≤ c) :
    e.Sits src d := by
  unfold Located.Sits at h ⊢
  split at h
  · exact ⟨Nat.le_trans hd h.1, h.2⟩
  · exact ⟨Nat.le_trans hd h.1, h.2⟩
  · exact ⟨Nat.le_trans hd h.1, h.2⟩
  · trivial

theorem Located.reach_mono {c d : Nat} (hd : d ≤ c) (e : Located) : e.reach d ≤ e.reach c := by
  unfold Located.reach
  split
  · exact Nat.le_refl _
  · exact Nat.le_refl _
  · exact Nat.le_refl _
  · exact hd

theorem Ordered.weaken {src : Text} {c d : Nat} {xs : List Located} (h : Ordered src c xs)
    (hd : d ≤ c) : Ordered src d xs := by
  induction xs generalizing c d with
  | nil => trivial
  | cons e xs ih => exact ⟨h.1.weaken hd, ih h.2 (Located.reach_mono hd e)⟩

theorem ordered_clear (src : Text) (c : Nat) (xs rest : List Located) :
    Ordered src c ((xs.map fun x => { x with notices := [] }) ++ rest)
      ↔ Ordered src c (xs ++ rest) := by
  induction xs generalizing c with
  | nil => rfl
  | cons e xs ih => exact and_congr Iff.rfl (ih _)

/-- Events without content take no part in the order. -/
theorem ordered_cons_of_reach {src : Text} {c : Nat} {e : Located} {rest : List Located}
    (he : e.Sits src c) (hr : e.reach c = c) : Ordered src c (e :: rest) ↔ Ordered src c rest := by
  simp only [Ordered, he, hr, true_and]

/-- A walk that only moves forward and gives content in the order of the source. -/
def Orders (k : Walker) : Prop :=
  ∀ w : Walk, w.locator.cursor ≤ w.locator.source.length →
    w.locator.Moves (k w).2.locator ∧
      ∀ rest, Ordered w.locator.source (k w).2.locator.cursor rest →
        Ordered w.locator.source w.locator.cursor ((k w).1 ++ rest)

theorem Orders.andThen {a b : Walker} (ha : Orders a) (hb : Orders b) : Orders (.andThen a b) := by
  intro w hw
  obtain ⟨hma, hoa⟩ := ha w hw
  obtain ⟨hmb, hob⟩ := hb (a w).2 hma.inside
  refine ⟨hma.trans hmb, fun rest hrest => ?_⟩
  rw [hma.source] at hob
  have := hoa _ (hob rest hrest)
  rwa [← List.append_assoc] at this

theorem orders_skip : Orders .skip := fun _ hw => ⟨.refl hw, fun _ h => h⟩

/-- A walk that gives one event without content. -/
theorem orders_single {k : Walker} {e : Walk → Located} (hk : ∀ w, (k w).1 = [e w])
    (hm : ∀ w : Walk, w.locator.cursor ≤ w.locator.source.length → w.locator.Moves (k w).2.locator)
    (hs : ∀ w src c, (e w).Sits src c) (hr : ∀ w c, (e w).reach c = c) : Orders k := by
  intro w hw
  refine ⟨hm w hw, fun rest hrest => ?_⟩
  rw [hk]
  exact (ordered_cons_of_reach (hs w _ _) (hr w _)).2 (hrest.weaken (hm w hw).le)

theorem orders_leaf {e : Event} (hs : ∀ s ns src c, (⟨e, s, ns⟩ : Located).Sits src c)
    (hr : ∀ s ns c, (⟨e, s, ns⟩ : Located).reach c = c) : Orders (.leaf e) :=
  orders_single (e := fun w => ⟨e, w.locator.here, w.notices⟩) (fun _ => rfl) (fun _ hw => .refl hw)
    (fun _ => hs _ _) fun _ => hr _ _

theorem Orders.enclose (t : Tag) {k : Walker} (hk : Orders k) : Orders (.enclose t k) :=
  .andThen (orders_leaf (fun _ _ _ _ => trivial) fun _ _ _ => rfl)
    (.andThen hk (orders_leaf (fun _ _ _ _ => trivial) fun _ _ _ => rfl))

theorem find_stands {l : Locator} (hl : l.cursor ≤ l.source.length) {t : Text} (ht : t ≠ []) :
    l.Moves (l.find t).2 ∧ (l.find t).1.stop = (l.find t).2.cursor ∧ l.cursor ≤ (l.find t).1.start ∧
      ((l.find t).1.start = (l.find t).1.stop ∨
        (l.find t).1.start < (l.find t).1.stop ∧ (l.find t).1.slice l.source = t) := by
  rcases l.find_spec ht with h | ⟨s, h, hle, hlt, hstop, hslice⟩
  · rw [h]
    exact ⟨.refl hl, rfl, Nat.le_refl _, .inl rfl⟩
  · rw [h]
    exact ⟨⟨rfl, by simp only; omega, hstop⟩, rfl, hle, .inr ⟨hlt, hslice⟩⟩

theorem fragment_eq (event : Text → Event) (t : Text) (w : Walk) :
    ∃ ns, (Walker.fragment event t w).1 = [⟨event t, (w.locator.find t).1, ns⟩] ∧
      (Walker.fragment event t w).2.locator = (w.locator.find t).2 := ⟨_, rfl, rfl⟩

theorem orders_fragment {event : Text → Event} (he : event = .text ∨ event = .html) {t : Text}
    (ht : t ≠ []) : Orders (.fragment event t) := by
  intro w hw
  obtain ⟨ns, hxs, hloc⟩ := fragment_eq event t w
  obtain ⟨hmove, hstop, hle, hs⟩ := find_stands hw ht
  have hbound : (w.locator.find t).1.stop ≤ w.locator.source.length := hstop ▸ hmove.bounded
  rw [hxs, hloc]
  refine ⟨hmove, fun rest hrest => ?_⟩
  rw [← hstop] at hrest
  rcases he with rfl | rfl
  · exact ⟨⟨hle, hbound, ht, hs⟩, hrest⟩
  · exact ⟨⟨hle, hbound, ht, hs⟩, hrest⟩

theorem orders_nonempty {event : Text → Event} (he : event = .text ∨ event = .html) (raw : Text) :
    Orders (.nonempty event raw) := by
  unfold Walker.nonempty
  split
  · exact orders_skip
  · next h => exact orders_fragment he (by simpa using h)

theorem ne_nil_of_mem_splitLines {raw l : Text} (h : l ∈ Text.splitLines raw) : l ≠ [] := by
  induction raw using Text.splitLines.induct with
  | case1 r ih =>
    rw [Text.splitLines] at h
    rcases List.mem_cons.1 h with rfl | h
    · simp
    · exact ih h
  | case2 c r hne he ih =>
    rw [Text.splitLines, if_pos he] at h
    · rcases List.mem_cons.1 h with rfl | h
      · simp
      · exact ih h
    · exact hne
  | case3 c r hne he hn ih =>
    rw [Text.splitLines, if_neg he, hn] at h
    · rw [List.mem_singleton.1 h]
      simp
    · exact hne
  | case4 c r hne he l' ls hl ih =>
    rw [Text.splitLines, if_neg he, hl] at h
    · rcases List.mem_cons.1 h with rfl | h
      · simp
      · exact ih (hl ▸ List.mem_cons_of_mem _ h)
    · exact hne
  | case5 => simp [Text.splitLines] at h

theorem orders_codeLines {ls : List Text} (h : ∀ l ∈ ls, l ≠ []) : Orders (.codeLines ls) := by
  induction ls with
  | nil => exact orders_skip
  | cons l ls ih =>
    exact .andThen (orders_fragment (.inl rfl) (h l List.mem_cons_self))
      (ih fun l hl => h l (List.mem_cons_of_mem _ hl))

theorem orders_codeSpan (raw : Text) : Orders (.codeSpan raw) := by
  intro w hw
  obtain ⟨ns, hxs, hloc⟩ : ∃ ns, (Walker.codeSpan raw w).1
        = [⟨.code (w.locator.findCode raw).1.1, (w.locator.findCode raw).1.2, ns⟩] ∧
      (Walker.codeSpan raw w).2.locator = (w.locator.findCode raw).2 := ⟨_, rfl, rfl⟩
  rw [hxs, hloc]
  rcases Locator.findCode_spec hw raw with h | ⟨c, s, n, h, hle, hat⟩
  · rw [h]
    exact ⟨.refl hw, fun rest hrest => ⟨⟨Nat.le_refl _, hw, .inl rfl⟩, hrest⟩⟩
  · have hwidth := hat.width
    rw [h]
    exact ⟨⟨rfl, by simp only; omega, hat.stop_le⟩,
      fun rest hrest => ⟨⟨hle, hat.stop_le, .inr ⟨n, hat⟩⟩, hrest⟩⟩

theorem orders_bracketed {opener : Text} (ho : opener ≠ []) {e : Event}
    (hs : ∀ s ns src c, (⟨e, s, ns⟩ : Located).Sits src c)
    (hr : ∀ s ns c, (⟨e, s, ns⟩ : Located).reach c = c) : Orders (.bracketed opener e) :=
  orders_single (e := fun w => ⟨e, Walk.spanFrom (w.locator.skipBracketed opener).1
      (w.locator.skipBracketed opener).2, w.notices⟩)
    (fun _ => rfl) (fun _ hw => Locator.moves_skipBracketed hw ho) (fun _ => hs _ _) fun _ => hr _ _

theorem orders_image (url : Text) (title label : Option Text) : Orders (.image url title label) := by
  intro w hw
  obtain ⟨target, s, ns, hxs, hloc⟩ : ∃ target s ns, (Walker.image url title label w).1
        = [⟨.start (.image target), s, ns⟩, ⟨.stop (.image target), s, []⟩] ∧
      (Walker.image url title label w).2.locator
        = (w.locator.skipBracketed ['!', '[']).2.skipTail.2 := ⟨_, _, _, rfl, rfl⟩
  have hopen := Locator.moves_skipBracketed hw (show ['!', '['] ≠ [] by simp)
  have hmove := hopen.trans (Locator.moves_skipTail hopen.inside)
  rw [hxs, hloc]
  exact ⟨hmove, fun rest hrest => ⟨trivial, trivial, hrest.weaken hmove.le⟩⟩

theorem moves_linkTarget (autolink : Bool) (url : Text) (title label : Option Text) {l : Locator}
    (hl : l.cursor ≤ l.source.length) :
    l.Moves (Walker.linkTarget autolink url title label l).2 := by
  unfold Walker.linkTarget
  split
  · exact Locator.moves_skipPast hl (by simp)
  · have hclose := Locator.moves_skipPast hl (show [']'] ≠ [] by simp)
    exact hclose.trans (Locator.moves_skipTail hclose.inside)

theorem Orders.link (url : Text) (title label : Option Text) {inner : Walker} (h : Orders inner) :
    Orders (.link url title label inner) := by
  intro w hw
  have hopen : w.locator.Moves (linkStart w).locator :=
    Locator.moves_skipPast hw (by split <;> simp)
  obtain ⟨hmove, hord⟩ := h (linkStart w) hopen.inside
  obtain ⟨target, autolink, a, z, hxs, ha, hz, hloc, -⟩ := link_eq url title label inner w
  have hclose := moves_linkTarget autolink url title label hmove.inside
  rw [hxs, hloc]
  refine ⟨(hopen.trans hmove).trans hclose, fun rest hrest => ?_⟩
  have hz' : Ordered w.locator.source (inner (linkStart w)).2.locator.cursor (z :: rest) :=
    (ordered_cons_of_reach (by simp [Located.Sits, hz]) (by simp [Located.reach, hz])).2
      (hrest.weaken hclose.le)
  rw [← hopen.source] at hz' ⊢
  rw [List.append_assoc, List.cons_append]
  refine (ordered_cons_of_reach (by simp [Located.Sits, ha]) (by simp [Located.reach, ha])).2 ?_
  exact (ordered_clear _ _ _ _).2 ((hord _ hz').weaken hopen.le)

theorem orders_of_built {k : Walker} (h : Built k) : Orders k := by
  induction h with
  | skip => exact orders_skip
  | ignored name => exact fun w hw => ⟨.refl hw, fun _ h => h⟩
  | rule | softBreak | hardBreak => exact orders_leaf (fun _ _ _ _ => trivial) fun _ _ _ => rfl
  | text raw => exact orders_nonempty (.inl rfl) raw
  | html raw => exact orders_nonempty (.inr rfl) raw
  | codeSpan raw => exact orders_codeSpan raw
  | image url title label => exact orders_image url title label
  | footnoteReference label =>
    exact orders_bracketed (by simp) (fun _ _ _ _ => trivial) fun _ _ _ => rfl
  | footnote label => exact .enclose _ orders_skip
  | codeBlock language raw => exact .enclose _ (orders_codeLines fun _ => ne_nil_of_mem_splitLines)
  | task done _ ih =>
    exact .enclose _ (.andThen
      (orders_bracketed (by simp) (fun _ _ _ _ => trivial) fun _ _ _ => rfl) ih)
  | enclose _ _ ih => exact .enclose _ ih
  | link url title label _ ih => exact .link url title label ih
  | andThen _ _ iha ihb => exact .andThen iha ihb

theorem ordered_streamOf (source : Text) (tokens : List Token) :
    Ordered source 0 (streamOf source tokens).1 := by
  have h := (orders_of_built (built_walkAll tokens) ⟨⟨source, 0⟩, []⟩ (Nat.zero_le _)).2 [] trivial
  rwa [List.append_nil] at h

/-! ### Spans -/

/-- The events whose spans are those of fragments of the source. -/
def Event.hasContent : Event → Bool
  | text _ | code _ | html _ => true
  | _ => false

namespace Located

variable {src : Text} {c : Nat} {e : Located}

theorem Sits.bounds (h : e.Sits src c) (he : e.event.hasContent = true) :
    c ≤ e.span.start ∧ e.span.start ≤ e.span.stop ∧ e.span.stop ≤ src.length := by
  unfold Sits at h
  obtain ⟨event, span, ns⟩ := e
  cases event with
  | text t | html t =>
    simp only at h ⊢
    omega
  | code t =>
    obtain ⟨hle, hstop, heq | ⟨n, hc⟩⟩ := h
    · exact ⟨hle, Nat.le_of_eq heq, hstop⟩
    · have hwidth := hc.width
      exact ⟨hle, by omega, hstop⟩
  | _ => cases he

theorem reach_of_hasContent (he : e.event.hasContent = true) : e.reach c = e.span.stop := by
  obtain ⟨event, span, ns⟩ := e
  cases event with
  | text | code | html => rfl
  | _ => cases he

theorem reach_of_not_hasContent (he : e.event.hasContent = false) : e.reach c = c := by
  obtain ⟨event, span, ns⟩ := e
  cases event with
  | text | code | html => cases he
  | _ => rfl

end Located

/-- Events that stand in order do so one by one. -/
theorem Ordered.exists_sits {src : Text} {c : Nat} {xs : List Located} (h : Ordered src c xs)
    {x : Located} (hx : x ∈ xs) : ∃ d, x.Sits src d := by
  induction xs generalizing c with
  | nil => cases hx
  | cons e xs ih =>
    rcases List.mem_cons.1 hx with rfl | hx
    · exact ⟨c, h.1⟩
    · exact ih h.2 hx

/-- The events of a stream that have content. -/
def contentOf (xs : List Located) : List Located := xs.filter fun x => x.event.hasContent

theorem contentOf_cons (e : Located) (xs : List Located) :
    contentOf (e :: xs) = if e.event.hasContent then e :: contentOf xs else contentOf xs :=
  List.filter_cons

/-- Content stands behind all content in front of it. -/
theorem Ordered.pairwise {src : Text} {c : Nat} {xs : List Located} (h : Ordered src c xs) :
    (contentOf xs).Pairwise (fun x y => x.span.stop ≤ y.span.start) ∧
      ∀ x ∈ contentOf xs, c ≤ x.span.start := by
  induction xs generalizing c with
  | nil => exact ⟨.nil, fun x hx => by cases hx⟩
  | cons e xs ih =>
    obtain ⟨hsits, hrest⟩ := h
    obtain ⟨hpairs, hbehind⟩ := ih hrest
    rw [contentOf_cons]
    split
    · next he =>
      obtain ⟨hstart, hle, -⟩ := hsits.bounds he
      rw [Located.reach_of_hasContent he] at hbehind
      refine ⟨.cons hbehind hpairs, fun x hx => ?_⟩
      rcases List.mem_cons.1 hx with rfl | hx
      · exact hstart
      · have := hbehind x hx
        omega
    · next he =>
      rw [Located.reach_of_not_hasContent (by simpa using he)] at hbehind
      exact ⟨hpairs, hbehind⟩

/-- Whatever tree a text is taken for, texts, code spans and HTML have spans in it, each behind those
of all that come before. Text and HTML stand where their span says, or have an empty span. -/
theorem content_in_order (source : Text) (tokens : List Token) :
    let xs := (streamOf source tokens).1
    (∀ x ∈ contentOf xs, x.span.start ≤ x.span.stop ∧ x.span.stop ≤ source.length) ∧
    (contentOf xs).Pairwise (fun x y => x.span.stop ≤ y.span.start) ∧
    ∀ x ∈ xs, ∀ t, x.event = .text t ∨ x.event = .html t →
      t ≠ [] ∧ (x.span.start = x.span.stop ∨ x.span.slice source = t) := by
  intro xs
  have h : Ordered source 0 xs := ordered_streamOf source tokens
  refine ⟨fun x hx => ?_, h.pairwise.1, fun x hx t ht => ?_⟩
  · obtain ⟨hmem, hc⟩ := List.mem_filter.1 hx
    obtain ⟨c, hs⟩ := h.exists_sits hmem
    exact (hs.bounds hc).2
  · obtain ⟨c, hs⟩ := h.exists_sits hx
    unfold Located.Sits at hs
    rcases ht with ht | ht
    all_goals
      rw [ht] at hs
      obtain ⟨-, -, hne, heq | ⟨-, hslice⟩⟩ := hs
      · exact ⟨hne, .inl heq⟩
      · exact ⟨hne, .inr hslice⟩

/-- What is looked for behind the place where it stands is not located; what follows it still is. -/
theorem content_in_order_lost :
    let source := "b a <i>".toList
    let a : Located := ⟨.text "a".toList, ⟨2, 3⟩, []⟩
    let b : Located := ⟨.text "b".toList, ⟨3, 3⟩, [.fragmentNotFound "b".toList 3]⟩
    let i : Located := ⟨.html "<i>".toList, ⟨4, 7⟩, []⟩
    let xs := (streamOf source [.text "a".toList, .text "b".toList, .html "<i>".toList]).1
    xs = [a, b, i] ∧ i ∈ contentOf xs ∧ (i.span.start ≤ i.span.stop ∧ i.span.stop ≤ source.length) ∧
      (contentOf xs).Pairwise (fun x y => x.span.stop ≤ y.span.start) ∧ b ∈ xs ∧
      ("b".toList ≠ [] ∧ (b.span.start = b.span.stop ∨ b.span.slice source = "b".toList)) := by
  intro source a b i xs
  have hxs : xs = [a, b, i] := by decide +kernel
  have hi : i ∈ contentOf xs := by
    rw [hxs]
    decide
  have hb : b ∈ xs := by simp [hxs]
  obtain ⟨hbounds, hpairs, hfragment⟩ := content_in_order source
    [.text "a".toList, .text "b".toList, .html "<i>".toList]
  exact ⟨hxs, hi, hbounds i hi, hpairs, hb, hfragment b hb _ (.inl rfl)⟩

end Texdown
