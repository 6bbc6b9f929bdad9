import Texdown.Event

/-!
# Nesting of events

Reading events from left to right, a start opens a container and an end closes the innermost one,
which it has to match. A `Placement` says where else an event may stand: it judges by the containers
that are open and by the event before.

Results:
* `placed_append`: a stream is well placed if its parts are, each where the one before it ends.
* `exists_stop`: behind the start of a container comes a balanced word, and then its end.
* `balanced_of_placed`: a stream that nests and leaves nothing open is a balanced word.
* `shown_opened`, `shown_cons`: the containers outside of what is left out, which change with an event
  only while nothing is left out.
-/
namespace Texdown

namespace Tag

def isList : Tag → Bool
  | list _ => true
  | _ => false

def isOrdered : Tag → Bool
  | list start => start.isSome
  | _ => false

def isCodeBlock : Tag → Bool
  | codeBlock _ => true
  | _ => false

def isLink : Tag → Bool
  | link _ => true
  | _ => false

def isImage : Tag → Bool
  | image _ => true
  | _ => false

def isFootnote : Tag → Bool
  | footnoteDefinition _ => true
  | _ => false

end Tag

namespace Event

def isText : Event → Bool
  | text _ => true
  | _ => false

def isStop : Event → Bool
  | stop _ => true
  | _ => false

/-- Events that neither open nor close a container. -/
def isPlain : Event → Bool
  | start _ | stop _ | anonymous _ => false
  | _ => true

/-- The containers that are open behind an event, innermost first. -/
def opened (st : List Tag) : Event → List Tag
  | start t => t :: st
  | stop _ => st.tail
  | _ => st

/-- An end closes the innermost open container, and every container is known. -/
def fits (st : List Tag) : Event → Bool
  | stop t => st.head? == some t
  | anonymous _ => false
  | _ => true

end Event

def eventsOf (xs : List Located) : List Event := xs.map (·.event)

/-- The containers that are open behind some events, innermost first. -/
def openTags (st : List Tag) (es : List Event) : List Tag := es.foldl Event.opened st

/-- Where an event may stand, judged by the open containers, innermost first, and the event before. -/
abbrev Placement := List Tag → Option Event → Event → Bool

namespace Placement

/-- Items stand directly in lists. -/
def itemInList : Placement := fun st _ e =>
  match e with
  | .start .item => st.head?.any Tag.isList
  | _ => true

/-- Task markers stand directly behind the start of an item. -/
def markerBehindItem : Placement := fun _ last e =>
  match e with
  | .taskMarker _ => last == some (.start .item)
  | _ => true

/-- In code blocks there is only text. -/
def textInCode : Placement := fun st _ e => !st.head?.any Tag.isCodeBlock || e.isText || e.isStop

/-- An image ends as soon as it has started. -/
def imageEmpty : Placement := fun st _ e => !st.head?.any Tag.isImage || e.isStop

/-- So does the definition of a footnote. -/
def footnoteEmpty : Placement := fun st _ e => !st.head?.any Tag.isFootnote || e.isStop

/-- What every stream of a token tree obeys. -/
def walked : Placement := fun st last e =>
  markerBehindItem st last e && textInCode st last e && imageEmpty st last e
    && footnoteEmpty st last e

theorem walked_iff {st : List Tag} {last : Option Event} {e : Event} :
    walked st last e = true ↔ markerBehindItem st last e = true ∧ textInCode st last e = true ∧
      imageEmpty st last e = true ∧ footnoteEmpty st last e = true := by
  simp only [walked, Bool.and_eq_true, and_assoc]

/-- What a document of blocks obeys. -/
def blockwise : Placement := fun st last e =>
  itemInList st last e && markerBehindItem st last e && textInCode st last e

end Placement

/-- From these open containers and this event on, every end fits and every event stands where it may. -/
def placed (may : Placement) : List Tag → Option Event → List Event → Bool
  | _, _, [] => true
  | st, last, e :: es => e.fits st && may st last e && placed may (e.opened st) (some e) es

/-- The events nest, stand where they may, and leave no container open. -/
def WellNested (may : Placement) (xs : List Located) : Prop :=
  placed may [] none (eventsOf xs) = true ∧ openTags [] (eventsOf xs) = []

instance (may : Placement) (xs : List Located) : Decidable (WellNested may xs) :=
  inferInstanceAs (Decidable (_ ∧ _))

/-- The last of some events, or the one in front of them. -/
def lastOf (last : Option Event) (es : List Event) : Option Event := es.foldl (fun _ e => some e) last

@[simp] theorem eventsOf_nil : eventsOf [] = [] := rfl

@[simp] theorem eventsOf_cons (x : Located) (xs : List Located) :
    eventsOf (x :: xs) = x.event :: eventsOf xs := rfl

@[simp] theorem eventsOf_append (xs ys : List Located) :
    eventsOf (xs ++ ys) = eventsOf xs ++ eventsOf ys := by simp [eventsOf]

@[simp] theorem openTags_nil (st : List Tag) : openTags st [] = st := rfl

@[simp] theorem openTags_cons (st : List Tag) (e : Event) (es : List Event) :
    openTags st (e :: es) = openTags (e.opened st) es := rfl

@[simp] theorem openTags_append (st : List Tag) (es fs : List Event) :
    openTags st (es ++ fs) = openTags (openTags st es) fs := by simp [openTags]

theorem placed_nil (may : Placement) (st : List Tag) (last : Option Event) :
    placed may st last [] = true := rfl

theorem placed_append (may : Placement) (st : List Tag) (last : Option Event) (es fs : List Event) :
    placed may st last (es ++ fs)
      = (placed may st last es && placed may (openTags st es) (lastOf last es) fs) := by
  induction es generalizing st last with
  | nil => rfl
  | cons e es ih => simp only [List.cons_append, placed, ih, Bool.and_assoc]; rfl

/-- The first of some well placed events, and the others. -/
theorem placed_cons {may : Placement} {st : List Tag} {last : Option Event} {e : Event}
    {es : List Event} (h : placed may st last (e :: es) = true) :
    e.fits st = true ∧ may st last e = true ∧ placed may (e.opened st) (some e) es = true := by
  simp only [placed, Bool.and_eq_true] at h
  exact ⟨h.1.1, h.1.2, h.2⟩

theorem lastOf_none (es : List Event) : lastOf none es = es.getLast? := by
  have h : ∀ last, lastOf last es = es.getLast?.or last := by
    induction es with
    | nil => exact fun _ => rfl
    | cons e es ih =>
      intro last
      have hcons : lastOf last (e :: es) = lastOf (some e) es := rfl
      rw [hcons, ih, List.getLast?_cons]
      cases es.getLast? <;> rfl
  rw [h, Option.or_none]

theorem eq_cons_of_fits {st : List Tag} {t : Tag} (h : (Event.stop t).fits st = true) :
    ∃ outer, st = t :: outer := by
  cases st with
  | nil => simp [Event.fits] at h
  | cons u outer => exact ⟨outer, by simpa [Event.fits] using h⟩

theorem exists_eq_codeBlock {t : Tag} (h : t.isCodeBlock = true) :
    ∃ language, t = .codeBlock language := by
  cases t with
  | codeBlock language => exact ⟨language, rfl⟩
  | _ => cases h

theorem exists_eq_codeBlock_cons {st : List Tag} (h : st.head?.any Tag.isCodeBlock = true) :
    ∃ language outer, st = .codeBlock language :: outer := by
  cases st with
  | nil => cases h
  | cons t outer =>
    obtain ⟨language, rfl⟩ := exists_eq_codeBlock h
    exact ⟨language, outer, rfl⟩

/-- Only text stands in code, so no container starts in it. -/
theorem head?_isCodeBlock_of_start {st : List Tag} {last : Option Event} {t : Tag}
    (htext : Placement.textInCode st last (.start t) = true) :
    st.head?.any Tag.isCodeBlock = false := by
  simpa [Placement.textInCode, Event.isText, Event.isStop] using htext

/-- No block of code is open where a container starts. -/
theorem countP_isCodeBlock_of_start {st : List Tag} {last : Option Event} {t : Tag}
    (htop : st.tail.countP Tag.isCodeBlock = 0)
    (htext : Placement.textInCode st last (.start t) = true) : st.countP Tag.isCodeBlock = 0 := by
  cases st with
  | nil => rfl
  | cons u st =>
    have hu : u.isCodeBlock = false := head?_isCodeBlock_of_start htext
    rw [List.countP_cons_of_neg (by simp [hu])]
    exact htop

/-- A block of code stays the innermost container. -/
theorem countP_isCodeBlock_opened {st : List Tag} {last : Option Event} {e : Event}
    (htop : st.tail.countP Tag.isCodeBlock = 0) (htext : Placement.textInCode st last e = true) :
    (e.opened st).tail.countP Tag.isCodeBlock = 0 := by
  cases e with
  | start t => exact countP_isCodeBlock_of_start htop htext
  | stop t => exact Nat.eq_zero_of_le_zero (htop ▸ (List.tail_sublist st.tail).countP_le)
  | _ => exact htop

theorem head?_isCodeBlock {st : List Tag} (h : st.countP Tag.isCodeBlock = 0) :
    st.head?.any Tag.isCodeBlock = false := by
  cases st with
  | nil => rfl
  | cons t st => simpa using List.countP_eq_zero.1 h t List.mem_cons_self

/-- What the place of an event in a stream that nests says about it, and about what comes behind. -/
theorem WellNested.split {may : Placement} {xs : List Located} (h : WellNested may xs)
    {pre post : List Event} {e : Event} (hes : eventsOf xs = pre ++ e :: post) :
    may (openTags [] pre) (lastOf none pre) e = true ∧
      placed may (e.opened (openTags [] pre)) (some e) post = true ∧
      openTags (e.opened (openTags [] pre)) post = [] := by
  obtain ⟨hp, ho⟩ := h
  rw [hes, placed_append, Bool.and_eq_true] at hp
  rw [hes, openTags_append, openTags_cons] at ho
  obtain ⟨-, hmay, hpost⟩ := placed_cons hp.2
  exact ⟨hmay, hpost, ho⟩

/-! ## Balanced words -/

/-- Words in which every start is matched by an end with the same tag, around a word of this kind. -/
inductive Balanced : List Event → Prop where
  | nil : Balanced []
  | plain {e : Event} (h : e.isPlain = true) : Balanced [e]
  | container (t : Tag) {inner : List Event} (h : Balanced inner) :
    Balanced (.start t :: inner ++ [.stop t])
  | append {es fs : List Event} (h1 : Balanced es) (h2 : Balanced fs) : Balanced (es ++ fs)

/-- The innermost open container ends behind a balanced word. -/
theorem exists_stop {may : Placement} : ∀ (es : List Event) {t : Tag} {st : List Tag}
    {last : Option Event}, placed may (t :: st) last es = true → openTags (t :: st) es = [] →
    ∃ inner post, es = inner ++ .stop t :: post ∧ Balanced inner ∧
      placed may st (some (.stop t)) post = true ∧ openTags st post = []
  | [], _, _, _, _, ho => by cases ho
  | e :: es, t, st, last, hp, ho => by
    obtain ⟨hfits, -, hp⟩ := placed_cons hp
    cases e with
    | start u =>
      -- The container that starts here ends first, and then the one around it.
      obtain ⟨inner, mid, hes, hinner, hmid, homid⟩ := exists_stop es hp ho
      have hlt : mid.length < es.length := by simp [hes]; omega
      obtain ⟨behind, post, rfl, hbehind, hpost, hopost⟩ := exists_stop mid hmid homid
      exact ⟨(.start u :: inner ++ [.stop u]) ++ behind, post, by simp [hes],
        (hinner.container u).append hbehind, hpost, hopost⟩
    | stop u =>
      obtain ⟨outer, houter⟩ := eq_cons_of_fits hfits
      cases houter
      exact ⟨[], es, rfl, .nil, hp, ho⟩
    | anonymous opens => cases hfits
    | _ =>
      obtain ⟨inner, post, rfl, hinner, hpost, hopost⟩ := exists_stop es hp ho
      exact ⟨_ :: inner, post, rfl, (Balanced.plain rfl).append hinner, hpost, hopost⟩
  termination_by es => es.length
  decreasing_by
    all_goals
      simp only [List.length_cons]
      omega

theorem balanced_of_placed {may : Placement} : ∀ (es : List Event) {last : Option Event},
    placed may [] last es = true → openTags [] es = [] → Balanced es
  | [], _, _, _ => .nil
  | e :: es, last, hp, ho => by
    obtain ⟨hfits, -, hp⟩ := placed_cons hp
    cases e with
    | start t =>
      obtain ⟨inner, post, hes, hinner, hpost, hopost⟩ := exists_stop es hp ho
      have hlt : post.length < es.length := by simp [hes]; omega
      have hall := (hinner.container t).append (balanced_of_placed post hpost hopost)
      simpa [hes] using hall
    | stop t =>
      obtain ⟨outer, houter⟩ := eq_cons_of_fits hfits
      cases houter
    | anonymous opens => cases hfits
    | _ => exact (Balanced.plain rfl).append (balanced_of_placed es hp ho)
  termination_by es => es.length
  decreasing_by
    all_goals
      simp only [List.length_cons]
      omega

/-- A container that may hold nothing ends where it starts. -/
theorem head?_eq_stop {may : Placement} {t : Tag} {st : List Tag} {last : Option Event}
    {es : List Event} (hempty : ∀ e, may (t :: st) last e = true → e.isStop = true)
    (hp : placed may (t :: st) last es = true) (ho : openTags (t :: st) es = []) :
    es.head? = some (.stop t) := by
  cases es with
  | nil => cases ho
  | cons e es =>
    obtain ⟨hfits, hmay, -⟩ := placed_cons hp
    have hstop := hempty e hmay
    cases e with
    | stop u =>
      obtain ⟨outer, houter⟩ := eq_cons_of_fits hfits
      cases houter
      rfl
    | _ => cases hstop

/-! ## What is left out -/

/-- How many of the open containers are left out. -/
def skipping (st : List Tag) : Nat := st.countP Tag.isSkipped

/-- The open containers around the outermost one that is left out. -/
def shown : List Tag → List Tag
  | [] => []
  | t :: st => if 0 < skipping (t :: st) then shown st else t :: st

/-- Nothing that is left out is open behind these events. -/
def Outside (pre : List Located) : Prop := skipping (openTags [] (eventsOf pre)) = 0

instance (pre : List Located) : Decidable (Outside pre) := inferInstanceAs (Decidable (_ = _))

@[simp] theorem skipping_cons (t : Tag) (st : List Tag) :
    skipping (t :: st) = skipping st + if t.isSkipped then 1 else 0 := List.countP_cons

theorem shown_eq_self {st : List Tag} (h : skipping st = 0) : shown st = st := by
  cases st with
  | nil => rfl
  | cons t st => rw [shown, if_neg (by omega)]

theorem shown_cons_of_skipping {t : Tag} {st : List Tag} (h : 0 < skipping (t :: st)) :
    shown (t :: st) = shown st := if_pos h

/-- Inside of what is left out, nothing else is shown. -/
theorem shown_opened {st : List Tag} (h : 0 < skipping st) {e : Event} (he : e.fits st = true) :
    shown (e.opened st) = shown st := by
  cases e with
  | start t => exact shown_cons_of_skipping (by rw [skipping_cons]; omega)
  | stop t =>
    obtain ⟨outer, rfl⟩ := eq_cons_of_fits he
    exact (shown_cons_of_skipping h).symm
  | _ => rfl

theorem shown_cons {st : List Tag} (h : skipping st = 0) (t : Tag) :
    shown (t :: st) = if t.isSkipped then st else t :: st := by
  cases ht : t.isSkipped with
  | true => rw [shown_cons_of_skipping (by simp [ht]), shown_eq_self h, if_pos rfl]
  | false => exact shown_eq_self (by simp [ht, h])

theorem countP_shown_cons {st : List Tag} (h : skipping st = 0) {t : Tag} {p : Tag → Bool}
    (hp : t.isSkipped = true → p t = false) :
    (shown (t :: st)).countP p = st.countP p + if p t then 1 else 0 := by
  rw [shown_cons h]
  cases ht : t.isSkipped with
  | true => rw [if_pos rfl, hp ht]; rfl
  | false => exact List.countP_cons

/-- While nothing is left out, what is open behind an event is shown, but for what it leaves out. -/
theorem countP_shown_opened {st : List Tag} (h : skipping st = 0) {e : Event} (he : e.fits st = true)
    {p : Tag → Bool} (hp : ∀ t : Tag, t.isSkipped = true → p t = false) :
    (shown (e.opened st)).countP p = (e.opened st).countP p := by
  cases e with
  | start t =>
    rw [Event.opened, countP_shown_cons h (hp t), List.countP_cons]
  | stop t =>
    obtain ⟨outer, rfl⟩ := eq_cons_of_fits he
    have houter : skipping outer = 0 := by
      rw [skipping_cons] at h
      omega
    rw [Event.opened, List.tail_cons, shown_eq_self houter]
  | _ => exact congrArg (List.countP p) (shown_eq_self h)

theorem filterMap_shown_cons {β : Type} {f : Tag → Option β} {st : List Tag} (h : skipping st = 0)
    {t : Tag} (hf : t.isSkipped = true → f t = none) :
    (shown (t :: st)).filterMap f = (t :: st).filterMap f := by
  rw [shown_cons h]
  split
  · next ht => rw [List.filterMap_cons_none (hf ht)]
  · rfl

end Texdown
