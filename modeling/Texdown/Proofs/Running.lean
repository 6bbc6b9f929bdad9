import Texdown.Latex.Renderer
import Texdown.Proofs.Nesting

/-!
# Runs without an error

A run that meets no error takes one event at a time, or two where an image starts (`Runs`). What an
event does beside writing is settled by the containers it opens and closes: a rendering knows of
them how many are left out, and which links are open (`Nested`).

Results:
* `Runs.run_append`: a run goes on from where its first part ends.
* `Nested.step`: an event that fits keeps what a rendering knows in step with the open containers.
* `Linked.step`: it also keeps, for each link that is open, whether it has a group.
* `Nested.exists_closeTag`: the innermost container closes without an error.
* `Runs.alike`: the tables along a run do not depend on what is written.
-/
namespace Texdown

/-- Events that neither open nor close a container. -/
def Event.isLeaf : Event → Bool
  | start _ | stop _ => false
  | _ => true

theorem Event.opened_of_isLeaf {e : Event} (h : e.isLeaf = true) (st : List Tag) : e.opened st = st := by
  cases e with
  | start | stop => cases h
  | _ => rfl

/-- A table after some queries without an error. -/
inductive Math.Table.Queried (t : Table) : Table → Prop where
  | none : Queried t t
  | advance {u : Table} (pos : Nat) : Queried t u → Queried t (u.advance pos)
  | restore {u v : Table} {fragment restored : Text} {span : Span} {ns : List Notice} :
    Queried t u → u.restore fragment span = (.ok restored, ns, v) → Queried t v

namespace Latex.Rendering

open Math.Table (Queried)

/-! ## Beside the text -/

/-- A rendering without what it has written and asked for. -/
def beside (r : Rendering) : Rendering := { r with formatter := {}, asked := [] }

theorem hear_eq (r : Rendering) (ns : List Notice) :
    r.hear ns = r.format fun f => { f with notices := f.notices ++ ns } := by
  induction ns generalizing r with
  | nil => simp [hear, format]
  | cons n ns ih =>
    change (r.note n).hear ns = _
    rw [ih]
    simp [note, format, Formatter.note]

@[simp] theorem beside_format (r : Rendering) (f : Formatter → Formatter) :
    (r.format f).beside = r.beside := rfl

@[simp] theorem beside_hear (r : Rendering) (ns : List Notice) : (r.hear ns).beside = r.beside := by
  rw [hear_eq, beside_format]

@[simp] theorem skipDepth_hear (r : Rendering) (ns : List Notice) :
    (r.hear ns).skipDepth = r.skipDepth := (congrArg Rendering.skipDepth (beside_hear r ns) :)

@[simp] theorem table_hear (r : Rendering) (ns : List Notice) : (r.hear ns).table = r.table :=
  (congrArg Rendering.table (beside_hear r ns) :)

/-- Whether an image starts depends on nothing but what is left out. -/
theorem startsImage?_congr {a b : Rendering} (h : a.skipDepth = b.skipDepth) (e : Event) :
    a.startsImage? e = b.startsImage? e := by
  unfold startsImage?
  rw [h]

theorem startsImage?_hear (r : Rendering) (ns : List Notice) (e : Event) :
    (r.hear ns).startsImage? e = r.startsImage? e := startsImage?_congr (skipDepth_hear r ns) e

theorem eq_of_startsImage? {r : Rendering} {e : Event} {target : Target}
    (h : r.startsImage? e = some target) : e = .start (.image target) ∧ r.skipDepth = 0 := by
  unfold startsImage? at h
  split at h
  · split at h
    · cases h
    · cases h
      exact ⟨rfl, by omega⟩
  · cases h

@[simp] theorem beside_image (settings : Settings) (resolve : Resolver) (r : Rendering)
    (target : Target) : (image settings resolve r target).beside = r.beside := by
  unfold image
  split
  · simp only [beside_format]
    split <;> rfl
  · rfl

@[simp] theorem skipDepth_image (settings : Settings) (resolve : Resolver) (r : Rendering)
    (target : Target) : (image settings resolve r target).skipDepth = r.skipDepth :=
  (congrArg Rendering.skipDepth (beside_image settings resolve r target) :)

@[simp] theorem table_image (settings : Settings) (resolve : Resolver) (r : Rendering)
    (target : Target) : (image settings resolve r target).table = r.table :=
  (congrArg Rendering.table (beside_image settings resolve r target) :)

@[simp] theorem beside_softBreak (settings : Settings) (r : Rendering) :
    (softBreak settings r).beside = r.beside := by
  unfold softBreak
  split <;> rfl

theorem restore_eq (r : Rendering) (t : Text) (span : Span) :
    r.restore t span = match r.table.restore t span with
      | (.ok t', ns, table) => .ok (t', ({ r with table } : Rendering).hear ns)
      | (.error fault, _, _) => .error fault.toError := by
  unfold restore
  rcases r.table.restore t span with ⟨result, ns, table⟩
  cases result <;> rfl

theorem beside_restore {r r' : Rendering} {t t' : Text} {span : Span}
    (h : r.restore t span = .ok (t', r')) :
    Queried r.table (r.table.restore t span).2.2 ∧
      r'.beside = { r with table := (r.table.restore t span).2.2 }.beside := by
  rw [restore_eq] at h
  split at h
  · next hr =>
    cases h
    rw [hr]
    exact ⟨.restore .none hr, beside_hear _ _⟩
  · cases h

theorem eq_of_isRecorded {r r' : Rendering} {pos : Nat} {b : Bool}
    (h : r.isRecorded pos = .ok (b, r')) :
    (r.table.isRecorded? pos).1 = some b ∧ r' = { r with table := r.table.advance pos } := by
  unfold isRecorded at h
  simp only at h
  split at h
  · next hb =>
    cases h
    exact ⟨hb, rfl⟩
  · cases h

/-- A sequence without an error has none in its parts. -/
theorem exists_of_bind {α β : Type} {x : Except Error α} {f : α → Except Error β} {b : β}
    (h : x >>= f = .ok b) : ∃ a, x = .ok a ∧ f a = .ok b := by
  cases x with
  | error e => cases h
  | ok a => exact ⟨a, rfl, h⟩

/-- An error of a sequence is that of its first part, or of its second. -/
theorem error_of_bind {α β : Type} {x : Except Error α} {f : α → Except Error β} {err : Error}
    (h : x >>= f = .error err) : x = .error err ∨ ∃ a, x = .ok a ∧ f a = .error err := by
  cases x with
  | error e => cases h; exact .inl rfl
  | ok a => exact .inr ⟨a, rfl, h⟩

/-- The table once it was asked whether a code span is math. -/
def tableAsked (t : Math.Table) (span : Span) : Math.Table :=
  if (t.isRecorded? span.start).1 = some true ∧ 4 < span.length then
    (t.advance span.start).advance (span.stop - 2)
  else t.advance span.start

/-- The table behind a leaf. -/
def tableAfter (t : Math.Table) (span : Span) : Event → Math.Table
  | .text s | .html s => (t.restore s span).2.2
  | .code s => ((tableAsked t span).restore s (innerSpan s span)).2.2
  | _ => t

theorem queried_tableAsked (t : Math.Table) (span : Span) : Queried t (tableAsked t span) := by
  unfold tableAsked
  split
  · exact .advance _ (.advance _ .none)
  · exact .advance _ .none

/-- The question whether a code span is math only moves the cursor. -/
theorem eq_of_isMath {r r' : Rendering} {span : Span} {b : Bool} (h : r.isMath span = .ok (b, r')) :
    r' = { r with table := tableAsked r.table span } := by
  obtain ⟨⟨opens, r1⟩, h1, h⟩ := exists_of_bind h
  obtain ⟨hopens, rfl⟩ := eq_of_isRecorded h1
  simp only at h
  unfold tableAsked
  rw [hopens]
  split at h
  · next hc =>
    rw [if_pos (by simpa using hc)]
    exact (eq_of_isRecorded h).2
  · next hc =>
    rw [if_neg (by simpa using hc)]
    cases h
    rfl

/-- Text leaves the containers alone; in code it may leave a line open. -/
theorem beside_text {r r' : Rendering} {t : Text} {span : Span} (h : r.text t span = .ok r') :
    Queried r.table (r.table.restore t span).2.2 ∧ ∃ b, (r.inCode = false → b = r.codeLineOpen) ∧
      r'.beside = { r with table := (r.table.restore t span).2.2, codeLineOpen := b }.beside := by
  obtain ⟨⟨t', r1⟩, h1, h⟩ := exists_of_bind h
  obtain ⟨hq, hr⟩ := beside_restore h1
  refine ⟨hq, ?_⟩
  have hcode : r1.inCode = r.inCode := (congrArg Rendering.inCode hr :)
  simp only at h
  split at h
  · next hin =>
    split at h
    · cases h
      exact ⟨r.codeLineOpen, fun _ => rfl, hr⟩
    · cases h
      refine ⟨t'.getLast? != some '\n', fun hout => ?_,
        (congrArg (fun x => { x with codeLineOpen := t'.getLast? != some '\n' }) hr :)⟩
      rw [← hcode, hin] at hout
      cases hout
  · cases h
    exact ⟨r.codeLineOpen, fun _ => rfl, hr⟩

theorem beside_code {r r' : Rendering} {t : Text} {span : Span} (h : r.code t span = .ok r') :
    Queried r.table (tableAfter r.table span (.code t)) ∧
      r'.beside = { r with table := tableAfter r.table span (.code t) }.beside := by
  obtain ⟨⟨math, r1⟩, h1, h⟩ := exists_of_bind h
  obtain rfl := eq_of_isMath h1
  simp only at h
  obtain ⟨⟨t', r2⟩, h2, h⟩ := exists_of_bind h
  cases h
  rw [restore_eq] at h2
  simp only [tableAfter]
  split at h2
  · next hr =>
    cases h2
    rw [hr]
    exact ⟨.restore (queried_tableAsked _ _) hr, beside_hear _ _⟩
  · cases h2

theorem beside_html {r r' : Rendering} {t : Text} {span : Span} (h : r.html t span = .ok r') :
    Queried r.table (r.table.restore t span).2.2 ∧
      r'.beside = { r with table := (r.table.restore t span).2.2 }.beside := by
  obtain ⟨⟨t', r1⟩, h1, h⟩ := exists_of_bind h
  cases h
  obtain ⟨hq, hr⟩ := beside_restore h1
  exact ⟨hq, hr⟩

/-- What a leaf changes beside the text. -/
theorem beside_leaf {settings : Settings} {r r' : Rendering} {e : Event} {span : Span}
    (he : e.isLeaf = true) (h0 : r.skipDepth = 0) (h : r.step settings e span = .ok r') :
    Queried r.table (tableAfter r.table span e) ∧ ∃ b, (r.inCode = false → b = r.codeLineOpen) ∧
      r'.beside = { r with table := tableAfter r.table span e, codeLineOpen := b }.beside := by
  unfold step at h
  rw [if_neg (by omega)] at h
  cases e with
  | start | stop => cases he
  | anonymous opens => cases h
  | text t => exact beside_text h
  | code t =>
    obtain ⟨hq, hr⟩ := beside_code h
    exact ⟨hq, r.codeLineOpen, fun _ => rfl, hr⟩
  | html t =>
    obtain ⟨hq, hr⟩ := beside_html h
    exact ⟨hq, r.codeLineOpen, fun _ => rfl, hr⟩
  | softBreak =>
    cases h
    exact ⟨.none, r.codeLineOpen, fun _ => rfl, beside_softBreak settings r⟩
  | hardBreak | rule | taskMarker | footnoteReference =>
    cases h
    exact ⟨.none, r.codeLineOpen, fun _ => rfl, rfl⟩

/-- What opening a container sets. -/
theorem beside_openTag (r : Rendering) (t : Tag) :
    ∃ links : List Bool, links.length = r.openLinks.length + (if t.isLink then 1 else 0) ∧
      (r.openTag t).beside = { r with
        skipDepth := if t.isSkipped then 1 else r.skipDepth
        enumDepth := if t.isOrdered then r.enumDepth + 1 else r.enumDepth
        inCode := t.isCodeBlock || r.inCode
        openLinks := links }.beside := by
  cases t with
  | list start =>
    cases start with
    | none => exact ⟨r.openLinks, rfl, rfl⟩
    | some n =>
      refine ⟨r.openLinks, rfl, ?_⟩
      simp only [openTag, openList]
      split <;> rfl
  | link target =>
    by_cases hform : target.form = some .inline
    · refine ⟨true :: r.openLinks, rfl, ?_⟩
      rw [openTag, if_pos hform]
      rfl
    · refine ⟨false :: r.openLinks, rfl, ?_⟩
      rw [openTag, if_neg hform]
      rfl
  | _ => exact ⟨r.openLinks, rfl, rfl⟩

/-- What closing a container sets. -/
theorem beside_closeTag {r r' : Rendering} {t : Tag} (h : r.closeTag t = .ok r') :
    ∃ links : List Bool, links.length + (if t.isLink then 1 else 0) = r.openLinks.length ∧
      r'.beside = { r with
        enumDepth := if t.isOrdered then r.enumDepth - 1 else r.enumDepth
        inCode := !t.isCodeBlock && r.inCode
        codeLineOpen := !t.isCodeBlock && r.codeLineOpen
        openLinks := links }.beside := by
  cases t with
  | list start =>
    cases start <;> cases h <;> exact ⟨r.openLinks, rfl, rfl⟩
  | codeBlock language =>
    cases h
    refine ⟨r.openLinks, rfl, ?_⟩
    split <;> rfl
  | link target =>
    simp only [closeTag] at h
    split at h
    · cases h
    · next grouped rest hlinks =>
      cases h
      refine ⟨rest, by rw [hlinks]; rfl, ?_⟩
      split <;> rfl
  | image target => cases h
  | _ =>
    cases h
    exact ⟨r.openLinks, rfl, rfl⟩

/-- Only the end of an image, or of a link that nothing opened, is an error. -/
theorem exists_closeTag (r : Rendering) {t : Tag} (hi : t.isImage = false)
    (hl : t.isLink = true → r.openLinks ≠ []) : ∃ r', r.closeTag t = .ok r' := by
  cases t with
  | link target =>
    simp only [closeTag]
    split
    · next h => exact absurd h (hl rfl)
    · exact ⟨_, rfl⟩
  | image target => cases hi
  | _ => exact ⟨_, rfl⟩

/-! ## Open containers -/

/-- What a rendering knows of the open containers: how many are left out, and which links are open
outside of them. No image is, outside of them: images are closed as they start. -/
structure Nested (r : Rendering) (st : List Tag) : Prop where
  skips : r.skipDepth = skipping st
  links : r.openLinks.length = (shown st).countP Tag.isLink
  noImage : ∀ t ∈ shown st, t.isImage = false

theorem Nested.congr {r r' : Rendering} {st : List Tag} (h : Nested r st)
    (hs : r'.skipDepth = r.skipDepth) (hl : r'.openLinks = r.openLinks) : Nested r' st :=
  ⟨hs.trans h.skips, (congrArg List.length hl).trans h.links, h.noImage⟩

/-- Writing and queries change nothing of it. -/
theorem Nested.of_beside {r r' : Rendering} {st : List Tag} {table : Math.Table} {b : Bool}
    (h : Nested r st) (hb : r'.beside = { r with table := table, codeLineOpen := b }.beside) :
    Nested r' st :=
  h.congr (congrArg Rendering.skipDepth hb :) (congrArg Rendering.openLinks hb :)

theorem nested_begin {r : Rendering} (hs : r.skipDepth = 0) (hl : r.openLinks = []) :
    Nested r [] := ⟨hs, by rw [hl]; rfl, fun t ht => by cases ht⟩

theorem Nested.hear {r : Rendering} {st : List Tag} (h : Nested r st) (ns : List Notice) :
    Nested (r.hear ns) st :=
  h.congr (congrArg Rendering.skipDepth (beside_hear r ns) :)
    (congrArg Rendering.openLinks (beside_hear r ns) :)

/-- Inside of what is left out, only the depth is counted. -/
theorem skip_eq (r : Rendering) {st : List Tag} (hs : r.skipDepth = skipping st) {e : Event}
    (he : e.fits st = true) : r.skip e = { r with skipDepth := skipping (e.opened st) } := by
  cases e with
  | start t =>
    simp only [Rendering.skip, Event.opened, skipping_cons, ← hs]
    split <;> rfl
  | stop t =>
    obtain ⟨outer, rfl⟩ := eq_cons_of_fits he
    rw [skipping_cons] at hs
    simp only [Rendering.skip, Event.opened, List.tail_cons]
    split
    · next ht =>
      rw [if_pos ht] at hs
      rw [hs, Nat.add_sub_cancel]
    · next ht =>
      rw [if_neg ht, Nat.add_zero] at hs
      rw [← hs]
  | anonymous b => cases he
  | _ =>
    simp only [Rendering.skip, Event.opened]
    rw [← hs]

theorem Nested.skip {r : Rendering} {st : List Tag} (h : Nested r st) (hpos : 0 < skipping st)
    {e : Event} (he : e.fits st = true) : Nested (r.skip e) (e.opened st) := by
  have hshown := shown_opened hpos he
  rw [skip_eq r h.skips he]
  exact ⟨rfl, hshown ▸ h.links, hshown ▸ h.noImage⟩

theorem Nested.openTag {r : Rendering} {st : List Tag} (h : Nested r st) (h0 : skipping st = 0)
    {t : Tag} (ht : t.isImage = false) : Nested (r.openTag t) (t :: st) := by
  obtain ⟨hs, hl, hi⟩ := h
  rw [shown_eq_self h0] at hl hi
  obtain ⟨links, hlinks, hb⟩ := beside_openTag r t
  have hopen : (r.openTag t).openLinks = links := (congrArg Rendering.openLinks hb :)
  refine ⟨?_, ?_, ?_⟩
  · rw [skipping_cons, h0, Nat.zero_add, ← h0, ← hs]
    exact (congrArg Rendering.skipDepth hb :)
  · have hlink : t.isSkipped = true → t.isLink = false := by
      cases t <;> simp [Tag.isSkipped, Tag.isLink]
    rw [countP_shown_cons h0 hlink, hopen, hlinks, hl]
  · rw [shown_cons h0]
    split
    · exact hi
    · exact List.forall_mem_cons.2 ⟨ht, hi⟩

theorem Nested.closeTag {r r' : Rendering} {t : Tag} {st : List Tag} (h : Nested r (t :: st))
    (h0 : skipping (t :: st) = 0) (hr : r.closeTag t = .ok r') : Nested r' st := by
  obtain ⟨hs, hl, hi⟩ := h
  have hst : skipping st = 0 := by
    rw [skipping_cons] at h0
    omega
  rw [shown_eq_self h0] at hl hi
  obtain ⟨links, hlinks, hb⟩ := beside_closeTag hr
  refine ⟨?_, ?_, ?_⟩
  · rw [hst, ← h0, ← hs]
    exact (congrArg Rendering.skipDepth hb :)
  · have hopen : r'.openLinks = links := (congrArg Rendering.openLinks hb :)
    rw [List.countP_cons] at hl
    rw [shown_eq_self hst, hopen]
    omega
  · rw [shown_eq_self hst]
    exact (List.forall_mem_cons.1 hi).2

/-- The depth of numbered lists is that of the open containers. -/
theorem enumDepth_openTag {r : Rendering} {st : List Tag} (h0 : skipping st = 0)
    (h : r.enumDepth = (shown st).countP Tag.isOrdered) (t : Tag) :
    (r.openTag t).enumDepth = (shown (t :: st)).countP Tag.isOrdered := by
  rw [shown_eq_self h0] at h
  obtain ⟨links, -, hb⟩ := beside_openTag r t
  rw [countP_shown_cons h0 (by cases t <;> simp [Tag.isSkipped, Tag.isOrdered]), ← h]
  refine (congrArg Rendering.enumDepth hb :).trans ?_
  simp only [beside]
  split <;> rfl

theorem enumDepth_closeTag {r r' : Rendering} {t : Tag} {st : List Tag}
    (h0 : skipping (t :: st) = 0) (h : r.enumDepth = (shown (t :: st)).countP Tag.isOrdered)
    (hr : r.closeTag t = .ok r') : r'.enumDepth = (shown st).countP Tag.isOrdered := by
  have hst : skipping st = 0 := by
    rw [skipping_cons] at h0
    omega
  rw [shown_eq_self h0, List.countP_cons] at h
  obtain ⟨links, -, hb⟩ := beside_closeTag hr
  rw [shown_eq_self hst]
  refine (congrArg Rendering.enumDepth hb :).trans ?_
  simp only [beside, h]
  split <;> omega

theorem Nested.exists_closeTag {r : Rendering} {t : Tag} {st : List Tag} (h : Nested r (t :: st))
    (h0 : skipping (t :: st) = 0) : ∃ r', r.closeTag t = .ok r' := by
  obtain ⟨-, hl, hi⟩ := h
  rw [shown_eq_self h0] at hl hi
  refine Rendering.exists_closeTag r (hi t List.mem_cons_self) fun ht hnil => ?_
  rw [hnil, List.countP_cons_of_pos ht] at hl
  cases hl

/-- An event that is taken by itself keeps what a rendering knows in step with the open containers. -/
theorem Nested.step {settings : Settings} {r r' : Rendering} {st : List Tag} {e : Event} {span : Span}
    (h : Nested r st) (he : e.fits st = true) (hi : r.startsImage? e = none)
    (hr : r.step settings e span = .ok r') : Nested r' (e.opened st) := by
  rcases Nat.eq_zero_or_pos r.skipDepth with hzero | hpos
  · have h0 : skipping st = 0 := by
      rw [← h.skips, hzero]
    have hr' := hr
    unfold Rendering.step at hr'
    rw [if_neg (by omega)] at hr'
    cases e with
    | start t =>
      cases hr'
      refine h.openTag h0 ?_
      cases t with
      | image target => rw [startsImage?, if_neg (by omega)] at hi; cases hi
      | _ => rfl
    | stop t =>
      obtain ⟨outer, rfl⟩ := eq_cons_of_fits he
      exact h.closeTag h0 hr'
    | _ =>
      obtain ⟨-, b, -, hb⟩ := beside_leaf rfl hzero hr
      exact h.of_beside hb
  · unfold Rendering.step at hr
    rw [if_pos hpos] at hr
    cases hr
    exact h.skip (h.skips ▸ hpos) he

/-! ## Open links -/

/-- Whether a link has a group. -/
def grouped? : Tag → Option Bool
  | .link target => some (decide (target.form = some .inline))
  | _ => none

theorem grouped?_of_isSkipped {t : Tag} (h : t.isSkipped = true) : grouped? t = none := by
  cases t <;> first | rfl | cases h

theorem openLinks_openTag (r : Rendering) (t : Tag) :
    (r.openTag t).openLinks = [t].filterMap grouped? ++ r.openLinks := by
  cases t with
  | list start =>
    cases start with
    | none => rfl
    | some n =>
      simp only [openTag, openList]
      split <;> rfl
  | link target =>
    simp only [openTag]
    split
    · next h => simp [grouped?, h]
    · next h => simp [grouped?, h]
  | _ => rfl

theorem openLinks_closeTag {r r' : Rendering} {t : Tag} {rest : List Bool}
    (hlinks : r.openLinks = [t].filterMap grouped? ++ rest) (h : r.closeTag t = .ok r') :
    r'.openLinks = rest := by
  cases t with
  | list start => cases start <;> cases h <;> exact hlinks
  | codeBlock language =>
    cases h
    split <;> exact hlinks
  | link target =>
    have hcons : r.openLinks = decide (target.form = some .inline) :: rest := hlinks
    simp only [closeTag, hcons] at h
    cases h
    rfl
  | image target => cases h
  | _ =>
    cases h
    exact hlinks

/-- A rendering knows which of the open links have a group. -/
structure Linked (r : Rendering) (st : List Tag) : Prop extends Nested r st where
  groups : r.openLinks = (shown st).filterMap grouped?

theorem Linked.of_beside {r r' : Rendering} {st : List Tag} {table : Math.Table} {b : Bool}
    (h : Linked r st) (hb : r'.beside = { r with table := table, codeLineOpen := b }.beside) :
    Linked r' st :=
  ⟨h.toNested.of_beside hb, (congrArg Rendering.openLinks hb :).trans h.groups⟩

theorem Linked.hear {r : Rendering} {st : List Tag} (h : Linked r st) (ns : List Notice) :
    Linked (r.hear ns) st := h.of_beside (beside_hear r ns)

theorem Linked.step {settings : Settings} {r r' : Rendering} {st : List Tag} {e : Event} {span : Span}
    (h : Linked r st) (he : e.fits st = true) (hi : r.startsImage? e = none)
    (hr : r.step settings e span = .ok r') : Linked r' (e.opened st) := by
  refine ⟨h.toNested.step he hi hr, ?_⟩
  rcases Nat.eq_zero_or_pos r.skipDepth with hzero | hpos
  · have h0 : skipping st = 0 := h.skips.symm.trans hzero
    have hgroups := h.groups
    rw [shown_eq_self h0] at hgroups
    have hr' := hr
    unfold Rendering.step at hr'
    rw [if_neg (by omega)] at hr'
    cases e with
    | start t =>
      cases hr'
      rw [Event.opened, filterMap_shown_cons h0 grouped?_of_isSkipped, openLinks_openTag, hgroups,
        ← List.filterMap_append, List.singleton_append]
    | stop t =>
      obtain ⟨outer, rfl⟩ := eq_cons_of_fits he
      have hst : skipping outer = 0 := by
        rw [skipping_cons] at h0
        omega
      rw [← List.singleton_append, List.filterMap_append] at hgroups
      rw [Event.opened, List.tail_cons, shown_eq_self hst]
      exact openLinks_closeTag hgroups hr'
    | _ =>
      obtain ⟨-, b, -, hb⟩ := beside_leaf rfl hzero hr
      exact (h.of_beside hb).groups
  · unfold Rendering.step at hr
    rw [if_pos hpos] at hr
    cases hr
    rw [skip_eq r h.skips he, shown_opened (h.skips ▸ hpos) he]
    exact h.groups

/-! ## Runs -/

variable {settings : Settings} {resolve : Resolver}

/-- The runs without an error: their events, the state in front of them, and the one behind them. -/
inductive Runs (settings : Settings) (resolve : Resolver) :
    List Located → Rendering → Rendering → Prop where
  | nil (r : Rendering) : Runs settings resolve [] r r
  | event {e : Located} {rest : List Located} {r r1 r2 : Rendering}
    (hi : r.startsImage? e.event = none)
    (hs : (r.hear e.notices).step settings e.event e.span = .ok r1)
    (h : Runs settings resolve rest r1 r2) : Runs settings resolve (e :: rest) r r2
  | image {x y : Located} {rest : List Located} {r r2 : Rendering} {target : Target}
    (hi : r.startsImage? x.event = some target) (hy : endsImage y.event = true)
    (h : Runs settings resolve rest
      (((r.hear x.notices).image settings resolve target).hear y.notices) r2) :
    Runs settings resolve (x :: y :: rest) r r2

/-- An image leaves the open containers as they were. -/
theorem opened_image {x y : Located} {r : Rendering} {target : Target}
    (hi : r.startsImage? x.event = some target) (hy : endsImage y.event = true) (st : List Tag) :
    y.event.opened (x.event.opened st) = st ∧ some y.event ≠ some (.start .item) := by
  obtain ⟨hx, -⟩ := eq_of_startsImage? hi
  cases hevent : y.event with
  | stop t =>
    rw [hx]
    exact ⟨rfl, by simp⟩
  | _ => rw [hevent] at hy; cases hy

/-- Along a run, links are opened and closed with their containers. -/
theorem Linked.runs {xs : List Located} {r r' : Rendering} (hruns : Runs settings resolve xs r r')
    {may : Placement} : ∀ {st : List Tag} {last : Option Event}, Linked r st →
      placed may st last (eventsOf xs) = true → Linked r' (openTags st (eventsOf xs)) := by
  induction hruns with
  | nil r => exact fun h _ => h
  | @event e rest r r1 r2 hi hs _ ih =>
    intro st last h hp
    obtain ⟨hfits, -, hp⟩ := placed_cons hp
    exact ih ((h.hear e.notices).step hfits ((startsImage?_hear r _ _).trans hi) hs) hp
  | @image x y rest r r2 target hi hy _ ih =>
    intro st last h hp
    obtain ⟨-, -, hp⟩ := placed_cons hp
    obtain ⟨-, -, hp⟩ := placed_cons hp
    obtain ⟨hopened, -⟩ := opened_image hi hy st
    rw [eventsOf_cons, eventsOf_cons, openTags_cons, openTags_cons, hopened]
    exact ih (((h.hear x.notices).of_beside (beside_image settings resolve _ target)).hear y.notices)
      (hopened ▸ hp)

theorem Runs.run_append {pre rest : List Located} {r r1 : Rendering}
    (h : Runs settings resolve pre r r1) :
    run settings resolve (pre ++ rest) r = run settings resolve rest r1 := by
  induction h with
  | nil => rfl
  | event hi hs _ ih =>
    rw [List.cons_append, run]
    simp only [startsImage?_hear, hi, hs]
    exact ih
  | image hi hy _ ih =>
    rw [List.cons_append, List.cons_append, run]
    simp only [startsImage?_hear, hi, hy, if_true]
    exact ih

theorem Runs.run_eq {xs : List Located} {r r1 : Rendering} (h : Runs settings resolve xs r r1) :
    run settings resolve xs r = (r1, none) := by
  have h' : run settings resolve (xs ++ []) r = run settings resolve [] r1 := h.run_append
  rwa [List.append_nil] at h'

theorem runs_of_run {xs : List Located} {r r1 : Rendering}
    (h : run settings resolve xs r = (r1, none)) : Runs settings resolve xs r r1 := by
  fun_induction run settings resolve xs r with
  | case1 => cases h; exact .nil _
  | case2 => cases (Prod.mk.inj h).2
  | case3 e r rh target hi ri next rest rn hy ih =>
    exact .image (startsImage?_hear r _ _ ▸ hi) hy (ih h)
  | case4 => cases (Prod.mk.inj h).2
  | case5 e rest r rh hi rs hs ih => exact .event (startsImage?_hear r _ _ ▸ hi) hs (ih h)
  | case6 => cases (Prod.mk.inj h).2

/-! ## Tables along runs -/

/-- The table behind an event, and how many containers are left out, do not depend on the text. -/
theorem step_alike {a b a' b' : Rendering} {e : Event} {span : Span}
    (ha : a.step settings e span = .ok a') (hb : b.step settings e span = .ok b')
    (ht : a.table = b.table) (hd : a.skipDepth = b.skipDepth) :
    a'.table = b'.table ∧ a'.skipDepth = b'.skipDepth := by
  rcases Nat.eq_zero_or_pos a.skipDepth with hzero | hpos
  · have hleaf : e.isLeaf = true → a'.table = b'.table ∧ a'.skipDepth = b'.skipDepth := fun he => by
      obtain ⟨-, _, -, ha'⟩ := beside_leaf he hzero ha
      obtain ⟨-, _, -, hb'⟩ := beside_leaf he (hd ▸ hzero) hb
      refine ⟨(congrArg Rendering.table ha' :).trans ?_, (congrArg Rendering.skipDepth ha' :).trans ?_⟩
      · exact (congrArg (tableAfter · span e) ht).trans (congrArg Rendering.table hb' :).symm
      · exact hd.trans (congrArg Rendering.skipDepth hb' :).symm
    cases e with
    | start t =>
      unfold step at ha hb
      rw [if_neg (by omega)] at ha hb
      cases ha
      cases hb
      obtain ⟨_, -, ha'⟩ := beside_openTag a t
      obtain ⟨_, -, hb'⟩ := beside_openTag b t
      refine ⟨(congrArg Rendering.table ha' :).trans (ht.trans (congrArg Rendering.table hb' :).symm),
        (congrArg Rendering.skipDepth ha' :).trans (Eq.trans ?_ (congrArg Rendering.skipDepth hb' :).symm)⟩
      simp only [beside, hd]
    | stop t =>
      unfold step at ha hb
      rw [if_neg (by omega)] at ha hb
      obtain ⟨_, -, ha'⟩ := beside_closeTag ha
      obtain ⟨_, -, hb'⟩ := beside_closeTag hb
      exact ⟨(congrArg Rendering.table ha' :).trans (ht.trans (congrArg Rendering.table hb' :).symm),
        (congrArg Rendering.skipDepth ha' :).trans (hd.trans (congrArg Rendering.skipDepth hb' :).symm)⟩
    | _ => exact hleaf rfl
  · unfold step at ha hb
    rw [if_pos (by omega)] at ha hb
    cases ha
    cases hb
    unfold skip
    rw [hd]
    split
    · split <;> exact ⟨ht, by simp [hd]⟩
    · split <;> exact ⟨ht, by simp [hd]⟩
    · exact ⟨ht, hd⟩

/-- Along the same events, tables go the same way, whatever is written. -/
theorem Runs.alike {xs : List Located} {a a' : Rendering} (ha : Runs settings resolve xs a a') :
    ∀ {b b' : Rendering}, Runs settings resolve xs b b' → a.table = b.table →
      a.skipDepth = b.skipDepth → a'.table = b'.table ∧ a'.skipDepth = b'.skipDepth := by
  induction ha with
  | nil a =>
    intro b b' hb ht hd
    cases hb
    exact ⟨ht, hd⟩
  | @event e rest a a1 a2 hi hs _ ih =>
    intro b b' hb ht hd
    cases hb with
    | event _ hs' hb' =>
      obtain ⟨ht', hd'⟩ := step_alike hs hs' (by simpa using ht) (by simpa using hd)
      exact ih hb' ht' hd'
    | image hi' => rw [startsImage?_congr hd, hi'] at hi; cases hi
  | @image x y rest a a2 target hi hy _ ih =>
    intro b b' hb ht hd
    cases hb with
    | event hi' => rw [startsImage?_congr hd, hi'] at hi; cases hi
    | image _ _ hb' => exact ih hb' (by simpa using ht) (by simpa using hd)

end Latex.Rendering
end Texdown
