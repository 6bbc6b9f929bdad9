import Texdown.Conversion
import Texdown.Proofs.CodeSpans
import Texdown.Proofs.Running
import Texdown.Proofs.Streams

/-!
# Conversions give the text back

The stream of any token tree is rendered to its end without an error, and every fragment that was
located comes back as it stands in the text. What carries this along a run is `Ready`: the events to
come nest in the open containers, their fragments stand in the order of the text, and the cursor of
the table has not passed the first of them.

Results:
* `Ready.exists_runs`: a rendering that is ready reads on to any event it may stop at.
* `Ready.exists_runs_without`: a fragment that was not located changes nothing for those behind it.
* `document_run`: a document is a run and its end.
* `code_restored`: a code span is math exactly if both its delimiters were disguised, and its content
  comes back as it reads in the text.
* `fragment_restored`: text and HTML come back as they stand in the text.
* `convert_completes`: a conversion ends without an error, and looks up nothing out of bounds.
-/
namespace Texdown

open Math

theorem Located.Sits.le_reach {src : Text} {c : Nat} {e : Located} (h : e.Sits src c) :
    c ≤ e.reach c := by
  unfold Located.Sits at h
  unfold Located.reach
  cases he : e.event with
  | text t | html t =>
    simp only [he] at h ⊢
    omega
  | code t =>
    simp only [he] at h ⊢
    obtain ⟨hle, -, heq | ⟨n, hc⟩⟩ := h
    · omega
    · have := hc.width
      omega
  | _ => exact Nat.le_refl _

namespace Latex.Rendering

/-! ## Queries in order -/

variable {o d : Text} {offsets : List Nat}

theorem restore_lost (t : Table) {s : Span} (hs : s.start = s.stop) {fragment : Text}
    (hne : fragment ≠ []) : t.restore fragment s = (.ok fragment, [.fragmentAmbiguous], t) := by
  refine Table.restore_mismatched t fun hlen => ?_
  have := List.length_pos_iff.2 hne
  simp only [Span.length] at hlen
  omega

theorem over_tableAsked {t : Table} {n : Nat} (hov : t.Over offsets n) (s : Span) :
    (tableAsked t s).Over offsets n := by
  unfold tableAsked
  split
  · exact (hov.advance _).advance _
  · exact hov.advance _

/-- What a code span is written as, with `n` backticks on either side: math without its delimiters if
both were disguised, and typewriter text otherwise. -/
def codeLatex (o : Text) (offsets : List Nat) (s : Span) (n : Nat) : Text :=
  if s.start ∈ offsets ∧ s.stop - 2 ∈ offsets then
    '$' :: Locator.normalizeCode ((s.shrink 2).slice o) ++ ['$']
  else typewriter (escape (Locator.normalizeCode ((s.shrink n).slice o)))

/-- The question for the second delimiter takes the cursor past the content; it is asked only if no
delimiter can be there. -/
theorem isMath_eq (h : Disguised o d offsets) {r : Rendering} (hov : r.table.Over offsets d.length)
    {s : Span} {c : Text} {n : Nat} (hc : Locator.CodeAt d s c n) (hb : r.table.Behind s.start) :
    ∃ t', r.isMath s
        = .ok (decide (s.start ∈ offsets ∧ s.stop - 2 ∈ offsets), { r with table := t' }) ∧
      t'.Over offsets d.length ∧ t'.Behind s.stop ∧ (s.start ∉ offsets → t'.Behind s.start) := by
  have hw := hc.width
  have hstop := hc.stop_le
  have hstart := Table.isRecorded?_eq hov h.sorted hb (by omega)
  have hov1 := hov.advance s.start
  have hb1 := hov.behind_advance hb
  by_cases hmem : s.start ∈ offsets
  · obtain rfl := hc.fence_eq_two h hmem
    have hend := Table.isRecorded?_eq hov1 h.sorted (hb1.mono (by omega : s.start ≤ s.stop - 2))
      (by omega)
    refine ⟨_, ?_, hov1.advance (s.stop - 2),
      (hov1.behind_advance (hb1.mono (by omega))).mono (by omega), fun hn => absurd hmem hn⟩
    have hlong : (4 : Int) < s.length := by
      simp only [Span.length]
      omega
    simp [isMath, isRecorded, hstart, hend, hmem, hlong, bind, Except.bind]
  · refine ⟨_, ?_, hov1, hb1.mono (by omega), fun _ => hb1⟩
    simp [isMath, isRecorded, hstart, hmem, bind, Except.bind, pure, Except.pure]

/-- A located code span is restored, wherever the question for its end has left the cursor. -/
theorem code_eq (h : Disguised o d offsets) {r : Rendering} (hov : r.table.Over offsets d.length)
    {s : Span} {c : Text} {n : Nat} (hc : Locator.CodeAt d s c n) (hb : r.table.Behind s.start) :
    ∃ t', r.code c s
        = .ok { r.format (·.write .content (codeLatex o offsets s n)) with table := t' } ∧
      t'.Over offsets d.length ∧ t'.Behind s.stop := by
  obtain ⟨t1, hmath, hov1, hend, hstart⟩ := isMath_eq h hov hc hb
  obtain ⟨t2, hrestore, hov2, hb2⟩ : ∃ t2,
      t1.restore c (innerSpan c s)
        = (.ok (unveil offsets (innerSpan c s) c), [], t2) ∧
      t2.Over offsets d.length ∧ t2.Behind s.stop := by
    have hbounds := hc.contentSpan_bounds
    have hlen := hc.length_content
    have hticks := fun p => hc.ticks_inside h (p := p)
    have hstop := hc.stop_le
    rw [← hc.innerSpan_eq] at hbounds hlen
    obtain ⟨hlo, hle, hhi⟩ := hbounds
    by_cases hmem : s.start ∈ offsets
    · -- The cursor may be past the content, but there is nothing to restore in it.
      have hnone : inside (innerSpan c s) offsets = [] := by
        refine List.eq_nil_iff_forall_not_mem.2 fun p hp => ?_
        obtain ⟨hp, hge, hlt⟩ := mem_inside.1 hp
        have := hc.fence_eq_two h hmem
        exact hc.alone h hmem hp ⟨by omega, by omega⟩
      refine ⟨t1.advance (innerSpan c s).start, ?_, hov1.advance _, fun p hp => ?_⟩
      · rw [Table.restore_clear hov1 h.sorted (by omega) hlen hnone, unveil_eq_uncover, hnone,
          uncover_nil]
      · exact (hov1.mem_passed_advance hp).elim (hend p) fun hlt => by omega
    · obtain ⟨t2, hr, hov2, hb2⟩ := Table.restore_eq hov1 h.pairwise
        ((hstart hmem).mono (by omega)) (by omega) hlen hticks
      exact ⟨t2, hr, hov2, hb2.mono (by omega)⟩
  refine ⟨t2, ?_, hov2, hb2⟩
  rw [hc.unveil_eq h] at hrestore
  have hwritten : codeLatex o offsets s n
      = if s.start ∈ offsets ∧ s.stop - 2 ∈ offsets then
          '$' :: Locator.normalizeCode ((s.shrink n).slice o) ++ ['$']
        else typewriter (escape (Locator.normalizeCode ((s.shrink n).slice o))) := by
    unfold codeLatex
    split
    · next hmem => rw [hc.fence_eq_two h hmem.1]
    · rfl
  simp [code, hmath, restore_eq, hrestore, hwritten, hear, bind, Except.bind, pure, Except.pure, format]

theorem innerSpan_lost {s : Span} (hs : s.start = s.stop) (c : Text) : innerSpan c s = s := by
  rw [innerSpan]
  split
  · next h =>
    have hzero : s.length - (c.length : Int) = 0 := by
      simp only [Span.length] at h ⊢
      omega
    rw [hzero]
    rfl
  · rfl

/-- A code span that was not located is not taken for math. -/
theorem exists_code_lost {r : Rendering} (hov : r.table.Over offsets d.length)
    (hsorted : offsets.Pairwise (· < ·)) {s : Span} (hs : s.start = s.stop) (hstop : s.stop ≤ d.length)
    (hb : r.table.Behind s.start) (c : Text) :
    ∃ r', r.code c s = .ok r' ∧ r'.table.Over offsets d.length ∧ r'.table.Behind s.stop := by
  have hov1 := hov.advance s.start
  have hb1 := hov.behind_advance hb
  have hmath : r.isMath s = .ok (false, { r with table := r.table.advance s.start }) := by
    obtain ⟨b, hq⟩ := hov.exists_isRecorded? s.start
    have hshort : ¬ (4 : Int) < s.length := by
      simp only [Span.length]
      omega
    simp [isMath, isRecorded, hq, hshort, bind, Except.bind, pure, Except.pure]
  obtain ⟨ns, t2, hr, hov2, hb2⟩ : ∃ ns t2,
      (r.table.advance s.start).restore c s = (.ok c, ns, t2) ∧ t2.Over offsets d.length ∧
        t2.Behind s.stop := by
    by_cases hc : c = []
    · subst hc
      have hnone : inside s offsets = [] := by
        refine List.eq_nil_iff_forall_not_mem.2 fun p hp => ?_
        have := mem_inside.1 hp
        omega
      refine ⟨_, _, Table.restore_clear hov1 hsorted hstop ?_ hnone, hov1.advance _, ?_⟩
      · simp only [Span.length, List.length_nil]
        omega
      · exact hs ▸ hov1.behind_advance hb1
    · exact ⟨_, _, restore_lost _ hs hc, hov1, hs ▸ hb1⟩
  refine ⟨{ (r.hear ns).format (·.write .content (typewriter (escape c))) with table := t2 }, ?_,
    hov2, hb2⟩
  simp [code, hmath, innerSpan_lost hs, restore_eq, hr, hear_eq, bind, Except.bind, pure, Except.pure,
    format]

theorem exists_text {r : Rendering} {t t' : Text} {s : Span} {ns : List Notice} {table : Table}
    (h : r.table.restore t s = (.ok t', ns, table)) :
    ∃ f b, r.text t s = .ok { r with formatter := f, table := table, codeLineOpen := b } := by
  simp only [text, restore_eq, h, hear_eq, bind, Except.bind, format]
  split
  · split
    · exact ⟨_, _, rfl⟩
    · exact ⟨_, _, rfl⟩
  · exact ⟨_, _, rfl⟩

theorem exists_html {r : Rendering} {t t' : Text} {s : Span} {ns : List Notice} {table : Table}
    (h : r.table.restore t s = (.ok t', ns, table)) :
    ∃ f, r.html t s = .ok { r with formatter := f, table := table } := by
  have h' : (r.note .htmlFound).table.restore t s = (.ok t', ns, table) := h
  simp only [html, restore_eq, h', hear_eq, bind, Except.bind, format]
  exact ⟨_, rfl⟩

/-- A fragment in order comes back: as it stands in the text, or as it is if it was not located. -/
theorem exists_restore (h : Disguised o d offsets) {t : Table} (hov : t.Over offsets d.length) {c : Nat}
    (hb : t.Behind c) {e : Located} {payload : Text}
    (he : e.event = .text payload ∨ e.event = .html payload) (hs : e.Sits d c) :
    ∃ t' ns table, t.restore payload e.span = (.ok t', ns, table) ∧ table.Over offsets d.length ∧
      table.Behind e.span.stop ∧
      if e.span.start < e.span.stop then t' = sliceVeiled offsets e.span o ∧ ns = []
      else t' = payload ∧ ns = [.fragmentAmbiguous] ∧ table = t := by
  have hs : c ≤ e.span.start ∧ e.span.stop ≤ d.length ∧ payload ≠ [] ∧
      (e.span.start = e.span.stop ∨ e.span.start < e.span.stop ∧ e.span.slice d = payload) := by
    unfold Located.Sits at hs
    rcases he with he | he <;> rw [he] at hs <;> exact hs
  obtain ⟨hle, hstop, hne, heq | ⟨hlt, rfl⟩⟩ := hs
  · refine ⟨payload, _, t, restore_lost t heq hne, hov, hb.mono (by omega), ?_⟩
    rw [if_neg (by omega)]
    exact ⟨rfl, rfl, rfl⟩
  · obtain ⟨t', hr, hov', hb'⟩ := Table.restore_slice h hov (hb.mono hle) (Nat.le_of_lt hlt) hstop
    refine ⟨_, _, t', hr, hov', hb', ?_⟩
    rw [if_pos hlt]
    exact ⟨rfl, rfl⟩

/-- Text and HTML are what restoring makes of them; nothing else is asked of the table. -/
theorem exists_fragment_step (settings : Settings) {r : Rendering} (h0 : r.skipDepth = 0) {e : Located}
    {payload t' : Text} {ns : List Notice} {table : Table}
    (he : e.event = .text payload ∨ e.event = .html payload)
    (hr : r.table.restore payload e.span = (.ok t', ns, table)) :
    ∃ f b, (r.hear e.notices).step settings e.event e.span
      = .ok { r with formatter := f, codeLineOpen := b, table := table } := by
  rw [hear_eq]
  refine Exists.imp (fun f => Exists.imp fun b hb => (if_neg (h0 ▸ Nat.lt_irrefl 0)).trans hb) ?_
  rcases he with he | he
  · obtain ⟨f, b, ht⟩ := exists_text
      (r := r.format fun f => { f with notices := f.notices ++ e.notices }) hr
    rw [he]
    exact ⟨f, b, ht⟩
  · obtain ⟨f, ht⟩ := exists_html
      (r := r.format fun f => { f with notices := f.notices ++ e.notices }) hr
    rw [he]
    exact ⟨f, r.codeLineOpen, ht⟩

/-- An event in order meets no error, and leaves the cursor in front of the next fragment. -/
theorem exists_step (h : Disguised o d offsets) (settings : Settings) {r : Rendering} {st : List Tag}
    (hn : Nested r st) (hov : r.table.Over offsets d.length) {c : Nat} (hb : r.table.Behind c)
    {e : Located} (he : e.event.fits st = true) (hi : r.startsImage? e.event = none)
    (hs : e.Sits d c) :
    ∃ r', r.step settings e.event e.span = .ok r' ∧ r'.table.Over offsets d.length ∧
      r'.table.Behind (e.reach c) := by
  have hb' := hb.mono hs.le_reach
  unfold step
  split
  · refine ⟨r.skip e.event, rfl, ?_⟩
    have htable : (r.skip e.event).table = r.table := by
      unfold skip
      split
      · split <;> rfl
      · split <;> rfl
      · rfl
    rw [htable]
    exact ⟨hov, hb'⟩
  · next hzero =>
    have h0 : skipping st = 0 := by
      rw [← hn.skips]
      omega
    obtain ⟨event, span, ns⟩ := e
    cases event with
    | start t =>
      obtain ⟨links, -, hbeside⟩ := beside_openTag r t
      have htable : (r.openTag t).table = r.table := (congrArg Rendering.table hbeside :)
      exact ⟨_, rfl, htable ▸ hov, htable ▸ hb'⟩
    | stop t =>
      obtain ⟨outer, rfl⟩ := eq_cons_of_fits he
      obtain ⟨r', hr⟩ := hn.exists_closeTag h0
      obtain ⟨links, -, hbeside⟩ := beside_closeTag hr
      have htable : r'.table = r.table := (congrArg Rendering.table hbeside :)
      exact ⟨r', hr, htable ▸ hov, htable ▸ hb'⟩
    | anonymous opens => cases he
    | text t =>
      obtain ⟨t', ns, table, hr, hov', hb', -⟩ := exists_restore h hov hb (.inl rfl) hs
      obtain ⟨f, b, ht⟩ := exists_text hr
      exact ⟨_, ht, hov', hb'⟩
    | html t =>
      obtain ⟨t', ns, table, hr, hov', hb', -⟩ := exists_restore h hov hb (.inr rfl) hs
      obtain ⟨f, ht⟩ := exists_html hr
      exact ⟨_, ht, hov', hb'⟩
    | code t =>
      obtain ⟨hle, hstop, heq | ⟨n, hc⟩⟩ := hs
      · exact exists_code_lost hov h.sorted heq hstop (hb.mono hle) t
      · obtain ⟨t', ht, hov', hb'⟩ := code_eq h hov hc (hb.mono hle)
        exact ⟨_, ht, hov', hb'⟩
    | softBreak =>
      have htable : (softBreak settings r).table = r.table :=
        (congrArg Rendering.table (beside_softBreak settings r) :)
      exact ⟨_, rfl, htable ▸ hov, htable ▸ hb'⟩
    | hardBreak | rule | taskMarker | footnoteReference => exact ⟨_, rfl, hov, hb'⟩

/-! ## Runs in order -/

/-- Behind the last of some events, the rest of a stream can be read: its events nest, their
fragments stand in order, and the cursor has passed none of them. -/
structure Ready (offsets : List Nat) (d : Text) (st : List Tag) (last : Option Event)
    (xs : List Located) (r : Rendering) : Prop where
  nested : Nested r st
  placed : placed .walked st last (eventsOf xs) = true
  table : r.table.Over offsets d.length
  order : ∃ c, r.table.Behind c ∧ Ordered d c xs

variable (settings : Settings) (resolve : Resolver) {st : List Tag} {last : Option Event}
  {r : Rendering} {x y : Located} {xs : List Located}

theorem Ready.step (h : Disguised o d offsets) (hr : Ready offsets d st last (x :: xs) r)
    (hi : r.startsImage? x.event = none) :
    ∃ r', (r.hear x.notices).step settings x.event x.span = .ok r' ∧
      Ready offsets d (x.event.opened st) (some x.event) xs r' := by
  obtain ⟨hn, hp, hov, c, hb, hs, hord⟩ := hr
  obtain ⟨hfits, -, hp⟩ := placed_cons hp
  have hi' : (r.hear x.notices).startsImage? x.event = none := by rw [startsImage?_hear, hi]
  have htable : (r.hear x.notices).table = r.table :=
    (congrArg Rendering.table (beside_hear r x.notices) :)
  have hn' := hn.hear x.notices
  obtain ⟨r', hstep, hov', hb'⟩ :=
    exists_step h settings hn' (htable ▸ hov) (htable ▸ hb) hfits hi' hs
  exact ⟨r', hstep, hn'.step hfits hi' hstep, hp, hov', _, hb', hord⟩

/-- An image is closed by the next event. -/
theorem Ready.image {target : Target} (hr : Ready offsets d st last (x :: y :: xs) r)
    (hi : r.startsImage? x.event = some target) :
    y.event = .stop (.image target) ∧
      Ready offsets d st (some y.event) xs
        (((r.hear x.notices).image settings resolve target).hear y.notices) := by
  obtain ⟨hn, hp, hov, c, hb, -, -, hord⟩ := hr
  obtain ⟨hx, -⟩ := eq_of_startsImage? hi
  simp only [eventsOf_cons] at hp
  obtain ⟨-, -, hp⟩ := placed_cons hp
  obtain ⟨hfits, hmay, hp⟩ := placed_cons hp
  rw [hx] at hfits hmay hp
  have hy : y.event = .stop (.image target) := by
    have hstop : y.event.isStop = true := isStop_of_image _ hmay
    cases he : y.event with
    | stop t =>
      rw [he] at hfits
      obtain ⟨outer, ho⟩ := eq_cons_of_fits hfits
      cases ho
      rfl
    | _ => rw [he] at hstop; cases hstop
  have hbeside : (((r.hear x.notices).image settings resolve target).hear y.notices).beside
      = r.beside := by
    rw [beside_hear, beside_image, beside_hear]
  have htable := (congrArg Rendering.table hbeside :)
  have hreach : (x.reach c) = c ∧ y.reach c = c := by
    simp only [Located.reach, hx, hy, and_self]
  rw [hreach.1, hreach.2] at hord
  rw [hy] at hp
  refine ⟨hy, hn.congr (congrArg Rendering.skipDepth hbeside :)
    (congrArg Rendering.openLinks hbeside :), hy ▸ hp, ?_, c, ?_, hord⟩
  · exact htable ▸ hov
  · exact htable ▸ hb

/-- No image is open here, so a run may stop. -/
def AtRest (st : List Tag) : Prop := skipping st = 0 → st.head?.any Tag.isImage = false

/-- A rendering that is ready reads on, to any place where a run may stop. -/
theorem Ready.exists_runs (h : Disguised o d offsets) : ∀ (pre : List Located) {rest : List Located}
    {st : List Tag} {last : Option Event} {r : Rendering}, Ready offsets d st last (pre ++ rest) r →
    AtRest (openTags st (eventsOf pre)) →
    ∃ r', Runs settings resolve pre r r' ∧
      Ready offsets d (openTags st (eventsOf pre)) (lastOf last (eventsOf pre)) rest r'
  | [], _, _, _, r, hr, _ => ⟨r, .nil r, hr⟩
  | x :: pre, rest, st, last, r, hr, hrest => by
    cases hi : r.startsImage? x.event with
    | none =>
      obtain ⟨r1, hs, hr1⟩ := hr.step settings h hi
      obtain ⟨r2, hruns, hr2⟩ := Ready.exists_runs h pre hr1 hrest
      exact ⟨r2, .event hi hs hruns, hr2⟩
    | some target =>
      obtain ⟨hx, h0⟩ := eq_of_startsImage? hi
      match pre, hr, hrest with
      | [], hr, hrest =>
        -- The image that starts here would be open where the run stops.
        have hskip : skipping (openTags st (eventsOf [x])) = 0 := by
          simp [hx, Event.opened, ← hr.nested.skips, h0, Tag.isSkipped]
        have := hrest hskip
        simp [hx, Event.opened, Tag.isImage] at this
      | y :: pre, hr, hrest =>
        obtain ⟨hy, hr2⟩ := Ready.image settings resolve hr hi
        have hst : openTags st (eventsOf (x :: y :: pre)) = openTags st (eventsOf pre) := by
          simp [hx, hy, Event.opened]
        rw [hst] at hrest ⊢
        obtain ⟨r3, hruns, hr3⟩ := Ready.exists_runs h pre hr2 hrest
        exact ⟨r3, .image hi (by rw [hy]; rfl) hruns, hr3⟩
  termination_by pre => pre.length

/-- It reads on to every event that does not close a container. -/
theorem Ready.exists_runs_to (h : Disguised o d offsets) {pre post : List Located}
    (hr : Ready offsets d st last (pre ++ x :: post) r) (hx : x.event.isStop = false) :
    ∃ r', Runs settings resolve pre r r' ∧ Ready offsets d (openTags st (eventsOf pre))
      (lastOf last (eventsOf pre)) (x :: post) r' := by
  refine hr.exists_runs settings resolve h pre fun _ => ?_
  have hp := hr.placed
  rw [eventsOf_append, placed_append, Bool.and_eq_true] at hp
  obtain ⟨-, -, himage, -⟩ := Placement.walked_iff.1 (placed_cons hp.2).2.1
  simpa [Placement.imageEmpty, hx] using himage

/-- A leaf can be left out. -/
theorem Ready.drop (hr : Ready offsets d st last (x :: xs) r) (hx : x.event.isLeaf = true) :
    Ready offsets d st (some x.event) xs r := by
  obtain ⟨hn, hp, hov, c, hb, hs, hord⟩ := hr
  have hopened : x.event.opened st = st := Event.opened_of_isLeaf hx st
  exact ⟨hn, hopened ▸ (placed_cons hp).2.2, hov, _, hb.mono hs.le_reach, hord⟩

/-- Without a leaf that leaves the table as it was, every later event meets the same table. -/
theorem Ready.exists_runs_without (h : Disguised o d offsets) {later rest : List Located}
    (hr : Ready offsets d st last (x :: (later ++ y :: rest)) r) (hx : x.event.isLeaf = true)
    (hy : y.event.isStop = false) {r' : Rendering}
    (hs : (r.hear x.notices).step settings x.event x.span = .ok r')
    (htable : r'.table = r.table) (hdepth : r'.skipDepth = r.skipDepth) :
    ∃ r1 r2, Runs settings resolve later r' r1 ∧ Runs settings resolve later r r2 ∧
      r1.table = r2.table ∧ r1.skipDepth = r2.skipDepth := by
  have hi : r.startsImage? x.event = none := by
    cases he : x.event with
    | start => rw [he] at hx; cases hx
    | _ => rfl
  obtain ⟨rx, hs', hr1⟩ := hr.step settings h hi
  cases hs.symm.trans hs'
  obtain ⟨r1, hruns1, -⟩ := hr1.exists_runs_to settings resolve h hy
  obtain ⟨r2, hruns2, -⟩ := (hr.drop hx).exists_runs_to settings resolve h hy
  exact ⟨r1, r2, hruns1, hruns2, hruns1.alike hruns2 htable hdepth⟩

/-! ## Conversions -/

variable {settings resolve}

/-- A rendering that has written nothing but its preamble. -/
def initial (settings : Settings) (frame : Option Text) (table : Table) : Rendering :=
  match frame with
  | some preamble => (ofTable settings table).openDocument preamble
  | none => ofTable settings table

/-- The end of a document with or without a preamble. -/
def ended (frame : Option Text) (r : Rendering) : Rendering :=
  match frame with
  | some _ => r.closeDocument
  | none => r.closeBody

/-- A document is a run over its events, and has an end if the run meets no error. -/
theorem document_run (settings : Settings) (resolve : Resolver) (frame : Option Text)
    (xs : List Located) (ts : List Notice) (table : Math.Table) :
    document settings resolve frame xs ts table
      = match run settings resolve xs (initial settings frame table) with
        | (r, some err) => (r, some err)
        | (r, none) => ((ended frame (r.hear ts)).note .renderingTimed, none) := by
  cases frame <;> rfl

theorem document_of_runs (frame : Option Text) {xs : List Located} {table : Math.Table}
    (h : Runs settings resolve xs (initial settings frame table) r) (ts : List Notice) :
    document settings resolve frame xs ts table
      = ((ended frame (r.hear ts)).note .renderingTimed, none) := by
  rw [document_run, h.run_eq]

theorem runs_of_document {frame : Option Text} {xs : List Located} {table : Math.Table}
    {ts : List Notice} (h : (document settings resolve frame xs ts table).2 = none) :
    ∃ r, Runs settings resolve xs (initial settings frame table) r := by
  rw [document_run] at h
  rcases hrun : run settings resolve xs (initial settings frame table) with ⟨r, err⟩
  cases err with
  | none => exact ⟨r, runs_of_run hrun⟩
  | some e => rw [hrun] at h; cases h

theorem ready_initial (settings : Settings) (frame : Option Text) (o : Text) (tokens : List Token) :
    Ready (disguise o).2 (disguise o).1 [] none (streamOf (prepare o).1 tokens).1
      (initial settings frame (prepare o).2) := by
  have htable : (initial settings frame (prepare o).2).table
      = Table.ofOffsets (disguise o).2 (disguise o).1.length := by
    rw [length_disguise]
    cases frame <;> rfl
  refine ⟨?_, (wellNested_streamOf _ tokens).1, ?_, 0, ?_, ordered_streamOf _ tokens⟩
  · cases frame <;> exact nested_begin rfl rfl
  · rw [htable]
    exact Table.over_ofOffsets _ _
  · rw [htable]
    exact Table.behind_ofOffsets _ _ _

/-- A conversion comes to every event that does not close a container, ready for it. -/
theorem exists_runs_to {o : Text} {tokens : List Token} {pre post : List Located}
    (hxs : (streamOf (prepare o).1 tokens).1 = pre ++ x :: post) (hx : x.event.isStop = false)
    (settings : Settings) (resolve : Resolver) (frame : Option Text) :
    ∃ r, Runs settings resolve pre (initial settings frame (prepare o).2) r ∧
      Ready (disguise o).2 (disguise o).1 (openTags [] (eventsOf pre)) (lastOf none (eventsOf pre))
        (x :: post) r :=
  (hxs ▸ ready_initial settings frame o tokens).exists_runs_to settings resolve (disguised_disguise o) hx

/-- It comes to the end of its stream. -/
theorem exists_runs_streamOf (o : Text) (tokens : List Token) (settings : Settings)
    (resolve : Resolver) (frame : Option Text) : ∃ r, Runs settings resolve
      (streamOf (prepare o).1 tokens).1 (initial settings frame (prepare o).2) r := by
  have hready := ready_initial settings frame o tokens
  rw [← List.append_nil (streamOf _ _).1] at hready
  obtain ⟨r, hruns, -⟩ := hready.exists_runs settings resolve (disguised_disguise _) _ fun _ => by
    rw [(wellNested_streamOf _ tokens).2]
    rfl
  exact ⟨r, hruns⟩

theorem run_cons {r1 : Rendering} {rest : List Located} (hi : r.startsImage? x.event = none)
    (hs : (r.hear x.notices).step settings x.event x.span = .ok r1) :
    run settings resolve (x :: rest) r = run settings resolve rest r1 :=
  (Runs.event hi hs (.nil r1)).run_append

/-- A code span is math exactly if both its delimiters were disguised, with no other disguise between
them; either way its content comes back as it reads in the text. -/
theorem code_restored (settings : Settings) (resolve : Resolver) (frame : Option Text)
    (markdown : Text) (tokens : List Token) {pre post : List Located} {content : Text} {span : Span}
    {ns : List Notice}
    (hxs : (streamOf (prepare (Text.normalizeNewlines markdown)).1 tokens).1
      = pre ++ ⟨.code content, span, ns⟩ :: post)
    (hout : Outside pre) (hlt : span.start < span.stop) :
    let o := Text.normalizeNewlines markdown
    let d := (disguise o).1
    let offsets := (disguise o).2
    (span.start ∈ offsets → span.stop - 2 ∈ offsets →
      ∀ p ∈ offsets, ¬ (span.start < p ∧ p < span.stop - 2)) ∧
    ∃ r table, run settings resolve pre (initial settings frame (prepare o).2) = (r, none) ∧
      run settings resolve (pre ++ ⟨.code content, span, ns⟩ :: post)
          (initial settings frame (prepare o).2)
        = run settings resolve post { (r.hear ns).format
            (·.write .content (codeLatex o offsets span (tickRun d span.start))) with table := table } := by
  intro o d offsets
  have h : Disguised o d offsets := disguised_disguise o
  obtain ⟨r, hruns, hready⟩ := exists_runs_to hxs rfl settings resolve frame
  obtain ⟨c, hb, ⟨hle, -, heq | ⟨n, hc⟩⟩, -⟩ := hready.order
  · exact absurd heq (Nat.ne_of_lt hlt)
  refine ⟨fun hs _ p hp => hc.alone h hs hp, ?_⟩
  obtain ⟨t, hcode, -, -⟩ := code_eq h (table_hear r ns ▸ hready.table : (r.hear ns).table.Over _ _) hc
    (table_hear r ns ▸ hb.mono hle)
  rw [hc.tickRun_eq]
  refine ⟨r, t, hruns.run_eq, ?_⟩
  have hskip : ¬ 0 < (r.hear ns).skipDepth := by
    rw [skipDepth_hear, hready.nested.skips]
    exact Nat.not_lt.2 (Nat.le_of_eq hout)
  rw [hruns.run_append]
  exact run_cons rfl ((if_neg hskip).trans hcode)

/-- Within a longer fence, a delimiter comes back as text. -/
theorem code_restored_fenced :
    let o := "$$x$$ ``` $$y ```".toList
    let pre : List Located := [⟨.code "x".toList, ⟨0, 5⟩, []⟩, ⟨.text " ".toList, ⟨5, 6⟩, []⟩]
    let code : Located := ⟨.code "``y".toList, ⟨6, 17⟩, []⟩
    let start := initial {} none (prepare o).2
    (streamOf (prepare o).1 [.codeSpan "x".toList, .text " ".toList, .codeSpan "``y".toList]).1
        = pre ++ [code] ∧
      ∃ r table, run {} (fun _ => none) pre start = (r, none) ∧
        run {} (fun _ => none) (pre ++ [code]) start = ({ (r.hear []).format
          (·.write .content "\\texttt\x7b\\$\\$y\x7d".toList) with table := table }, none) := by
  intro o pre code start
  have ho : Text.normalizeNewlines o = o := by decide +kernel
  have hxs : (streamOf (prepare (Text.normalizeNewlines o)).1 [.codeSpan "x".toList,
      .text " ".toList, .codeSpan "``y".toList]).1 = pre ++ code :: [] := by decide +kernel
  have h := (code_restored {} (fun _ => none) none o _ hxs (by decide) (by decide)).2
  have hlatex : codeLatex o (disguise o).2 ⟨6, 17⟩ (tickRun (disguise o).1 6)
      = "\\texttt\x7b\\$\\$y\x7d".toList := by decide +kernel
  rw [ho] at h hxs
  rw [hlatex] at h
  exact ⟨hxs, h⟩

/-- Text and HTML come back as they stand in the text, and what was not located as it is, with one
notice. In that case nothing later changes: without the event, every later one meets the same table. -/
theorem fragment_restored (settings : Settings) (resolve : Resolver) (frame : Option Text)
    (markdown : Text) (tokens : List Token) {pre post : List Located} {x : Located} {payload : Text}
    (hx : x.event = .text payload ∨ x.event = .html payload)
    (hxs : (streamOf (prepare (Text.normalizeNewlines markdown)).1 tokens).1 = pre ++ x :: post)
    (hout : Outside pre) :
    let o := Text.normalizeNewlines markdown
    let offsets := (disguise o).2
    let start := initial settings frame (prepare o).2
    ∃ r f b table, run settings resolve pre start = (r, none) ∧
      run settings resolve (pre ++ x :: post) start
        = run settings resolve post { r with formatter := f, codeLineOpen := b, table := table } ∧
      (x.span.start < x.span.stop →
        r.table.restore payload x.span = (.ok (sliceVeiled offsets x.span o), [], table)) ∧
      (¬ x.span.start < x.span.stop →
        r.table.restore payload x.span = (.ok payload, [.fragmentAmbiguous], table) ∧
        table = r.table ∧ ∀ later y rest, post = later ++ y :: rest → y.event.isStop = false →
          ∃ r1 r2, run settings resolve (pre ++ x :: later) start = (r1, none) ∧
            run settings resolve (pre ++ later) start = (r2, none) ∧
            r1.table = r2.table ∧ r1.skipDepth = r2.skipDepth) := by
  intro o offsets start
  have h : Disguised o (disguise o).1 offsets := disguised_disguise o
  have hleaf : x.event.isLeaf = true := by rcases hx with hx | hx <;> rw [hx] <;> rfl
  have hstop : x.event.isStop = false := by rcases hx with hx | hx <;> rw [hx] <;> rfl
  have hi : ∀ r : Rendering, r.startsImage? x.event = none := by
    rcases hx with hx | hx <;> rw [hx] <;> exact fun _ => rfl
  obtain ⟨r, hruns, hready⟩ := exists_runs_to hxs hstop settings resolve frame
  obtain ⟨c, hb, hs, -⟩ := hready.order
  obtain ⟨t', ns, table, hr, -, -, hres⟩ := exists_restore h hready.table hb hx hs
  obtain ⟨f, b, hstep⟩ := exists_fragment_step settings (hready.nested.skips.trans hout) hx hr
  refine ⟨r, f, b, table, hruns.run_eq, ?_, fun hlt => ?_, fun hge => ?_⟩
  · rw [hruns.run_append]
    exact run_cons (hi r) hstep
  · rw [if_pos hlt] at hres
    rw [hr, hres.1, hres.2]
  · rw [if_neg hge] at hres
    obtain ⟨rfl, rfl, rfl⟩ := hres
    refine ⟨hr, rfl, fun later y rest hpost hy => ?_⟩
    subst hpost
    obtain ⟨r1, r2, hruns1, hruns2, hsame⟩ :=
      hready.exists_runs_without settings resolve h hleaf hy hstep rfl rfl
    refine ⟨r1, r2, ?_, ?_, hsame⟩
    · rw [hruns.run_append, run_cons (hi r) hstep, hruns1.run_eq]
    · rw [hruns.run_append, hruns2.run_eq]

/-- A delimiter that the text ends in keeps its first backtick. -/
theorem fragment_restored_cut :
    let o := "a$$x$$y".toList
    let text : Located := ⟨.text "a``x`".toList, ⟨0, 5⟩, []⟩
    let start := initial {} none (prepare o).2
    (streamOf (prepare o).1 [.text "a``x`".toList]).1 = [] ++ [text] ∧
      ∃ r f b table, run {} (fun _ => none) [] start = (r, none) ∧
        r.table.restore "a``x`".toList ⟨0, 5⟩ = (.ok "a$$x`".toList, [], table) ∧
        run {} (fun _ => none) ([] ++ [text]) start
          = ({ r with formatter := f, codeLineOpen := b, table := table }, none) := by
  intro o text start
  have ho : Text.normalizeNewlines o = o := by decide +kernel
  have hxs : (streamOf (prepare (Text.normalizeNewlines o)).1 [.text "a``x`".toList]).1
      = [] ++ text :: [] := by decide +kernel
  obtain ⟨r, f, b, table, hpre, hrun, hlocated, -⟩ :=
    fragment_restored {} (fun _ => none) none o _ (.inl rfl) hxs (by decide)
  have hcut : sliceVeiled (disguise o).2 ⟨0, 5⟩ o = "a$$x`".toList := by decide +kernel
  rw [ho] at hpre hrun hlocated hxs
  rw [hcut] at hlocated
  exact ⟨hxs, r, f, b, table, hpre, hlocated (by decide), hrun⟩

/-- A conversion is one run over the stream of its tree. -/
theorem convert_error (settings : Settings) (preamble : Option Text) (resolve : Resolver)
    (markdown : Text) (tokens : List Token) {r : Rendering} (h : run settings resolve
      (streamOf (prepare (Text.normalizeNewlines markdown)).1 tokens).1
      (initial settings preamble (prepare (Text.normalizeNewlines markdown)).2) = (r, none)) :
    (Job.convert ⟨settings, preamble.map .ok, resolve⟩ (fun _ => .ok tokens) markdown).error = none := by
  have hruns := runs_of_run h
  cases preamble with
  | none => exact congrArg Prod.snd (document_of_runs none hruns _)
  | some preamble => exact congrArg Prod.snd (document_of_runs (some preamble) hruns _)

/-- Wherever a conversion has come to, the fragment of the next event is in the text. -/
theorem sits_of_run {settings : Settings} {resolve : Resolver} {frame : Option Text} {o : Text}
    {tokens : List Token} {pre post : List Located}
    (hxs : (streamOf (prepare o).1 tokens).1 = pre ++ x :: post) (hx : x.event.isStop = false)
    (hrun : run settings resolve pre (initial settings frame (prepare o).2) = (r, none)) :
    r.table.Over (disguise o).2 (disguise o).1.length ∧ ∃ c, x.Sits (disguise o).1 c := by
  obtain ⟨r', hruns, hready⟩ := exists_runs_to hxs hx settings resolve frame
  cases hruns.run_eq.symm.trans hrun
  obtain ⟨c, -, hs, -⟩ := hready.order
  exact ⟨hready.table, c, hs⟩

/-- A conversion ends without an error, whatever tokens the text is taken for. On its way, every offset
that restoring looks up has both its characters in the fragment. -/
theorem convert_completes (settings : Settings) (preamble : Option Text) (resolve : Resolver)
    (markdown : Text) (tokens : List Token) :
    (Job.convert ⟨settings, preamble.map .ok, resolve⟩ (fun _ => .ok tokens) markdown).error = none ∧
    ∀ pre x post r, let o := Text.normalizeNewlines markdown
      (streamOf (prepare o).1 tokens).1 = pre ++ x :: post → Outside pre →
      run settings resolve pre (initial settings preamble (prepare o).2) = (r, none) →
      (∀ t, x.event = .text t ∨ x.event = .html t → r.table.LooksInside t x.span) ∧
      (∀ t b r', x.event = .code t → r.isMath x.span = .ok (b, r') →
        r'.table.LooksInside t (innerSpan t x.span)) := by
  obtain ⟨r, hruns⟩ :=
    exists_runs_streamOf (Text.normalizeNewlines markdown) tokens settings resolve preamble
  refine ⟨convert_error _ _ _ _ _ hruns.run_eq, ?_⟩
  intro pre x post r o hxs _ hrun
  have hsorted := (disguised_disguise o).sorted
  refine ⟨fun t ht => ?_, fun t b r' ht hmath => ?_⟩
  · obtain ⟨hov, c, hs⟩ := sits_of_run hxs (by rcases ht with ht | ht <;> rw [ht] <;> rfl) hrun
    refine hov.looksInside hsorted ?_ t
    unfold Located.Sits at hs
    rcases ht with ht | ht <;> rw [ht] at hs <;> simp only at hs <;> omega
  · obtain ⟨hov, c, hs⟩ := sits_of_run hxs (by rw [ht]; rfl) hrun
    have hov' : r'.table.Over (disguise o).2 (disguise o).1.length := by
      rw [eq_of_isMath hmath]
      exact over_tableAsked hov x.span
    refine hov'.looksInside hsorted ?_ t
    unfold Located.Sits at hs
    rw [ht] at hs
    obtain ⟨-, hstop, heq | ⟨n, hc⟩⟩ := hs
    · rw [innerSpan_lost heq]
      omega
    · have := hc.contentSpan_bounds
      rw [hc.innerSpan_eq]
      omega

theorem convert_completes_math :
    let o := "$$x$$".toList
    let code : Located := ⟨.code "x".toList, ⟨0, 5⟩, []⟩
    let start := initial {} none (prepare o).2
    (Job.convert ⟨{}, none, fun _ => none⟩ (fun _ => .ok [.codeSpan "x".toList]) o).error = none ∧
      (streamOf (prepare o).1 [.codeSpan "x".toList]).1 = [] ++ [code] ∧
      ∃ r, start.isMath code.span = .ok (true, r) ∧
        r.table.LooksInside "x".toList (innerSpan "x".toList code.span) := by
  intro o code start
  have ho : Text.normalizeNewlines o = o := by decide +kernel
  have hxs : (streamOf (prepare (Text.normalizeNewlines o)).1 [.codeSpan "x".toList]).1
      = [] ++ code :: [] := by decide +kernel
  obtain ⟨hnone, hinside⟩ := convert_completes {} none (fun _ => none) o [.codeSpan "x".toList]
  have hmath : (start.isMath code.span).toOption.map Prod.fst = some true := by decide +kernel
  rw [ho] at hinside hxs
  cases h : start.isMath code.span with
  | error e => rw [h] at hmath; cases hmath
  | ok x =>
    obtain ⟨b, r⟩ := x
    rw [h] at hmath
    obtain rfl : b = true := Option.some.inj hmath
    exact ⟨hnone, hxs, r, rfl, (hinside [] code [] _ hxs (by decide) rfl).2 _ _ _ rfl h⟩

end Latex.Rendering
end Texdown
