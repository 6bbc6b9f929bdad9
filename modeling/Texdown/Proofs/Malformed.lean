import Texdown.Proofs.Blocks
import Texdown.Proofs.Figures

/-!
# Malformed streams

A rendering takes any stream of events, nested or not. Outside of what is left out, three kinds of events
are misplaced: the start of an image with no end of an image right behind it, an end of an image with no
start right in front of it, and the end of a link where no link is open. Over a text without disguised
delimiters nothing else stops a rendering.

Results:
* `step_outcome`: a step fails where an event is misplaced, and nowhere else.
* `run_outcome`: so does a run.
* `malformed_iff_misplaced`: a document is refused as malformed if and only if an event is misplaced, and
  for no other reason.
-/
namespace Texdown

/-! ## Misplaced events -/

namespace Event

def startsImage : Event → Bool
  | start t => t.isImage
  | _ => false

/-- How many links are open behind an event. An end that closes none changes nothing. -/
def linksBehind (count : Nat) : Event → Nat
  | start t => if t.isLink then count + 1 else count
  | stop t => if t.isLink then count - 1 else count
  | _ => count

def isAnonymous : Event → Bool
  | anonymous _ => true
  | _ => false

end Event

open Latex.Rendering (endsImage)

/-- The events outside of tables and footnote definitions, inside of so many of which the first one
stands. The start of such a container is among them if it stands outside of others. -/
def outside : Nat → List Event → List Event
  | _, [] => []
  | depth, e :: es => (if depth = 0 then [e] else []) ++ outside (e.depthBehind depth) es

/-- An event is misplaced between those in front of it and those behind it. -/
inductive Misplaced (pre post : List Event) : Event → Prop where
  | openImage (target : Target) (h : ∀ e, post.head? = some e → endsImage e = false) :
    Misplaced pre post (.start (.image target))
  | imageEnd (target : Target) (h : ∀ e, pre.getLast? = some e → e.startsImage = false) :
    Misplaced pre post (.stop (.image target))
  | linkEnd (target : Target) (h : pre.foldl Event.linksBehind 0 = 0) :
    Misplaced pre post (.stop (.link target))

/-- Some event is misplaced behind those in front. -/
def Broken (front es : List Event) : Prop :=
  ∃ pre e post, es = pre ++ e :: post ∧ Misplaced (front ++ pre) post e

theorem not_broken_nil (front : List Event) : ¬ Broken front [] := by
  rintro ⟨pre, e, post, h, -⟩
  simp at h

theorem broken_cons {front es : List Event} {e : Event} :
    Broken front (e :: es) ↔ Misplaced front es e ∨ Broken (front ++ [e]) es := by
  constructor
  · rintro ⟨pre, x, post, h, hx⟩
    cases pre with
    | nil =>
      obtain ⟨rfl, rfl⟩ := List.cons.inj h
      exact .inl (by simpa using hx)
    | cons y pre =>
      obtain ⟨rfl, rfl⟩ := List.cons.inj h
      exact .inr ⟨pre, x, post, rfl, by simpa using hx⟩
  · rintro (h | ⟨pre, x, post, rfl, hx⟩)
    · exact ⟨[], e, es, rfl, by simpa using h⟩
    · exact ⟨e :: pre, x, post, rfl, by simpa using hx⟩

/-! ## Leaves -/

namespace Math.Table

/-- Inside of the text, a table without offsets restores every fragment as it is. -/
theorem exists_restore_ofOffsets_nil {n : Nat} (fragment : Text) {span : Span} (h : span.stop ≤ n + 1) :
    ∃ ns, (ofOffsets [] n).restore fragment span = (.ok fragment, ns, ofOffsets [] n) := by
  have hcurrent : (ofOffsets [] n).current? = some n := rfl
  unfold restore
  simp only [advance_ofOffsets_nil, hcurrent]
  split
  · exact ⟨_, rfl⟩
  · rw [if_pos (.inr h)]
    exact ⟨_, rfl⟩

end Math.Table

namespace Latex.Rendering

variable {settings : Settings} {resolve : Resolver} {r r' : Rendering} {n : Nat}

theorem exists_restore_inside (htable : r.table = .ofOffsets [] n) (t : Text) {span : Span}
    (h : span.stop ≤ n + 1) : ∃ r', r.restore t span = .ok (t, r') := by
  obtain ⟨ns, hr⟩ := Math.Table.exists_restore_ofOffsets_nil t h
  rw [restore_eq, htable, hr]
  exact ⟨_, rfl⟩

theorem exists_isMath_inside (htable : r.table = .ofOffsets [] n) (span : Span) :
    ∃ b, r.isMath span = .ok (b, r) := by
  have hasked : ∀ pos, r.isRecorded pos = .ok (n == pos, r) := fun pos => by
    simp only [isRecorded, Math.Table.isRecorded?, htable, Math.Table.advance_ofOffsets_nil]
    simp only [Math.Table.current?, Math.Table.ofOffsets, List.nil_append, List.getElem?_cons_zero,
      Option.map_some]
    rw [show (⟨[n], 0⟩ : Math.Table) = r.table from htable.symm]
  unfold isMath
  rw [hasked]
  change ∃ b, (if (n == span.start) = true ∧ 4 < span.length then _ else _) = _
  split
  · exact ⟨_, hasked _⟩
  · exact ⟨false, rfl⟩

theorem innerSpan_stop_le (t : Text) (span : Span) : (innerSpan t span).stop ≤ span.stop := by
  unfold innerSpan
  simp only
  split
  · exact Nat.sub_le _ _
  · exact Nat.le_refl _

/-- A leaf inside of the text is rendered. -/
theorem exists_step_of_isPlain (settings : Settings) (h0 : r.skipDepth = 0)
    (htable : r.table = .ofOffsets [] n) {e : Event} {span : Span} (he : e.isPlain = true)
    (hspan : span.stop ≤ n + 1) : ∃ r', r.step settings e span = .ok r' := by
  unfold step
  rw [if_neg (by omega)]
  cases e with
  | start | stop | anonymous => cases he
  | text t =>
    obtain ⟨r1, h1⟩ := exists_restore_inside htable t hspan
    simp only [text, h1, bind, Except.bind]
    split <;> exact ⟨_, rfl⟩
  | code t =>
    obtain ⟨b, h1⟩ := exists_isMath_inside htable span
    obtain ⟨r2, h2⟩ :=
      exists_restore_inside htable t (Nat.le_trans (innerSpan_stop_le t span) hspan)
    simp only [code, h1, h2, bind, Except.bind]
    exact ⟨_, rfl⟩
  | html t =>
    obtain ⟨r1, h1⟩ := exists_restore_inside (r := r.note .htmlFound) htable t hspan
    simp only [html, h1, bind, Except.bind]
    exact ⟨_, rfl⟩
  | _ => exact ⟨_, rfl⟩

/-! ## Steps -/

/-- A rendering that has taken in some events: the links that are open behind them are open in it, and
no image waits for its end. -/
structure Through (n : Nat) (front : List Event) (r : Rendering) : Prop where
  links : r.openLinks.length = front.foldl Event.linksBehind 0
  noImage : ∀ e, front.getLast? = some e → e.startsImage = false
  table : r.table = .ofOffsets [] n

theorem Through.of_beside {front : List Event} (h : Through n front r) (hb : r'.beside = r.beside) :
    Through n front r' where
  links := (congrArg (·.openLinks.length) hb :) ▸ h.links
  noImage := h.noImage
  table := (congrArg Rendering.table hb :).trans h.table

theorem Through.hear {front : List Event} (h : Through n front r) (ns : List Notice) :
    Through n front (r.hear ns) := h.of_beside (beside_hear r ns)

/-- Outside of what is left out, a step opens the link that starts, and closes one where a link ends. -/
theorem openLinks_step (h0 : r.skipDepth = 0) {e : Event} {span : Span}
    (hs : r.step settings e span = .ok r') : r'.openLinks.length = e.linksBehind r.openLinks.length := by
  have hleaf : e.isLeaf = true → r'.openLinks = r.openLinks := fun he => by
    obtain ⟨-, b, -, hb⟩ := beside_leaf he h0 hs
    exact (congrArg Rendering.openLinks hb :)
  cases e with
  | start t =>
    unfold step at hs
    rw [if_neg (by omega)] at hs
    cases hs
    obtain ⟨links, hlen, hb⟩ := beside_openTag r t
    have hlinks : (r.openTag t).openLinks = links := (congrArg Rendering.openLinks hb :)
    rw [hlinks, hlen]
    simp only [Event.linksBehind]
    split <;> rfl
  | stop t =>
    unfold step at hs
    rw [if_neg (by omega)] at hs
    obtain ⟨links, hlen, hb⟩ := beside_closeTag hs
    have hlinks : r'.openLinks = links := (congrArg Rendering.openLinks hb :)
    rw [hlinks]
    simp only [Event.linksBehind, ← hlen]
    split <;> rfl
  | _ => rw [hleaf rfl]; rfl

theorem Through.step {front : List Event} (h : Through n front r) (h0 : r.skipDepth = 0) {e : Event}
    {span : Span} (hi : e.startsImage = false) (hs : r.step settings e span = .ok r') :
    Through n (front ++ [e]) r' where
  links := by
    rw [List.foldl_append, ← h.links]
    exact openLinks_step h0 hs
  noImage := by simpa using hi
  table := (queried_step hs).eq_ofOffsets_nil h.table

/-- What is left out changes nothing. -/
theorem Through.skip {front : List Event} (h : Through n front r) (e : Event) :
    Through n front (r.skip e) := by
  unfold Rendering.skip
  split
  · split
    · exact ⟨h.links, h.noImage, h.table⟩
    · exact h
  · split
    · exact ⟨h.links, h.noImage, h.table⟩
    · exact h
  · exact h

/-- An image with its end right behind it opens no links and leaves no image open. -/
theorem Through.image {front : List Event} (h : Through n front r) (target : Target) {y : Event}
    (hy : endsImage y = true) :
    Through n (front ++ [.start (.image target)] ++ [y]) (image settings resolve r target) := by
  cases y with
  | stop t =>
    cases t with
    | image target' =>
      have h' := h.of_beside (beside_image settings resolve r target)
      refine ⟨?_, by simp [Event.startsImage], h'.table⟩
      simpa [Event.linksBehind, Tag.isLink] using h'.links
    | _ => cases hy
  | _ => cases hy

/-- A step fails where an event is misplaced, and nowhere else. -/
theorem step_outcome (settings : Settings) {front : List Event} (h : Through n front r)
    (h0 : r.skipDepth = 0) {e : Event} {span : Span} (hi : e.startsImage = false) (ha : e.isAnonymous = false)
    (hspan : e.isPlain = true → span.stop ≤ n + 1) (post : List Event) :
    (∃ r', r.step settings e span = .ok r' ∧ ¬ Misplaced front post e) ∨
      ∃ m, r.step settings e span = .error (.malformedStream m) ∧ Misplaced front post e := by
  have hplain : e.isPlain = true → ∃ r', r.step settings e span = .ok r' ∧ ¬ Misplaced front post e :=
    fun he => by
      obtain ⟨r', hs⟩ := exists_step_of_isPlain settings h0 h.table he (hspan he)
      exact ⟨r', hs, by rintro ⟨⟩ <;> cases he⟩
  have hstep : ∀ t, r.step settings (.stop t) span = r.closeTag t := fun t => by
    unfold Rendering.step
    exact if_neg (by omega)
  cases e with
  | start t =>
    refine .inl ⟨r.openTag t, ?_, ?_⟩
    · unfold Rendering.step
      exact if_neg (by omega)
    · rintro ⟨⟩
      cases hi
  | stop t =>
    rw [hstep]
    cases t with
    | image target => exact .inr ⟨_, rfl, .imageEnd target h.noImage⟩
    | link target =>
      cases hlinks : r.openLinks with
      | nil =>
        refine .inr ⟨_, by simp only [closeTag, hlinks]; rfl, .linkEnd target ?_⟩
        rw [← h.links, hlinks]
        rfl
      | cons grouped rest =>
        obtain ⟨r', hr⟩ := exists_closeTag r (t := .link target) rfl (fun _ => by simp [hlinks])
        refine .inl ⟨r', hr, ?_⟩
        rintro (⟨⟩ | ⟨⟩ | ⟨-, hnone⟩)
        rw [← h.links, hlinks] at hnone
        cases hnone
    | _ => exact .inl ⟨_, rfl, by rintro ⟨⟩⟩
  | anonymous opens => cases ha
  | _ => exact .inl (hplain rfl)

/-! ## Runs -/

/-- Every container is known, and no leaf reaches behind a text of so many characters. -/
structure Readable (n : Nat) (x : Located) : Prop where
  known : x.event.isAnonymous = false
  within : x.event.isPlain = true → x.span.stop ≤ n

theorem outside_cons_zero {depth : Nat} (h : depth = 0) (e : Event) (es : List Event) :
    outside depth (e :: es) = e :: outside (e.depthBehind depth) es := by
  rw [outside, if_pos h]
  rfl

theorem outside_cons_pos {depth : Nat} (h : 0 < depth) (e : Event) (es : List Event) :
    outside depth (e :: es) = outside (e.depthBehind depth) es := by
  rw [outside, if_neg (by omega)]
  rfl

theorem startsImage_eq_false (h0 : r.skipDepth = 0) {e : Event} (hi : r.startsImage? e = none) :
    e.startsImage = false := by
  cases e with
  | start t =>
    cases t with
    | image target => simp [startsImage?, h0] at hi
    | _ => rfl
  | _ => rfl

/-- Neither the start nor the end of an image is misplaced if they stand side by side. -/
theorem broken_image {front es : List Event} {target : Target} {y : Event} (hy : endsImage y = true) :
    Broken front (.start (.image target) :: y :: es)
      ↔ Broken (front ++ [.start (.image target)] ++ [y]) es := by
  rw [broken_cons, broken_cons]
  constructor
  · rintro (⟨_, hopen⟩ | hend | hb)
    · rw [hopen y rfl] at hy
      cases hy
    · cases hend with
      | imageEnd _ hend => simp [Event.startsImage, Tag.isImage] at hend
      | openImage | linkEnd => cases hy
    · exact hb
  · exact fun hb => .inr (.inr hb)

/-- Outside of what is left out, an image with its end behind it takes in two events. -/
theorem outside_image {target : Target} {y : Event} (hy : endsImage y = true) (es : List Event) :
    outside 0 (.start (.image target) :: y :: es) = .start (.image target) :: y :: outside 0 es := by
  rw [outside_cons_zero rfl, show Event.depthBehind 0 (.start (.image target)) = 0 from rfl,
    outside_cons_zero rfl]
  cases y with
  | stop t =>
    cases t with
    | image => rfl
    | _ => cases hy
  | _ => cases hy

/-- A run fails where an event is misplaced outside of what is left out, and nowhere else. -/
theorem run_outcome (settings : Settings) (resolve : Resolver) {front : List Event}
    {xs : List Located} (h : Through n front r) (hxs : ∀ x ∈ xs, Readable n x) :
    ((run settings resolve xs r).2 = none ∧ ¬ Broken front (outside r.skipDepth (eventsOf xs))) ∨
      ∃ m, (run settings resolve xs r).2 = some (.malformedStream m) ∧
        Broken front (outside r.skipDepth (eventsOf xs)) := by
  -- The induction is on the run, which takes in two events where an image is closed at once.
  fun_induction run settings resolve xs r generalizing front with
  | case1 r => exact .inl ⟨rfl, not_broken_nil front⟩
  | case2 e r rh target hi =>
    obtain ⟨he, h0⟩ := eq_of_startsImage? hi
    have h0 : r.skipDepth = 0 := by simpa [rh] using h0
    rw [eventsOf_cons, he, outside_cons_zero h0, broken_cons]
    exact .inr ⟨_, rfl, .inl (.openImage target (by simp [outside, eventsOf]))⟩
  | case3 e r rh target hi ri next rest rn hy =>
    rename_i ih
    obtain ⟨he, h0⟩ := eq_of_startsImage? hi
    have h0 : r.skipDepth = 0 := by simpa [rh] using h0
    have hdepth : rn.skipDepth = 0 := by simpa [rn, ri, rh] using h0
    rw [eventsOf_cons, eventsOf_cons, he, h0, outside_image hy, broken_image hy, ← hdepth]
    exact ih (((h.hear e.notices).image target hy).hear next.notices) fun x hx => hxs x (by simp [hx])
  | case4 e r rh target hi ri next rest rn =>
    rename_i hy
    obtain ⟨he, h0⟩ := eq_of_startsImage? hi
    have h0 : r.skipDepth = 0 := by simpa [rh] using h0
    rw [eventsOf_cons, eventsOf_cons, he, h0, outside_cons_zero rfl,
      show Event.depthBehind 0 (.start (.image target)) = 0 from rfl, outside_cons_zero rfl, broken_cons]
    exact .inr ⟨_, rfl, .inl (.openImage target (by simpa using hy))⟩
  | case5 e rest r rh hi rs hs =>
    rename_i ih
    have hrest : ∀ x ∈ rest, Readable n x := fun x hx => hxs x (List.mem_cons_of_mem _ hx)
    have hdepth : rs.skipDepth = e.event.depthBehind r.skipDepth := by
      simpa [rh] using skipDepth_step hs
    rcases Nat.eq_zero_or_pos r.skipDepth with h0 | hpos
    · have h0' : rh.skipDepth = 0 := by simpa [rh] using h0
      have hstarts := startsImage_eq_false h0' hi
      have he := hxs e List.mem_cons_self
      have hwell : ¬ Misplaced front (outside rs.skipDepth (eventsOf rest)) e.event := by
        rcases step_outcome settings (h.hear e.notices) h0' hstarts he.known
          (fun hp => Nat.le_succ_of_le (he.within hp)) (outside rs.skipDepth (eventsOf rest))
          with ⟨-, -, hw⟩ | ⟨m, hm, -⟩
        · exact hw
        · rw [show step settings rh e.event e.span = _ from hs] at hm
          cases hm
      rw [eventsOf_cons, outside_cons_zero h0, ← hdepth, broken_cons, or_iff_right hwell]
      exact ih ((h.hear e.notices).step h0' hstarts hs) hrest
    · rw [eventsOf_cons, outside_cons_pos hpos, ← hdepth]
      have hskip : rh.skip e.event = rs := by
        unfold Rendering.step at hs
        rw [if_pos (by simpa [rh] using hpos)] at hs
        exact Except.ok.inj hs
      exact ih (hskip ▸ (h.hear e.notices).skip e.event) hrest
  | case6 e rest r rh hi err =>
    rename_i hs
    have he := hxs e List.mem_cons_self
    rcases Nat.eq_zero_or_pos r.skipDepth with h0 | hpos
    · have h0' : rh.skipDepth = 0 := by simpa [rh] using h0
      rw [eventsOf_cons, outside_cons_zero h0, broken_cons]
      rcases step_outcome settings (h.hear e.notices) h0' (startsImage_eq_false h0' hi)
        he.known (fun hp => Nat.le_succ_of_le (he.within hp))
        (outside (e.event.depthBehind r.skipDepth) (eventsOf rest)) with ⟨r', hr, -⟩ | ⟨m, hm, hw⟩
      · rw [show step settings rh e.event e.span = _ from hs] at hr
        cases hr
      · rw [show step settings rh e.event e.span = _ from hs] at hm
        cases hm
        exact .inr ⟨m, rfl, .inl hw⟩
    · unfold Rendering.step at hs
      rw [if_pos (by simpa [rh] using hpos)] at hs
      cases hs

/-! ## Documents -/

/-- A document fails where its run does. -/
theorem document_error (settings : Settings) (resolve : Resolver) (frame : Option Text)
    (xs : List Located) (ts : List Notice) (table : Math.Table) :
    (document settings resolve frame xs ts table).2
      = (run settings resolve xs (initial settings frame table)).2 := by
  rw [document_run]
  rcases run settings resolve xs (initial settings frame table) with ⟨r, err⟩
  cases err <;> rfl

theorem through_initial (settings : Settings) (n : Nat) :
    Through n [] (initial settings none (.ofOffsets [] n)) where
  links := rfl
  noImage := by simp
  table := rfl

/-- Over a text without disguised delimiters, a body is refused as malformed if and only if an event is
misplaced outside of tables and footnote definitions, and it is refused for no other reason. -/
theorem malformed_iff_misplaced (settings : Settings) (resolve : Resolver) {source : Text}
    (hsource : (Math.prepare source).2.offsets = []) {events : List Located}
    (hevents : ∀ x ∈ events, Readable source.length x) (trailing : List Notice) :
    let refusal := (document settings resolve none events trailing (Math.prepare source).2).2
    ((∃ message, refusal = some (.malformedStream message)) ↔
        Broken [] (outside 0 (eventsOf events))) ∧
      (refusal = none ∨ ∃ message, refusal = some (.malformedStream message)) := by
  have hoffsets : (Math.disguise source).2 = [] := by
    simpa [Math.prepare, Math.Table.offsets, Math.Table.ofOffsets] using hsource
  have htable : (Math.prepare source).2 = .ofOffsets [] source.length := by
    rw [← hoffsets]
    rfl
  simp only [htable, document_error]
  rcases run_outcome settings resolve (through_initial settings _) hevents
    with ⟨hnone, hwell⟩ | ⟨message, hsome, hbroken⟩
  · refine ⟨iff_of_false ?_ hwell, .inl hnone⟩
    rintro ⟨message, hsome⟩
    rw [hnone] at hsome
    cases hsome
  · exact ⟨iff_of_true ⟨message, hsome⟩ hbroken, .inr ⟨message, hsome⟩⟩

/-- An image in a table is left out. Behind the table a link starts and ends, so a second end of a link is
misplaced. -/
theorem second_link_end_misplaced :
    Broken [] [.start .table, .start (.link {}), .stop (.link {}), .stop (.link {})] := by
  have hevents : ∀ x ∈ ([⟨.start .table, ⟨0, 3⟩, []⟩, ⟨.start (.image {}), ⟨0, 3⟩, []⟩,
      ⟨.text ['a'], ⟨1, 2⟩, []⟩, ⟨.stop .table, ⟨0, 3⟩, []⟩, ⟨.start (.link {}), ⟨0, 3⟩, []⟩,
      ⟨.stop (.link {}), ⟨0, 3⟩, []⟩, ⟨.stop (.link {}), ⟨0, 3⟩, []⟩] : List Located),
      Readable "[a]".toList.length x := by
    simp only [List.forall_mem_cons]
    exact ⟨⟨rfl, nofun⟩, ⟨rfl, nofun⟩, ⟨rfl, fun _ => by decide⟩, ⟨rfl, nofun⟩, ⟨rfl, nofun⟩,
      ⟨rfl, nofun⟩, ⟨rfl, nofun⟩, nofun⟩
  have hsource : (Math.prepare "[a]".toList).2.offsets = [] := by decide
  have h := malformed_iff_misplaced {} (fun _ => none) hsource hevents []
  exact h.1.1 ⟨"Link end without a matching link start".toList, by decide +kernel⟩

end Latex.Rendering
end Texdown
