import Texdown.Proofs.MatchedBrackets
import Texdown.Proofs.Streams

/-!
# The spans of a stream

A walk never leaves its source, and neither do the spans of its events. Most of them are a place at
the cursor or a fragment in front of it. The span of an image, a task marker or a footnote reference
goes from its opener to the cursor, which has to pass the opener for that: where the bracket is not
closed it stays behind, and the span runs backwards. A footnote reference is affected most, since its
bracket is looked for behind the one that opens it.

Results:
* `spans_within`: every span lies in the source and runs forward, unless it starts with an opener
  whose bracket is not closed.
* `spans_not_forward`: a span need not run forward.
-/
namespace Texdown

/-- What the span of an event starts with. -/
def Event.opener? : Event → Option Text
  | start (.image _) | stop (.image _) => some ['!', '[']
  | taskMarker _ => some ['[']
  | footnoteReference _ => some ['[', '^']
  | _ => none

namespace Locator

/-- An opener stands at `i`, and nothing closes what begins with its last character. -/
structure Unclosed (src opener : Text) (i : Nat) : Prop where
  stands : (⟨i, i + opener.length⟩ : Span).slice src = opener
  unclosed : closing? 0 (src.drop (i + opener.length - 1)) = none

/-- An opener is passed with its bracket, or it has none. -/
theorem skipBracketed_spec {l : Locator} {opener : Text} (ho : opener ≠ []) {i : Nat}
    (h : (l.skipBracketed opener).1 = some i) :
    i ≤ l.source.length ∧
      (i ≤ (l.skipBracketed opener).2.cursor ∨ Unclosed l.source opener i) := by
  unfold skipBracketed at h ⊢
  cases hi : l.indexOf? opener with
  | none => simp [hi] at h
  | some j =>
    obtain ⟨-, hlen, hstands⟩ := indexOf?_spec ho hi
    have hpos := List.length_pos_iff.2 ho
    simp only [hi] at h ⊢
    cases hc : closing? 0 (l.source.drop (j + opener.length - 1)) with
    | none =>
      simp only [hc, Option.some.injEq] at h
      subst h
      exact ⟨by omega, .inr ⟨hstands, hc⟩⟩
    | some k =>
      simp only [hc, Option.some.injEq] at h ⊢
      subst h
      exact ⟨by omega, .inl (by omega)⟩

end Locator

/-- The span of an event lies in the source. It runs forward, unless it starts with an opener whose
bracket is not closed. -/
structure Located.Within (src : Text) (x : Located) : Prop where
  start_le : x.span.start ≤ src.length
  stop_le : x.span.stop ≤ src.length
  forward : x.span.start ≤ x.span.stop ∨
    ∃ opener, x.event.opener? = some opener ∧ Locator.Unclosed src opener x.span.start

/-- A walk whose events stay in the source. -/
def Stays (k : Walker) : Prop :=
  ∀ w : Walk, w.locator.cursor ≤ w.locator.source.length →
    ∀ x ∈ (k w).1, x.Within w.locator.source

theorem Located.Within.here {l : Locator} (hl : l.cursor ≤ l.source.length) {x : Located}
    (hx : x.span = l.here) : x.Within l.source := by
  have hstart : x.span.start = l.cursor := congrArg Span.start hx
  have hstop : x.span.stop = l.cursor := congrArg Span.stop hx
  exact ⟨by omega, by omega, .inl (by omega)⟩

/-- A span from an opener that was passed, or that is not closed, to where the walk is by then. -/
theorem Located.Within.from_opener {l l' : Locator} {opener : Text} (ho : opener ≠ [])
    (hm : (l.skipBracketed opener).2.Moves l') (hs : l'.source = l.source) {x : Located}
    (he : x.event.opener? = some opener)
    (hx : x.span = Walk.spanFrom (l.skipBracketed opener).1 l') : x.Within l.source := by
  have hbound : l'.cursor ≤ l.source.length := hs ▸ hm.inside
  cases hi : (l.skipBracketed opener).1 with
  | none =>
    rw [hi] at hx
    exact hs ▸ .here hm.inside hx
  | some i =>
    rw [hi, Walk.spanFrom] at hx
    obtain ⟨hstart, hpassed⟩ := Locator.skipBracketed_spec ho hi
    refine ⟨by rw [hx]; exact hstart, by rw [hx]; exact hbound, ?_⟩
    rw [hx]
    rcases hpassed with hle | hopen
    · exact .inl (Nat.le_trans hle hm.le)
    · exact .inr ⟨opener, he, hopen⟩

/-! ## The walks stay in the source -/

theorem stays_nil {k : Walker} (h : ∀ w, (k w).1 = []) : Stays k := fun w _ x hx => by
  rw [h w] at hx
  cases hx

theorem stays_leaf (e : Event) : Stays (.leaf e) := fun w hw x hx => by
  obtain rfl : x = ⟨e, w.locator.here, w.notices⟩ := List.mem_singleton.1 hx
  exact .here hw rfl

/-- Content stays in the source because it stands there in order. -/
theorem stays_content {k : Walker} (hk : Orders k)
    (hc : ∀ w, ∀ e ∈ eventsOf (k w).1, e.hasContent = true) : Stays k := fun w hw x hx => by
  have hord := (hk w hw).2 [] trivial
  rw [List.append_nil] at hord
  obtain ⟨c, hsits⟩ := hord.exists_sits hx
  obtain ⟨-, hforward, hstop⟩ := hsits.bounds (hc w x.event (List.mem_map_of_mem hx))
  exact ⟨Nat.le_trans hforward hstop, hstop, .inl hforward⟩

theorem stays_nonempty {event : Text → Event} (he : event = .text ∨ event = .html) (raw : Text) :
    Stays (.nonempty event raw) := by
  refine stays_content (orders_nonempty he raw) fun w e hmem => ?_
  unfold Walker.nonempty at hmem
  split at hmem
  · cases hmem
  · rw [eventsOf_fragment, List.mem_singleton] at hmem
    rcases he with rfl | rfl <;> rw [hmem] <;> rfl

theorem stays_codeLines {ls : List Text} (h : ∀ l ∈ ls, l ≠ []) : Stays (.codeLines ls) :=
  stays_content (orders_codeLines h) fun w e hmem => by
    rw [eventsOf_codeLines] at hmem
    obtain ⟨l, -, rfl⟩ := List.mem_map.1 hmem
    rfl

theorem stays_codeSpan (raw : Text) : Stays (.codeSpan raw) :=
  stays_content (orders_codeSpan raw) fun w e hmem => by
    obtain ⟨found, hk⟩ := eventsOf_codeSpan raw w
    rw [hk, List.mem_singleton] at hmem
    rw [hmem]
    rfl

theorem stays_bracketed {opener : Text} (ho : opener ≠ []) {e : Event}
    (he : e.opener? = some opener) : Stays (.bracketed opener e) := fun w hw x hx => by
  obtain rfl : x = ⟨e, Walk.spanFrom (w.locator.skipBracketed opener).1
      (w.locator.skipBracketed opener).2, w.notices⟩ := List.mem_singleton.1 hx
  have hmove := Locator.moves_skipBracketed hw ho
  exact .from_opener ho (.refl hmove.inside) hmove.source he rfl

theorem stays_image (url : Text) (title label : Option Text) : Stays (.image url title label) := by
  intro w hw x hx
  have ho : ['!', '['] ≠ [] := by simp
  have hopen := Locator.moves_skipBracketed hw ho
  have htail := Locator.moves_skipTail hopen.inside
  obtain ⟨target, ns, hxs⟩ : ∃ target ns, (Walker.image url title label w).1
      = [⟨.start (.image target), Walk.spanFrom (w.locator.skipBracketed ['!', '[']).1
            (w.locator.skipBracketed ['!', '[']).2.skipTail.2, ns⟩,
          ⟨.stop (.image target), Walk.spanFrom (w.locator.skipBracketed ['!', '[']).1
            (w.locator.skipBracketed ['!', '[']).2.skipTail.2, []⟩] := ⟨_, _, rfl⟩
  rw [hxs] at hx
  rw [List.mem_cons, List.mem_singleton] at hx
  rcases hx with rfl | rfl
  · exact .from_opener ho htail (htail.source.trans hopen.source) rfl rfl
  · exact .from_opener ho htail (htail.source.trans hopen.source) rfl rfl

theorem Stays.andThen {a b : Walker} (hm : Orders a) (ha : Stays a) (hb : Stays b) :
    Stays (.andThen a b) := fun w hw x hx => by
  obtain ⟨hmove, -⟩ := hm w hw
  rcases List.mem_append.1 hx with hx | hx
  · exact ha w hw x hx
  · exact hmove.source ▸ hb (a w).2 hmove.inside x hx

theorem Stays.enclose (t : Tag) {k : Walker} (hm : Orders k) (hk : Stays k) :
    Stays (.enclose t k) :=
  .andThen (orders_leaf (fun _ _ _ _ => trivial) fun _ _ _ => rfl) (stays_leaf _)
    (.andThen hm hk (stays_leaf _))

theorem Stays.link (url : Text) (title label : Option Text) {inner : Walker} (hm : Orders inner)
    (h : Stays inner) : Stays (.link url title label inner) := by
  intro w hw x hx
  have hopen : w.locator.Moves (linkStart w).locator :=
    Locator.moves_skipPast hw (by split <;> simp)
  obtain ⟨hend, -⟩ := hm.link url title label w hw
  obtain ⟨target, autolink, a, z, hxs, -, -, -, ha, hz⟩ := link_eq url title label inner w
  rw [hxs, List.cons_append, List.mem_cons, List.mem_append, List.mem_singleton, List.mem_map] at hx
  rcases hx with rfl | ⟨y, hy, rfl⟩ | rfl
  · exact hend.source ▸ .here hend.inside ha
  · -- the notices are taken off the events inside, which changes no span
    obtain ⟨hstart, hstop, hforward⟩ := hopen.source ▸ h (linkStart w) hopen.inside y hy
    exact ⟨hstart, hstop, hforward⟩
  · exact hend.source ▸ .here hend.inside hz

theorem stays_of_built {k : Walker} (h : Built k) : Stays k := by
  induction h with
  | skip => exact stays_nil fun _ => rfl
  | ignored name => exact stays_nil fun _ => rfl
  | rule | softBreak | hardBreak => exact stays_leaf _
  | text raw => exact stays_nonempty (.inl rfl) raw
  | html raw => exact stays_nonempty (.inr rfl) raw
  | codeSpan raw => exact stays_codeSpan raw
  | image url title label => exact stays_image url title label
  | footnoteReference label => exact stays_bracketed (by simp) rfl
  | footnote label => exact .enclose _ orders_skip (stays_nil fun _ => rfl)
  | codeBlock language raw =>
    have hlines : ∀ l ∈ Text.splitLines raw, l ≠ [] := fun _ => ne_nil_of_mem_splitLines
    exact .enclose _ (orders_codeLines hlines) (stays_codeLines hlines)
  | task done hinner ih =>
    have hmarker : Orders (.bracketed ['['] (.taskMarker done)) :=
      orders_bracketed (by simp) (fun _ _ _ _ => trivial) fun _ _ _ => rfl
    exact .enclose _ (hmarker.andThen (orders_of_built hinner))
      (.andThen hmarker (stays_bracketed (by simp) rfl) ih)
  | enclose _ hinner ih => exact .enclose _ (orders_of_built hinner) ih
  | link url title label hinner ih => exact .link url title label (orders_of_built hinner) ih
  | andThen ha _ iha ihb => exact .andThen (orders_of_built ha) iha ihb

/-- Whatever tree a text is taken for, the span of every event lies in it and runs forward, unless the
event starts with an opener whose bracket is not closed. -/
theorem spans_within (source : Text) (tokens : List Token) :
    ∀ x ∈ (streamOf source tokens).1, x.Within source :=
  stays_of_built (built_walkAll tokens) ⟨⟨source, 0⟩, []⟩ (Nat.zero_le _)

/-- A footnote reference behind emphasis: the walk stands in front of the closing star. -/
theorem spans_within_footnote :
    let source := "*x*[^1]".toList
    let x : Located := ⟨.footnoteReference (some "1".toList), ⟨3, 2⟩, []⟩
    let xs := (streamOf source
      [.container .paragraph [.container .emphasis [.text "x".toList],
        .footnoteReference "1".toList]]).1
    x ∈ xs ∧ x.Within source ∧ Locator.Unclosed source ['[', '^'] 3 := by
  intro source x xs
  have hx : x ∈ xs := by decide +kernel
  have hwithin : x.Within source := spans_within _ _ x hx
  obtain hforward | ⟨opener, hopener, hopen⟩ := hwithin.forward
  · exact absurd hforward (by decide)
  · obtain rfl := Option.some.inj hopener
    exact ⟨hx, hwithin, hopen⟩

/-- Such a span ends before it starts. -/
theorem spans_not_forward : ¬ ∀ (source : Text) (tokens : List Token),
    ∀ x ∈ (streamOf source tokens).1,
      x.span.start ≤ x.span.stop ∧ x.span.stop ≤ source.length := by
  intro h
  have hx := h "*x*[^1]".toList
    [.container .paragraph [.container .emphasis [.text "x".toList],
      .footnoteReference "1".toList]]
    ⟨.footnoteReference (some "1".toList), ⟨3, 2⟩, []⟩ (by decide +kernel)
  exact absurd hx.1 (by decide)

end Texdown
