import Texdown.Proofs.Streams

/-!
# The content of a stream

A walk gives the texts, HTML and code of a tree one after the other, in document order and each of them
once, whether or not they can be located in the source.

Results:
* `lined_splitLines`: code is cut behind every line end, and nowhere else.
* `inOrder_walkAll`: a walk gives the payloads of its tokens in order.
* `payloads_in_order`: so does the stream of a tree.
-/
namespace Texdown

/-! ## Lines -/

namespace Text

/-- What ends a line: a character on its own, or a carriage return with a line feed. -/
inductive LineEnd : Text → Prop where
  | alone {c : Char} (h : endsLine c = true) : LineEnd [c]
  | pair : LineEnd ['\r', '\n']

/-- Texts that are lines, one behind the other: only the last may lack its end, none goes on behind one,
and none ends between a carriage return and a line feed. -/
inductive Lined : List Text → Prop where
  | nil : Lined []
  | last {body : Text} (hne : body ≠ []) (hbody : ∀ c ∈ body, endsLine c = false) : Lined [body]
  | line {body stop : Text} {lines : List Text} (hbody : ∀ c ∈ body, endsLine c = false)
    (hstop : LineEnd stop) (hcut : stop = ['\r'] → lines.flatten.head? ≠ some '\n')
    (h : Lined lines) : Lined ((body ++ stop) :: lines)

theorem lined_splitLines (t : Text) : Lined (splitLines t) := by
  induction t using splitLines.induct with
  | case1 r ih =>
    rw [splitLines]
    exact .line (List.forall_mem_nil _) .pair (fun h => by cases h) ih
  | case2 c r hne he ih =>
    rw [splitLines, if_pos he]
    · refine .line (List.forall_mem_nil _) (.alone he) (fun hc => ?_) ih
      obtain rfl : c = '\r' := List.singleton_inj.1 hc
      rw [flatten_splitLines]
      intro hr
      cases r with
      | nil => cases hr
      | cons d r => exact hne r rfl (Option.some.inj hr ▸ rfl)
    · exact hne
  | case3 c r hne he hn ih =>
    rw [splitLines, if_neg he, hn]
    · exact .last (by simp) (by simpa using he)
    · exact hne
  | case4 c r hne he l ls hl ih =>
    rw [splitLines, if_neg he, hl]
    · rw [hl] at ih
      have hc : endsLine c = false := by simpa using he
      cases ih with
      | last hl' hbody => exact .last (by simp) (List.forall_mem_cons.2 ⟨hc, hbody⟩)
      | @line body stop _ hbody hstop hcut h =>
        exact .line (List.forall_mem_cons.2 ⟨hc, hbody⟩) hstop hcut h
    · exact hne
  | case5 =>
    rw [splitLines]
    exact .nil

end Text

/-! ## Payloads -/

/-- What a token of a tree holds of the content of a document, as the reader gives it. -/
inductive Payload where
  | text (raw : Text)
  | html (raw : Text)
  | codeBlock (raw : Text)
  | codeSpan (raw : Text)
  deriving DecidableEq, Repr

namespace Payload

/-- A payload that is left out if it is empty. -/
def unlessEmpty (kind : Text → Payload) (raw : Text) : List Payload :=
  if raw.isEmpty then [] else [kind raw]

/-- The events that give a payload: a code block is given line by line, and a code span as it is or with
its character references read. -/
inductive Given : Payload → List Event → Prop where
  | text (raw : Text) : Given (.text raw) [.text raw]
  | html (raw : Text) : Given (.html raw) [.html raw]
  | codeBlock {raw : Text} {lines : List Text} (hraw : lines.flatten = raw) (hlines : Text.Lined lines) :
    Given (.codeBlock raw) (lines.map .text)
  | codeSpan {raw found : Text} (h : found = raw ∨ found = Text.unescape raw) :
    Given (.codeSpan raw) [.code found]

/-- Events that give some payloads, each once and in their order. -/
inductive InOrder : List Payload → List Event → Prop where
  | nil : InOrder [] []
  | cons {p : Payload} {ps : List Payload} {es fs : List Event} (h : Given p es) (hs : InOrder ps fs) :
    InOrder (p :: ps) (es ++ fs)

theorem InOrder.single {p : Payload} {es : List Event} (h : Given p es) : InOrder [p] es :=
  List.append_nil es ▸ .cons h .nil

theorem InOrder.append {ps qs : List Payload} {es fs : List Event} (h1 : InOrder ps es)
    (h2 : InOrder qs fs) : InOrder (ps ++ qs) (es ++ fs) := by
  induction h1 with
  | nil => exact h2
  | cons h _ ih =>
    rw [List.cons_append, List.append_assoc]
    exact .cons h ih

end Payload

open Payload (Given InOrder)

mutual

/-- The payloads of a token, in document order. What is in an image, in the definition of a footnote and
in a token that is not known is no content of the document. -/
def Token.payloads : Token → List Payload
  | .container _ children | .group children | .heading _ children | .list _ children
  | .item _ children | .link _ _ _ children => payloadsAll children
  | .text raw => Payload.unlessEmpty .text raw
  | .html raw => Payload.unlessEmpty .html raw
  | .codeBlock _ raw => Payload.unlessEmpty .codeBlock raw
  | .codeSpan raw => [.codeSpan raw]
  | .image _ _ _ | .footnote _ | .footnoteReference _ | .rule | .softBreak | .hardBreak | .blank
  | .other _ => []

def Token.payloadsAll : List Token → List Payload
  | [] => []
  | t :: ts => t.payloads ++ payloadsAll ts

end

/-! ## Walks -/

/-- The events of a stream that have content. -/
def contents (xs : List Located) : List Event := (eventsOf xs).filter Event.hasContent

/-- A walk that gives some payloads in order, wherever it starts. -/
def Gives (k : Walker) (ps : List Payload) : Prop := ∀ w, InOrder ps (contents (k w).1)

theorem gives_of_events {k : Walker} {ps : List Payload} (es : List Event) (h : InOrder ps es)
    (hk : ∀ w, (eventsOf (k w).1).filter Event.hasContent = es) : Gives k ps := fun w => by
  rw [contents, hk w]
  exact h

/-- A walk without content. -/
theorem gives_nothing {k : Walker} (h : ∀ w, (eventsOf (k w).1).filter Event.hasContent = []) :
    Gives k [] := gives_of_events [] .nil h

theorem Gives.andThen {a b : Walker} {ps qs : List Payload} (ha : Gives a ps) (hb : Gives b qs) :
    Gives (.andThen a b) (ps ++ qs) := fun w => by
  have happend : contents (Walker.andThen a b w).1 = contents (a w).1 ++ contents (b (a w).2).1 := by
    simp [contents, Walker.andThen]
  rw [happend]
  exact (ha w).append (hb _)

theorem Gives.enclose (t : Tag) {k : Walker} {ps : List Payload} (h : Gives k ps) :
    Gives (.enclose t k) ps := fun w => by
  have hinner : contents (Walker.enclose t k w).1 = contents (k { w with notices := [] }).1 := by
    simp [contents, eventsOf_enclose, Event.hasContent]
  rw [hinner]
  exact h _

theorem Gives.link (url : Text) (title label : Option Text) {inner : Walker} {ps : List Payload}
    (h : Gives inner ps) : Gives (.link url title label inner) ps := fun w => by
  obtain ⟨target, hk⟩ := eventsOf_link url title label inner w
  have hinner : contents (Walker.link url title label inner w).1
      = contents (inner (linkStart w)).1 := by
    simp [contents, hk, Event.hasContent]
  rw [hinner]
  exact h _

theorem gives_codeLines (raw : Text) :
    Gives (.codeLines (Text.splitLines raw)) (Payload.unlessEmpty .codeBlock raw) := by
  have hlines : ∀ ls : List Text, (ls.map Event.text).filter Event.hasContent = ls.map .text := fun ls =>
    List.filter_eq_self.2 fun e he => by
      obtain ⟨l, -, rfl⟩ := List.mem_map.1 he
      rfl
  refine gives_of_events ((Text.splitLines raw).map .text) ?_ fun w => by
    rw [eventsOf_codeLines, hlines]
  unfold Payload.unlessEmpty
  split
  · next h =>
    rw [List.isEmpty_iff.1 h]
    exact .nil
  · exact .single (.codeBlock (Text.flatten_splitLines raw) (Text.lined_splitLines raw))

theorem gives_nonempty {event : Text → Event} {kind : Text → Payload} (raw : Text)
    (hg : Given (kind raw) [event raw]) (hc : (event raw).hasContent = true) :
    Gives (.nonempty event raw) (Payload.unlessEmpty kind raw) := by
  unfold Walker.nonempty Payload.unlessEmpty
  split
  · exact gives_nothing fun _ => rfl
  · exact gives_of_events [event raw] (.single hg) fun w => by
      rw [eventsOf_fragment, List.filter_cons_of_pos hc, List.filter_nil]

theorem gives_codeSpan (raw : Text) : Gives (.codeSpan raw) [.codeSpan raw] := fun w =>
  .single (.codeSpan (w.locator.findCode_content raw))

mutual

/-- Whatever a token is, its walk gives its payloads. -/
theorem inOrder_walk : ∀ t : Token, Gives t.walk t.payloads
  | .container kind children => by
    rw [Token.walk, Token.payloads]
    exact (inOrder_walkAll children).enclose _
  | .group children => by
    rw [Token.walk, Token.payloads]
    exact inOrder_walkAll children
  | .heading level children => by
    rw [Token.walk, Token.payloads]
    exact (inOrder_walkAll children).enclose _
  | .codeBlock info raw => by
    rw [Token.walk, Token.payloads]
    exact (gives_codeLines raw).enclose _
  | .list start children => by
    rw [Token.walk, Token.payloads]
    exact (inOrder_walkAll children).enclose _
  | .item none children => by
    rw [Token.walk, Token.payloads]
    exact (inOrder_walkAll children).enclose _
  | .item (some done) children => by
    rw [Token.walk, Token.payloads]
    exact ((gives_nothing fun _ => rfl).andThen (inOrder_walkAll children)).enclose _
  | .footnote label => by
    rw [Token.walk, Token.payloads]
    exact (gives_nothing fun _ => rfl).enclose _
  | .html raw => by
    rw [Token.walk, Token.payloads]
    exact gives_nonempty raw (.html raw) rfl
  | .text raw => by
    rw [Token.walk, Token.payloads]
    exact gives_nonempty raw (.text raw) rfl
  | .codeSpan raw => by
    rw [Token.walk, Token.payloads]
    exact gives_codeSpan raw
  | .link url title label children => by
    rw [Token.walk, Token.payloads]
    exact (inOrder_walkAll children).link url title label
  | .rule | .softBreak | .hardBreak | .footnoteReference _ | .image _ _ _ | .blank | .other _ => by
    rw [Token.walk, Token.payloads]
    exact gives_nothing fun _ => rfl

theorem inOrder_walkAll : ∀ ts : List Token, Gives (Token.walkAll ts) (Token.payloadsAll ts)
  | [] => by
    rw [Token.walkAll, Token.payloadsAll]
    exact gives_nothing fun _ => rfl
  | t :: ts => by
    rw [Token.walkAll, Token.payloadsAll]
    exact (inOrder_walk t).andThen (inOrder_walkAll ts)

end

/-- Whatever tree a text is taken for, the texts, code and HTML of its stream are the payloads of its
tokens, each of them once and in document order. -/
theorem payloads_in_order (source : Text) (tokens : List Token) :
    InOrder (Token.payloadsAll tokens) (contents (streamOf source tokens).1) :=
  inOrder_walkAll tokens _

end Texdown
