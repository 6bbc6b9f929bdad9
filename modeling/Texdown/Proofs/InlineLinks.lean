import Texdown.Proofs.LinkTails
import Texdown.Proofs.Streams
import Texdown.Text.Punctuation

/-!
# Inline links and their destinations

A walk that comes to a link finds out from the source what kind of link it is: which opener comes next, what
ends the text of the link, and what stands behind it. Text that was written with backslashes may not occur in
the source as it is, so the walk stays behind, and punctuation that a backslash protects is taken for markup.

Results:
* `getLast?_of_backslashed`: punctuation stands behind its backslash.
* `skipTail_plain`: what is read of a destination that needs no brackets.
* `inline_link_kept_iff`: a link keeps its destination exactly if the walk takes the right opener and stands
  in front of the destination in the end. It does if the texts cannot be mistaken.
-/
namespace Texdown

namespace Text

/-! ## Punctuation with backslashes -/

/-- A text with a backslash in front of each of its punctuation marks of ASCII. -/
def backslashed (t : Text) : Text := t.flatMap fun c => if isAsciiPunctuation c then ['\\', c] else [c]

theorem backslashed_cons (c : Char) (t : Text) :
    backslashed (c :: t) = (if isAsciiPunctuation c then ['\\', c] else [c]) ++ backslashed t := rfl

theorem count_backslashed {c : Char} (hc : c ≠ '\\') (t : Text) : (backslashed t).count c = t.count c := by
  induction t with
  | nil => rfl
  | cons d t ih =>
    rw [backslashed_cons, List.count_append, ih]
    split <;> simp [List.count_cons, hc.symm, Nat.add_comm]

/-- A punctuation mark stands behind its backslash. -/
theorem getLast?_of_backslashed {c : Char} (hp : isAsciiPunctuation c = true) (hc : c ≠ '\\') {t a b : Text}
    (h : backslashed t = a ++ c :: b) : a.getLast? = some '\\' := by
  induction t generalizing a with
  | nil => simp [backslashed] at h
  | cons d t ih =>
    rw [backslashed_cons] at h
    split at h
    · match a, h with
      | [], h => exact absurd (List.cons.inj h).1.symm hc
      | [e], h => rw [← (List.cons.inj h).1]; rfl
      | e :: f :: a, h =>
        have hlast := ih (List.cons.inj (List.cons.inj h).2).2
        simp [List.getLast?_cons, hlast]
    · next hd =>
      match a, h with
      | [], h => exact absurd ((List.cons.inj h).1 ▸ hp) hd
      | e :: a, h =>
        have hlast := ih (List.cons.inj h).2
        simp [List.getLast?_cons, hlast]

end Text

namespace Locator

variable {l : Locator} {behind : Text}

/-! ## Destinations -/

/-- The characters that mean something in a destination. -/
def destinationMarks : Text := ['(', ')', '<', '>', '"', '\'', '\\']

/-- A destination that needs no brackets is read as it is written. -/
theorem skipTail_plain {d : Text} (hne : d ≠ []) (hb : ∀ c ∈ d, Text.isBlank c = false)
    (h : ∀ c ∈ d, c ∉ destinationMarks) (hrest : l.rest = '(' :: (d ++ ')' :: behind)) :
    l.skipTail.1 = some d := by
  have hmark : ∀ m ∈ destinationMarks, ∀ c ∈ d, c ≠ m := fun m hm c hc hcm => h c hc (hcm ▸ hm)
  have hwritten : Written d d := by
    refine .bare hne hb (fun hc => hmark '\\' (by decide) _ hc rfl) (fun hc => ?_) ?_
    · exact hmark '<' (by decide) _ (List.mem_of_head? hc) rfl
    · exact Text.matched_of_forall fun c hc =>
        ⟨hmark '\\' (by decide) c hc, hmark '(' (by decide) c hc, hmark ')' (by decide) c hc⟩
  have hrest' : l.rest = '(' :: (d ++ ([] ++ []) ++ ')' :: behind) := by simpa using hrest
  rw [skipTail_of_written hwritten .none (List.forall_mem_nil _) hrest']

end Locator

/-! ## Inline links -/

/-- A link in a paragraph, with the text in front of it. -/
structure InlineLink where
  front : Text
  text : Text
  destination : Text
  deriving DecidableEq, Repr

namespace InlineLink

open Text (backslashed)

/-- The destination needs no brackets and no backslashes. -/
structure Plain (k : InlineLink) : Prop where
  nonempty : k.destination ≠ []
  solid : ∀ c ∈ k.destination, Text.isBlank c = false
  unmarked : ∀ c ∈ k.destination, c ∉ Locator.destinationMarks

/-- The destination as it is written. -/
def tail (k : InlineLink) : Text := '(' :: (k.destination ++ [')'])

/-- The link, from behind its opener on. -/
def inside (k : InlineLink) : Text := backslashed k.text ++ ']' :: k.tail

def source (k : InlineLink) : Text := backslashed k.front ++ '[' :: k.inside

/-- The tree of a link. Its destination may be spelled in another way there. -/
def tokens (k : InlineLink) (url : Text) : List Token :=
  [.container .paragraph ((if k.front.isEmpty then [] else [.text k.front]) ++
    [.link url none none [.text k.text]])]

/-- The walk in front of a link. -/
def start (k : InlineLink) : Locator := ((⟨k.source, 0⟩ : Locator).find k.front).2

/-- The walk behind the text of a link. -/
def textEnd (k : InlineLink) : Locator :=
  ((k.start.skipPast (if k.start.nextOpener? == some .angle then ['<'] else ['['])).2.find k.text).2

/-- What the walk finds out about a link. -/
def target (k : InlineLink) (url : Text) : Target :=
  (Walker.linkTarget (k.start.nextOpener? == some .angle) url none none k.textEnd).1

/-- The texts of a link are found where they stand, or nowhere, and then they have no markup. -/
structure Unmistakable (k : InlineLink) : Prop where
  front : k.front <:+: backslashed k.front ∨ '<' ∉ k.front ∧ '[' ∉ k.front ∧ ¬ k.front <:+: k.inside
  text : k.text <:+: backslashed k.text ∨ ']' ∉ k.text ∧ ¬ k.text <:+: k.tail

end InlineLink

/-- What the start of a link says about it. -/
def Event.linkTarget? : Event → Option Target
  | .start (.link target) => some target
  | _ => none

namespace InlineLink

open Text (backslashed)

variable {k : InlineLink}

/-- What the links say that a walk gives. -/
def linksIn (k : Walker) (w : Walk) : List Target := (eventsOf (k w).1).filterMap Event.linkTarget?

theorem linksIn_andThen (a b : Walker) (w : Walk) :
    linksIn (.andThen a b) w = linksIn a w ++ linksIn b (a w).2 := by
  simp [linksIn, Walker.andThen]

theorem linksIn_paragraph (inner : Walker) (w : Walk) :
    linksIn (.enclose .paragraph inner) w = linksIn inner { w with notices := [] } := by
  rw [linksIn, eventsOf_enclose, List.filterMap_cons_none rfl, List.filterMap_append]
  exact List.append_nil _

theorem linksIn_link (url : Text) (inner : Walker) (w : Walk) :
    linksIn (.link url none none inner) w
      = (Walker.linkTarget (w.locator.nextOpener? == some .angle) url none none
          (inner (linkStart w)).2.locator).1 :: linksIn inner (linkStart w) := by
  simp [linksIn, Walker.link, linkStart, eventsOf, Walk.emit, Event.linkTarget?, Function.comp_def,
    List.filterMap_append]

/-- A text is no link, and the walk goes past it. -/
theorem linksIn_text (t : Text) (w : Walk) :
    linksIn (.nonempty .text t) w = [] ∧ (Walker.nonempty .text t w).2.locator = (w.locator.find t).2 := by
  cases t with
  | nil => exact ⟨rfl, rfl⟩
  | cons c t => exact ⟨rfl, rfl⟩

/-- A link in a paragraph gives one link in the stream. -/
theorem linkTargets_eq (k : InlineLink) (url : Text) :
    (eventsOf (streamOf k.source (k.tokens url)).1).filterMap Event.linkTarget? = [k.target url] := by
  let inner : Walker := .andThen (.nonempty .text k.text) .skip
  have htree : Token.walkAll (k.tokens url) = .andThen (.enclose .paragraph
      (.andThen (.nonempty .text k.front) (.andThen (.link url none none inner) .skip))) .skip := by
    cases hf : k.front with
    | nil => simp only [tokens, hf]; rfl
    | cons c front => simp only [tokens, hf]; rfl
  let w : Walk := (Walker.nonempty .text k.front ⟨⟨k.source, 0⟩, []⟩).2
  have hw : w.locator = k.start := (linksIn_text k.front _).2
  have hinner : (inner (linkStart w)).2.locator = k.textEnd := by
    rw [textEnd, ← hw]
    exact (linksIn_text k.text _).2
  have hskip (w : Walk) : linksIn .skip w = [] := rfl
  show linksIn (Token.walkAll (k.tokens url)) ⟨⟨k.source, 0⟩, []⟩ = [k.target url]
  rw [htree, linksIn_andThen, linksIn_paragraph, linksIn_andThen, linksIn_andThen, linksIn_link,
    linksIn_andThen, (linksIn_text k.front _).1, (linksIn_text k.text _).1, hskip, hskip, hskip, target,
    ← hw, ← hinner]
  rfl

/-- Of the parentheses of a link, only the one in front of its destination has no backslash and no bracket
behind it. -/
theorem eq_tail_of_source (h : k.Plain) {a r : Text} (hsource : k.source = a ++ '(' :: r)
    (ha : a.getLast? ≠ some '\\' ∨ ']' ∉ r) : '(' :: r = k.tail := by
  have hinside : ']' ∈ k.inside := List.mem_append_right _ List.mem_cons_self
  rcases Text.cut_at_mark (by decide) hsource with ⟨b, hfront, rfl⟩ | ⟨a', rfl, hrest⟩
  · have hlast := Text.getLast?_of_backslashed (by decide) (by decide) hfront
    have hno := ha.resolve_left fun hne => hne hlast
    exact absurd (List.mem_append_right _ (List.mem_cons_of_mem _ hinside)) hno
  rcases Text.cut_at_mark (by decide) hrest with ⟨b, htext, rfl⟩ | ⟨a'', rfl, htail⟩
  · have hlast := Text.getLast?_of_backslashed (by decide) (by decide) htext
    have hno := ha.resolve_left fun hne => hne (by simp [List.getLast?_append, List.getLast?_cons, hlast])
    exact absurd (List.mem_append_right _ List.mem_cons_self) hno
  cases a'' with
  | nil => exact htail.symm
  | cons c a'' =>
    have hmem : '(' ∈ k.destination ++ [')'] := (List.cons.inj htail).2 ▸ by simp
    have hd : '(' ∈ k.destination := by simpa using hmem
    exact absurd (by decide) (h.unmarked _ hd)

/-- A walk that takes a link for an inline one stands in front of its destination. -/
theorem rest_of_tailForm (h : k.Plain) {l : Locator} (hl : l.source = k.source)
    (hform : (l.skipPast [']']).2.tailForm = .inline) : (l.skipPast [']']).2.rest = k.tail := by
  obtain ⟨r, hr⟩ : ∃ r, (l.skipPast [']']).2.rest = '(' :: r := by
    unfold Locator.tailForm at hform
    split at hform
    · next hhead => exact List.head?_eq_some_iff.1 hhead
    · cases hform
  rw [hr]
  rcases l.skipPast_spec ']' with ⟨front, hfront⟩ | ⟨hstay, hno⟩
  · rw [hr, List.append_cons, hl] at hfront
    exact eq_tail_of_source h hfront (.inl (by simp))
  · rw [hstay] at hr
    have hsource := List.take_append_drop l.cursor l.source
    rw [show l.source.drop l.cursor = '(' :: r from hr, hl] at hsource
    rw [hr] at hno
    exact eq_tail_of_source h hsource.symm (.inr (List.not_mem_of_not_mem_cons hno))

@[simp] theorem source_textEnd (k : InlineLink) : k.textEnd.source = k.source := by
  simp [textEnd, start]

theorem opener_of_inline (url : Text) (h : (k.target url).form = some .inline) :
    k.start.nextOpener? ≠ some .angle := by
  intro hangle
  unfold target Walker.linkTarget at h
  rw [if_pos (by simp [hangle])] at h
  simp only [Option.some.injEq] at h
  split at h <;> cases h

/-- A link is kept if the walk takes its opener and finds its destination, and only then. -/
theorem target_kept_iff (h : k.Plain) (url : Text) :
    ((k.target url).form = some .inline ∧ (k.target url).url = some k.destination) ↔
      k.start.nextOpener? ≠ some .angle ∧ (k.textEnd.skipPast [']']).2.rest = k.tail := by
  constructor
  · rintro ⟨hform, -⟩
    have hangle := opener_of_inline url hform
    unfold target Walker.linkTarget at hform
    rw [if_neg (by simpa using hangle)] at hform
    exact ⟨hangle, rest_of_tailForm h (source_textEnd k) (Option.some.inj hform)⟩
  · rintro ⟨hangle, hrest⟩
    have hform : (k.textEnd.skipPast [']']).2.tailForm = .inline := by
      rw [Locator.tailForm, hrest]
      rfl
    have hwritten := Locator.skipTail_plain h.nonempty h.solid h.unmarked hrest
    unfold target Walker.linkTarget
    rw [if_neg (by simpa using hangle)]
    exact ⟨congrArg some hform, by simp [hform, hwritten]⟩

/-- What is left of a text has none of its marks, if it was found in what was passed. -/
theorem not_mem_left {t passed left : Text} {mark : Char} (hmark : mark ≠ '\\')
    (h : backslashed t = passed ++ left) (ht : t <:+: passed ∨ mark ∉ t) : mark ∉ left := by
  have hcount := congrArg (List.count mark) h
  rw [Text.count_backslashed hmark, List.count_append] at hcount
  rw [← List.count_eq_zero]
  rcases ht with ht | ht
  · have := ht.sublist.count_le mark
    omega
  · have := List.count_eq_zero.2 ht
    omega

/-- Behind a text that cannot be mistaken, what is left of it has no markup. -/
theorem rest_of_unmistakable (h : k.Unmistakable) :
    k.start.nextOpener? ≠ some .angle ∧ (k.textEnd.skipPast [']']).2.rest = k.tail := by
  obtain ⟨passed, left, hfront, hstart, hpassed⟩ :=
    Locator.rest_find (l := ⟨k.source, 0⟩) (t := k.front) rfl (h.front.imp_right And.right)
  have hbracket : '[' ∉ left :=
    not_mem_left (by decide) hfront (h.front.imp hpassed fun hout => hout.2.1)
  have hangle : '<' ∉ left := not_mem_left (by decide) hfront (h.front.imp hpassed And.left)
  have hopener : k.start.nextOpener? = some .bracket := Locator.nextOpener?_of_rest hstart hangle hbracket
  have hopened : (k.start.skipPast ['[']).2.rest = k.inside := Locator.rest_skipPast hstart hbracket
  obtain ⟨passed', left', htext, hend, hpassed'⟩ := Locator.rest_find hopened h.text
  have hclose : ']' ∉ left' := not_mem_left (by decide) htext (h.text.imp hpassed' And.left)
  refine ⟨by simp [hopener], Locator.rest_skipPast ?_ hclose⟩
  rw [textEnd, hopener]
  exact hend

/-- A link in a paragraph gives one link in the stream. It is an inline link with the destination as it is
written exactly if the walk takes the bracket of the link for the next opener and, past the next closing
bracket behind the text, stands in front of the destination. It does if the text in front of the link and the
text of the link are found where they stand, or nowhere and have no markup. -/
theorem inline_link_kept_iff (k : InlineLink) (h : k.Plain) (url : Text) :
    ∃ target, (eventsOf (streamOf k.source (k.tokens url)).1).filterMap Event.linkTarget? = [target] ∧
      ((target.form = some .inline ∧ target.url = some k.destination) ↔
        k.start.nextOpener? ≠ some .angle ∧ (k.textEnd.skipPast [']']).2.rest = k.tail) ∧
      (k.Unmistakable → target.form = some .inline ∧ target.url = some k.destination) :=
  ⟨k.target url, linkTargets_eq k url, target_kept_iff h url,
    fun hk => (target_kept_iff h url).2 (rest_of_unmistakable hk)⟩

theorem plain_x (front text : Text) : Plain ⟨front, text, ['x']⟩ where
  nonempty := List.cons_ne_nil _ _
  solid := List.forall_mem_singleton.2 (by decide)
  unmarked := List.forall_mem_singleton.2 (by decide)

/-- The text in front of this link cannot be found, and its own text can. -/
theorem inline_link_kept_iff_starred :
    (⟨"a*b".toList, "]c".toList, ['x']⟩ : InlineLink).source = "a\\*b[\\]c](x)".toList ∧
      InlineLink.Plain ⟨"a*b".toList, "]c".toList, ['x']⟩ ∧
      InlineLink.Unmistakable ⟨"a*b".toList, "]c".toList, ['x']⟩ ∧
      ∃ target, (eventsOf (streamOf "a\\*b[\\]c](x)".toList
          (InlineLink.tokens ⟨"a*b".toList, "]c".toList, ['x']⟩ ['x'])).1).filterMap
            Event.linkTarget? = [target] ∧
        target.form = some .inline ∧ target.url = some ['x'] := by
  have hsource : (⟨"a*b".toList, "]c".toList, ['x']⟩ : InlineLink).source
      = "a\\*b[\\]c](x)".toList := by decide +kernel
  have hclear : InlineLink.Unmistakable ⟨"a*b".toList, "]c".toList, ['x']⟩ :=
    ⟨.inr (by decide +kernel), .inl (by decide +kernel)⟩
  obtain ⟨target, hone, -, hkept⟩ := inline_link_kept_iff _ (plain_x _ _) ['x']
  rw [hsource] at hone
  exact ⟨hsource, plain_x _ _, hclear, target, hone, hkept hclear⟩

/-- Behind escaped angle brackets, the walk stays at the start and takes the first of them for the opener of
an autolink. -/
theorem angle_taken_for_opener :
    InlineLink.Plain ⟨"<<".toList, "b".toList, ['x']⟩ ∧
      (⟨"<<".toList, "b".toList, ['x']⟩ : InlineLink).source = "\\<\\<[b](x)".toList ∧
      (eventsOf (streamOf "\\<\\<[b](x)".toList
          (InlineLink.tokens ⟨"<<".toList, "b".toList, ['x']⟩ ['x'])).1).filterMap
        Event.linkTarget? = [⟨some ['x'], none, some .autolink, none⟩] :=
  ⟨plain_x _ _, by decide +kernel, by decide +kernel⟩

end InlineLink

end Texdown
