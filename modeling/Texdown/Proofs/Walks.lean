import Texdown.Proofs.CodeSearch
import Texdown.Proofs.LinkTails

/-!
# A walk through a source

A walk puts one request after the other to its locator. Whatever comes of a request, the cursor does not move
back and does not leave the source. It stays where it is if the request only looks, or if what the request is
about is not in front of the cursor (`Fails`), and it goes on in every other case.

Results:
* `answers_find`, `answers_code`, `answers_skipPast`, `answers_skipBracketed`, `answers_skipTail`: what comes of
  each request.
* `answers_ask`: what comes of any request.
* `walk_forward`: a walk is answered throughout, goes forward, and stays where nothing is found.
-/
namespace Texdown.Locator

/-! ## Requests -/

/-- What a walk can ask for. -/
inductive Request where
  | find (fragment : Text)
  | code (content : Text)
  | skipPast (mark : Text)
  | skipBracketed (opener : Text)
  | skipTail
  | here
  | nextOpener
  | tailForm
  deriving DecidableEq, Repr

inductive Answer where
  | span (s : Span)
  | code (content : Text) (s : Span)
  | offset (i : Option Nat)
  | destination (d : Option Text)
  | opener (o : Option Opener)
  | form (f : LinkForm)
  deriving DecidableEq, Repr

namespace Request

/-- What is skipped is not empty. -/
def IsUsable : Request → Prop
  | skipPast t | skipBracketed t => t ≠ []
  | _ => True

instance : DecidablePred IsUsable
  | skipPast t | skipBracketed t => inferInstanceAs (Decidable (t ≠ []))
  | find _ | code _ | skipTail | here | nextOpener | tailForm => inferInstanceAs (Decidable True)

/-- Nothing is passed, whatever stands in front of the cursor. -/
def looks : Request → Bool
  | find t => t.isEmpty
  | here | nextOpener | tailForm => true
  | _ => false

end Request

def Answer.span? : Answer → Option Span
  | span s | code _ s => some s
  | _ => none

def ask (l : Locator) : Request → Answer × Locator
  | .find t => let (s, l) := l.find t; (.span s, l)
  | .code t => let ((c, s), l) := l.findCode t; (.code c s, l)
  | .skipPast t => let (i, l) := l.skipPast t; (.offset i, l)
  | .skipBracketed t => let (i, l) := l.skipBracketed t; (.offset i, l)
  | .skipTail => let (d, l) := l.skipTail; (.destination d, l)
  | .here => (.span l.here, l)
  | .nextOpener => (.opener l.nextOpener?, l)
  | .tailForm => (.form l.tailForm, l)

/-- What a request is about is not in front of the cursor. -/
inductive Fails (l : Locator) : Request → Prop where
  | fragment {t : Text} (h : ∀ i, l.cursor ≤ i → ¬ t.StandsAt l.source i) : Fails l (.find t)
  | code {t : Text} (h : ∀ s c n, CodeFrom l s c n → ¬ Reads t c) : Fails l (.code t)
  | mark {t : Text} (h : ∀ i, l.cursor ≤ i → ¬ t.StandsAt l.source i) : Fails l (.skipPast t)
  | opener {t : Text} (h : ∀ i, l.cursor ≤ i → ¬ t.StandsAt l.source i) : Fails l (.skipBracketed t)
  /-- The opener is there, but no pair is closed from its last character on. -/
  | bracket {t : Text} {i : Nat} (hi : l.FirstAt t i)
      (h : ∀ q, ¬ PairFrom l.source (i + t.length - 1) q) : Fails l (.skipBracketed t)
  | noTail (h : ∀ c ∈ l.rest.head?, c ≠ '[' ∧ c ≠ '(') : Fails l .skipTail
  | label (h : l.rest.head? = some '[') (hopen : ']' ∉ l.rest) : Fails l .skipTail
  | tail {t : Text} (h : l.rest = '(' :: t) (hopen : ∀ a behind, t = a ++ ')' :: behind → ¬ Inside a) :
      Fails l .skipTail

/-- What comes of a request: the cursor moves forward, and does so exactly if the request passes something
that is there. A span lies between the cursor before and behind the request. -/
structure Answers (l : Locator) (r : Request) (a : Answer) (l' : Locator) : Prop where
  moves : l.Moves l'
  stays_iff : l' = l ↔ r.looks = true ∨ l.Fails r
  missed : a = .offset none → l.Fails r
  spans : ∀ s ∈ a.span?, l.cursor ≤ s.start ∧ s.start ≤ s.stop ∧ s.stop = l'.cursor

section

variable {l l' : Locator} {r : Request} {a : Answer} {t : Text}

/-! ## What comes of each request -/

theorem indexOf?_eq_none_iff_forall (ht : t ≠ []) :
    l.indexOf? t = none ↔ ∀ i, l.cursor ≤ i → ¬ t.StandsAt l.source i := by
  constructor
  · intro h i hi hstands
    obtain ⟨k, -, hk⟩ := exists_indexOf? ht hi hstands
    rw [h] at hk
    cases hk
  · intro h
    refine (indexOf?_eq_none_iff ht).2 fun i hi => h i hi.from_cursor hi.stands

/-- A request that comes to nothing leaves everything as it was. -/
theorem Answers.stay (hl : l.cursor ≤ l.source.length) (h : r.looks = true ∨ l.Fails r)
    (hmissed : a = .offset none → l.Fails r) (hspans : ∀ s ∈ a.span?, s = l.here) : Answers l r a l where
  moves := .refl hl
  stays_iff := iff_of_true rfl h
  missed := hmissed
  spans s hs := hspans s hs ▸ ⟨Nat.le_refl _, Nat.le_refl _, rfl⟩

/-- A request that finds what it is about goes past it. -/
theorem Answers.pass (hmoves : l.Moves l') (hlt : l.cursor < l'.cursor) (hlooks : r.looks = false)
    (hfound : ¬ l.Fails r) (hmissed : a ≠ .offset none)
    (hspans : ∀ s ∈ a.span?, l.cursor ≤ s.start ∧ s.start ≤ s.stop ∧ s.stop = l'.cursor) :
    Answers l r a l' where
  moves := hmoves
  stays_iff := by
    refine iff_of_false (fun h => ?_) ?_
    · rw [h] at hlt
      exact Nat.lt_irrefl _ hlt
    · rw [hlooks]
      exact fun h => h.elim Bool.false_ne_true hfound
  missed h := absurd h hmissed
  spans := hspans

theorem answers_look (hl : l.cursor ≤ l.source.length) (h : r.looks = true) :
    Answers l r (l.ask r).1 (l.ask r).2 := by
  cases r with
  | find t =>
    obtain rfl : t = [] := List.isEmpty_iff.1 h
    exact .stay hl (.inl h) nofun fun s hs => (Option.some.inj hs).symm
  | here => exact .stay hl (.inl h) nofun fun s hs => (Option.some.inj hs).symm
  | nextOpener | tailForm => exact .stay hl (.inl h) nofun nofun
  | _ => cases h

theorem answers_find (hl : l.cursor ≤ l.source.length) (ht : t ≠ []) :
    Answers l (.find t) (.span (l.find t).1) (l.find t).2 := by
  have hempty : t.isEmpty = false := by simpa using ht
  unfold find span?
  rw [if_neg (by simp [hempty])]
  cases hi : l.indexOf? t with
  | none =>
    have hfails : l.Fails (.find t) := .fragment ((indexOf?_eq_none_iff_forall ht).1 hi)
    exact .stay hl (.inr hfails) nofun fun s hs => (Option.some.inj hs).symm
  | some i =>
    obtain ⟨hle, hstop, -⟩ := indexOf?_spec ht hi
    have hpos := List.length_pos_iff.2 ht
    have hfirst := (indexOf?_eq_some_iff ht).1 hi
    have hlt : l.cursor < i + t.length := by omega
    refine .pass ⟨rfl, Nat.le_of_lt hlt, hstop⟩ hlt hempty ?_ nofun ?_
    · intro hfails
      cases hfails with
      | fragment h => exact h i hle hfirst.stands
    · rintro s ⟨⟩
      exact ⟨hle, Nat.le_add_right _ _, rfl⟩

theorem answers_code (hl : l.cursor ≤ l.source.length) :
    Answers l (.code t) (.code (l.findCode t).1.1 (l.findCode t).1.2) (l.findCode t).2 := by
  have hwanted : ∀ {c}, c ∈ [t, Text.unescape t] ↔ Reads t c := by simp [Reads]
  unfold findCode codeSpanAt?
  cases hfound : codeSpan? [t, Text.unescape t] l.cursor l.rest with
  | none =>
    have hfails : l.Fails (.code t) := by
      refine .code fun s c n hcode hreads => ?_
      obtain ⟨c', s', hsome, -⟩ := exists_codeSpan? (hwanted.2 hreads) hcode
      rw [hfound] at hsome
      cases hsome
    exact .stay hl (.inr hfails) (fun h => by cases h) fun s hs => (Option.some.inj hs).symm
  | some found =>
    obtain ⟨c, s⟩ := found
    obtain ⟨n, hcode⟩ := codeFrom_of_codeSpan? hfound
    have hle := hcode.from_cursor
    have hwidth := hcode.width
    have hspan : s.start < s.stop := by omega
    have hlt : l.cursor < s.stop := Nat.lt_of_le_of_lt hle hspan
    refine .pass ⟨rfl, Nat.le_of_lt hlt, hcode.stop_le⟩ hlt rfl ?_ (fun h => by cases h) ?_
    · intro hfails
      cases hfails with
      | code h => exact h s c n hcode (hwanted.1 (codeSpan?_mem hfound))
    · rintro s' ⟨⟩
      exact ⟨hle, Nat.le_of_lt hspan, rfl⟩

theorem answers_skipPast (hl : l.cursor ≤ l.source.length) (ht : t ≠ []) :
    Answers l (.skipPast t) (.offset (l.skipPast t).1) (l.skipPast t).2 := by
  have hmoves := moves_skipPast hl ht
  unfold skipPast at hmoves ⊢
  cases hi : l.indexOf? t with
  | none =>
    have hfails : l.Fails (.skipPast t) := .mark ((indexOf?_eq_none_iff_forall ht).1 hi)
    exact .stay hl (.inr hfails) (fun _ => hfails) nofun
  | some i =>
    have hfirst := (indexOf?_eq_some_iff ht).1 hi
    rw [hi] at hmoves
    refine .pass hmoves (Nat.lt_succ_of_le hfirst.from_cursor) rfl ?_ nofun nofun
    intro hfails
    cases hfails with
    | mark h => exact h i hfirst.from_cursor hfirst.stands

theorem answers_skipBracketed (hl : l.cursor ≤ l.source.length) (ht : t ≠ []) :
    Answers l (.skipBracketed t) (.offset (l.skipBracketed t).1) (l.skipBracketed t).2 := by
  have hmoves := moves_skipBracketed hl ht
  cases hi : l.indexOf? t with
  | none =>
    have hfails : l.Fails (.skipBracketed t) := .opener ((indexOf?_eq_none_iff_forall ht).1 hi)
    rw [skipBracketed_of_absent ht ((indexOf?_eq_none_iff ht).1 hi)]
    exact .stay hl (.inr hfails) (fun _ => hfails) nofun
  | some i =>
    have hfirst := (indexOf?_eq_some_iff ht).1 hi
    by_cases hpair : ∃ q, PairFrom l.source (i + t.length - 1) q
    · obtain ⟨q, hq⟩ := hpair
      have hpos := List.length_pos_iff.2 ht
      have hle := hfirst.from_cursor
      have hbehind : i + t.length - 1 ≤ q := by
        obtain ⟨front, inside, -, -, -, -, rfl⟩ := hq
        exact Nat.le_add_right _ _
      rw [skipBracketed_of_pairFrom ht hfirst hq] at hmoves ⊢
      refine .pass hmoves (by simp only; omega) rfl ?_ nofun nofun
      intro hfails
      cases hfails with
      | opener h => exact h i hle hfirst.stands
      | bracket hi' h =>
        obtain rfl := Option.some.inj (hi.symm.trans ((indexOf?_eq_some_iff ht).2 hi'))
        exact h q hq
    · rw [skipBracketed_of_not_pairFrom ht hfirst (not_exists.1 hpair)]
      exact .stay hl (.inr (.bracket hfirst (not_exists.1 hpair))) nofun nofun

theorem indexOf?_singleton_eq_none_iff {c : Char} : l.indexOf? [c] = none ↔ c ∉ l.rest := by
  constructor
  · intro h hmem
    obtain ⟨a, b, hrest, ha⟩ := List.eq_append_cons_of_mem hmem
    rw [indexOf?_mark hrest ha] at h
    cases h
  · intro h
    refine (indexOf?_eq_none_iff_forall (by simp)).2 fun i hi hstands => h ?_
    obtain ⟨j, rfl⟩ := Nat.exists_eq_add_of_le hi
    rw [Text.StandsAt, ← List.drop_drop] at hstands
    exact List.mem_of_mem_drop (hstands.subset List.mem_cons_self)

theorem answers_label (hl : l.cursor ≤ l.source.length) (h : l.rest.head? = some '[') :
    Answers l .skipTail (.destination none) (l.skipPast [']']).2 := by
  have hmoves := moves_skipPast hl (List.cons_ne_nil ']' [])
  unfold skipPast at hmoves ⊢
  cases hi : l.indexOf? [']'] with
  | none => exact .stay hl (.inr (.label h (indexOf?_singleton_eq_none_iff.1 hi))) nofun nofun
  | some i =>
    have hfirst := (indexOf?_eq_some_iff (by simp)).1 hi
    rw [hi] at hmoves
    refine .pass hmoves (Nat.lt_succ_of_le hfirst.from_cursor) rfl ?_ nofun nofun
    intro hfails
    cases hfails with
    | noTail hnone => exact (hnone '[' h).1 rfl
    | label _ hopen => rw [indexOf?_singleton_eq_none_iff.2 hopen] at hi; cases hi
    | tail hrest => rw [hrest] at h; cases h

theorem answers_skipTail (hl : l.cursor ≤ l.source.length) :
    Answers l .skipTail (.destination l.skipTail.1) l.skipTail.2 := by
  have hmoves := moves_skipTail hl
  unfold skipTail at hmoves ⊢
  split
  · next r hrest => exact answers_label hl (by rw [hrest]; rfl)
  · next r hrest =>
    simp only [hrest] at hmoves
    cases hi : closingParen? .plain 0 '(' true r with
    | none =>
      have hopen : ∀ a behind, r = a ++ ')' :: behind → ¬ Inside a := by
        intro a behind hr hinside
        rw [closingParen?_eq_some_iff.2 ⟨a, behind, hr, hinside, rfl⟩] at hi
        cases hi
      exact .stay hl (.inr (.tail hrest hopen)) nofun nofun
    | some i =>
      rw [hi] at hmoves
      refine .pass hmoves (by simp only; omega) rfl ?_ nofun nofun
      intro hfails
      cases hfails with
      | noTail hnone => exact (hnone '(' (by rw [hrest]; rfl)).2 rfl
      | label h => rw [hrest] at h; cases h
      | tail hrest' hopen =>
        obtain rfl := (List.cons.inj (hrest.symm.trans hrest')).2
        obtain ⟨a, behind, hr, hinside, -⟩ := closingParen?_eq_some_iff.1 hi
        exact hopen a behind hr hinside
  · next hlabel htail =>
    refine .stay hl (.inr (.noTail fun c hc => ?_)) nofun nofun
    obtain ⟨r, hrest⟩ := List.head?_eq_some_iff.1 hc
    exact ⟨fun h => hlabel r (h ▸ hrest), fun h => htail r (h ▸ hrest)⟩

theorem answers_ask (hl : l.cursor ≤ l.source.length) (hr : r.IsUsable) :
    Answers l r (l.ask r).1 (l.ask r).2 := by
  cases r with
  | find t =>
    by_cases ht : t = []
    · exact answers_look hl (List.isEmpty_iff.2 ht)
    · exact answers_find hl ht
  | code t => exact answers_code hl
  | skipPast t => exact answers_skipPast hl hr
  | skipBracketed t => exact answers_skipBracketed hl hr
  | skipTail => exact answers_skipTail hl
  | here | nextOpener | tailForm => exact answers_look hl rfl

/-! ## Walks -/

end

/-- A request of a walk, with the locator in front of it and behind it. -/
structure Visit where
  before : Locator
  request : Request
  answer : Answer
  after : Locator
  deriving DecidableEq, Repr

/-- The requests of a walk, one after the other, with what comes of them. -/
def walk (l : Locator) : List Request → List Visit
  | [] => []
  | r :: rs => ⟨l, r, (l.ask r).1, (l.ask r).2⟩ :: (l.ask r).2.walk rs

theorem map_request_walk (l : Locator) (rs : List Request) : (l.walk rs).map Visit.request = rs := by
  induction rs generalizing l with
  | nil => rfl
  | cons r rs ih => rw [walk, List.map_cons, ih]

/-- Wherever a walk gets to, it has moved there. -/
theorem answers_walk {l : Locator} (hl : l.cursor ≤ l.source.length) {rs : List Request}
    (h : ∀ r ∈ rs, r.IsUsable) :
    ∀ v ∈ l.walk rs, l.Moves v.before ∧ Answers v.before v.request v.answer v.after := by
  induction rs generalizing l with
  | nil => exact List.forall_mem_nil _
  | cons r rs ih =>
    obtain ⟨hr, hrs⟩ := List.forall_mem_cons.1 h
    have hask := answers_ask hl hr
    refine List.forall_mem_cons.2 ⟨⟨.refl hl, hask⟩, fun v hv => ?_⟩
    obtain ⟨hmoves, hv⟩ := ih hask.moves.inside hrs v hv
    exact ⟨hask.moves.trans hmoves, hv⟩

theorem pairwise_walk {l : Locator} (hl : l.cursor ≤ l.source.length) {rs : List Request}
    (h : ∀ r ∈ rs, r.IsUsable) :
    (l.walk rs).Pairwise fun v w => v.after.Moves w.before := by
  induction rs generalizing l with
  | nil => exact .nil
  | cons r rs ih =>
    obtain ⟨hr, hrs⟩ := List.forall_mem_cons.1 h
    have hinside := (answers_ask hl hr).moves.inside
    exact .cons (fun w hw => (answers_walk hinside hrs w hw).1) (ih hinside hrs)

/-- Every request of a walk from the start of a source is answered. The cursor stays inside the source and
never moves back, neither with a request nor between two; it stays where it is if the request only looks or
fails, and moves otherwise; and the span of an answer lies between the cursor before and behind the request. -/
theorem walk_forward (source : Text) (rs : List Request) (h : ∀ r ∈ rs, r.IsUsable) :
    (walk { source } rs).map Visit.request = rs ∧
      (∀ v ∈ walk { source } rs, v.before.source = source ∧
        Answers v.before v.request v.answer v.after) ∧
      (walk { source } rs).Pairwise fun v w => v.after.Moves w.before := by
  have hstart : ({ source } : Locator).cursor ≤ source.length := Nat.zero_le _
  refine ⟨map_request_walk _ rs, fun v hv => ?_, pairwise_walk hstart h⟩
  obtain ⟨hmoves, hanswers⟩ := answers_walk hstart h v hv
  exact ⟨hmoves.source, hanswers⟩

/-- A bracket is passed. Then a tail and a bracket are not closed, and a letter is not there. -/
theorem walk_forward_unclosed :
    let source := "[a](b [c".toList
    let rs : List Request :=
      [.skipBracketed ['['], .skipTail, .skipBracketed ['['], .find ['z'], .find ['c'], .here]
    (∀ r ∈ rs, r.IsUsable) ∧
      (walk { source } rs).map (fun v => (v.answer, v.after.cursor)) =
        [(.offset (some 0), 3), (.destination none, 3), (.offset (some 6), 3), (.span ⟨3, 3⟩, 3),
          (.span ⟨7, 8⟩, 8), (.span ⟨8, 8⟩, 8)] ∧
      (walk { source } rs).Pairwise fun v w => v.after.Moves w.before := by
  intro source rs
  have h : ∀ r ∈ rs, r.IsUsable := by decide
  exact ⟨h, by decide +kernel, (walk_forward source rs h).2.2⟩

end Texdown.Locator
