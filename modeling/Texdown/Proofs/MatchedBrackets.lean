import Texdown.Proofs.Searching

/-!
# The bracket that closes another

A walk goes past a task marker, an image or a footnote reference by counting brackets from the last character
of its opener on. If that is the bracket itself, the count comes back to zero at the bracket that closes it.
The last character of the opener of a footnote reference is a caret, so its bracket is not counted: the walk
goes past some later pair, or stays.

Results:
* `closing?_one_iff`, `closing?_zero_iff`: where the count comes back to zero, with a bracket open and without.
* `skipBracketed_eq`: exactly how far the walk gets with each opener.
* `footnote_not_passed`: a footnote reference is not passed.
-/
namespace Texdown

namespace Text

/-- A text in which every opening mark is closed and every closing mark was opened. A backslash hides the
character behind it. -/
inductive Matched (opening closing : Char) : Text → Prop where
  | nil : Matched opening closing []
  | plain {c : Char} {t : Text} (hb : c ≠ '\\') (ho : c ≠ opening) (hc : c ≠ closing)
      (h : Matched opening closing t) : Matched opening closing (c :: t)
  | hidden {c : Char} {t : Text} (h : Matched opening closing t) : Matched opening closing ('\\' :: c :: t)
  | group {a b : Text} (ha : Matched opening closing a) (hb : Matched opening closing b) :
      Matched opening closing (opening :: (a ++ closing :: b))

theorem matched_of_forall {opening closing : Char} {t : Text}
    (h : ∀ c ∈ t, c ≠ '\\' ∧ c ≠ opening ∧ c ≠ closing) : Matched opening closing t := by
  induction t with
  | nil => exact .nil
  | cons c t ih =>
    obtain ⟨⟨hb, ho, hc⟩, ht⟩ := List.forall_mem_cons.1 h
    exact .plain hb ho hc (ih ht)

/-- What a text may begin with, for someone who looks for two marks and for backslashes. -/
theorem mark_cases (opening closing : Char) (t : Text) : t = [] ∨ t = ['\\'] ∨ (∃ c u, t = '\\' :: c :: u) ∨
    (∃ u, t = opening :: u) ∨ (∃ u, t = closing :: u) ∨
    ∃ c u, t = c :: u ∧ c ≠ '\\' ∧ c ≠ opening ∧ c ≠ closing := by
  match t with
  | [] => exact .inl rfl
  | c :: u =>
    refine .inr ?_
    by_cases hb : c = '\\'
    · match u with
      | [] => exact .inl (by rw [hb])
      | d :: u => exact .inr (.inl ⟨d, u, by rw [hb]⟩)
    by_cases ho : c = opening
    · exact .inr (.inr (.inl ⟨u, by rw [ho]⟩))
    by_cases hc : c = closing
    · exact .inr (.inr (.inr (.inl ⟨u, by rw [hc]⟩)))
    exact .inr (.inr (.inr (.inr ⟨c, u, rfl, hb, ho, hc⟩)))

end Text

namespace Locator

open Text (Matched mark_cases)

variable {l : Locator} {depth : Int} {a r t : Text} {i : Nat}

/-! ## Counting -/

theorem closing?_plain {c : Char} (hb : c ≠ '\\') (ho : c ≠ '[') (hc : c ≠ ']') (depth : Int) (t : Text) :
    closing? depth (c :: t) = (closing? depth t).map (· + 1) := by
  rw [closing?.eq_def]
  simp [hb, ho, hc]

theorem closing?_hidden (depth : Int) (c : Char) (t : Text) :
    closing? depth ('\\' :: c :: t) = (closing? depth t).map (· + 2) := by
  rw [closing?]

theorem closing?_open (depth : Int) (t : Text) :
    closing? depth ('[' :: t) = (closing? (depth + 1) t).map (· + 1) := by
  rw [closing?.eq_def]
  simp

theorem closing?_close (hd : depth ≠ 1) (t : Text) :
    closing? depth (']' :: t) = (closing? (depth - 1) t).map (· + 1) := by
  rw [closing?.eq_def]
  simp [hd]

theorem closing?_close_one (t : Text) : closing? 1 (']' :: t) = some 0 := by
  rw [closing?.eq_def]
  simp

/-- From some depths, the count moves by a step at the one bracket and back at the other, and does not end. -/
structure Counts (opening closing : Char) (step : Int) (here : Int → Prop) : Prop where
  other : ∀ c, c ≠ opening → c ≠ closing → c ≠ '[' ∧ c ≠ ']'
  next : ∀ d, here d → here (d + step)
  opens : ∀ d t, here d → closing? d (opening :: t) = (closing? (d + step) t).map (· + 1)
  closes : ∀ d t, here d → closing? (d + step) (closing :: t) = (closing? d t).map (· + 1)

/-- Where a bracket is open, it moves up and back. -/
theorem counts_open : Counts '[' ']' 1 (0 < ·) where
  other _ ho hc := ⟨ho, hc⟩
  next d hd := by omega
  opens d t _ := closing?_open d t
  closes d t hd := by rw [closing?_close (by omega), Int.add_sub_cancel]

/-- Where none is open, it moves down and back. -/
theorem counts_closed : Counts ']' '[' (-1) (· ≤ 0) where
  other _ hc ho := ⟨ho, hc⟩
  next d hd := by omega
  opens d t hd := closing?_close (by omega) t
  closes d t _ := by rw [closing?_open, Int.neg_add_cancel_right]

section Counts

variable {opening closing : Char} {step : Int} {here : Int → Prop}

/-- The count goes past what is matched. -/
theorem Counts.append (h : Counts opening closing step here) (ha : Matched opening closing a) (hd : here depth)
    (r : Text) : closing? depth (a ++ r) = (closing? depth r).map (a.length + ·) := by
  induction ha generalizing depth r with
  | nil => simp
  | plain hb ho hc _ ih =>
    obtain ⟨ho, hc⟩ := h.other _ ho hc
    rw [List.cons_append, closing?_plain hb ho hc, ih hd]
    simp [Function.comp_def, Nat.add_right_comm]
  | hidden _ ih =>
    rw [List.cons_append, List.cons_append, closing?_hidden, ih hd]
    simp [Function.comp_def, Nat.add_right_comm]
  | @group a b _ _ iha ihb =>
    rw [List.cons_append, List.append_assoc, List.cons_append, h.opens _ _ hd, iha (h.next _ hd),
      h.closes _ _ hd, ihb hd]
    simp only [Option.map_map, Function.comp_def, List.length_cons, List.length_append]
    congr 1
    funext n
    omega

/-- It ends only behind what is matched. -/
theorem Counts.exists_of_isSome (h : Counts opening closing step here) (hd : here depth)
    (ht : (closing? depth t).isSome) :
    ∃ a r, t = a ++ closing :: r ∧ Matched opening closing a ∧ (closing? depth (closing :: r)).isSome := by
  induction hn : t.length using Nat.strongRecOn generalizing t depth with
  | ind n ih =>
  subst hn
  rcases mark_cases opening closing t with
    rfl | rfl | ⟨c, t, rfl⟩ | ⟨t, rfl⟩ | ⟨t, rfl⟩ | ⟨c, t, rfl, hb, ho, hc⟩
  · cases ht
  · cases ht
  · rw [closing?_hidden, Option.isSome_map] at ht
    obtain ⟨a, r, rfl, ha, hr⟩ := ih _ (by simp only [List.length_cons]; omega) hd ht rfl
    exact ⟨'\\' :: c :: a, r, rfl, .hidden ha, hr⟩
  · rw [h.opens _ _ hd, Option.isSome_map] at ht
    -- What begins here ends first, and then what began before.
    obtain ⟨a, u, rfl, ha, hu⟩ := ih _ (by simp) (h.next _ hd) ht rfl
    rw [h.closes _ _ hd, Option.isSome_map] at hu
    obtain ⟨b, r, rfl, hb, hr⟩ := ih _ (by simp only [List.length_cons, List.length_append]; omega) hd hu rfl
    exact ⟨opening :: (a ++ closing :: b), r, by simp, .group ha hb, hr⟩
  · exact ⟨[], t, rfl, .nil, ht⟩
  · obtain ⟨ho', hc'⟩ := h.other _ ho hc
    rw [closing?_plain hb ho' hc', Option.isSome_map] at ht
    obtain ⟨a, r, rfl, ha, hr⟩ := ih _ (by simp) hd ht rfl
    exact ⟨c :: a, r, rfl, .plain hb ho hc ha, hr⟩

end Counts

/-- Behind an open bracket, the count comes back to zero at the bracket that closes it. -/
theorem closing?_one_iff :
    closing? 1 t = some i ↔ ∃ a r, t = a ++ ']' :: r ∧ Matched '[' ']' a ∧ i = a.length := by
  have hclose : ∀ {a r}, Matched '[' ']' a → closing? 1 (a ++ ']' :: r) = some a.length := by
    intro a r ha
    rw [counts_open.append ha (by decide), closing?_close_one]
    rfl
  constructor
  · intro h
    obtain ⟨a, r, rfl, ha, -⟩ := counts_open.exists_of_isSome (by decide) (h ▸ rfl : (closing? 1 t).isSome)
    exact ⟨a, r, rfl, ha, Option.some.inj (h.symm.trans (hclose ha))⟩
  · rintro ⟨a, r, rfl, ha, rfl⟩
    exact hclose ha

/-- With no bracket open, it comes back to zero at the end of the first matched pair that has only what is
matched the wrong way round in front of it. -/
theorem closing?_zero_iff :
    closing? 0 t = some i ↔ ∃ a b r, t = a ++ '[' :: (b ++ ']' :: r) ∧ Matched ']' '[' a ∧
      Matched '[' ']' b ∧ i = a.length + 1 + b.length := by
  have hclose : ∀ {a b r}, Matched ']' '[' a → Matched '[' ']' b →
      closing? 0 (a ++ '[' :: (b ++ ']' :: r)) = some (a.length + 1 + b.length) := by
    intro a b r ha hb
    have hone : closing? (0 + 1) (b ++ ']' :: r) = some b.length := closing?_one_iff.2 ⟨b, r, rfl, hb, rfl⟩
    rw [counts_closed.append ha (Int.le_refl 0), closing?_open, hone]
    simp only [Option.map_some, Option.some.injEq]
    omega
  constructor
  · intro h
    obtain ⟨a, u, rfl, ha, hu⟩ :=
      counts_closed.exists_of_isSome (Int.le_refl 0) (h ▸ rfl : (closing? 0 t).isSome)
    rw [closing?_open, Option.isSome_map] at hu
    obtain ⟨b, r, rfl, hb, -⟩ := counts_open.exists_of_isSome (by decide) hu
    exact ⟨a, b, r, rfl, ha, hb, Option.some.inj (h.symm.trans (hclose ha hb))⟩
  · rintro ⟨a, b, r, rfl, ha, hb, rfl⟩
    exact hclose ha hb

/-- A bracket brings the count to zero from one depth only. -/
theorem depth_unique {depth' : Int} (h : closing? depth t = some i) (h' : closing? depth' t = some i) :
    depth = depth' := by
  induction hn : t.length using Nat.strongRecOn generalizing t depth depth' i with
  | ind n ih =>
  subst hn
  rcases mark_cases '[' ']' t with rfl | rfl | ⟨c, t, rfl⟩ | ⟨t, rfl⟩ | ⟨t, rfl⟩ | ⟨c, t, rfl, hb, ho, hc⟩
  · cases h
  · cases h
  · rw [closing?_hidden, Option.map_eq_some_iff] at h h'
    obtain ⟨j, hj, rfl⟩ := h
    obtain ⟨k, hk, hjk⟩ := h'
    exact ih _ (by simp only [List.length_cons]; omega) hj (Nat.add_right_cancel hjk ▸ hk) rfl
  · rw [closing?_open, Option.map_eq_some_iff] at h h'
    obtain ⟨j, hj, rfl⟩ := h
    obtain ⟨k, hk, hjk⟩ := h'
    have := ih _ (by simp) hj (Nat.add_right_cancel hjk ▸ hk) rfl
    omega
  · by_cases hd : depth = 1 <;> by_cases hd' : depth' = 1
    · rw [hd, hd']
    · rw [hd, closing?_close_one] at h
      rw [closing?_close hd', ← h, Option.map_eq_some_iff] at h'
      simp at h'
    · rw [hd', closing?_close_one] at h'
      rw [closing?_close hd, ← h', Option.map_eq_some_iff] at h
      simp at h
    · rw [closing?_close hd, Option.map_eq_some_iff] at h
      rw [closing?_close hd', Option.map_eq_some_iff] at h'
      obtain ⟨j, hj, rfl⟩ := h
      obtain ⟨k, hk, hjk⟩ := h'
      have := ih _ (by simp) hj (Nat.add_right_cancel hjk ▸ hk) rfl
      omega
  · rw [closing?_plain hb ho hc, Option.map_eq_some_iff] at h h'
    obtain ⟨j, hj, rfl⟩ := h
    obtain ⟨k, hk, hjk⟩ := h'
    exact ih _ (by simp) hj (Nat.add_right_cancel hjk ▸ hk) rfl

/-! ## What the walk goes past -/

/-- The bracket at `b` is closed at `q`. -/
def ClosedAt (src : Text) (b q : Nat) : Prop :=
  ∃ inside behind, src.drop b = '[' :: (inside ++ ']' :: behind) ∧ Matched '[' ']' inside ∧
    q = b + 1 + inside.length

/-- From `b` on, the first matched pair that has only what is matched the wrong way round in front of it is
closed at `q`. -/
def PairFrom (src : Text) (b q : Nat) : Prop :=
  ∃ front inside behind, src.drop b = front ++ '[' :: (inside ++ ']' :: behind) ∧ Matched ']' '[' front ∧
    Matched '[' ']' inside ∧ q = b + (front.length + 1 + inside.length)

section Pairs

variable {src : Text} {b q : Nat}

theorem pairFrom_iff : PairFrom src b q ↔ ∃ j, closing? 0 (src.drop b) = some j ∧ q = b + j := by
  constructor
  · rintro ⟨front, inside, behind, hdrop, hfront, hinside, rfl⟩
    exact ⟨_, closing?_zero_iff.2 ⟨front, inside, behind, hdrop, hfront, hinside, rfl⟩, rfl⟩
  · rintro ⟨j, hj, rfl⟩
    obtain ⟨front, inside, behind, hdrop, hfront, hinside, rfl⟩ := closing?_zero_iff.1 hj
    exact ⟨front, inside, behind, hdrop, hfront, hinside, rfl⟩

/-- The first pair from a bracket on is the bracket and what closes it. -/
theorem pairFrom_iff_closedAt (hb : src[b]? = some '[') : PairFrom src b q ↔ ClosedAt src b q := by
  constructor
  · rintro ⟨front, inside, behind, hdrop, hfront, hinside, rfl⟩
    have hhead : (src.drop b).head? = some '[' := List.head?_drop.trans hb
    rw [hdrop] at hhead
    cases hfront with
    | nil => exact ⟨inside, behind, hdrop, hinside, by simp only [List.length_nil]; omega⟩
    | plain _ _ hc => exact absurd (Option.some.inj hhead) hc
    | hidden | group => cases hhead
  · rintro ⟨inside, behind, hdrop, hinside, rfl⟩
    exact ⟨[], inside, behind, hdrop, .nil, hinside, by simp only [List.length_nil]; omega⟩

/-- The first pair behind a bracket is closed somewhere else than the bracket. -/
theorem ClosedAt.not_pairFrom (h : ClosedAt src b q) : ¬ PairFrom src (b + 1) q := by
  obtain ⟨inside, behind, hdrop, hinside, rfl⟩ := h
  intro hpair
  obtain ⟨j, hj, hq⟩ := pairFrom_iff.1 hpair
  have htail : src.drop (b + 1) = inside ++ ']' :: behind := by
    rw [← List.drop_drop, hdrop]
    rfl
  obtain rfl : inside.length = j := Nat.add_left_cancel hq
  rw [htail] at hj
  have hone : closing? 1 (inside ++ ']' :: behind) = some inside.length :=
    closing?_one_iff.2 ⟨inside, behind, rfl, hinside, rfl⟩
  exact absurd (depth_unique hj hone) (by decide)

end Pairs

section Skipping

variable {opener : Text} {s q : Nat}

theorem skipBracketed_of_absent (ho : opener ≠ []) (h : ∀ i, ¬ l.FirstAt opener i) :
    l.skipBracketed opener = (none, l) := by
  rw [skipBracketed, (indexOf?_eq_none_iff ho).2 h]

/-- The walk goes past the first pair from the last character of the opener on. -/
theorem skipBracketed_of_pairFrom (ho : opener ≠ []) (h : l.FirstAt opener s)
    (hq : PairFrom l.source (s + opener.length - 1) q) :
    l.skipBracketed opener = (some s, { l with cursor := q + 1 }) := by
  obtain ⟨j, hj, rfl⟩ := pairFrom_iff.1 hq
  rw [skipBracketed, (indexOf?_eq_some_iff ho).2 h]
  simp only [hj]

theorem skipBracketed_of_not_pairFrom (ho : opener ≠ []) (h : l.FirstAt opener s)
    (hq : ∀ q, ¬ PairFrom l.source (s + opener.length - 1) q) : l.skipBracketed opener = (some s, l) := by
  have hnone : closing? 0 (l.source.drop (s + opener.length - 1)) = none :=
    Option.eq_none_iff_forall_ne_some.2 fun j hj => hq _ (pairFrom_iff.2 ⟨j, hj, rfl⟩)
  rw [skipBracketed, (indexOf?_eq_some_iff ho).2 h]
  simp only [hnone]

end Skipping

end Locator

/-- What a walk goes past together with a bracket. -/
inductive Bracketed where
  | taskMarker
  | image
  | footnote
  deriving DecidableEq, Repr

namespace Bracketed

open Locator (ClosedAt PairFrom)

def opener : Bracketed → Text
  | taskMarker => ['[']
  | image => ['!', '[']
  | footnote => ['[', '^']

def bracketAt : Bracketed → Nat
  | taskMarker | footnote => 0
  | image => 1

theorem opener_ne_nil (b : Bracketed) : b.opener ≠ [] := by cases b <;> exact List.cons_ne_nil _ _

theorem bracket_of_standsAt (b : Bracketed) {src : Text} {s : Nat} (h : b.opener.StandsAt src s) :
    src[s + b.bracketAt]? = some '[' := by
  obtain ⟨behind, hbehind⟩ := h
  rw [← List.getElem?_drop, ← hbehind]
  cases b <;> rfl

/-- A task marker or an image is passed if its bracket is closed, up to there, and otherwise not. A footnote
reference is taken with the first pair behind its bracket, which does not end where its bracket is closed. -/
theorem skipBracketed_eq (l : Locator) (b : Bracketed) :
    ((∀ s, ¬ l.FirstAt b.opener s) → l.skipBracketed b.opener = (none, l)) ∧
      ∀ s, l.FirstAt b.opener s →
        (b ≠ footnote →
          (∀ q, ClosedAt l.source (s + b.bracketAt) q →
            l.skipBracketed b.opener = (some s, { l with cursor := q + 1 })) ∧
          ((∀ q, ¬ ClosedAt l.source (s + b.bracketAt) q) → l.skipBracketed b.opener = (some s, l))) ∧
        (b = footnote →
          (∀ q, PairFrom l.source (s + 1) q →
            l.skipBracketed b.opener = (some s, { l with cursor := q + 1 })) ∧
          ((∀ q, ¬ PairFrom l.source (s + 1) q) → l.skipBracketed b.opener = (some s, l)) ∧
          ∀ q, ClosedAt l.source s q → (l.skipBracketed b.opener).2.cursor ≠ q + 1) := by
  refine ⟨Locator.skipBracketed_of_absent b.opener_ne_nil, fun s h => ⟨fun hb => ?_, fun hb => ?_⟩⟩
  · have hlast : s + b.opener.length - 1 = s + b.bracketAt := by
      cases b with
      | taskMarker | image => rfl
      | footnote => exact absurd rfl hb
    have hiff : ∀ q, PairFrom l.source (s + b.opener.length - 1) q ↔ ClosedAt l.source (s + b.bracketAt) q := by
      rw [hlast]
      exact fun q => Locator.pairFrom_iff_closedAt (b.bracket_of_standsAt h.stands)
    exact ⟨fun q hq => Locator.skipBracketed_of_pairFrom b.opener_ne_nil h ((hiff q).2 hq),
      fun hq => Locator.skipBracketed_of_not_pairFrom b.opener_ne_nil h fun q hp => hq q ((hiff q).1 hp)⟩
  · subst hb
    have hpair : ∀ q, PairFrom l.source (s + 1) q → l.skipBracketed footnote.opener = _ :=
      fun q hq => Locator.skipBracketed_of_pairFrom (q := q) footnote.opener_ne_nil h hq
    have hstay := Locator.skipBracketed_of_not_pairFrom footnote.opener_ne_nil h
    refine ⟨hpair, hstay, fun q hq hcursor => ?_⟩
    by_cases hex : ∃ q', PairFrom l.source (s + 1) q'
    · obtain ⟨q', hq'⟩ := hex
      rw [hpair q' hq'] at hcursor
      exact hq.not_pairFrom (Nat.add_right_cancel hcursor ▸ hq')
    · rw [hstay (not_exists.1 hex)] at hcursor
      obtain ⟨inside, -, -, -, rfl⟩ := hq
      have := h.from_cursor
      simp only at hcursor
      omega

/-- An image is passed with a bracket and a hidden bracket inside. A footnote reference is passed with the
brackets behind it. -/
theorem skipBracketed_eq_nested :
    (Locator.FirstAt ⟨"x![a[b]\\]c](u)".toList, 1⟩ image.opener 1 ∧
      ClosedAt "x![a[b]\\]c](u)".toList 2 10 ∧
      Locator.skipBracketed ⟨"x![a[b]\\]c](u)".toList, 1⟩ ['!', '[']
        = (some 1, ⟨"x![a[b]\\]c](u)".toList, 11⟩)) ∧
    (Locator.FirstAt ⟨"[^1] [[a] b".toList, 0⟩ footnote.opener 0 ∧
      PairFrom "[^1] [[a] b".toList 1 8 ∧
      Locator.skipBracketed ⟨"[^1] [[a] b".toList, 0⟩ ['[', '^']
        = (some 0, ⟨"[^1] [[a] b".toList, 9⟩)) := by
  constructor
  · have hfirst : Locator.FirstAt ⟨"x![a[b]\\]c](u)".toList, 1⟩ image.opener 1 :=
      (Locator.indexOf?_eq_some_iff image.opener_ne_nil).1 rfl
    have hmatched : Text.Matched '[' ']' "a[b]\\]c".toList :=
      .plain (by decide) (by decide) (by decide) (.group (a := ['b']) (Text.matched_of_forall (by simp))
        (.hidden (t := ['c']) (Text.matched_of_forall (by simp))))
    have hclosed : ClosedAt "x![a[b]\\]c](u)".toList 2 10 := ⟨_, "(u)".toList, rfl, hmatched, rfl⟩
    exact ⟨hfirst, hclosed, (((skipBracketed_eq _ image).2 1 hfirst).1 (by decide)).1 10 hclosed⟩
  · have hfirst : Locator.FirstAt ⟨"[^1] [[a] b".toList, 0⟩ footnote.opener 0 :=
      (Locator.indexOf?_eq_some_iff footnote.opener_ne_nil).1 rfl
    have hfront : Text.Matched ']' '[' "^1] [".toList :=
      .plain (by decide) (by decide) (by decide) (.plain (by decide) (by decide) (by decide)
        (.group (a := [' ']) (Text.matched_of_forall (by simp)) .nil))
    have hpair : PairFrom "[^1] [[a] b".toList 1 8 :=
      ⟨_, ['a'], " b".toList, rfl, hfront, Text.matched_of_forall (by simp), rfl⟩
    exact ⟨hfirst, hpair, (((skipBracketed_eq _ footnote).2 0 hfirst).2 rfl).1 8 hpair⟩

/-- A footnote reference whose bracket is closed is not passed. -/
theorem footnote_not_passed : ¬ ∀ (l : Locator) (b : Bracketed) (s q : Nat), l.FirstAt b.opener s →
    ClosedAt l.source (s + b.bracketAt) q →
      l.skipBracketed b.opener = (some s, { l with cursor := q + 1 }) := by
  intro h
  have hpassed := h ⟨"a[^1] b".toList, 0⟩ footnote 1 4
    ((Locator.indexOf?_eq_some_iff footnote.opener_ne_nil).1 rfl)
    ⟨"^1".toList, " b".toList, rfl, Text.matched_of_forall (by simp), rfl⟩
  exact absurd hpassed (by decide)

end Bracketed

end Texdown
