import Texdown.Proofs.CodeSpans
import Texdown.Proofs.Queries

/-!
# The pairs of dollars in a disguised text

Whether a pair is disguised is decided while the text is being rewritten: what is in front of it has been
rewritten already, what is behind it has not. Neither matters in the end. A backtick is never taken back,
so a pair that stays for one keeps it, and the text that a scan leaves has no pair that could still be
disguised (`Spent`). Such texts are exactly those that a scan leaves alone.

Results:
* `spent_scan`: a scan leaves no pair that could still be disguised.
* `scan_eq_self_iff`: a scan does nothing exactly if there is none in front of it.
* `disguised_pairs_alone`: what is recorded, and that each disguised pair is a run of just two backticks.
* `disguise_idempotent`: every pair that stays touches a backtick, and disguising a text again does nothing.
-/
namespace Texdown.Math

/-! ## Backticks and dollars of a disguised text -/

namespace Disguised

variable {t d : Text} {offsets : List Nat}

/-- A backtick is no part of a pair, so it stays. -/
theorem keeps_backtick (h : Disguised t d offsets) {i : Nat} (hi : t[i]? = some '`') :
    d[i]? = some '`' := by
  by_cases hc : Covered offsets i
  · exact h.backtick hc
  · rw [h.kept i hc]
    exact hi

/-- A dollar that is left was there. -/
theorem was_dollar (h : Disguised t d offsets) {i : Nat} (hi : d[i]? = some '$') :
    t[i]? = some '$' := by
  by_cases hc : Covered offsets i
  · exact h.dollar hc
  · rw [← h.kept i hc]
    exact hi

/-- The characters of the recorded pairs are those that change. -/
theorem changed_iff (h : Disguised t d offsets) (i : Nat) : d[i]? ≠ t[i]? ↔ Covered offsets i := by
  constructor
  · intro hne
    apply Decidable.byContradiction
    intro hc
    exact hne (h.kept i hc)
  · intro hc
    rw [h.backtick hc, h.dollar hc]
    decide

end Disguised

/-! ## Texts without a pair to disguise -/

/-- The character in front of an offset; `before` is the one in front of the text. -/
def charBefore (before : Option Char) (t : Text) : Nat → Option Char
  | 0 => before
  | i + 1 => t[i]?

/-- Every pair of dollars has a backtick directly before or directly behind it. -/
def Spent (before : Option Char) (t : Text) : Prop :=
  ∀ i, t[i]? = some '$' → t[i + 1]? = some '$' →
    charBefore before t i = some '`' ∨ t[i + 2]? = some '`'

theorem spent_cons {before : Option Char} {c : Char} {t : Text}
    (h0 : c = '$' → t[0]? = some '$' → before = some '`' ∨ t[1]? = some '`')
    (h : Spent (some c) t) : Spent before (c :: t) := by
  intro i h1 h2
  cases i with
  | zero => exact h0 (by simpa using h1) h2
  | succ i =>
    have hi := h i h1 h2
    cases i with
    | zero => exact hi
    | succ i => exact hi

theorem Spent.tail {before : Option Char} {c : Char} {t : Text} (h : Spent before (c :: t)) :
    Spent (some c) t := by
  intro i h1 h2
  have hi := h (i + 1) h1 h2
  cases i with
  | zero => exact hi
  | succ i => exact hi

/-- A scan leaves no pair that could still be disguised. -/
theorem spent_scan (before : Option Char) (i : Nat) (t : Text) : Spent before (scan before i t).1 := by
  induction before, i, t using scan.induct with
  | case1 before i r h ih =>
    -- A backtick behind the pair is still behind it when the rest has been read.
    have hd := (disguised_scan (some '$') ('$' :: r)).1
    rw [scan, if_pos h]
    apply spent_cons _ ih
    intro _ _
    rcases h with hbefore | hbehind
    · exact .inl hbefore
    · right
      rw [← Nat.zero_add (i + 1), scan_shift (some '$') 0]
      apply hd.keeps_backtick
      rwa [List.head?_eq_getElem?] at hbehind
  | case2 before i r h ih =>
    rw [scan, if_neg h]
    apply spent_cons
    · intro hc
      cases hc
    · apply spent_cons _ ih
      intro hc
      cases hc
  | case3 before i c r hne ih =>
    have hd := (disguised_scan (some c) r).1
    rw [scan]
    · apply spent_cons _ ih
      intro hc h0
      -- There was no pair here, and none has come about.
      rw [← Nat.zero_add (i + 1), scan_shift (some c) 0] at h0
      have hr := hd.was_dollar h0
      cases r with
      | nil => cases hr
      | cons c' r' => exact absurd (congrArg (· :: r') (Option.some.inj hr)) (hne r' hc)
    · exact hne
  | case4 before i =>
    rw [scan]
    intro j h
    simp at h

/-- A scan does nothing exactly if there is no pair to disguise. -/
theorem scan_eq_self_iff {before : Option Char} {i : Nat} {t : Text} :
    scan before i t = (t, []) ↔ Spent before t := by
  constructor
  · intro h
    have hspent := spent_scan before i t
    rwa [h] at hspent
  · induction before, i, t using scan.induct with
    | case1 before i r h ih =>
      intro hspent
      rw [scan, if_pos h, ih hspent.tail]
    | case2 before i r h ih =>
      intro hspent
      have htouched := hspent 0 rfl rfl
      rw [show ('$' :: '$' :: r)[0 + 2]? = r.head? from List.head?_eq_getElem?.symm] at htouched
      exact absurd htouched h
    | case3 before i c r hne ih =>
      intro hspent
      rw [scan, ih hspent.tail]
      exact hne
    | case4 before i =>
      intro _
      rw [scan]

/-! ## Disguising a text -/

theorem prepare_eq (t : Text) : prepare t = ((disguise t).1, .ofOffsets (disguise t).2 t.length) := rfl

/-- A disguised text is as long as the text, and differs from it only in the recorded pairs: each is two
dollars in the text and a run of just two backticks in the disguised one. The offsets are three or more
apart, and the length of the text comes behind them. -/
theorem disguised_pairs_alone (t : Text) :
    let d := (prepare t).1
    let table := (prepare t).2
    d.length = t.length ∧
      (∀ i, d[i]? ≠ t[i]? ↔ Covered table.offsets i) ∧
      (∀ p ∈ table.offsets, t[p]? = some '$' ∧ t[p + 1]? = some '$' ∧
        d[p]? = some '`' ∧ d[p + 1]? = some '`' ∧ IsRun d p 2) ∧
      table.offsets.Pairwise (fun p q => p + 3 ≤ q) ∧
      table.entries = table.offsets ++ [t.length] ∧ table.entries.Pairwise (· < ·) := by
  intro d table
  have h : Disguised t d table.offsets := by
    rw [offsets_prepare]
    exact disguised_disguise t
  have hentries : table.entries = table.offsets ++ [t.length] := by
    rw [offsets_prepare]
    rfl
  refine ⟨h.length, h.changed_iff, ?_, ?_, hentries, ?_⟩
  · intro p hp
    obtain ⟨h1, h2⟩ := h.dollars p hp
    obtain ⟨h3, h4⟩ := h.backticks p hp
    exact ⟨h1, h2, h3, h4, h.isRun hp⟩
  · exact h.sorted.imp_of_mem fun hp hq hlt => h.apart hp hq hlt
  · rw [hentries]
    apply List.pairwise_append.2
    refine ⟨h.sorted, List.pairwise_singleton _ _, ?_⟩
    intro p hp q hq
    rw [List.mem_singleton] at hq
    have := h.lt_length hp
    omega

/-- Of five dollars, the middle one stays and keeps two pairs apart. -/
theorem disguised_pairs_alone_five :
    let t := "a$$$$$b".toList
    (prepare t).1 = "a``$``b".toList ∧ (prepare t).2.offsets = [1, 4] ∧ IsRun (prepare t).1 4 2 := by
  intro t
  have hoffsets : (prepare t).2.offsets = [1, 4] := by decide
  obtain ⟨-, -, hpairs, -⟩ := disguised_pairs_alone t
  obtain ⟨-, -, -, -, hrun⟩ := hpairs 4 (by rw [hoffsets]; decide)
  exact ⟨by decide, hoffsets, hrun⟩

/-- Every pair of dollars that stays touches a backtick, but for texts that are too short to hold math.
Disguising a text again records nothing and changes nothing. -/
theorem disguise_idempotent (t : Text) :
    let d := (prepare t).1
    (t.length < 5 → d = t ∧ (prepare t).2.offsets = []) ∧
      (5 ≤ t.length → ∀ i, d[i]? = some '$' → d[i + 1]? = some '$' →
        (∃ j, i = j + 1 ∧ d[j]? = some '`') ∨ d[i + 2]? = some '`') ∧
      prepare d = (d, .ofOffsets [] t.length) := by
  intro d
  have hshort : t.length < 5 → disguise t = (t, []) := fun hlt => if_pos hlt
  have hspent : 5 ≤ t.length → Spent none d := by
    intro hle
    have hscan : disguise t = scan none 0 t := if_neg (Nat.not_lt.2 hle)
    show Spent none (disguise t).1
    rw [hscan]
    exact spent_scan none 0 t
  have hlength : d.length = t.length := length_disguise t
  refine ⟨?_, ?_, ?_⟩
  · intro hlt
    rw [offsets_prepare]
    exact ⟨congrArg Prod.fst (hshort hlt), congrArg Prod.snd (hshort hlt)⟩
  · intro hle i h1 h2
    have htouched := hspent hle i h1 h2
    cases i with
    | zero => exact .inr (htouched.resolve_left nofun)
    | succ j => exact htouched.imp_left fun hj => ⟨j, rfl, hj⟩
  · have hagain : disguise d = (d, []) := by
      by_cases hlt : t.length < 5
      · exact if_pos (hlength ▸ hlt)
      · refine (if_neg (hlength ▸ hlt)).trans ?_
        exact scan_eq_self_iff.2 (hspent (Nat.not_lt.1 hlt))
    rw [prepare_eq, hagain, hlength]

/-- Of seven dollars, the last two stay for the backtick in front of them. -/
theorem disguise_idempotent_seven :
    let t := List.replicate 7 '$'
    (prepare t).1 = "``$``$$".toList ∧
      prepare (prepare t).1 = ((prepare t).1, .ofOffsets [] 7) := by
  intro t
  obtain ⟨-, -, hagain⟩ := disguise_idempotent t
  exact ⟨by decide, hagain⟩

end Texdown.Math
