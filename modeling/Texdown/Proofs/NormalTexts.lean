import Texdown.Proofs.Inert

/-!
# What escaping forgets

Several spaces are written as one, three dots as an ellipsis, and dashes as hyphens. Each of these has a
reading of its own in the text (`normalize`), and nothing else is lost: behind it every character is
written as a word of a code in which no word begins another one, so the words can be told apart again
wherever they stand.

Results:
* `escape_normalize`: escaped text is its normal text, written character by character.
* `eq_of_prefix_escapeChar`: what is written for a character begins with what is written for no other.
* `escape_eq_iff`: two texts are written alike exactly if their normal texts are equal.
-/
namespace Texdown.Latex

/-! ## Normal texts -/

/-- The text with every run of spaces as one space. -/
def oneSpace : Text → Text
  | ' ' :: ' ' :: r => oneSpace (' ' :: r)
  | c :: r => c :: oneSpace r
  | [] => []

/-- The text with an ellipsis for three dots, from the left. -/
def joinDots : Text → Text
  | '.' :: '.' :: '.' :: r => '\u2026' :: joinDots r
  | c :: r => c :: joinDots r
  | [] => []

/-- A dash as hyphens, two for the short one and three for the long one. -/
def spellDash : Char → Text
  | '\u2013' => ['-', '-']
  | '\u2014' => ['-', '-', '-']
  | c => [c]

/-- The text as far as escaping tells it from others. -/
def normalize (t : Text) : Text := (joinDots (oneSpace t)).flatMap spellDash

example : normalize "a   b.... \u2013\u2014".toList = "a b\u2026. -----".toList := by decide

theorem oneSpace_eq_cons {t s : Text} {c : Char} (hc : c ≠ ' ') (h : oneSpace t = c :: s) :
    ∃ r, t = c :: r ∧ s = oneSpace r := by
  fun_induction oneSpace t with
  | case1 r ih =>
    obtain ⟨r', hr, -⟩ := ih h
    exact absurd (List.cons.inj hr).1.symm hc
  | case2 d r _ ih =>
    obtain ⟨rfl, rfl⟩ := List.cons.inj h
    exact ⟨r, rfl, rfl⟩
  | case3 => cases h

/-- Dropping spaces joins no dots. -/
theorem joinDots_oneSpace {c : Char} {r : Text} (h : ∀ r', c = '.' → r = '.' :: '.' :: r' → False) :
    joinDots (c :: oneSpace r) = c :: joinDots (oneSpace r) := by
  rw [joinDots]
  intro s hc hs
  obtain ⟨r', rfl, hr'⟩ := oneSpace_eq_cons (by decide) hs
  obtain ⟨r'', rfl, -⟩ := oneSpace_eq_cons (by decide) hr'.symm
  exact h r'' hc rfl

theorem escapeChar_spellDash (c : Char) : (spellDash c).flatMap escapeChar = escapeChar c := by
  unfold spellDash
  split
  · rfl
  · rfl
  · exact List.flatMap_singleton ..

theorem escape_joinDots (t : Text) : escape t = (joinDots (oneSpace t)).flatMap escapeChar := by
  fun_induction escape t with
  | case1 r ih =>
    have hone : oneSpace ('.' :: '.' :: '.' :: r) = '.' :: '.' :: '.' :: oneSpace r := by simp [oneSpace]
    rw [hone, joinDots, List.flatMap_cons, ih]
    rfl
  | case2 r ih => exact ih
  | case3 c r hdots hspaces ih =>
    have hone : oneSpace (c :: r) = c :: oneSpace r := by
      rw [oneSpace]
      exact hspaces
    rw [hone, joinDots_oneSpace hdots, List.flatMap_cons, ih]
  | case4 => rfl

/-- Behind the normal text, escaping goes character by character. -/
theorem escape_normalize (t : Text) : escape t = (normalize t).flatMap escapeChar := by
  rw [escape_joinDots, normalize, List.flatMap_assoc]
  simp only [escapeChar_spellDash]

/-! ## A code that no word begins another of -/

/-- The characters that are written like hyphens. -/
def dashes : Text := ['\u2013', '\u2014']

/-- The other characters that are not written as they are. -/
def substituted : Text := ['&', '%', '$', '#', '_', '{', '}', '~', '^', '\\', '\u00a0', '\u2026']

theorem not_mem_dashes {t : Text} {c : Char} (h : c ∈ normalize t) : c ∉ dashes := by
  obtain ⟨d, -, hc⟩ := List.mem_flatMap.1 h
  unfold spellDash at hc
  split at hc
  case h_3 hshort hlong =>
    obtain rfl := List.mem_singleton.1 hc
    simpa [dashes] using ⟨hshort, hlong⟩
  all_goals
    obtain rfl : c = '-' := by simpa using hc
    decide

theorem escapeChar_same {c : Char} (hd : c ∉ dashes) (hs : c ∉ substituted) : escapeChar c = [c] := by
  unfold escapeChar
  split
  case h_15 => rfl
  all_goals first
    | exact absurd (by decide) hs
    | exact absurd (by decide) hd

/-- What is written for a substituted character begins with one that is substituted, too. -/
theorem head_escapeChar {c d : Char} (hc : c ∈ substituted) (h : [d] <+: escapeChar c) :
    d ∈ substituted := by
  have hall : substituted.all fun c => (escapeChar c).head?.all fun d => d ∈ substituted := by decide
  obtain ⟨s, hs⟩ := h
  have hc' := List.all_eq_true.1 hall c hc
  rw [← hs] at hc'
  exact of_decide_eq_true hc'

theorem eq_of_prefix_escapeChar {c d : Char} (hc : c ∉ dashes) (hd : d ∉ dashes)
    (h : escapeChar c <+: escapeChar d) : c = d := by
  have hwords : substituted.all fun c => substituted.all fun d => escapeChar c <+: escapeChar d → c = d := by
    decide
  by_cases hcs : c ∈ substituted <;> by_cases hds : d ∈ substituted
  · exact of_decide_eq_true (List.all_eq_true.1 (List.all_eq_true.1 hwords c hcs) d hds) h
  · rw [escapeChar_same hd hds] at h
    obtain ⟨e, w, hw⟩ := List.exists_cons_of_ne_nil (escapeChar_ne_nil c)
    rw [hw, List.cons_prefix_cons] at h
    obtain ⟨rfl, -⟩ := h
    exact absurd (head_escapeChar hcs (hw ▸ List.cons_prefix_cons.2 ⟨rfl, List.nil_prefix⟩)) hds
  · rw [escapeChar_same hc hcs] at h
    exact absurd (head_escapeChar hds h) hcs
  · rw [escapeChar_same hc hcs, escapeChar_same hd hds, List.cons_prefix_cons] at h
    exact h.1

/-- Without dashes, what is written tells the characters. -/
theorem eq_of_flatMap_escapeChar {t u : Text} (ht : ∀ c ∈ t, c ∉ dashes) (hu : ∀ c ∈ u, c ∉ dashes)
    (h : t.flatMap escapeChar = u.flatMap escapeChar) : t = u := by
  induction t generalizing u with
  | nil =>
    cases u with
    | nil => rfl
    | cons d u =>
      have hnil := (List.append_eq_nil_iff.1 h.symm).1
      exact absurd hnil (escapeChar_ne_nil d)
  | cons c t ih =>
    cases u with
    | nil =>
      have hnil := (List.append_eq_nil_iff.1 h).1
      exact absurd hnil (escapeChar_ne_nil c)
    | cons d u =>
      obtain ⟨hc, htail⟩ := List.forall_mem_cons.1 ht
      obtain ⟨hd, hutail⟩ := List.forall_mem_cons.1 hu
      rw [List.flatMap_cons, List.flatMap_cons] at h
      have hfront : escapeChar c <+: escapeChar d ++ u.flatMap escapeChar := ⟨_, h⟩
      have hsame : c = d := by
        rcases List.prefix_or_prefix_of_prefix hfront (List.prefix_append _ _) with hp | hp
        · exact eq_of_prefix_escapeChar hc hd hp
        · exact (eq_of_prefix_escapeChar hd hc hp).symm
      subst hsame
      exact congrArg (c :: ·) (ih htail hutail (List.append_cancel_left h))

/-- Two texts are written alike exactly if they differ in nothing but how many spaces stand in a row, in
three dots for an ellipsis, and in hyphens for dashes. -/
theorem escape_eq_iff (t u : Text) : escape t = escape u ↔ normalize t = normalize u := by
  rw [escape_normalize t, escape_normalize u]
  constructor
  · exact eq_of_flatMap_escapeChar (fun c => not_mem_dashes) (fun c => not_mem_dashes)
  · intro h
    rw [h]

end Texdown.Latex
