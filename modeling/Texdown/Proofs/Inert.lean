import Texdown.Latex.Escape
import Texdown.Proofs.Brackets

/-!
# Escaped text is inert

LaTeX gives a meaning to nine characters and to the tie. Escaped text holds the nine in substitutes only,
each of which is complete: a backslash with the character that it protects, or a command with its empty
group (`Inert`). A tie stands for a no-break space. So nothing in it can join what stands behind it, it
opens and closes no group but those of its own commands, and it may stand in any group and before any
letter.

Results:
* `inert_escape`: escaped text is made of substitutes and of characters without a meaning.
* `Inert.backslash`: in such a text every backslash begins a substitute.
* `Inert.groupsClosed_eq`, `Inert.groupsClosed_le`: its groups are balanced.
* `escape_inert`: both, and what escaping leaves of spaces, dots and no-break spaces.
-/
namespace Texdown.Latex

open Text (isLetter)

/-! ## Inert texts -/

/-- The characters that mean something to LaTeX, but for the tie. -/
def specials : Text := ['&', '%', '$', '#', '_', '^', '{', '}', '\\']

/-- What may be written for a character or for three dots: the protected character, or a command with an
empty group. -/
def substitutes : List Text :=
  ['&', '%', '$', '#', '_', '{', '}'].map (['\\', ·])
    ++ ["textasciitilde", "textasciicircum", "textbackslash", "ldots"].map
      fun name => '\\' :: name.toList ++ ['{', '}']

/-- The texts made of substitutes and of characters that mean nothing to LaTeX. -/
inductive Inert : Text → Prop where
  | nil : Inert []
  | substitute {w t : Text} (hw : w ∈ substitutes) (h : Inert t) : Inert (w ++ t)
  | plain {c : Char} {t : Text} (hc : c ∉ specials) (h : Inert t) : Inert (c :: t)

theorem Inert.of_mem {w : Text} (hw : w ∈ substitutes) : Inert w := by
  rw [← List.append_nil w]
  exact .substitute hw .nil

theorem Inert.append {a b : Text} (ha : Inert a) (hb : Inert b) : Inert (a ++ b) := by
  induction ha with
  | nil => exact hb
  | substitute hw _ ih =>
    rw [List.append_assoc]
    exact .substitute hw ih
  | plain hc _ ih => exact .plain hc ih

theorem inert_escapeChar (c : Char) : Inert (escapeChar c) := by
  unfold escapeChar
  split
  case h_11 | h_12 | h_13 =>
    repeat first
      | exact .nil
      | refine .plain (by decide) ?_
  case h_15 h1 h2 h3 h4 h5 h6 h7 _ h9 h10 _ _ _ _ =>
    refine .plain ?_ .nil
    simp only [specials, List.mem_cons, List.not_mem_nil, or_false, not_or]
    exact ⟨h1, h2, h3, h4, h5, h9, h6, h7, h10⟩
  all_goals exact .of_mem (by decide)

/-- What is escaped is inert. -/
theorem inert_escape (t : Text) : Inert (escape t) := by
  fun_induction escape t with
  | case1 r ih => exact .substitute (by decide) ih
  | case2 r ih => exact ih
  | case3 c r _ _ ih => exact (inert_escapeChar c).append ih
  | case4 => exact .nil

/-! ## Backslashes -/

/-- A substitute has one backslash, in front. -/
theorem backslash_of_mem {w a b : Text} (hw : w ∈ substitutes) (h : w = a ++ '\\' :: b) : a = [] := by
  have hfront : ∀ w ∈ substitutes, w.head? = some '\\' ∧ '\\' ∉ w.tail := by decide
  cases a with
  | nil => rfl
  | cons c a =>
    subst h
    exact absurd (List.mem_append_right a List.mem_cons_self) (hfront _ hw).2

/-- Behind the backslash, a substitute is not made of letters only. -/
theorem exists_of_mem_substitutes {w : Text} (hw : w ∈ substitutes) :
    ∃ c ∈ w.tail, isLetter c = false := by
  have h : ∀ w ∈ substitutes, w.tail.any (fun c => isLetter c == false) = true := by decide
  simpa using h w hw

namespace Inert

variable {t : Text}

/-- Every backslash begins a substitute. -/
theorem backslash (h : Inert t) {a b : Text} (ht : t = a ++ '\\' :: b) :
    ∃ w ∈ substitutes, w <+: '\\' :: b := by
  induction h generalizing a with
  | nil => simp at ht
  | @substitute w t hw _ ih =>
    rcases List.append_eq_append_iff.1 ht with ⟨d, -, hd⟩ | ⟨d, hwd, hd⟩
    · exact ih hd
    · cases d with
      | nil => exact ih (a := []) hd.symm
      | cons c d =>
        obtain ⟨rfl, rfl⟩ := List.cons.inj hd
        obtain rfl := backslash_of_mem hw hwd
        exact ⟨w, hw, t, by rw [hwd]; rfl⟩
  | @plain c t hc _ ih =>
    cases a with
    | nil => exact absurd (by obtain ⟨rfl, -⟩ := List.cons.inj ht; decide) hc
    | cons d a => exact ih (List.cons.inj ht).2

/-- No control word is still open at the end. -/
theorem ends (h : Inert t) {a w : Text} (ht : t = a ++ '\\' :: w) : ∃ c ∈ w, isLetter c = false := by
  obtain ⟨v, hv, rest, hrest⟩ := h.backslash ht
  obtain ⟨c, hc, hletter⟩ := exists_of_mem_substitutes hv
  cases v with
  | nil => cases hc
  | cons d v =>
    obtain ⟨-, rfl⟩ := List.cons.inj hrest
    exact ⟨c, List.mem_append_left rest hc, hletter⟩

end Inert

/-! ## Groups -/

/-- The characters that no backslash protects. -/
def unprotected : Text → Text
  | '\\' :: _ :: t => unprotected t
  | c :: t => c :: unprotected t
  | [] => []

theorem unprotected_cons {c : Char} (hc : c ≠ '\\') (t : Text) :
    unprotected (c :: t) = c :: unprotected t := by
  rw [unprotected]
  exact fun d r hd _ => hc hd

/-- A substitute protects nothing behind it. -/
theorem unprotected_substitute {w : Text} (hw : w ∈ substitutes) (t : Text) :
    unprotected (w ++ t) = unprotected w ++ unprotected t := by
  simp only [substitutes, List.map_cons, List.map_nil, List.mem_append, List.mem_cons,
    List.not_mem_nil, or_false] at hw
  rcases hw with (rfl | rfl | rfl | rfl | rfl | rfl | rfl) | rfl | rfl | rfl | rfl <;> rfl

/-- How many groups a text opens. -/
def groupsOpened (t : Text) : Nat := (unprotected t).count '{'

/-- How many it closes. -/
def groupsClosed (t : Text) : Nat := (unprotected t).count '}'

namespace Inert

variable {t : Text}

/-- Nothing behind an inert text is protected by it. -/
theorem unprotected_append (h : Inert t) (rest : Text) :
    unprotected (t ++ rest) = unprotected t ++ unprotected rest := by
  induction h with
  | nil => rfl
  | substitute hw _ ih =>
    rw [List.append_assoc, unprotected_substitute hw, unprotected_substitute hw, ih,
      List.append_assoc]
  | @plain c t hc _ ih =>
    have hne : c ≠ '\\' := by rintro rfl; exact hc (by decide)
    rw [List.cons_append, unprotected_cons hne, unprotected_cons hne, ih, List.cons_append]

/-- It closes every group that it opens. -/
theorem groupsClosed_eq (h : Inert t) : groupsClosed t = groupsOpened t := by
  have hbalanced : ∀ w ∈ substitutes, groupsClosed w = groupsOpened w := by decide
  unfold groupsClosed groupsOpened at *
  induction h with
  | nil => rfl
  | substitute hw _ ih =>
    rw [unprotected_substitute hw, List.count_append, List.count_append, ih, hbalanced _ hw]
  | @plain c t hc _ ih =>
    have hne : ∀ d ∈ specials, c ≠ d := fun d hd he => hc (he ▸ hd)
    rw [unprotected_cons (hne '\\' (by decide)), List.count_cons_of_ne (hne '}' (by decide)),
      List.count_cons_of_ne (hne '{' (by decide)), ih]

/-- No part of it closes a group that it has not opened. -/
theorem groupsClosed_le (h : Inert t) {u : Text} (hu : u <+: t) : groupsClosed u ≤ groupsOpened u := by
  have hparts : ∀ w ∈ substitutes, ∀ n ∈ List.range (w.length + 1),
      groupsClosed (w.take n) ≤ groupsOpened (w.take n) := by decide
  have hbalanced : ∀ w ∈ substitutes, groupsClosed w = groupsOpened w :=
    fun w hw => (of_mem hw).groupsClosed_eq
  unfold groupsClosed groupsOpened at *
  induction h generalizing u with
  | nil => rw [List.prefix_nil.1 hu]; exact Nat.le_refl _
  | @substitute w t hw _ ih =>
    obtain ⟨s, hs⟩ := hu
    rcases List.append_eq_append_iff.1 hs with ⟨d, rfl, -⟩ | ⟨v, rfl, rfl⟩
    · have hlength : u.length < (u ++ d).length + 1 := by
        rw [List.length_append]
        omega
      have hpart := hparts _ hw u.length (List.mem_range.2 hlength)
      rwa [List.take_left] at hpart
    · rw [unprotected_substitute hw, List.count_append, List.count_append, hbalanced w hw]
      exact Nat.add_le_add_left (ih (List.prefix_append v s)) _
  | @plain c t hc _ ih =>
    have hne : ∀ d ∈ specials, c ≠ d := fun d hd he => hc (he ▸ hd)
    rcases List.prefix_cons_iff.1 hu with rfl | ⟨v, rfl, hv⟩
    · exact Nat.le_refl _
    · rw [unprotected_cons (hne '\\' (by decide)), List.count_cons_of_ne (hne '}' (by decide)),
        List.count_cons_of_ne (hne '{' (by decide))]
      exact ih hv

end Inert

/-! ## Spaces, dots and no-break spaces -/

/-- A space or a dot is written for nothing but itself. -/
theorem mem_escapeChar {c d : Char} (hd : d = ' ' ∨ d = '.') (h : d ∈ escapeChar c) : c = d := by
  unfold escapeChar at h
  split at h
  case h_15 => exact (List.mem_singleton.1 h).symm
  all_goals
    rcases hd with rfl | rfl
    · exact absurd h (by decide)
    · exact absurd h (by decide)

theorem escapeChar_ne_nil (c : Char) : escapeChar c ≠ [] := by
  unfold escapeChar
  split
  case h_14 => exact List.cons_ne_nil _ _
  all_goals simp

/-- A space or a dot in front of escaped text stands in front of the text, and behind a dot the text
behind it is escaped. -/
theorem exists_of_head_escape {t s : Text} {d : Char} (hd : d = ' ' ∨ d = '.')
    (h : escape t = d :: s) : ∃ r, t = d :: r ∧ (d = '.' → s = escape r) := by
  fun_induction escape t with
  | case1 r ih =>
    obtain ⟨rfl, -⟩ := List.cons.inj h
    exact absurd hd (by decide)
  | case2 r ih =>
    obtain ⟨r', hr, -⟩ := ih h
    obtain ⟨rfl, -⟩ := List.cons.inj hr
    exact ⟨_, rfl, fun hdot => absurd hdot (by decide)⟩
  | case3 c r _ _ ih =>
    obtain ⟨e, w, hw⟩ := List.exists_cons_of_ne_nil (escapeChar_ne_nil c)
    rw [hw] at h
    obtain ⟨rfl, hs⟩ := List.cons.inj h
    obtain rfl : c = e := mem_escapeChar hd (hw ▸ List.mem_cons_self)
    refine ⟨r, rfl, ?_⟩
    rintro rfl
    obtain ⟨-, rfl⟩ := List.cons.inj hw
    exact hs.symm
  | case4 => cases h

/-- A run of spaces or dots that stands behind a character, or that the character begins. -/
theorem run_infix {c d : Char} {r : Text} {n : Nat} (hd : d = ' ' ∨ d = '.')
    (h : List.replicate (n + 1) d <:+: escapeChar c ++ escape r) :
    List.replicate (n + 1) d <:+: escape r ∨ c = d ∧ List.replicate n d <+: escape r := by
  by_cases hc : c = d
  · subst hc
    have hsame : escapeChar c = [c] := by rcases hd with rfl | rfl <;> rfl
    rw [hsame, List.singleton_append, List.infix_cons_iff, List.replicate_succ,
      List.cons_prefix_cons] at h
    rcases h with ⟨-, h⟩ | h
    · exact .inr ⟨rfl, h⟩
    · exact .inl h
  · refine .inl (infix_of_infix_append (a := []) ?_ h)
    intro x hx hrun
    rw [List.eq_of_mem_replicate hrun] at hx
    exact hc (mem_escapeChar hd hx)

/-- A run of spaces or dots does not begin in an ellipsis. -/
theorem run_behind_ellipsis {d : Char} {r : Text} {n : Nat} (hd : d = ' ' ∨ d = '.')
    (h : List.replicate n d <:+: ellipsis ++ escape r) : List.replicate n d <:+: escape r := by
  refine infix_of_infix_append (a := []) (g := ellipsis) (fun x hx hrun => ?_) h
  rw [List.eq_of_mem_replicate hrun] at hx
  rcases hd with rfl | rfl <;> exact absurd hx (by decide)

/-- Several spaces are written as one. -/
theorem not_spaces_infix (t : Text) : ¬ [' ', ' '] <:+: escape t := by
  fun_induction escape t with
  | case1 r ih => exact fun h => ih (run_behind_ellipsis (n := 2) (.inl rfl) h)
  | case2 r ih => exact ih
  | case3 c r _ hspaces ih =>
    intro h
    rcases run_infix (d := ' ') (n := 1) (.inl rfl) h with h | ⟨rfl, s, hs⟩
    · exact ih h
    · obtain ⟨r', rfl, -⟩ := exists_of_head_escape (.inl rfl) hs.symm
      exact hspaces r' rfl rfl
  | case4 => exact fun h => by simpa using h.length_le

/-- Three dots are written as an ellipsis. -/
theorem not_dots_infix (t : Text) : ¬ ['.', '.', '.'] <:+: escape t := by
  fun_induction escape t with
  | case1 r ih => exact fun h => ih (run_behind_ellipsis (n := 3) (.inr rfl) h)
  | case2 r ih => exact ih
  | case3 c r hdots _ ih =>
    intro h
    rcases run_infix (d := '.') (n := 2) (.inr rfl) h with h | ⟨rfl, s, hs⟩
    · exact ih h
    · obtain ⟨r', rfl, hr'⟩ := exists_of_head_escape (.inr rfl) hs.symm
      obtain ⟨r'', rfl, -⟩ := exists_of_head_escape (.inr rfl) (hr' rfl).symm
      exact hdots r'' rfl rfl
  | case4 => exact fun h => by simpa using h.length_le

/-- The tie of LaTeX is written for a no-break space and for nothing else. -/
theorem count_tie_escapeChar (c : Char) : (escapeChar c).count '~' = [c].count '\u00a0' := by
  unfold escapeChar
  split
  case h_15 htilde _ _ hspace _ _ _ =>
    rw [List.count_singleton, List.count_singleton, if_neg (by simpa using htilde),
      if_neg (by simpa using hspace)]
  all_goals rfl

theorem count_tie_escape (t : Text) : (escape t).count '~' = t.count '\u00a0' := by
  fun_induction escape t with
  | case1 r ih =>
    have hdot : '.' ≠ '\u00a0' := by decide
    have hnone : ellipsis.count '~' = 0 := by decide
    rw [List.count_append, ih, hnone, Nat.zero_add, List.count_cons_of_ne hdot,
      List.count_cons_of_ne hdot, List.count_cons_of_ne hdot]
  | case2 r ih => rw [ih]; rfl
  | case3 c r _ _ ih => rw [List.count_append, count_tie_escapeChar, ih, ← List.count_append]; rfl
  | case4 => rfl

/-- Escaped text is inert: every backslash begins a complete substitute, apart from these there is no
character that means something to LaTeX but for ties, one for each no-break space. Its groups are balanced,
it protects nothing behind it, and no control word is open at its end. -/
theorem escape_inert (t : Text) :
    Inert (escape t) ∧
    (∀ a b, escape t = a ++ '\\' :: b → ∃ w ∈ substitutes, w <+: '\\' :: b) ∧
    (escape t).count '~' = t.count '\u00a0' ∧
    ¬ [' ', ' '] <:+: escape t ∧ ¬ ['.', '.', '.'] <:+: escape t ∧
    groupsClosed (escape t) = groupsOpened (escape t) ∧
    (∀ u, u <+: escape t → groupsClosed u ≤ groupsOpened u) ∧
    (∀ rest, unprotected (escape t ++ rest) = unprotected (escape t) ++ unprotected rest) ∧
    (∀ a w, escape t = a ++ '\\' :: w → ∃ c ∈ w, isLetter c = false) := by
  have h := inert_escape t
  refine ⟨h, ?_, count_tie_escape t, not_spaces_infix t, not_dots_infix t, h.groupsClosed_eq, ?_,
    h.unprotected_append, ?_⟩
  · intro a b hab
    exact h.backslash hab
  · intro u hu
    exact h.groupsClosed_le hu
  · intro a w haw
    exact h.ends haw

end Texdown.Latex
