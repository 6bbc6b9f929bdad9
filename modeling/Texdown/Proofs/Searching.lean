import Texdown.Proofs.Locating

/-!
# Searching from a cursor

A walk only looks at what is in front of its cursor. So what it does there can be told from that text
alone: where the next mark is, which bracket comes first, and where a fragment leaves it. A fragment that
occurs in front of a mark, or has no mark and does not occur behind it, cannot lead the walk past the mark.

Results:
* `indexOf?_eq_some_iff`: what is looked for is found where it stands first at or after the cursor.
* `le_of_indexOf?`: such a fragment is found in front of the mark or not at all.
* `rest_skipPast`, `skipPast_spec`: a walk that skips a mark stands behind it, or there was none.
* `nextOpener?_of_rest`: the next opener is the one that comes first.
* `rest_find`: what a walk has in front of it when it has looked for a fragment.
-/
namespace Texdown

namespace Text

/-! ## Searching -/

/-- A text stands in a source at an offset. -/
def StandsAt (t src : Text) (i : Nat) : Prop := t <+: src.drop i

/-- What stands somewhere is found there or before. -/
theorem exists_indexOf?_le {t u : Text} {j : Nat} (h : t.StandsAt u j) : ∃ i ≤ j, indexOf? t u = some i := by
  unfold StandsAt at h
  induction u generalizing j with
  | nil =>
    obtain rfl : t = [] := by simpa using h
    exact ⟨0, Nat.zero_le j, rfl⟩
  | cons c u ih =>
    by_cases hp : t.isPrefixOf (c :: u) = true
    · exact ⟨0, Nat.zero_le j, if_pos hp⟩
    · cases j with
      | zero => exact absurd (List.isPrefixOf_iff_prefix.2 h) hp
      | succ j =>
        obtain ⟨i, hle, hi⟩ := ih h
        exact ⟨i + 1, Nat.succ_le_succ hle, by rw [indexOf?, if_neg hp, hi]; rfl⟩

theorem indexOf?_append_of_not_mem {c : Char} {a : Text} (h : c ∉ a) (b : Text) :
    indexOf? [c] (a ++ b) = (indexOf? [c] b).map (a.length + ·) := by
  induction a with
  | nil => simp
  | cons d a ih =>
    have hd : c ≠ d := fun hd => h (hd ▸ List.mem_cons_self)
    have hfront : [c].isPrefixOf (d :: (a ++ b)) = false := by simp [List.isPrefixOf_cons_cons, hd]
    rw [List.cons_append, indexOf?, hfront, ih (List.not_mem_of_not_mem_cons h)]
    simp [Function.comp_def, Nat.add_right_comm]

theorem indexOf?_cons_self (c : Char) (t : Text) : indexOf? [c] (c :: t) = some 0 := by
  simp [indexOf?]

theorem not_mem_of_indexOf? {c : Char} {t : Text} (h : indexOf? [c] t = none) : c ∉ t := by
  intro hmem
  obtain ⟨a, b, rfl, ha⟩ := List.eq_append_cons_of_mem hmem
  rw [indexOf?_append_of_not_mem ha, indexOf?_cons_self] at h
  cases h

/-- What occurs in the first part is found there. -/
theorem indexOf?_append_of_infix {t a : Text} (h : t <:+: a) (b : Text) :
    ∃ i, indexOf? t (a ++ b) = some i ∧ i + t.length ≤ a.length := by
  induction a with
  | nil =>
    obtain rfl := List.infix_nil.1 h
    cases b with
    | nil => exact ⟨0, rfl, Nat.le_refl _⟩
    | cons c b => exact ⟨0, rfl, Nat.le_refl _⟩
  | cons c a ih =>
    by_cases hp : t.isPrefixOf (c :: (a ++ b)) = true
    · refine ⟨0, ?_, by simpa using h.length_le⟩
      rw [List.cons_append, indexOf?, if_pos hp]
    · rcases List.infix_cons_iff.1 h with hpre | hin
      · exact absurd (List.isPrefixOf_iff_prefix.2 (hpre.trans (List.prefix_append (c :: a) b))) hp
      · obtain ⟨i, hi, hle⟩ := ih hin
        refine ⟨i + 1, ?_, by simp only [List.length_cons]; omega⟩
        rw [List.cons_append, indexOf?, if_neg hp, hi]
        rfl

/-- A text that occurs in front of a mark, or has no mark and does not occur behind it, is found in front
of it or not at all. -/
theorem le_of_indexOf? {t own behind : Text} {mark : Char} {i : Nat}
    (h : t <:+: own ∨ mark ∉ t ∧ ¬ t <:+: behind) (hi : indexOf? t (own ++ mark :: behind) = some i) :
    i + t.length ≤ own.length := by
  rcases h with hin | ⟨hm, hout⟩
  · obtain ⟨j, hj, hle⟩ := indexOf?_append_of_infix hin (mark :: behind)
    rw [hj] at hi
    cases hi
    exact hle
  · have hpre := indexOf?_eq_some hi
    rcases Nat.lt_or_ge own.length i with hlt | hge
    · obtain ⟨j, rfl⟩ := Nat.exists_eq_add_of_lt hlt
      rw [Nat.add_assoc, List.drop_length_add_append, List.drop_succ_cons] at hpre
      exact absurd (hpre.isInfix.trans (List.drop_suffix j behind).isInfix) hout
    · -- An occurrence that began in front of the mark and went on behind it would have the mark.
      rw [List.drop_append_of_le_length hge] at hpre
      refine Nat.not_lt.1 fun hlt => hm ?_
      have hmark : own.drop i ++ [mark] <+: own.drop i ++ mark :: behind := by simp
      have hlong : (own.drop i ++ [mark]).length ≤ t.length := by simp; omega
      exact (List.prefix_of_prefix_length_le hmark hpre hlong).subset (by simp)

/-- A character is on this side of a mark or behind it. -/
theorem cut_at_mark {a b own behind : Text} {c mark : Char} (hc : c ≠ mark)
    (h : own ++ mark :: behind = a ++ c :: b) :
    (∃ own', own = a ++ c :: own' ∧ b = own' ++ mark :: behind) ∨
      ∃ a', a = own ++ mark :: a' ∧ behind = a' ++ c :: b := by
  rcases List.append_eq_append_iff.1 h with ⟨a', rfl, hbehind⟩ | ⟨own', rfl, hown⟩
  · cases a' with
    | nil => exact absurd (List.cons.inj hbehind).1.symm hc
    | cons d a' =>
      obtain ⟨rfl, hrest⟩ := List.cons.inj hbehind
      exact .inr ⟨a', rfl, hrest⟩
  · cases own' with
    | nil => exact absurd (List.cons.inj hown).1 hc
    | cons d own' =>
      obtain ⟨rfl, hrest⟩ := List.cons.inj hown
      exact .inl ⟨own', rfl, hrest⟩

end Text

namespace Locator

variable {l : Locator} {own behind : Text} {mark : Char}

/-! ## The first occurrence -/

/-- A text stands at `i`, and nowhere between the cursor and `i`. -/
structure FirstAt (l : Locator) (t : Text) (i : Nat) : Prop where
  from_cursor : l.cursor ≤ i
  stands : t.StandsAt l.source i
  first : ∀ j, l.cursor ≤ j → j < i → ¬ t.StandsAt l.source j

/-- What stands at or after the cursor is found there or before. -/
theorem exists_indexOf? {t : Text} (ht : t ≠ []) {j : Nat} (hj : l.cursor ≤ j) (h : t.StandsAt l.source j) :
    ∃ i ≤ j, l.indexOf? t = some i := by
  have hne : l.source.drop j ≠ [] := fun hnil => ht (List.prefix_nil.1 (hnil ▸ h))
  have hlt : j < l.source.length := by simpa using hne
  obtain ⟨k, rfl⟩ := Nat.exists_eq_add_of_le hj
  have hrest : t.StandsAt l.rest k := by
    rw [Text.StandsAt, rest, List.drop_drop]
    exact h
  obtain ⟨i, hle, hi⟩ := Text.exists_indexOf?_le hrest
  refine ⟨l.cursor + i, Nat.add_le_add_left hle _, ?_⟩
  rw [indexOf?, if_pos (by omega), hi]
  rfl

theorem indexOf?_eq_some_iff {t : Text} (ht : t ≠ []) {i : Nat} : l.indexOf? t = some i ↔ l.FirstAt t i := by
  have hstands : ∀ {i}, l.indexOf? t = some i → l.cursor ≤ i ∧ t.StandsAt l.source i := by
    intro i hi
    obtain ⟨hle, -, hslice⟩ := indexOf?_spec ht hi
    rw [Span.slice, List.drop_take, Nat.add_sub_cancel_left] at hslice
    exact ⟨hle, List.prefix_iff_eq_take.2 hslice.symm⟩
  constructor
  · intro hi
    refine ⟨(hstands hi).1, (hstands hi).2, fun j hj hlt h => ?_⟩
    obtain ⟨k, hle, hk⟩ := exists_indexOf? ht hj h
    rw [hk] at hi
    cases hi
    omega
  · intro h
    obtain ⟨k, hle, hk⟩ := exists_indexOf? ht h.from_cursor h.stands
    rcases Nat.lt_or_eq_of_le hle with hlt | rfl
    · exact absurd (hstands hk).2 (h.first k (hstands hk).1 hlt)
    · exact hk

theorem indexOf?_eq_none_iff {t : Text} (ht : t ≠ []) : l.indexOf? t = none ↔ ∀ i, ¬ l.FirstAt t i := by
  simp only [Option.eq_none_iff_forall_ne_some, ne_eq, indexOf?_eq_some_iff ht]

/-! ## What a walk has in front of it -/

@[simp] theorem source_skipPast (l : Locator) (mark : Text) : (l.skipPast mark).2.source = l.source := by
  unfold skipPast
  split <;> rfl

@[simp] theorem source_find (l : Locator) (fragment : Text) : (l.find fragment).2.source = l.source := by
  unfold find
  split
  · rfl
  · split <;> rfl

theorem indexOf?_of_rest {r : Text} (h : l.rest = r) (hr : r ≠ []) (t : Text) :
    l.indexOf? t = (Text.indexOf? t r).map (l.cursor + ·) := by
  have hle : l.cursor ≤ l.source.length := by
    refine Nat.le_of_not_lt fun hlt => hr ?_
    rw [← h, rest, List.drop_of_length_le (Nat.le_of_lt hlt)]
  rw [indexOf?, if_pos hle, h]

theorem rest_of_append {a b : Text} (h : l.rest = a ++ b) :
    ({ l with cursor := l.cursor + a.length } : Locator).rest = b := by
  rw [rest, ← List.drop_drop]
  exact (congrArg (List.drop a.length) h).trans List.drop_left

theorem indexOf?_mark (h : l.rest = own ++ mark :: behind) (hm : mark ∉ own) :
    l.indexOf? [mark] = some (l.cursor + own.length) := by
  rw [indexOf?_of_rest h (by simp), Text.indexOf?_append_of_not_mem hm, Text.indexOf?_cons_self]
  rfl

/-- The walk goes past the first mark. -/
theorem rest_skipPast (h : l.rest = own ++ mark :: behind) (hm : mark ∉ own) :
    (l.skipPast [mark]).2.rest = behind := by
  unfold skipPast
  rw [indexOf?_mark h hm]
  rw [List.append_cons] at h
  have hrest := rest_of_append h
  rwa [List.length_append, ← Nat.add_assoc] at hrest

/-- The walk stands behind a mark, or there is none in front of it. -/
theorem skipPast_spec (l : Locator) (mark : Char) :
    (∃ front, l.source = front ++ mark :: (l.skipPast [mark]).2.rest) ∨
      (l.skipPast [mark]).2 = l ∧ mark ∉ l.rest := by
  unfold skipPast
  cases hi : l.indexOf? [mark] with
  | none =>
    refine .inr ⟨rfl, ?_⟩
    cases hr : l.rest with
    | nil => exact List.not_mem_nil
    | cons c r =>
      rw [indexOf?_of_rest hr (by simp)] at hi
      exact Text.not_mem_of_indexOf? (Option.map_eq_none_iff.1 hi)
  | some i =>
    obtain ⟨-, hle, hslice⟩ := indexOf?_spec (by simp) hi
    refine .inl ⟨l.source.take i, ?_⟩
    rw [Span.slice, List.drop_take, Nat.add_sub_cancel_left] at hslice
    have hdrop : l.source.drop i = mark :: l.source.drop (i + 1) := by
      rw [← List.take_append_drop 1 (l.source.drop i), List.drop_drop]
      exact congrArg (· ++ _) hslice
    rw [rest, ← hdrop, List.take_append_drop]

/-- The character that an opener is. -/
def Opener.char : Opener → Char
  | .angle => '<'
  | .bracket => '['

/-- The opener that comes first is the next one. -/
theorem nextOpener?_of_rest {o : Opener} (h : l.rest = own ++ o.char :: behind) (ha : '<' ∉ own)
    (hb : '[' ∉ own) : l.nextOpener? = some o := by
  have hother : ∀ {c i}, c ≠ o.char → c ∉ own → l.indexOf? [c] = some i → l.cursor + own.length < i := by
    intro c i hc hown hi
    rw [indexOf?_of_rest h (by simp), List.append_cons,
      Text.indexOf?_append_of_not_mem (by simpa using ⟨hown, hc⟩), Option.map_map] at hi
    obtain ⟨j, -, rfl⟩ := Option.map_eq_some_iff.1 hi
    simp only [Function.comp_apply, List.length_append, List.length_singleton]
    omega
  unfold nextOpener?
  cases o with
  | angle =>
    have hmark : l.indexOf? ['<'] = some (l.cursor + own.length) := indexOf?_mark h ha
    rw [hmark]
    cases hi : l.indexOf? ['['] with
    | none => rfl
    | some i => simp only [if_pos (hother (by decide) hb hi)]
  | bracket =>
    have hmark : l.indexOf? ['['] = some (l.cursor + own.length) := indexOf?_mark h hb
    rw [hmark]
    cases hi : l.indexOf? ['<'] with
    | none => rfl
    | some i => simp only [if_neg (Nat.lt_asymm (hother (by decide) ha hi))]

/-- A text that cannot be mistaken leaves the walk in front of the mark; if it occurs there, behind it. -/
theorem rest_find {t : Text} (h : l.rest = own ++ mark :: behind)
    (ht : t <:+: own ∨ mark ∉ t ∧ ¬ t <:+: behind) :
    ∃ passed own', own = passed ++ own' ∧ (l.find t).2.rest = own' ++ mark :: behind ∧
      (t <:+: own → t <:+: passed) := by
  unfold find span?
  rw [indexOf?_of_rest h (by simp)]
  split
  · next hempty => exact ⟨[], own, rfl, h, fun _ => by simpa using hempty⟩
  · cases hi : Text.indexOf? t (own ++ mark :: behind) with
    | none =>
      refine ⟨[], own, rfl, h, fun hin => ?_⟩
      obtain ⟨i, hsome, -⟩ := Text.indexOf?_append_of_infix hin (mark :: behind)
      rw [hsome] at hi
      cases hi
    | some i =>
      have hle := Text.le_of_indexOf? ht hi
      have hpre := Text.indexOf?_eq_some hi
      have htake : (own.take (i + t.length)).length = i + t.length := List.length_take_of_le hle
      refine ⟨own.take (i + t.length), own.drop (i + t.length), by simp, ?_, fun _ => ?_⟩
      · rw [← List.take_append_drop (i + t.length) own, List.append_assoc] at h
        have hrest := rest_of_append h
        rw [htake, ← Nat.add_assoc] at hrest
        exact hrest
      · rw [List.drop_append_of_le_length (by omega)] at hpre
        have hslice : t = (own.take (i + t.length)).drop i := by
          rw [List.drop_take, Nat.add_sub_cancel_left, List.prefix_iff_eq_take.1 hpre,
            List.take_append_of_le_length (by simp; omega)]
          simp
        exact ⟨_, _, (List.append_nil _).trans (hslice ▸ List.take_append_drop i _)⟩

end Locator

end Texdown
