import Texdown.Math.Table

/-!
# What a disguise records

`Disguised t d offsets` says how a disguised text `d` differs from the text `t` it was made of: only
in the pairs at the recorded offsets, which are dollars before and backticks after. A pair stands
alone: no backtick touches it on either side, so each is a run of exactly two.

Results:
* `disguised_disguise`: this is what `disguise` makes of any text.
* `Disguised.apart`: recorded offsets are at least three apart.
* `Disguised.unveil_slice`: giving back the pairs inside a slice of `d` gives the slice of `t`, but for
  a pair that an end of the slice cuts in two, whose character inside stays a backtick.
-/
namespace Texdown

namespace Span

/-- The part of a text that a span covers. -/
def slice (s : Span) (t : Text) : Text := (t.take s.stop).drop s.start

theorem getElem?_slice (s : Span) (t : Text) (i : Nat) :
    (s.slice t)[i]? = if s.start + i < s.stop then t[s.start + i]? else none := by
  rw [slice, List.getElem?_drop, List.getElem?_take]

theorem length_slice (s : Span) {t : Text} (h : s.stop ≤ t.length) :
    (s.slice t).length = s.stop - s.start := by
  rw [slice, List.length_drop, List.length_take, Nat.min_eq_left h]

end Span

namespace Math

/-- An offset lies in one of the recorded pairs. -/
def Covered (offsets : List Nat) (i : Nat) : Prop := i ∈ offsets ∨ ∃ p ∈ offsets, i = p + 1

instance (offsets : List Nat) (i : Nat) : Decidable (Covered offsets i) :=
  inferInstanceAs (Decidable (_ ∨ _))

/-- `d` is `t` with the pairs at the offsets disguised, each on its own. -/
structure Disguised (t d : Text) (offsets : List Nat) : Prop where
  length : d.length = t.length
  sorted : offsets.Pairwise (· < ·)
  dollars : ∀ p ∈ offsets, t[p]? = some '$' ∧ t[p + 1]? = some '$'
  backticks : ∀ p ∈ offsets, d[p]? = some '`' ∧ d[p + 1]? = some '`'
  before : ∀ p, p + 1 ∈ offsets → d[p]? ≠ some '`'
  behind : ∀ p ∈ offsets, d[p + 2]? ≠ some '`'
  kept : ∀ i, ¬ Covered offsets i → d[i]? = t[i]?

/-! ## The scan -/

theorem Disguised.same (t : Text) : Disguised t t [] where
  length := rfl
  sorted := .nil
  dollars := by simp
  backticks := by simp
  before := by simp
  behind := by simp
  kept := fun _ _ => rfl

/-- A character that is kept. -/
theorem Disguised.cons {t d : Text} {offsets : List Nat} (h : Disguised t d offsets) {c : Char}
    (hc : 0 ∈ offsets → c ≠ '`') : Disguised (c :: t) (c :: d) (offsets.map (· + 1)) where
  length := by simp [h.length]
  sorted := h.sorted.map _ fun _ _ hab => Nat.add_lt_add_right hab 1
  dollars p hp := by
    obtain ⟨q, hq, rfl⟩ := List.mem_map.1 hp
    exact h.dollars q hq
  backticks p hp := by
    obtain ⟨q, hq, rfl⟩ := List.mem_map.1 hp
    exact h.backticks q hq
  before p hp := by
    obtain ⟨q, hq, hqp⟩ := List.mem_map.1 hp
    obtain rfl : q = p := by omega
    cases q with
    | zero => simpa using hc hq
    | succ q => exact h.before q hq
  behind p hp := by
    obtain ⟨q, hq, rfl⟩ := List.mem_map.1 hp
    exact h.behind q hq
  kept i hi := by
    cases i with
    | zero => rfl
    | succ i =>
      refine h.kept i fun hc => hi ?_
      rcases hc with hc | ⟨p, hp, rfl⟩
      · exact .inl (List.mem_map_of_mem hc)
      · exact .inr ⟨p + 1, List.mem_map_of_mem hp, rfl⟩

/-- A pair that is disguised. -/
theorem Disguised.pair {t d : Text} {offsets : List Nat} (h : Disguised t d offsets)
    (h0 : 0 ∉ offsets) (hd : d.head? ≠ some '`') :
    Disguised ('$' :: '$' :: t) ('`' :: '`' :: d) (0 :: offsets.map (· + 2)) where
  length := by simp [h.length]
  sorted := by
    refine .cons (fun q hq => ?_) (h.sorted.map _ fun _ _ hab => Nat.add_lt_add_right hab 2)
    obtain ⟨p, -, rfl⟩ := List.mem_map.1 hq
    omega
  dollars p hp := by
    rcases List.mem_cons.1 hp with rfl | hp
    · exact ⟨rfl, rfl⟩
    · obtain ⟨q, hq, rfl⟩ := List.mem_map.1 hp
      exact h.dollars q hq
  backticks p hp := by
    rcases List.mem_cons.1 hp with rfl | hp
    · exact ⟨rfl, rfl⟩
    · obtain ⟨q, hq, rfl⟩ := List.mem_map.1 hp
      exact h.backticks q hq
  before p hp := by
    rcases List.mem_cons.1 hp with hp | hp
    · omega
    · obtain ⟨q, hq, hqp⟩ := List.mem_map.1 hp
      obtain rfl : p = q + 1 := by omega
      cases q with
      | zero => exact absurd hq h0
      | succ q => exact h.before q hq
  behind p hp := by
    rcases List.mem_cons.1 hp with rfl | hp
    · simpa [List.head?_eq_getElem?] using hd
    · obtain ⟨q, hq, rfl⟩ := List.mem_map.1 hp
      exact h.behind q hq
  kept i hi := by
    match i with
    | 0 => exact absurd (.inl List.mem_cons_self) hi
    | 1 => exact absurd (.inr ⟨0, List.mem_cons_self, rfl⟩) hi
    | i + 2 =>
      refine h.kept i fun hc => hi ?_
      rcases hc with hc | ⟨p, hp, rfl⟩
      · exact .inl (List.mem_cons_of_mem _ (List.mem_map_of_mem hc))
      · exact .inr ⟨p + 2, List.mem_cons_of_mem _ (List.mem_map_of_mem hp), rfl⟩

/-- Where a scan starts only shifts what it records. -/
theorem scan_shift (before : Option Char) (i k : Nat) (t : Text) :
    scan before (i + k) t = ((scan before i t).1, (scan before i t).2.map (· + k)) := by
  induction before, i, t using scan.induct with
  | case1 before i r h ih =>
    rw [scan, scan, if_pos h, if_pos h, show i + k + 1 = i + 1 + k by omega, ih]
  | case2 before i r h ih =>
    rw [scan, scan, if_neg h, if_neg h, show i + k + 2 = i + 2 + k by omega, ih]
    rfl
  | case3 before i c r hne ih =>
    rw [scan, scan, show i + k + 1 = i + 1 + k by omega, ih]
    all_goals exact hne
  | case4 before i => simp [scan]

theorem disguised_scan (before : Option Char) (t : Text) :
    Disguised t (scan before 0 t).1 (scan before 0 t).2 ∧
      (0 ∈ (scan before 0 t).2 → before ≠ some '`') := by
  -- Every call is shifted back to offset zero, so the offset takes no part in the induction.
  refine scan.induct (motive := fun before _ t => Disguised t (scan before 0 t).1 (scan before 0 t).2 ∧
    (0 ∈ (scan before 0 t).2 → before ≠ some '`')) ?_ ?_ ?_ ?_ before 0 t
  · intro before _ r h ih
    rw [scan, if_pos h, scan_shift _ 0]
    exact ⟨ih.1.cons fun _ => by decide, fun h0 => by simp at h0⟩
  · intro before _ r h ih
    rw [scan, if_neg h, scan_shift _ 0 2]
    rw [not_or] at h
    have h0 : 0 ∉ (scan (some '`') 0 r).2 := fun h0 => ih.2 h0 rfl
    refine ⟨ih.1.pair h0 ?_, fun _ => h.1⟩
    rw [List.head?_eq_getElem?, ih.1.kept 0, ← List.head?_eq_getElem?]
    · exact h.2
    · rintro (hc | ⟨p, -, hp⟩)
      · exact h0 hc
      · omega
  · intro before _ c r hne ih
    rw [scan, scan_shift _ 0]
    · exact ⟨ih.1.cons fun h0 hc => ih.2 h0 (by rw [hc]), fun h0 => by simp at h0⟩
    · exact hne
  · intro before _
    exact ⟨by rw [scan]; exact .same [], by simp [scan]⟩

theorem disguised_disguise (t : Text) : Disguised t (disguise t).1 (disguise t).2 := by
  unfold disguise
  split
  · exact .same t
  · exact (disguised_scan none t).1

namespace Disguised

variable {t d : Text} {offsets : List Nat}

theorem apart (h : Disguised t d offsets) {p q : Nat} (hp : p ∈ offsets) (hq : q ∈ offsets)
    (hpq : p < q) : p + 3 ≤ q := by
  obtain ⟨h1, h2⟩ := h.backticks p hp
  refine Nat.not_lt.1 fun hlt => ?_
  rcases (by omega : q = p + 1 ∨ q = p + 1 + 1) with rfl | rfl
  · exact h.before p hq h1
  · exact h.before (p + 1) hq h2

theorem pairwise (h : Disguised t d offsets) : offsets.Pairwise fun p q => p + 1 < q :=
  h.sorted.imp_of_mem fun hp hq hpq => by
    have := h.apart hp hq hpq
    omega

theorem lt_length (h : Disguised t d offsets) {p : Nat} (hp : p ∈ offsets) : p + 1 < t.length :=
  (List.getElem?_eq_some_iff.1 (h.dollars p hp).2).1

theorem dollar (h : Disguised t d offsets) {i : Nat} (hi : Covered offsets i) : t[i]? = some '$' := by
  rcases hi with hi | ⟨p, hp, rfl⟩
  · exact (h.dollars i hi).1
  · exact (h.dollars p hp).2

theorem backtick (h : Disguised t d offsets) {i : Nat} (hi : Covered offsets i) :
    d[i]? = some '`' := by
  rcases hi with hi | ⟨p, hp, rfl⟩
  · exact (h.backticks i hi).1
  · exact (h.backticks p hp).2

end Disguised

/-! ## Giving pairs back -/

/-- The offsets whose pairs lie in a span. -/
def inside (s : Span) (offsets : List Nat) : List Nat :=
  offsets.filter fun p => s.start ≤ p && p + 1 < s.stop

theorem mem_inside {s : Span} {offsets : List Nat} {p : Nat} :
    p ∈ inside s offsets ↔ p ∈ offsets ∧ s.start ≤ p ∧ p + 1 < s.stop := by
  simp [inside]

/-- A fragment that stands at a span, with the pairs inside the span given back. -/
def unveil (offsets : List Nat) (s : Span) (fragment : Text) : Text :=
  fragment.mapIdx fun j c => if Covered (inside s offsets) (s.start + j) then '$' else c

theorem getElem?_unveil (offsets : List Nat) (s : Span) (fragment : Text) (j : Nat) :
    (unveil offsets s fragment)[j]? =
      fragment[j]?.map fun c => if Covered (inside s offsets) (s.start + j) then '$' else c := by
  rw [unveil, List.getElem?_mapIdx]

theorem covered_of_inside {offsets : List Nat} {s : Span} {i : Nat}
    (h : Covered (inside s offsets) i) : Covered offsets i := by
  rcases h with h | ⟨p, hp, rfl⟩
  · exact .inl (mem_inside.1 h).1
  · exact .inr ⟨p, (mem_inside.1 hp).1, rfl⟩

/-- An offset of a span at which an end of the span cuts a recorded pair in two. -/
def Cut (offsets : List Nat) (s : Span) (i : Nat) : Prop :=
  (i = s.start ∧ ∃ p ∈ offsets, p + 1 = i) ∨ (i + 1 = s.stop ∧ i ∈ offsets)

instance (offsets : List Nat) (s : Span) (i : Nat) : Decidable (Cut offsets s i) :=
  inferInstanceAs (Decidable (_ ∨ _))

/-- A slice of a text, but for a pair that an end of the slice cuts in two: what is left of it in
the slice is a backtick. -/
def sliceVeiled (offsets : List Nat) (s : Span) (t : Text) : Text :=
  (s.slice t).mapIdx fun j c => if Cut offsets s (s.start + j) then '`' else c

/-- Where no pair is cut in two, this is the slice. -/
theorem sliceVeiled_eq_slice {offsets : List Nat} {s : Span} (h : ∀ i, ¬ Cut offsets s i) (t : Text) :
    sliceVeiled offsets s t = s.slice t := by
  apply List.ext_getElem?
  intro i
  simp [sliceVeiled, List.getElem?_mapIdx, h]

theorem covered_of_cut {offsets : List Nat} {s : Span} {i : Nat} (h : Cut offsets s i) :
    Covered offsets i := by
  rcases h with ⟨-, p, hp, rfl⟩ | ⟨-, hi⟩
  · exact .inr ⟨p, hp, rfl⟩
  · exact .inl hi

/-- A recorded pair that covers an offset of a span lies in the span, or an end of the span cuts it. -/
theorem cut_or_inside {offsets : List Nat} {s : Span} {i : Nat} (hlo : s.start ≤ i)
    (hhi : i < s.stop) (hc : Covered offsets i) : Cut offsets s i ∨ Covered (inside s offsets) i := by
  rcases hc with hc | ⟨p, hp, rfl⟩
  · rcases Nat.lt_or_ge (i + 1) s.stop with hlt | hge
    · exact .inr (.inl (mem_inside.2 ⟨hc, hlo, hlt⟩))
    · exact .inl (.inr ⟨by omega, hc⟩)
  · rcases Nat.lt_or_ge p s.start with hlt | hge
    · exact .inl (.inl ⟨by omega, p, hp, rfl⟩)
    · exact .inr (.inr ⟨p, mem_inside.2 ⟨hp, hge, hhi⟩, rfl⟩)

namespace Disguised

variable {t d : Text} {offsets : List Nat}

theorem not_inside_of_cut (h : Disguised t d offsets) {s : Span} {i : Nat} (hc : Cut offsets s i) :
    ¬ Covered (inside s offsets) i := by
  rintro (hi | ⟨q, hq, rfl⟩)
  · obtain ⟨hi, -, hlt⟩ := mem_inside.1 hi
    rcases hc with ⟨-, p, hp, rfl⟩ | ⟨hs, -⟩
    · have := h.apart hp hi (by omega)
      omega
    · omega
  · obtain ⟨hq, hge, -⟩ := mem_inside.1 hq
    rcases hc with ⟨hs, -⟩ | ⟨-, hp⟩
    · omega
    · have := h.apart hq hp (by omega)
      omega

theorem unveil_slice (h : Disguised t d offsets) (s : Span) :
    unveil offsets s (s.slice d) = sliceVeiled offsets s t := by
  apply List.ext_getElem?
  intro j
  rw [getElem?_unveil, sliceVeiled, List.getElem?_mapIdx, Span.getElem?_slice, Span.getElem?_slice]
  by_cases hj : s.start + j < s.stop
  · rw [if_pos hj, if_pos hj]
    by_cases hc : Cut offsets s (s.start + j)
    · rw [h.backtick (covered_of_cut hc), h.dollar (covered_of_cut hc)]
      simp [hc, h.not_inside_of_cut hc]
    · by_cases hin : Covered (inside s offsets) (s.start + j)
      · rw [h.backtick (covered_of_inside hin), h.dollar (covered_of_inside hin)]
        simp [hc, hin]
      · have hcov : ¬ Covered offsets (s.start + j) := fun hcov =>
          (cut_or_inside (Nat.le_add_right _ _) hj hcov).elim hc hin
        rw [h.kept _ hcov]
        simp [hc, hin]
  · rw [if_neg hj, if_neg hj]
    rfl

end Disguised

end Math
end Texdown
