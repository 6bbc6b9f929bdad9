import Texdown.Proofs.Disguise

/-!
# Queries to the table, in document order

The cursor of a table only moves forward, so an answer is right as long as the cursor has not passed
an offset that the query is about. `Behind c` says that it has passed none from `c` on; every query
from `c` on finds it so, and leaves it behind the end of the query.

Results:
* `isRecorded?_eq`: a point query in order tells whether the offset was recorded.
* `restore_eq`: a fragment in order that holds backticks at the recorded offsets comes back with the
  pairs inside its span as dollars, without notices.
* `restore_slice`: so a slice of the disguised text comes back as it stands in the text itself.
* `restore_clear`: a fragment without recorded pairs comes back as it is, in order or not.
* `restore_mismatched`: a fragment that has not the length of its span comes back as it is, with one
  notice, and the table is not touched.
* `Over.looksInside`: whatever the cursor has passed, only characters of the fragment are looked up.
-/
namespace Texdown

namespace Math

/-- A fragment from an offset on, with the given pairs as dollars. -/
def uncover (pairs : List Nat) (start : Nat) (fragment : Text) : Text :=
  fragment.mapIdx fun j c => if Covered pairs (start + j) then '$' else c

theorem getElem?_uncover (pairs : List Nat) (start : Nat) (t : Text) (j : Nat) :
    (uncover pairs start t)[j]? = t[j]?.map fun c => if Covered pairs (start + j) then '$' else c := by
  rw [uncover, List.getElem?_mapIdx]

theorem uncover_congr {ps qs : List Nat} {start : Nat} {t : Text}
    (h : ∀ j < t.length, Covered ps (start + j) ↔ Covered qs (start + j)) :
    uncover ps start t = uncover qs start t := by
  apply List.ext_getElem?
  intro j
  rw [getElem?_uncover, getElem?_uncover]
  by_cases hj : j < t.length
  · simp only [h j hj]
  · rw [List.getElem?_eq_none (Nat.not_lt.1 hj)]
    rfl

theorem uncover_nil (start : Nat) (t : Text) : uncover [] start t = t := by
  apply List.ext_getElem?
  intro j
  rw [getElem?_uncover]
  simp [Covered]

theorem unveil_eq_uncover (offsets : List Nat) (s : Span) (t : Text) :
    unveil offsets s t = uncover (inside s offsets) s.start t := rfl

namespace Table

/-! ## The cursor -/

/-- The table of these offsets in a text of length `n`, with its cursor on an entry. -/
structure Over (offsets : List Nat) (n : Nat) (t : Table) : Prop where
  entries : t.entries = offsets ++ [n]
  cursor : t.cursor ≤ offsets.length

/-- The offsets that the cursor has passed. -/
def passed (t : Table) : List Nat := t.entries.take t.cursor

/-- The cursor has passed no offset from `c` on. -/
def Behind (t : Table) (c : Nat) : Prop := ∀ p ∈ t.passed, p < c

theorem over_ofOffsets (offsets : List Nat) (n : Nat) : Over offsets n (ofOffsets offsets n) :=
  ⟨rfl, Nat.zero_le _⟩

theorem behind_ofOffsets (offsets : List Nat) (n c : Nat) : Behind (ofOffsets offsets n) c :=
  fun p hp => by simp [passed, ofOffsets] at hp

theorem Behind.mono {t : Table} {c d : Nat} (h : Behind t c) (hcd : c ≤ d) : Behind t d :=
  fun p hp => Nat.lt_of_lt_of_le (h p hp) hcd

theorem seek_spec (entries : List Nat) (pos i : Nat) (hi : i < entries.length) :
    i ≤ seek entries pos i ∧ seek entries pos i < entries.length ∧
      (∀ p ∈ entries.take (seek entries pos i), p ∈ entries.take i ∨ p < pos) ∧
      (seek entries pos i + 1 = entries.length ∨
        ∀ p, entries[seek entries pos i]? = some p → pos ≤ p) := by
  fun_induction seek entries pos i with
  | case1 i h hlt ih =>
    obtain ⟨h1, h2, h3, h4⟩ := ih h
    refine ⟨by omega, h2, fun p hp => ?_, h4⟩
    rcases h3 p hp with hp | hp
    · rw [List.take_succ_eq_append_getElem hi] at hp
      rcases List.mem_append.1 hp with hp | hp
      · exact .inl hp
      · exact .inr (by simp at hp; omega)
    · exact .inr hp
  | case2 i h hge =>
    refine ⟨Nat.le_refl _, hi, fun p hp => .inl hp, .inr fun p hp => ?_⟩
    rw [List.getElem?_eq_getElem hi] at hp
    cases hp
    omega
  | case3 i h => exact ⟨Nat.le_refl _, hi, fun p hp => .inl hp, .inl (by omega)⟩

section Cursor

variable {offsets : List Nat} {n : Nat} {t : Table}

theorem Over.lt_length (h : Over offsets n t) : t.cursor < t.entries.length := by
  have := h.cursor
  simp [h.entries]
  omega

theorem Over.passed (h : Over offsets n t) : t.passed = offsets.take t.cursor := by
  rw [Table.passed, h.entries, List.take_append_of_le_length h.cursor]

theorem Over.left (h : Over offsets n t) :
    t.entries.drop t.cursor = offsets.drop t.cursor ++ [n] := by
  rw [h.entries, List.drop_append_of_le_length h.cursor]

theorem Over.advance (h : Over offsets n t) (pos : Nat) : Over offsets n (t.advance pos) := by
  have := (seek_spec t.entries pos t.cursor h.lt_length).2.1
  refine ⟨h.entries, ?_⟩
  simp only [Table.advance, h.entries, List.length_append, List.length_singleton] at this ⊢
  omega

theorem Over.mem_passed_advance (h : Over offsets n t) {pos p : Nat}
    (hp : p ∈ (t.advance pos).passed) : p ∈ t.passed ∨ p < pos :=
  (seek_spec t.entries pos t.cursor h.lt_length).2.2.1 p hp

theorem Over.behind_advance (h : Over offsets n t) {pos : Nat} (hb : Behind t pos) :
    Behind (t.advance pos) pos :=
  fun p hp => (h.mem_passed_advance hp).elim (hb p) id

/-- What is left after an advance is at or after the position, up to the sentinel. -/
theorem Over.le_of_left (h : Over offsets n t) (hs : offsets.Pairwise (· < ·)) {pos p : Nat}
    (hp : p ∈ offsets.drop (t.advance pos).cursor) : pos ≤ p := by
  have hspec := (seek_spec t.entries pos t.cursor h.lt_length).2.2.2
  change p ∈ offsets.drop (seek t.entries pos t.cursor) at hp
  generalize seek t.entries pos t.cursor = k at hp hspec
  rw [h.entries] at hspec
  obtain ⟨i, hi, rfl⟩ := List.mem_iff_getElem.1 hp
  rw [List.getElem_drop]
  rw [List.length_drop] at hi
  rcases hspec with hspec | hspec
  · simp only [List.length_append, List.length_singleton] at hspec
    omega
  · have hk : k < offsets.length := by omega
    have hfirst := hspec offsets[k] (by
      rw [List.getElem?_append_left hk, List.getElem?_eq_getElem hk])
    rcases Nat.eq_zero_or_pos i with rfl | hpos
    · exact hfirst
    · have := List.pairwise_iff_getElem.1 hs k (k + i) hk (by omega) (by omega)
      omega

theorem Over.current? (h : Over offsets n t) :
    t.current? = (offsets.drop t.cursor ++ [n]).head? := by
  rw [Table.current?, ← h.left, List.head?_drop]

/-- An offset that the cursor has not passed is recorded exactly if it is still to come. -/
theorem Over.mem_iff_mem_left (h : Over offsets n t) {pos : Nat} (hb : Behind t pos) :
    pos ∈ offsets ↔ pos ∈ offsets.drop t.cursor := by
  constructor
  · intro hp
    rw [← List.take_append_drop t.cursor offsets, List.mem_append, ← h.passed] at hp
    exact hp.resolve_left fun hp => Nat.lt_irrefl _ (hb pos hp)
  · exact List.mem_of_mem_drop

/-! ## Points -/

theorem Over.exists_isRecorded? (h : Over offsets n t) (pos : Nat) :
    ∃ b, t.isRecorded? pos = (some b, t.advance pos) := by
  obtain ⟨q, hq⟩ : ∃ q, (t.advance pos).current? = some q := by
    rw [(h.advance pos).current?]
    cases offsets.drop (t.advance pos).cursor <;> exact ⟨_, rfl⟩
  exact ⟨q == pos, by simp [Table.isRecorded?, hq]⟩

theorem isRecorded?_eq (h : Over offsets n t) (hs : offsets.Pairwise (· < ·)) {pos : Nat}
    (hb : Behind t pos) (hn : pos < n) :
    t.isRecorded? pos = (some (decide (pos ∈ offsets)), t.advance pos) := by
  have hover := h.advance pos
  have hmem := hover.mem_iff_mem_left (h.behind_advance hb)
  have hleft := fun p (hp : p ∈ offsets.drop (t.advance pos).cursor) => h.le_of_left hs hp
  have hsorted := hs.drop (i := (t.advance pos).cursor)
  have hcur := hover.current?
  simp only [Table.isRecorded?, hcur]
  generalize offsets.drop (t.advance pos).cursor = left at hmem hleft hsorted
  cases left with
  | nil =>
    have : pos ∉ offsets := fun hp => by simpa using hmem.1 hp
    simp only [List.nil_append, List.head?_cons, Option.map_some, this, decide_false, Prod.mk.injEq,
      Option.some.injEq, and_true, beq_eq_false_iff_ne]
    omega
  | cons q left =>
    have hq := hleft q List.mem_cons_self
    simp only [List.cons_append, List.head?_cons, Option.map_some, Prod.mk.injEq, Option.some.injEq,
      and_true]
    rw [Bool.eq_iff_iff, beq_iff_eq, decide_eq_true_iff, hmem, List.mem_cons]
    constructor
    · rintro rfl
      exact .inl rfl
    · rintro (rfl | hp)
      · rfl
      · have := (List.pairwise_cons.1 hsorted).1 pos hp
        omega

/-! ## Fragments -/

theorem at?_natCast (t : Text) (k : Nat) : t.at? k = t[k]? := by
  simp [Text.at?, show ¬ ((k : Int) < 0) by omega]

theorem setAt_natCast (t : Text) (k : Nat) (c : Char) : t.setAt k c = t.set k c := by
  simp [Text.setAt, show ¬ ((k : Int) < 0) by omega]

/-- A pair given back is a pair more to uncover. -/
theorem uncover_set (pairs : List Nat) {start p : Nat} (hp : start ≤ p) (chars : Text) :
    uncover pairs start ((chars.set (p - start) '$').set (p + 1 - start) '$')
      = uncover (p :: pairs) start chars := by
  apply List.ext_getElem?
  intro j
  rw [getElem?_uncover, getElem?_uncover, List.getElem?_set, List.getElem?_set, List.length_set]
  by_cases h1 : p + 1 - start = j
  · have hc : Covered (p :: pairs) (start + j) := .inr ⟨p, List.mem_cons_self, by omega⟩
    by_cases hj : j < chars.length
    · simp [h1, hj, hc]
    · simp [h1, hj]
  · by_cases h2 : p - start = j
    · have hc : Covered (p :: pairs) (start + j) := .inl (by simp; omega)
      by_cases hj : j < chars.length
      · simp [h1, h2, hj, hc]
      · simp [h1, h2, hj]
    · have hc : Covered (p :: pairs) (start + j) ↔ Covered pairs (start + j) := by
        simp only [Covered, List.mem_cons, exists_eq_or_imp]
        constructor
        · rintro ((h | h) | h | h)
          · omega
          · exact .inl h
          · omega
          · exact .inr h
        · rintro (h | h)
          · exact .inl (.inr h)
          · exact .inr (.inr h)
      simp only [h1, h2, if_false, hc]

theorem entry_of_drop {entries : List Nat} {i p : Nat} {left : List Nat}
    (h : entries.drop i = p :: left) :
    ∃ hi : i < entries.length, entries[i] = p ∧ entries.drop (i + 1) = left := by
  have hi : i < entries.length := by
    have := congrArg List.length h
    simp only [List.length_drop, List.length_cons] at this
    omega
  rw [List.drop_eq_getElem_cons hi] at h
  exact ⟨hi, List.cons.inj h⟩

/-- One pair given back. -/
theorem restoreFrom_step {entries : List Nat} {s : Span} {fragment chars : Text} {i p : Nat}
    {left : List Nat} (hi : entries.drop i = p :: left) (hin : p + 1 < s.stop) (hp : s.start ≤ p)
    (ha : chars[p - s.start]? = some '`') (hb : chars[p + 1 - s.start]? = some '`') :
    restoreFrom entries s fragment chars i = restoreFrom entries s fragment
      ((chars.set (p - s.start) '$').set (p + 1 - s.start) '$') (i + 1) := by
  obtain ⟨hlt, rfl, -⟩ := entry_of_drop hi
  have h1 : ((entries[i] : Int) - s.start) = ((entries[i] - s.start : Nat) : Int) := by omega
  have h2 : ((entries[i] - s.start : Nat) : Int) + 1 = ((entries[i] + 1 - s.start : Nat) : Int) := by
    omega
  rw [restoreFrom, dif_pos hlt, if_pos hin]
  simp only [h1, h2, at?_natCast, setAt_natCast, ha, hb, ne_eq, not_true_eq_false, if_false]

theorem restoreFrom_stop {entries : List Nat} {s : Span} {fragment chars : Text} {i p : Nat}
    {left : List Nat} (hi : entries.drop i = p :: left) (hout : s.stop ≤ p + 1) :
    restoreFrom entries s fragment chars i = (.ok chars, i) := by
  obtain ⟨hlt, rfl, -⟩ := entry_of_drop hi
  rw [restoreFrom, dif_pos hlt, if_neg (Nat.not_lt.2 hout)]

/-- Restoring, from an entry on, gives back every pair that lies in front of the end of the span. -/
theorem restoreFrom_eq {entries : List Nat} {s : Span} (fragment : Text) (hn : s.stop ≤ n + 1)
    (left : List Nat) (chars : Text) (i : Nat) (hi : entries.drop i = left ++ [n])
    (hapart : left.Pairwise fun p q => p + 1 < q)
    (hchars : ∀ p ∈ left, p + 1 < s.stop →
      s.start ≤ p ∧ chars[p - s.start]? = some '`' ∧ chars[p + 1 - s.start]? = some '`') :
    ∃ k, restoreFrom entries s fragment chars i =
        (.ok (uncover (left.filter (· + 1 < s.stop)) s.start chars), i + k) ∧
      k ≤ left.length ∧ ∀ p ∈ left.take k, p + 1 < s.stop := by
  induction left generalizing chars i with
  | nil =>
    refine ⟨0, ?_, Nat.le_refl _, by simp⟩
    rw [restoreFrom_stop hi hn, List.filter_nil, uncover_nil]
    rfl
  | cons p left ih =>
    rw [List.pairwise_cons] at hapart
    rcases Nat.lt_or_ge (p + 1) s.stop with hin | hout
    · obtain ⟨hp, ha, hb⟩ := hchars p List.mem_cons_self hin
      rw [restoreFrom_step hi hin hp ha hb]
      obtain ⟨-, -, htail⟩ := entry_of_drop hi
      obtain ⟨k, hk, hle, hall⟩ := ih ((chars.set (p - s.start) '$').set (p + 1 - s.start) '$')
        (i + 1) htail hapart.2 fun q hq hqin => by
        obtain ⟨h1, h2, h3⟩ := hchars q (List.mem_cons_of_mem _ hq) hqin
        have := hapart.1 q hq
        rw [List.getElem?_set_ne (by omega), List.getElem?_set_ne (by omega),
          List.getElem?_set_ne (by omega), List.getElem?_set_ne (by omega)]
        exact ⟨h1, h2, h3⟩
      refine ⟨k + 1, ?_, Nat.succ_le_succ hle, fun q hq => ?_⟩
      · rw [hk, uncover_set _ hp, List.filter_cons_of_pos (by simpa using hin)]
        simp only [Prod.mk.injEq, true_and]
        omega
      · rcases List.mem_cons.1 hq with rfl | hq
        · exact hin
        · exact hall q hq
    · refine ⟨0, ?_, Nat.zero_le _, by simp⟩
      have hnone : (p :: left).filter (· + 1 < s.stop) = [] := by
        refine List.filter_eq_nil_iff.2 fun q hq => ?_
        rcases List.mem_cons.1 hq with rfl | hq
        · simpa using hout
        · have := hapart.1 q hq
          simp only [decide_eq_true_eq]
          omega
      rw [restoreFrom_stop hi hout, hnone, uncover_nil]
      rfl

/-- The pairs inside a span from which on nothing was passed are those still to come that end in it. -/
theorem Over.mem_inside_iff (h : Over offsets n t) (hs : offsets.Pairwise (· < ·)) {s : Span}
    (hb : Behind t s.start) (p : Nat) :
    p ∈ inside s offsets ↔ p ∈ offsets.drop (t.advance s.start).cursor ∧ p + 1 < s.stop := by
  rw [mem_inside]
  constructor
  · rintro ⟨hp, hle, hlt⟩
    exact ⟨((h.advance _).mem_iff_mem_left ((h.behind_advance hb).mono hle)).1 hp, hlt⟩
  · rintro ⟨hp, hlt⟩
    exact ⟨List.mem_of_mem_drop hp, h.le_of_left hs hp, hlt⟩

theorem restore_eq (h : Over offsets n t) (hs : offsets.Pairwise fun p q => p + 1 < q) {s : Span}
    {fragment : Text} (hb : Behind t s.start) (hn : s.stop ≤ n)
    (hlen : (fragment.length : Int) = s.length)
    (hf : ∀ p ∈ inside s offsets,
      fragment[p - s.start]? = some '`' ∧ fragment[p + 1 - s.start]? = some '`') :
    ∃ t', t.restore fragment s = (.ok (unveil offsets s fragment), [], t') ∧
      Over offsets n t' ∧ Behind t' s.stop := by
  have hsorted : offsets.Pairwise (· < ·) := hs.imp fun hpq => by omega
  have hover := h.advance s.start
  have hbehind := h.behind_advance hb
  have hle : s.start ≤ s.stop := by
    simp only [Span.length] at hlen
    omega
  have hmem := h.mem_inside_iff hsorted hb
  obtain ⟨q, hq⟩ : ∃ q, (t.advance s.start).current? = some q := by
    rw [hover.current?]
    cases offsets.drop (t.advance s.start).cursor <;> exact ⟨_, rfl⟩
  rw [restore, if_neg (not_not_intro hlen)]
  simp only [hq]
  split
  · next hstop =>
    -- No pair lies inside: the span is too short for one, or the next one begins too late.
    refine ⟨_, ?_, hover, hbehind.mono hle⟩
    have hnone : inside s offsets = [] := by
      refine List.eq_nil_iff_forall_not_mem.2 fun p hp => ?_
      obtain ⟨hleft, hlt⟩ := (hmem p).1 hp
      have hge := (mem_inside.1 hp).2.1
      rcases hstop with hstop | hstop
      · simp only [Span.length] at hlen
        omega
      · rw [hover.current?] at hq
        have hdrop := hsorted.drop (i := (t.advance s.start).cursor)
        generalize offsets.drop (t.advance s.start).cursor = left at hleft hq hdrop
        cases left with
        | nil => cases hleft
        | cons x left =>
          cases hq
          rcases List.mem_cons.1 hleft with rfl | hleft
          · omega
          · have := (List.pairwise_cons.1 hdrop).1 p hleft
            omega
    rw [unveil_eq_uncover, hnone, uncover_nil]
  · obtain ⟨k, hk, hkle, hall⟩ := restoreFrom_eq fragment (s := s) (n := n)
      (Nat.le_succ_of_le hn) _ fragment _ hover.left (hs.drop (i := (t.advance s.start).cursor))
      fun p hp hlt => ⟨h.le_of_left hsorted hp, hf p ((hmem p).2 ⟨hp, hlt⟩)⟩
    refine ⟨{ t.advance s.start with cursor := (t.advance s.start).cursor + k }, ?_,
      ⟨h.entries, ?_⟩, fun p hp => ?_⟩
    · rw [hk, unveil_eq_uncover]
      simp only [Prod.mk.injEq, Except.ok.injEq, and_true]
      refine uncover_congr fun j _ => ?_
      simp only [Covered, hmem, List.mem_filter, decide_eq_true_eq]
    · rw [List.length_drop] at hkle
      have := hover.cursor
      simp only
      omega
    · rw [passed, List.take_add, hover.left, List.take_append_of_le_length hkle] at hp
      rcases List.mem_append.1 hp with hp | hp
      · exact Nat.lt_of_lt_of_le (hbehind p hp) hle
      · have := hall p hp
        omega

/-- A slice in order comes back as it stands in the text, but for a pair that an end of it cuts in two. -/
theorem restore_slice {o d : Text} (hd : Disguised o d offsets) (h : Over offsets d.length t) {s : Span}
    (hb : Behind t s.start) (hle : s.start ≤ s.stop) (hn : s.stop ≤ d.length) :
    ∃ t', t.restore (s.slice d) s = (.ok (sliceVeiled offsets s o), [], t') ∧
      Over offsets d.length t' ∧ Behind t' s.stop := by
  have hlen : ((s.slice d).length : Int) = s.length := by
    rw [Span.length_slice s hn, Span.length]
    omega
  obtain ⟨t', hr, hov, hb'⟩ := restore_eq h hd.pairwise hb hn hlen fun p hp => by
    obtain ⟨hmem, hge, hin⟩ := mem_inside.1 hp
    obtain ⟨h0, h1⟩ := hd.backticks p hmem
    rw [Span.getElem?_slice, Span.getElem?_slice, if_pos (by omega), if_pos (by omega)]
    exact ⟨by rwa [Nat.add_sub_cancel' hge], by rwa [Nat.add_sub_cancel' (by omega)]⟩
  exact ⟨t', hd.unveil_slice s ▸ hr, hov, hb'⟩

/-- A span that holds no recorded pair is left as it is, wherever the cursor stands. -/
theorem restore_clear (h : Over offsets n t) (hs : offsets.Pairwise (· < ·)) {s : Span}
    {fragment : Text} (hn : s.stop ≤ n) (hlen : (fragment.length : Int) = s.length)
    (hnone : inside s offsets = []) :
    t.restore fragment s = (.ok fragment, [], t.advance s.start) := by
  have hover := h.advance s.start
  obtain ⟨q, hq, hstop⟩ : ∃ q, (t.advance s.start).current? = some q ∧ s.stop ≤ q + 1 := by
    have hle := fun p (hp : p ∈ offsets.drop (t.advance s.start).cursor) =>
      And.intro (List.mem_of_mem_drop hp) (h.le_of_left hs hp)
    rw [hover.current?]
    generalize offsets.drop (t.advance s.start).cursor = left at hle
    cases left with
    | nil => exact ⟨n, rfl, Nat.le_succ_of_le hn⟩
    | cons q left =>
      obtain ⟨hmem, hge⟩ := hle q List.mem_cons_self
      refine ⟨q, rfl, Nat.not_lt.1 fun hlt => ?_⟩
      exact List.not_mem_nil (hnone ▸ mem_inside.2 ⟨hmem, hge, hlt⟩)
  rw [restore, if_neg (not_not_intro hlen)]
  simp only [hq]
  rw [if_pos (.inr hstop)]

theorem restore_mismatched (t : Table) {fragment : Text} {s : Span}
    (hlen : (fragment.length : Int) ≠ s.length) :
    t.restore fragment s = (.ok fragment, [.fragmentAmbiguous], t) := by
  rw [restore, if_pos hlen]

end Cursor

/-! ## Bounds -/

/-- Every recorded offset that restoring looks up has both its characters in the fragment. -/
def LooksInside (t : Table) (fragment : Text) (s : Span) : Prop :=
  (fragment.length : Int) = s.length → ∀ i p, (t.advance s.start).cursor ≤ i →
    t.entries[i]? = some p → p + 1 < s.stop → s.start ≤ p ∧ p + 1 - s.start < fragment.length

theorem Over.looksInside {offsets : List Nat} {n : Nat} {t : Table} (h : Over offsets n t)
    (hs : offsets.Pairwise (· < ·)) {s : Span} (hn : s.start ≤ n) (fragment : Text) :
    t.LooksInside fragment s := by
  intro hlen i p hi hp hlt
  have hge : s.start ≤ p := by
    obtain ⟨k, rfl⟩ := Nat.exists_eq_add_of_le hi
    rw [← List.getElem?_drop] at hp
    have hleft : t.entries.drop (t.advance s.start).cursor = _ := (h.advance s.start).left
    have hp := List.mem_of_getElem? hp
    rw [hleft] at hp
    rcases List.mem_append.1 hp with hp | hp
    · exact h.le_of_left hs hp
    · rw [List.mem_singleton.1 hp]
      exact hn
  refine ⟨hge, ?_⟩
  simp only [Span.length] at hlen
  omega

end Table
end Math
end Texdown
