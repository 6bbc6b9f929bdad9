import Texdown.Locator
import Texdown.Proofs.Disguise

/-!
# Where a locator finds things

A locator only moves forward and never leaves its source (`Moves`). A fragment is found where it
stands, and a code span at a run of backticks, up to the first run behind it of the same length.

Results:
* `find_spec`: the span of a fragment holds it, or is empty at a cursor that stays.
* `findCode_spec`: the span of a code span is one (`CodeAt`), with the content between its runs, or is
  empty at a cursor that stays.
* `moves_skipPast`, `moves_skipBracketed`, `moves_skipTail`: passing over a link or an opener moves.
-/
namespace Texdown

/-! ## Runs of backticks -/

/-- A run of exactly `n` backticks starts at `i`. -/
structure IsRun (t : Text) (i n : Nat) : Prop where
  ticks : ∀ k < n, t[i + k]? = some '`'
  behind : t[i + n]? ≠ some '`'
  before : ∀ j, i = j + 1 → t[j]? ≠ some '`'

namespace Locator

theorem firstRun?_eq {t before after : Text} {n : Nat} (h : firstRun? t = some (before, n, after)) :
    t = before ++ List.replicate n '`' ++ after ∧ '`' ∉ before ∧ 0 < n ∧ after.head? ≠ some '`' := by
  have hlen := length_firstRun? h
  unfold firstRun? at h
  split at h
  · cases h
  · next b r heq =>
    simp only [Option.some.injEq, Prod.mk.injEq] at h
    obtain ⟨rfl, rfl, rfl⟩ := h
    refine ⟨?_, ?_, hlen.2, ?_⟩
    · have hrun : (b :: r).takeWhile (· = '`')
          = List.replicate ((b :: r).takeWhile (· = '`')).length '`' := by
        refine List.eq_replicate_iff.2 ⟨rfl, fun c hc => ?_⟩
        simpa using List.all_eq_true.1 List.all_takeWhile c hc
      rw [← hrun, List.append_assoc, List.takeWhile_append_dropWhile, ← heq,
        List.takeWhile_append_dropWhile]
    · intro hmem
      simpa using List.all_eq_true.1 List.all_takeWhile _ hmem
    · intro hc
      have := List.head?_dropWhile_not (fun c => decide (c = '`')) (b :: r)
      rw [hc] at this
      simp at this

theorem getElem?_before {before rest : Text} (h : '`' ∉ before) {i : Nat} (hi : i < before.length) :
    (before ++ rest)[i]? ≠ some '`' := by
  rw [List.getElem?_append_left hi, List.getElem?_eq_getElem hi]
  intro hc
  exact h (Option.some.inj hc ▸ List.getElem_mem hi)

end Locator

theorem IsRun.append_left {p u : Text} {i n : Nat} (hi : 0 < i) :
    IsRun (p ++ u) (p.length + i) n ↔ IsRun u i n := by
  have hget : ∀ k, (p ++ u)[p.length + k]? = u[k]? := fun k => by
    rw [List.getElem?_append_right (Nat.le_add_right _ _), Nat.add_sub_cancel_left]
  constructor
  · rintro ⟨h1, h2, h3⟩
    refine ⟨fun k hk => ?_, ?_, fun j hj => ?_⟩
    · rw [← hget, ← Nat.add_assoc]
      exact h1 k hk
    · rwa [← hget, ← Nat.add_assoc]
    · rw [← hget]
      exact h3 (p.length + j) (by omega)
  · rintro ⟨h1, h2, h3⟩
    refine ⟨fun k hk => ?_, ?_, fun j hj => ?_⟩
    · rw [Nat.add_assoc, hget]
      exact h1 k hk
    · rwa [Nat.add_assoc, hget]
    · obtain ⟨m, rfl⟩ : ∃ m, j = p.length + m := ⟨i - 1, by omega⟩
      rw [hget]
      exact h3 m (by omega)

/-- A run starts where its first backtick follows none. -/
theorem IsRun.pos {t : Text} {i n : Nat} (h : IsRun t i n) (hn : 0 < n) (ht : t.head? ≠ some '`') :
    0 < i := by
  refine Nat.pos_of_ne_zero fun h0 => ht ?_
  rw [List.head?_eq_getElem?, ← h.ticks 0 hn, h0]

namespace Locator

section FirstRun

variable {before after : Text} {k : Nat}

theorem tick_first {j : Nat} (hj : j < k) :
    (before ++ List.replicate k '`' ++ after)[before.length + j]? = some '`' := by
  rw [List.append_assoc, List.getElem?_append_right (Nat.le_add_right _ _), Nat.add_sub_cancel_left,
    List.getElem?_append_left (by simpa using hj), List.getElem?_replicate, if_pos hj]

theorem no_tick_behind (ha : after.head? ≠ some '`') :
    (before ++ List.replicate k '`' ++ after)[before.length + k]? ≠ some '`' := by
  have hlen : (before ++ List.replicate k '`').length = before.length + k := by simp
  rw [← hlen, List.getElem?_append_right (Nat.le_refl _), Nat.sub_self, ← List.head?_eq_getElem?]
  exact ha

theorem isRun_first (hb : '`' ∉ before) (ha : after.head? ≠ some '`') :
    IsRun (before ++ List.replicate k '`' ++ after) before.length k where
  ticks _ := tick_first
  behind := no_tick_behind ha
  before j hj := by
    rw [List.append_assoc]
    exact getElem?_before hb (by omega)

/-- The runs of a text are its first one and those of the text behind it. -/
theorem isRun_iff (hb : '`' ∉ before) (ha : after.head? ≠ some '`') {i n : Nat} (hn : 0 < n) :
    IsRun (before ++ List.replicate k '`' ++ after) i n ↔
      (i = before.length ∧ n = k) ∨ ∃ j, 0 < j ∧ i = before.length + k + j ∧ IsRun after j n := by
  have hlen : (before ++ List.replicate k '`').length = before.length + k := by simp
  constructor
  · intro h
    have h0 := h.ticks 0 hn
    rw [Nat.add_zero] at h0
    rcases Nat.lt_trichotomy i before.length with hlt | rfl | hgt
    · rw [List.append_assoc] at h0
      exact absurd h0 (getElem?_before hb hlt)
    · refine .inl ⟨rfl, Nat.le_antisymm (Nat.not_lt.1 fun hlt => ?_) (Nat.not_lt.1 fun hlt => ?_)⟩
      · exact no_tick_behind ha (h.ticks k hlt)
      · exact h.behind (tick_first hlt)
    · rcases Nat.lt_trichotomy i (before.length + k) with hlt | rfl | hgt'
      · refine absurd ?_ (h.before (i - 1) (by omega))
        rw [show i - 1 = before.length + (i - 1 - before.length) by omega]
        exact tick_first (by omega)
      · exact absurd h0 (no_tick_behind ha)
      · obtain ⟨j, rfl⟩ := Nat.exists_eq_add_of_lt hgt'
        rw [← hlen, Nat.add_assoc] at h
        exact .inr ⟨j + 1, by omega, by omega, (IsRun.append_left (by omega)).1 h⟩
  · rintro (⟨rfl, rfl⟩ | ⟨j, hj, rfl, h⟩)
    · exact isRun_first hb ha
    · rw [← hlen]
      exact (IsRun.append_left hj).2 h

end FirstRun

/-- The content of a code span reaches up to the first run of the right length. -/
theorem codeContent?_eq {n : Nat} {t c : Text} (hn : 0 < n) (ht : t.head? ≠ some '`')
    (h : codeContent? n t = some c) :
    t.take c.length = c ∧ IsRun t c.length n ∧ ∀ i < c.length, ¬ IsRun t i n := by
  fun_induction codeContent? n t generalizing c with
  | case1 => cases h
  | case2 t before after hrun =>
    cases h
    obtain ⟨rfl, hb, -, ha⟩ := firstRun?_eq hrun
    refine ⟨by rw [List.append_assoc, List.take_left], isRun_first hb ha, fun i hi hr => ?_⟩
    rcases (isRun_iff hb ha hn).1 hr with ⟨rfl, -⟩ | ⟨j, -, rfl, -⟩ <;> omega
  | case3 t before k after hrun hk ih =>
    obtain ⟨rfl, hb, -, ha⟩ := firstRun?_eq hrun
    obtain ⟨c, hc, rfl⟩ := Option.map_eq_some_iff.1 h
    obtain ⟨h1, h2, h3⟩ := ih ha hc
    have hlen : (before ++ List.replicate k '`').length = before.length + k := by simp
    refine ⟨?_, ?_, fun i hi hr => ?_⟩
    · rw [List.length_append, List.take_length_add_append, h1]
    · refine (isRun_iff hb ha hn).2 (.inr ⟨c.length, h2.pos hn ha, ?_, h2⟩)
      rw [List.length_append, hlen]
    · rw [List.length_append, hlen] at hi
      rcases (isRun_iff hb ha hn).1 hr with ⟨-, rfl⟩ | ⟨j, -, rfl, hj⟩
      · exact hk rfl
      · exact h3 j (by omega) hj

/-! ## Code spans -/

/-- At `s` stands a code span with runs of `n` backticks around content that reads `c`: what stands
between the runs holds no other run of `n`. -/
structure CodeAt (src : Text) (s : Span) (c : Text) (n : Nat) : Prop where
  pos : 0 < n
  opener : ∀ k < n, src[s.start + k]? = some '`'
  behind : src[s.start + n]? ≠ some '`'
  width : s.start + n < s.stop - n
  closer : IsRun src (s.stop - n) n
  first : ∀ i, s.start + n ≤ i → i < s.stop - n → ¬ IsRun src i n
  content : c = normalizeCode ((s.shrink n).slice src)

theorem CodeAt.stop_le {src : Text} {s : Span} {c : Text} {n : Nat} (h : CodeAt src s c n) :
    s.stop ≤ src.length := by
  have hpos := h.pos
  have hw := h.width
  have hlast := (List.getElem?_eq_some_iff.1 (h.closer.ticks (n - 1) (by omega))).1
  omega

theorem CodeAt.of_runs {src before after inner : Text} {n : Nat} (hn : 0 < n)
    (hsrc : src = before ++ List.replicate n '`' ++ after) (ha : after.head? ≠ some '`')
    (hc : codeContent? n after = some inner) :
    CodeAt src ⟨before.length, before.length + n + inner.length + n⟩ (normalizeCode inner) n := by
  obtain ⟨htake, hrun, hnone⟩ := codeContent?_eq hn ha hc
  have hpos := hrun.pos hn ha
  have hlen : (before ++ List.replicate n '`').length = before.length + n := by simp
  have hstop : before.length + n + inner.length + n - n = before.length + n + inner.length := by omega
  subst hsrc
  refine ⟨hn, fun k => tick_first, no_tick_behind ha, ?_, ?_, fun i hlo hhi hr => ?_, ?_⟩
  · simp only [hstop]
    omega
  · simp only [hstop]
    rw [← hlen]
    exact (IsRun.append_left hpos).2 hrun
  · simp only [hstop] at hlo hhi
    obtain ⟨j, rfl⟩ := Nat.exists_eq_add_of_le hlo
    rcases Nat.eq_zero_or_pos j with rfl | hj
    · exact no_tick_behind ha (hr.ticks 0 hn)
    · rw [← hlen] at hr
      exact hnone j (by omega) ((IsRun.append_left hj).1 hr)
  · congr 1
    simp only [Span.slice, Span.shrink, hstop]
    rw [← hlen, List.take_length_add_append, htake, List.drop_left]

theorem codeSpan?_spec {wanted : List Text} {pre t : Text} {offset : Nat} {c : Text} {s : Span}
    (ho : pre.length = offset) (h : codeSpan? wanted offset t = some (c, s)) :
    offset ≤ s.start ∧ ∃ n, CodeAt (pre ++ t) s c n := by
  fun_induction codeSpan? wanted offset t generalizing pre with
  | case1 => cases h
  | case2 offset t before n after hrun start inner =>
    rename_i hinner
    obtain ⟨rfl, -, hn, ha⟩ := firstRun?_eq hrun
    obtain ⟨hc, -⟩ := Option.filter_eq_some_iff.1 hinner
    cases h
    have hsrc : pre ++ (before ++ List.replicate n '`' ++ after)
        = pre ++ before ++ List.replicate n '`' ++ after := by simp
    have hat := CodeAt.of_runs hn hsrc ha hc
    rw [List.length_append, ho] at hat
    exact ⟨Nat.le_add_right _ _, n, hat⟩
  | case3 offset t before n after hrun start =>
    rename_i ih
    obtain ⟨rfl, -⟩ := firstRun?_eq hrun
    have hpre : (pre ++ (before ++ List.replicate n '`')).length = start + n := by
      simp [start, ho, Nat.add_assoc]
    obtain ⟨hle, m, hat⟩ := ih hpre h
    exact ⟨by omega, m, by rwa [List.append_assoc] at hat⟩

theorem codeSpan?_mem {wanted : List Text} {offset : Nat} {t c : Text} {s : Span}
    (h : codeSpan? wanted offset t = some (c, s)) : c ∈ wanted := by
  fun_induction codeSpan? wanted offset t with
  | case1 => cases h
  | case2 offset t before n after hrun start inner hinner =>
    cases h
    simpa using (Option.filter_eq_some_iff.1 hinner).2
  | case3 offset t before n after hrun start hnone ih => exact ih h

/-- A code span has the content that was looked for, as it is or with its character references read. -/
theorem findCode_content (l : Locator) (content : Text) :
    (l.findCode content).1.1 = content ∨ (l.findCode content).1.1 = Text.unescape content := by
  unfold findCode
  cases hc : l.codeSpanAt? content with
  | none => exact .inl rfl
  | some found => simpa using codeSpan?_mem hc

/-! ## Moving -/

/-- `l'` is `l` moved forward in its source. -/
structure Moves (l l' : Locator) : Prop where
  source : l'.source = l.source
  le : l.cursor ≤ l'.cursor
  bounded : l'.cursor ≤ l.source.length

theorem Moves.refl {l : Locator} (h : l.cursor ≤ l.source.length) : l.Moves l :=
  ⟨rfl, Nat.le_refl _, h⟩

theorem Moves.trans {a b c : Locator} (h1 : a.Moves b) (h2 : b.Moves c) : a.Moves c :=
  ⟨h2.source.trans h1.source, Nat.le_trans h1.le h2.le, h1.source ▸ h2.bounded⟩

theorem Moves.inside {l l' : Locator} (h : l.Moves l') : l'.cursor ≤ l'.source.length :=
  h.source ▸ h.bounded

theorem indexOf?_spec {l : Locator} {mark : Text} (hm : mark ≠ []) {i : Nat}
    (h : l.indexOf? mark = some i) :
    l.cursor ≤ i ∧ i + mark.length ≤ l.source.length ∧
      (⟨i, i + mark.length⟩ : Span).slice l.source = mark := by
  unfold indexOf? at h
  split at h
  · obtain ⟨j, hj, rfl⟩ := Option.map_eq_some_iff.1 h
    have hpre := Text.indexOf?_eq_some hj
    rw [rest, List.drop_drop] at hpre
    have hlen := hpre.length_le
    have hpos := List.length_pos_iff.2 hm
    rw [List.length_drop] at hlen
    refine ⟨Nat.le_add_right _ _, by omega, ?_⟩
    rw [Span.slice, List.drop_take, Nat.add_sub_cancel_left]
    exact (List.prefix_iff_eq_take.1 hpre).symm
  · cases h

/-- A fragment is found where it stands at or after the cursor, which moves past it, or not at all. -/
theorem find_spec (l : Locator) {fragment : Text} (hf : fragment ≠ []) :
    (l.find fragment = (l.here, l)) ∨
      ∃ s : Span, l.find fragment = (s, { l with cursor := s.stop }) ∧ l.cursor ≤ s.start ∧
        s.start < s.stop ∧ s.stop ≤ l.source.length ∧ s.slice l.source = fragment := by
  rw [find, if_neg (by simpa using hf), span?]
  cases hi : l.indexOf? fragment with
  | none => exact .inl rfl
  | some i =>
    obtain ⟨h1, h2, h3⟩ := indexOf?_spec hf hi
    have hpos := List.length_pos_iff.2 hf
    exact .inr ⟨⟨i, i + fragment.length⟩, rfl, h1, by simp only; omega, h2, h3⟩

theorem findCode_spec {l : Locator} (hl : l.cursor ≤ l.source.length) (content : Text) :
    (l.findCode content = ((content, l.here), l)) ∨
      ∃ c s n, l.findCode content = ((c, s), { l with cursor := s.stop }) ∧ l.cursor ≤ s.start ∧
        CodeAt l.source s c n := by
  unfold findCode
  cases hc : l.codeSpanAt? content with
  | none => exact .inl rfl
  | some x =>
    obtain ⟨c, s⟩ := x
    have hlen : (l.source.take l.cursor).length = l.cursor := by
      rw [List.length_take, Nat.min_eq_left hl]
    obtain ⟨hle, n, hat⟩ := codeSpan?_spec hlen hc
    rw [rest, List.take_append_drop] at hat
    exact .inr ⟨c, s, n, rfl, hle, hat⟩

theorem moves_skipPast {l : Locator} (hl : l.cursor ≤ l.source.length) {mark : Text}
    (hm : mark ≠ []) : l.Moves (l.skipPast mark).2 := by
  unfold skipPast
  cases hi : l.indexOf? mark with
  | none => exact .refl hl
  | some i =>
    obtain ⟨h1, h2, -⟩ := indexOf?_spec hm hi
    have hpos := List.length_pos_iff.2 hm
    exact ⟨rfl, by simp only; omega, by simp only; omega⟩

theorem moves_skipBracketed {l : Locator} (hl : l.cursor ≤ l.source.length) {opener : Text}
    (ho : opener ≠ []) : l.Moves (l.skipBracketed opener).2 := by
  unfold skipBracketed
  cases hi : l.indexOf? opener with
  | none => exact .refl hl
  | some i =>
    obtain ⟨h1, h2, -⟩ := indexOf?_spec ho hi
    have hpos := List.length_pos_iff.2 ho
    simp only
    cases hj : closing? 0 (l.source.drop (i + opener.length - 1)) with
    | none => exact .refl hl
    | some j =>
      have hlt := length_closing? hj
      rw [List.length_drop] at hlt
      exact ⟨rfl, by simp only; omega, by simp only; omega⟩

theorem length_closingParen? {part : TailPart} {depth : Nat} {before : Char} {blank : Bool}
    {t : Text} {i : Nat} (h : closingParen? part depth before blank t = some i) : i < t.length := by
  fun_induction closingParen? part depth before blank t generalizing i with
  | case1 | case3 | case6 => cases h
  | case11 => cases h; simp only [List.length_cons]; omega
  | case2 | case4 | case5 | case7 | case8 | case9 | case10 | case12 | case13 =>
    rename_i ih
    obtain ⟨j, hj, rfl⟩ := Option.map_eq_some_iff.1 h
    have := ih hj
    simp only [List.length_cons] at *; omega

theorem moves_skipTail {l : Locator} (hl : l.cursor ≤ l.source.length) :
    l.Moves l.skipTail.2 := by
  unfold skipTail
  split
  · exact moves_skipPast hl (by simp)
  · next r hrest =>
    cases hi : closingParen? .plain 0 '(' true r with
    | none => exact .refl hl
    | some i =>
      have hlt := length_closingParen? hi
      have hlen := congrArg List.length hrest
      rw [rest, List.length_drop, List.length_cons] at hlen
      exact ⟨rfl, by simp only; omega, by simp only; omega⟩
  · exact .refl hl

end Locator
end Texdown
