import Texdown.Proofs.CodeSpans
import Texdown.Proofs.Searching

/-!
# Searching for a code span

A code span is looked for run by run. Every run of backticks from the cursor on may open it, together with the
first run of the same length behind, and the leftmost one is taken whose content reads as it should. A cursor
may stand inside a run; then only what is left of that run counts.

Results:
* `codeFrom_iff`: the code spans from a cursor on are that of the first run and those behind it.
* `CodeAt.content_at`: which character of the source every character of the content is.
* `findCode_exact`: the leftmost code span with the right content is found, if there is one.
-/
namespace Texdown

namespace Locator

theorem not_mem_of_firstRun? {t : Text} (h : firstRun? t = none) : '`' ∉ t := by
  unfold firstRun? at h
  split at h
  · next heq =>
    have hsplit := List.takeWhile_append_dropWhile (p := (· ≠ '`')) (l := t)
    rw [heq, List.append_nil] at hsplit
    rw [← hsplit]
    exact fun hmem => by simpa using List.all_eq_true.1 List.all_takeWhile _ hmem
  · cases h

/-- A run of the right length ends a code span. -/
theorem exists_codeContent? {n : Nat} {t : Text} (hn : 0 < n) (ht : t.head? ≠ some '`') {i : Nat}
    (h : IsRun t i n) : ∃ inner, codeContent? n t = some inner := by
  fun_induction codeContent? n t generalizing i with
  | case1 t hrun =>
    exact absurd (List.mem_of_getElem? (h.ticks 0 hn)) (not_mem_of_firstRun? hrun)
  | case2 t before after hrun => exact ⟨before, rfl⟩
  | case3 t before k after hrun hk ih =>
    obtain ⟨rfl, hb, -, ha⟩ := firstRun?_eq hrun
    rcases (isRun_iff hb ha hn).1 h with ⟨-, rfl⟩ | ⟨j, -, -, hj⟩
    · exact absurd rfl hk
    · obtain ⟨inner, hinner⟩ := ih ha hj
      rw [hinner]
      exact ⟨_, rfl⟩

/-- What stands between the runs of a code span is the content up to the first run of the right length. -/
theorem CodeAt.exists_codeContent?_eq {pre after : Text} {s : Span} {c : Text} {n : Nat}
    (h : CodeAt (pre ++ after) s c n) (hpre : pre.length = s.start + n) :
    ∃ inner, codeContent? n after = some inner ∧ c = normalizeCode inner ∧
      s.stop = s.start + n + inner.length + n := by
  have hpos := h.pos
  have hw := h.width
  have ha : after.head? ≠ some '`' := by
    have hbehind := h.behind
    rwa [← hpre, List.getElem?_append_right (Nat.le_refl _), Nat.sub_self, ← List.head?_eq_getElem?] at hbehind
  obtain ⟨j, hj⟩ : ∃ j, s.stop - n = pre.length + j := Nat.exists_eq_add_of_le (by omega)
  have hcloser : IsRun after j n := (IsRun.append_left (by omega)).1 (hj ▸ h.closer)
  obtain ⟨inner, hinner⟩ := exists_codeContent? hpos ha hcloser
  obtain ⟨htake, hrun, hnone⟩ := codeContent?_eq hpos ha hinner
  -- Both are the first run of this length.
  have hlen : inner.length = j := by
    rcases Nat.lt_trichotomy inner.length j with hlt | heq | hgt
    · exact absurd ((IsRun.append_left (hrun.pos hpos ha)).2 hrun) (h.first _ (by omega) (by omega))
    · exact heq
    · exact absurd hcloser (hnone j hgt)
  refine ⟨inner, hinner, ?_, by omega⟩
  rw [h.content]
  congr 1
  simp only [Span.slice, Span.shrink]
  rw [hj, ← hpre, List.take_length_add_append, ← hlen, htake, List.drop_left]

/-! ## The code spans from a cursor on -/

/-- At `s` stands a code span whose opener is a run of what is left from the cursor on. -/
structure CodeFrom (l : Locator) (s : Span) (c : Text) (n : Nat) : Prop extends CodeAt l.source s c n where
  from_cursor : l.cursor ≤ s.start
  opens : IsRun l.rest (s.start - l.cursor) n

section

variable {l : Locator} {before after : Text} {k : Nat} {s : Span} {c : Text} {n : Nat}

theorem rest_behind_run (hrun : firstRun? l.rest = some (before, k, after)) :
    ({ l with cursor := l.cursor + before.length + k } : Locator).rest = after := by
  have hrest := rest_of_append (firstRun?_eq hrun).1
  rwa [List.length_append, List.length_replicate, ← Nat.add_assoc] at hrest

/-- The code spans from a cursor on are that of the first run, if it is closed, and those behind the run. -/
theorem codeFrom_iff (hrun : firstRun? l.rest = some (before, k, after)) :
    CodeFrom l s c n ↔
      (n = k ∧ s.start = l.cursor + before.length ∧ ∃ inner, codeContent? k after = some inner ∧
        c = normalizeCode inner ∧ s.stop = s.start + k + inner.length + k) ∨
      CodeFrom { l with cursor := l.cursor + before.length + k } s c n := by
  obtain ⟨hrest, hb, hk, ha⟩ := firstRun?_eq hrun
  have hbehind := rest_behind_run hrun
  have hsource : l.source = (l.source.take l.cursor ++ before) ++ List.replicate k '`' ++ after := by
    rw [List.append_assoc, List.append_assoc, ← List.append_assoc before, ← hrest, rest,
      List.take_append_drop]
  have hcursor : (l.source.take l.cursor).length = l.cursor := by
    have hlen := congrArg List.length hrest
    simp only [rest, List.length_drop, List.length_append, List.length_replicate] at hlen
    rw [List.length_take]
    omega
  constructor
  · intro h
    have hopens := h.opens
    rw [hrest] at hopens
    have hle := h.from_cursor
    rcases (isRun_iff hb ha h.pos).1 hopens with ⟨hi, rfl⟩ | ⟨j, hj, hi, hrun'⟩
    · refine .inl ⟨rfl, by omega, ?_⟩
      have hat := h.toCodeAt
      rw [hsource] at hat
      exact hat.exists_codeContent?_eq (by simp [hcursor]; omega)
    · refine .inr ⟨h.toCodeAt, by simp only; omega, ?_⟩
      rw [hbehind]
      simp only
      rwa [show s.start - (l.cursor + before.length + k) = j by omega]
  · rintro (⟨rfl, hstart, inner, hinner, rfl, hstop⟩ | h)
    · have hat := CodeAt.of_runs hk hsource ha hinner
      rw [List.length_append, hcursor, ← hstart, ← hstop] at hat
      refine ⟨hat, by omega, ?_⟩
      rw [hrest, hstart, Nat.add_sub_cancel_left]
      exact isRun_first hb ha
    · have hle := h.from_cursor
      have hopens := h.opens
      simp only [hbehind] at hle hopens
      refine ⟨h.toCodeAt, by omega, ?_⟩
      rw [hrest]
      exact (isRun_iff hb ha h.pos).2 (.inr ⟨_, hopens.pos h.pos ha, by omega, hopens⟩)

/-! ## The search -/

theorem codeFrom_of_codeSpan? {wanted : List Text} (h : codeSpan? wanted l.cursor l.rest = some (c, s)) :
    ∃ n, CodeFrom l s c n := by
  generalize ho : l.cursor = offset, ht : l.rest = t at h
  fun_induction codeSpan? wanted offset t generalizing l with
  | case1 => cases h
  | case2 offset t before n after hrun start inner =>
    rename_i hinner
    subst ho ht
    cases h
    obtain ⟨hc, -⟩ := Option.filter_eq_some_iff.1 hinner
    exact ⟨n, (codeFrom_iff hrun).2 (.inl ⟨rfl, rfl, inner, hc, rfl, rfl⟩)⟩
  | case3 offset t before n after hrun start =>
    rename_i ih
    subst ho ht
    obtain ⟨m, hm⟩ := ih rfl (rest_behind_run hrun) h
    exact ⟨m, (codeFrom_iff hrun).2 (.inr hm)⟩

/-- A code span that reads as it should is found, or one in front of it. -/
theorem exists_codeSpan? {wanted : List Text} (hc : c ∈ wanted) (h : CodeFrom l s c n) :
    ∃ c' s', codeSpan? wanted l.cursor l.rest = some (c', s') ∧ s'.start ≤ s.start := by
  generalize ho : l.cursor = offset, ht : l.rest = t
  fun_induction codeSpan? wanted offset t generalizing l with
  | case1 offset t hrun =>
    subst ht
    exact absurd (List.mem_of_getElem? (h.opens.ticks 0 h.pos)) (not_mem_of_firstRun? hrun)
  | case2 offset t before k after hrun start inner =>
    subst ho ht
    refine ⟨_, _, rfl, ?_⟩
    rcases (codeFrom_iff hrun).1 h with ⟨-, hstart, -⟩ | hlater
    · exact Nat.le_of_eq hstart.symm
    · exact Nat.le_trans (Nat.le_add_right _ _) hlater.from_cursor
  | case3 offset t before k after hrun start hnone =>
    rename_i ih
    subst ho ht
    rcases (codeFrom_iff hrun).1 h with ⟨-, -, inner, hinner, rfl, -⟩ | hlater
    · rw [hinner] at hnone
      simp [hc] at hnone
    · exact ih hlater rfl (rest_behind_run hrun)

end

/-- The content stands between the runs, with a space of padding on either side or without. -/
theorem CodeAt.content_at {src : Text} {s : Span} {t : Text} {n : Nat} (h : CodeAt src s t n) :
    ∃ k, (k = n ∨ k = n + 1) ∧ s.stop = s.start + t.length + 2 * k ∧
      ∀ j < t.length, t[j]? = (src[s.start + k + j]?).map fun x => if x = '\n' then ' ' else x := by
  obtain ⟨k, hk, hspan⟩ := exists_contentSpan_eq src s n
  have hbounds := h.contentSpan_bounds
  have hlen := h.length_content
  have hcontent := h.content_eq
  rw [hspan] at hbounds hlen hcontent
  simp only [Span.shrink, Span.length] at hbounds hlen
  have hstop : s.stop = s.start + t.length + 2 * k := by omega
  refine ⟨k, hk, hstop, fun j hj => ?_⟩
  have hchar : t[j]? = (((s.shrink k).slice src)[j]?).map fun x => if x = '\n' then ' ' else x := by
    rw [← List.getElem?_map]
    exact congrArg (·[j]?) hcontent
  have hinside : (s.shrink k).start + j < (s.shrink k).stop := by
    simp only [Span.shrink]
    omega
  rw [hchar, Span.getElem?_slice, if_pos hinside]
  rfl

/-- The two readings of the content that a code span was given with. -/
def Reads (content c : Text) : Prop := c = content ∨ c = Text.unescape content

/-- If no code span from the cursor on reads as it should, the content comes back with an empty span and the
walk stays. Otherwise the leftmost that does is taken, with the content as it stands in the source but for
line feeds, and the walk stands behind it. -/
theorem findCode_exact (l : Locator) (content : Text) :
    ((¬ ∃ s t n, CodeFrom l s t n ∧ Reads content t) ∧ l.findCode content = ((content, l.here), l)) ∨
      ∃ s t n, CodeFrom l s t n ∧ Reads content t ∧
        (∀ s' t' n', CodeFrom l s' t' n' → Reads content t' → s.start ≤ s'.start) ∧
        l.findCode content = ((t, s), { l with cursor := s.stop }) ∧
        ∃ k, (k = n ∨ k = n + 1) ∧ s.stop = s.start + t.length + 2 * k ∧
          ∀ j < t.length, t[j]? = (l.source[s.start + k + j]?).map fun x => if x = '\n' then ' ' else x := by
  have hwanted : ∀ {c}, c ∈ [content, Text.unescape content] ↔ Reads content c := by simp [Reads]
  unfold findCode codeSpanAt?
  cases hfound : codeSpan? [content, Text.unescape content] l.cursor l.rest with
  | none =>
    refine .inl ⟨?_, rfl⟩
    rintro ⟨s, c, n, hcode, hreads⟩
    obtain ⟨c', s', hsome, -⟩ := exists_codeSpan? (hwanted.2 hreads) hcode
    rw [hfound] at hsome
    cases hsome
  | some found =>
    obtain ⟨c, s⟩ := found
    obtain ⟨n, hcode⟩ := codeFrom_of_codeSpan? hfound
    refine .inr ⟨s, c, n, hcode, hwanted.1 (codeSpan?_mem hfound), ?_, rfl, hcode.content_at⟩
    intro s' c' n' hcode' hreads'
    obtain ⟨c'', s'', hsome, hle⟩ := exists_codeSpan? (hwanted.2 hreads') hcode'
    rw [hfound] at hsome
    cases hsome
    exact hle

end Locator

end Texdown
