import Texdown.Latex.Renderer
import Texdown.Proofs.Locating
import Texdown.Proofs.Restoring

/-!
# Code spans over a disguised text

A disguised delimiter is a run of two backticks, neither more nor less. So a code span that a
delimiter opens ends at the next one, and no end of the content of a code span cuts a delimiter in
two. The renderer does not see the content that the locator read, but only its length, from which it
has to guess whether the content was padded.

Results:
* `CodeAt.alone`: between the two delimiters of a math span there is no other.
* `CodeAt.innerSpan_eq`: the span that the renderer takes for the content is the one it was read from.
* `CodeAt.unveil_eq`: the content comes back as it reads in the text itself.
-/
namespace Texdown

/-- The length of the run of backticks from an offset on. -/
def tickRun (t : Text) (i : Nat) : Nat := ((t.drop i).takeWhile (· == '`')).length

namespace Locator

/-! ## Padding -/

/-- Whether a space is dropped from either end of the content of a code span. -/
def padded (content : Text) : Bool :=
  let t := Text.substitute '\n' ' ' content
  !Text.isBlankText t && t.head? == some ' ' && t.getLast? == some ' '

/-- Padding shows in which characters are blank, and which are spaces once line feeds are. -/
theorem padded_eq (t : Text) :
    padded t = (!(t.map fun c => Text.isBlank (if c = '\n' then ' ' else c)).all id &&
      (t.map fun c => (if c = '\n' then ' ' else c) == ' ').head? == some true &&
      (t.map fun c => (if c = '\n' then ' ' else c) == ' ').getLast? == some true) := by
  simp only [padded, Text.substitute, Text.isBlankText, List.all_map, List.head?_map,
    List.getLast?_map, Function.comp_def, id]
  congr 1
  · congr 1
    cases t.head? <;> simp
  · cases t.getLast? <;> simp

theorem two_le_length_of_padded {t : Text} (h : padded t = true) : 2 ≤ t.length := by
  match t, h with
  | [c], h =>
    exfalso
    simp only [padded, Text.substitute, Text.isBlankText, List.map_cons, List.map_nil, List.all_cons,
      List.all_nil, List.head?_cons, Bool.and_true, Bool.and_eq_true, beq_iff_eq,
      Option.some.injEq] at h
    rw [h.1.2] at h
    exact absurd h.1.1 (by decide)
  | _ :: _ :: _, _ => simp

/-- Where the content of a code span stands that is read from `s`. -/
def contentSpan (t : Text) (s : Span) : Span := if padded (s.slice t) then s.shrink 1 else s

/-- The content is what stands between the runs, or has one space less on either side. -/
theorem exists_contentSpan_eq (t : Text) (s : Span) (n : Nat) :
    ∃ k, (k = n ∨ k = n + 1) ∧ contentSpan t (s.shrink n) = s.shrink k := by
  unfold contentSpan
  split
  · exact ⟨n + 1, .inr rfl, by simp only [Span.shrink, Nat.add_assoc, Nat.sub_sub]⟩
  · exact ⟨n, .inl rfl, rfl⟩

theorem slice_shrink {t : Text} {s : Span} (h : s.stop ≤ t.length) :
    (s.shrink 1).slice t = ((s.slice t).drop 1).dropLast := by
  apply List.ext_getElem?
  intro i
  have hshrink : ((s.shrink 1).slice t)[i]?
      = if s.start + 1 + i < s.stop - 1 then t[s.start + 1 + i]? else none :=
    Span.getElem?_slice _ _ _
  rw [hshrink, List.getElem?_dropLast, List.length_drop, List.getElem?_drop, Span.length_slice s h,
    Span.getElem?_slice, ← Nat.add_assoc]
  by_cases hi : s.start + 1 + i < s.stop - 1
  · rw [if_pos hi, if_pos (by omega), if_pos (by omega)]
  · rw [if_neg hi, if_neg (by omega)]

theorem normalizeCode_slice {t : Text} {s : Span} (h : s.stop ≤ t.length) :
    normalizeCode (s.slice t) = Text.substitute '\n' ' ' ((contentSpan t s).slice t) := by
  unfold contentSpan
  split
  · next hp =>
    rw [slice_shrink h]
    refine (if_pos hp).trans ?_
    simp [Text.substitute]
  · next hp => exact if_neg hp

end Locator

namespace Math.Disguised

variable {o d : Text} {offsets : List Nat}

/-- What does not tell a backtick from a dollar does not see the disguise. -/
theorem map_slice {α : Type} (h : Disguised o d offsets) (s : Span) {f : Char → α}
    (hf : f '`' = f '$') : (s.slice d).map f = (s.slice o).map f := by
  apply List.ext_getElem?
  intro i
  rw [List.getElem?_map, List.getElem?_map, Span.getElem?_slice, Span.getElem?_slice]
  split
  · by_cases hc : Covered offsets (s.start + i)
    · rw [h.backtick hc, h.dollar hc]
      simp [hf]
    · rw [h.kept _ hc]
  · rfl

theorem padded_slice (h : Disguised o d offsets) (s : Span) :
    Locator.padded (s.slice d) = Locator.padded (s.slice o) := by
  have hblank := h.map_slice s (f := fun c => Text.isBlank (if c = '\n' then ' ' else c)) (by decide)
  have hspace := h.map_slice s (f := fun c => (if c = '\n' then ' ' else c) == ' ') (by decide)
  rw [Locator.padded_eq, Locator.padded_eq, hblank, hspace]

theorem contentSpan_eq (h : Disguised o d offsets) (s : Span) :
    Locator.contentSpan d s = Locator.contentSpan o s := by
  rw [Locator.contentSpan, Locator.contentSpan, h.padded_slice]

theorem isRun (h : Disguised o d offsets) {p : Nat} (hp : p ∈ offsets) : IsRun d p 2 where
  ticks k hk := by
    obtain ⟨h0, h1⟩ := h.backticks p hp
    match k, hk with
    | 0, _ => exact h0
    | 1, _ => exact h1
  behind := h.behind p hp
  before j hj := h.before j (hj ▸ hp)

end Math.Disguised

namespace Math

/-- Line feeds may become spaces before or after the delimiters are given back. -/
theorem unveil_substitute (offsets : List Nat) (s : Span) (t : Text) :
    unveil offsets s (Text.substitute '\n' ' ' t) = Text.substitute '\n' ' ' (unveil offsets s t) := by
  apply List.ext_getElem?
  intro i
  simp only [Text.substitute, List.getElem?_map, getElem?_unveil, Option.map_map, Function.comp_def]
  cases t[i]? with
  | none => rfl
  | some c =>
    simp only [Option.map_some, Option.some.injEq]
    split <;> simp

end Math

/-! ## Code spans -/

namespace Locator.CodeAt

open Math Latex

theorem tickRun_eq {d : Text} {s : Span} {c : Text} {n : Nat} (hc : CodeAt d s c n) :
    tickRun d s.start = n := by
  have htake : (d.drop s.start).take n = List.replicate n '`' := by
    apply List.ext_getElem?
    intro k
    rw [List.getElem?_take, List.getElem?_drop, List.getElem?_replicate]
    split
    · next hk => exact hc.opener k hk
    · rfl
  have hnone : ((d.drop s.start).drop n).takeWhile (· == '`') = [] := by
    have hhead : ((d.drop s.start).drop n).head? ≠ some '`' := by
      rw [List.drop_drop, List.head?_drop]
      exact hc.behind
    cases hd : (d.drop s.start).drop n with
    | nil => rfl
    | cons x r =>
      rw [hd] at hhead
      exact List.takeWhile_cons_of_neg (by simpa using hhead)
  rw [tickRun, ← List.take_append_drop n (d.drop s.start), htake,
    List.takeWhile_append_of_pos (by simp), hnone]
  simp

variable {o d : Text} {offsets : List Nat} {s : Span} {t : Text} {n : Nat}

/-- A code span that a disguised delimiter opens is fenced by two backticks. -/
theorem fence_eq_two (hc : CodeAt d s t n) (h : Disguised o d offsets) (hs : s.start ∈ offsets) :
    n = 2 := by
  have hrun := h.isRun hs
  rcases Nat.lt_trichotomy n 2 with hlt | heq | hgt
  · exact absurd (hrun.ticks n hlt) hc.behind
  · exact heq
  · exact absurd (hc.opener 2 hgt) hrun.behind

/-- Between the delimiter that opens a code span and its last two characters there is no other. -/
theorem alone (hc : CodeAt d s t n) (h : Disguised o d offsets) (hs : s.start ∈ offsets) {p : Nat}
    (hp : p ∈ offsets) : ¬ (s.start < p ∧ p < s.stop - 2) := by
  rintro ⟨hlo, hhi⟩
  obtain rfl := hc.fence_eq_two h hs
  have := h.apart hs hp hlo
  exact hc.first p (by omega) hhi (h.isRun hp)

/-- No end of the content cuts a delimiter in two. -/
theorem not_cut (hc : CodeAt d s t n) (h : Disguised o d offsets) {i : Nat} :
    ¬ Cut offsets (contentSpan d (s.shrink n)) i := by
  have hw := hc.width
  have hpos := hc.pos
  have hstart : ∀ p ∈ offsets, s.start + n ≠ p ∧ s.start + n ≠ p + 1 := fun p hp =>
    ⟨fun he => hc.behind (he ▸ (h.backticks p hp).1), fun he => hc.behind (he ▸ (h.backticks p hp).2)⟩
  have hstop : ∀ p ∈ offsets, s.stop - n ≠ p + 1 ∧ s.stop - n ≠ p + 2 := fun p hp =>
    ⟨fun he => hc.closer.before p he (h.backticks p hp).1,
      fun he => hc.closer.before (p + 1) he (h.backticks p hp).2⟩
  unfold contentSpan
  split
  · rintro (⟨rfl, p, hp, he⟩ | ⟨he, hi⟩)
    · have := hstart p hp
      simp only [Span.shrink] at he
      omega
    · have := hstop i hi
      simp only [Span.shrink] at he
      omega
  · rintro (⟨rfl, p, hp, he⟩ | ⟨he, hi⟩)
    · have := hstart p hp
      simp only [Span.shrink] at he
      omega
    · have := hstop i hi
      simp only [Span.shrink] at he
      omega

theorem content_eq (hc : CodeAt d s t n) :
    t = Text.substitute '\n' ' ' ((contentSpan d (s.shrink n)).slice d) := by
  rw [hc.content]
  exact normalizeCode_slice (Nat.le_trans (Nat.sub_le _ _) hc.stop_le)

theorem contentSpan_bounds (hc : CodeAt d s t n) :
    s.start + n ≤ (contentSpan d (s.shrink n)).start ∧
      (contentSpan d (s.shrink n)).start ≤ (contentSpan d (s.shrink n)).stop ∧
      (contentSpan d (s.shrink n)).stop + n ≤ s.stop := by
  have hw := hc.width
  have hstop := hc.stop_le
  unfold contentSpan
  split
  · next hp =>
    have htwo := two_le_length_of_padded hp
    rw [Span.length_slice _ (by simp only [Span.shrink]; omega)] at htwo
    simp only [Span.shrink] at htwo ⊢
    omega
  · simp only [Span.shrink]
    omega

/-- The content is as long as its span. -/
theorem length_content (hc : CodeAt d s t n) :
    (t.length : Int) = (contentSpan d (s.shrink n)).length := by
  obtain ⟨hlo, hle, hhi⟩ := hc.contentSpan_bounds
  have hstop := hc.stop_le
  have hlen : t.length
      = (contentSpan d (s.shrink n)).stop - (contentSpan d (s.shrink n)).start := by
    rw [hc.content_eq, Text.substitute, List.length_map, Span.length_slice _ (by omega)]
  simp only [Span.length]
  omega

/-- The renderer finds the content of a code span by its length alone. -/
theorem innerSpan_eq (hc : CodeAt d s t n) :
    Rendering.innerSpan t s = contentSpan d (s.shrink n) := by
  obtain ⟨k, -, hk⟩ := exists_contentSpan_eq d s n
  have hlen := hc.length_content
  have hbounds := hc.contentSpan_bounds
  rw [hk] at hlen hbounds ⊢
  simp only [Span.shrink, Span.length] at hlen hbounds
  have htwice : s.length - (t.length : Int) = 2 * k := by
    simp only [Span.length]
    omega
  rw [Rendering.innerSpan]
  simp only [htwice]
  rw [if_pos (by omega)]
  simp only [Span.shrink, Span.mk.injEq]
  omega

/-- Where a delimiter was disguised inside, the content has backticks. -/
theorem ticks_inside (hc : CodeAt d s t n) (h : Disguised o d offsets) {p : Nat}
    (hp : p ∈ inside (Rendering.innerSpan t s) offsets) :
    t[p - (Rendering.innerSpan t s).start]? = some '`' ∧
      t[p + 1 - (Rendering.innerSpan t s).start]? = some '`' := by
  obtain ⟨hmem, hge, hin⟩ := mem_inside.1 hp
  obtain ⟨h0, h1⟩ := h.backticks p hmem
  rw [hc.innerSpan_eq] at hge hin ⊢
  rw [hc.content_eq, Text.substitute, List.getElem?_map, List.getElem?_map, Span.getElem?_slice,
    Span.getElem?_slice, if_pos (by omega), if_pos (by omega), Nat.add_sub_cancel' hge,
    Nat.add_sub_cancel' (by omega), h0, h1]
  exact ⟨rfl, rfl⟩

/-- The delimiters inside are the dollars of the text. -/
theorem unveil_eq (hc : CodeAt d s t n) (h : Disguised o d offsets) :
    unveil offsets (Rendering.innerSpan t s) t = normalizeCode ((s.shrink n).slice o) := by
  have hle : (s.shrink n).stop ≤ o.length := by
    rw [← h.length]
    exact Nat.le_trans (Nat.sub_le _ _) hc.stop_le
  rw [hc.innerSpan_eq, normalizeCode_slice hle, ← h.contentSpan_eq]
  have hcontent := hc.content_eq
  have hcut : ∀ i, ¬ Cut offsets (contentSpan d (s.shrink n)) i := fun i => hc.not_cut h
  generalize contentSpan d (s.shrink n) = w at hcontent hcut ⊢
  rw [hcontent, unveil_substitute, h.unveil_slice, sliceVeiled_eq_slice hcut]

end Locator.CodeAt
end Texdown
