import Texdown.Proofs.Dollars

/-!
# Dollars that open math

Two dollars in a row open display math in LaTeX, so nothing should stand between a dollar that opens math
and a second one. A span that is closed at the start of a fragment has a space in front of its dollar for
that reason. A span that is closed elsewhere has none: if nothing has been written in it yet, its two
dollars stand side by side (`Hollows`).

Results:
* `spans_doubled`: the dollars that a fragment doubles.
* `Sparse.call`: a call doubles a dollar exactly if it closes math that is hollow.
* `doubled_iff`: so it is in every run of calls on a fresh formatter.
-/
namespace Texdown.Latex

/-! ## Pieces -/

/-- A dollar that opens math. -/
def opener : Piece := ⟨.dollar, ['$'], false⟩

/-- A dollar comes right behind one that opens math. -/
def Doubled (out : List Piece) : Prop :=
  ∃ front rest, out = front ++ opener :: rest ∧ (textOf rest).head? = some '$'

/-- Nothing comes behind a dollar that opens math. -/
def Ajar (out : List Piece) : Prop := ∃ front rest, out = front ++ opener :: rest ∧ textOf rest = []

theorem textOf_singleton (p : Piece) : textOf [p] = p.text := List.append_nil p.text

theorem concat_eq_split {α : Type} {out front rest : List α} {p q : α}
    (h : out ++ [q] = front ++ p :: rest) :
    rest = [] ∧ q = p ∨ ∃ r, rest = r ++ [q] ∧ out = front ++ p :: r := by
  rcases List.eq_nil_or_concat rest with rfl | ⟨r, e, rfl⟩
  · exact .inl ⟨rfl, (List.append_inj' h rfl).2 |> List.singleton_inj.1⟩
  · rw [List.concat_eq_append, ← List.cons_append, ← List.append_assoc] at h
    obtain ⟨hout, hq⟩ := List.append_inj' h rfl
    exact .inr ⟨r, by rw [List.concat_eq_append, hq], hout⟩

theorem doubled_concat {out : List Piece} {q : Piece} :
    Doubled (out ++ [q]) ↔ Doubled out ∨ Ajar out ∧ q.text.head? = some '$' := by
  constructor
  · rintro ⟨front, rest, h, hhead⟩
    rcases concat_eq_split h with ⟨rfl, -⟩ | ⟨r, rfl, hout⟩
    · cases hhead
    · rw [textOf_append, textOf_singleton] at hhead
      cases hr : textOf r with
      | nil => exact .inr ⟨⟨front, r, hout, hr⟩, by rwa [hr] at hhead⟩
      | cons c u => exact .inl ⟨front, r, hout, by rw [hr] at hhead ⊢; exact hhead⟩
  · rintro (⟨front, rest, rfl, hhead⟩ | ⟨⟨front, rest, rfl, hrest⟩, hhead⟩)
    · refine ⟨front, rest ++ [q], by simp, ?_⟩
      rw [textOf_append, List.head?_append, hhead]
      rfl
    · refine ⟨front, rest ++ [q], by simp, ?_⟩
      rw [textOf_append, hrest, textOf_singleton]
      exact hhead

theorem ajar_concat {out : List Piece} {q : Piece} :
    Ajar (out ++ [q]) ↔ q = opener ∨ Ajar out ∧ q.text = [] := by
  constructor
  · rintro ⟨front, rest, h, hempty⟩
    rcases concat_eq_split h with ⟨-, hq⟩ | ⟨r, rfl, hout⟩
    · exact .inl hq
    · rw [textOf_append, textOf_singleton, List.append_eq_nil_iff] at hempty
      exact .inr ⟨⟨front, r, hout, hempty.1⟩, hempty.2⟩
  · rintro (rfl | ⟨⟨front, rest, rfl, hrest⟩, hempty⟩)
    · exact ⟨out, [], rfl, rfl⟩
    · exact ⟨front, rest ++ [q], by simp, by rw [textOf_append, hrest, textOf_singleton, hempty]; rfl⟩

/-! ## Fragments -/

/-- Whether math would be closed at the start of this text. -/
def closesAtOnce : Text → Bool
  | '$' :: '$' :: _ | '\n' :: _ => true
  | _ => false

/-- Whether math that a text opens is closed at once. -/
def hollowIn : Bool → Text → Bool
  | _, [] => false
  | false, '$' :: '$' :: t => closesAtOnce t || hollowIn true t
  | false, _ :: t => hollowIn false t
  | true, '\\' :: _ :: t => hollowIn true t
  | true, '$' :: '$' :: t => hollowIn false t
  | true, c :: t => hollowIn (c != '\n') t

/-- So it is behind math that a dollar at the start closes. -/
def hollowOver : Text → Bool
  | '$' :: '$' :: t => hollowIn false t
  | '$' :: t => hollowIn false t
  | t => hollowIn true t

theorem hollowIn_of_split (t : Text) : hollowIn false t = match splitAtDelimiter? t with
    | none => false
    | some (_, b) => closesAtOnce b || hollowIn true b := by
  fun_induction splitAtDelimiter? t with
  | case1 r => rfl
  | case2 c r hne ih =>
    have hc : hollowIn false (c :: r) = hollowIn false r := by
      rw [hollowIn]
      exact hne
    rw [hc, ih]
    cases splitAtDelimiter? r <;> rfl
  | case3 => rfl

theorem hollowIn_of_read (t : Text) : hollowIn true t = match (readMath t).2 with
    | .never => false
    | .delimiter r | .lineBreak r => hollowIn false r := by
  fun_induction readMath t with
  | case1 c r s ih => exact ih
  | case2 r => rfl
  | case3 r => rfl
  | case4 c r hpair hdollars hc s ih =>
    have hgoes : hollowIn true (c :: r) = hollowIn true r := by
      rw [hollowIn, bne_iff_ne.2 hc]
      · exact hpair
      · exact hdollars
    exact hgoes.trans ih
  | case5 => rfl

/-- No dollar of math stands without a backslash. -/
theorem head_readMath (t : Text) : (readMath t).1.head? ≠ some '$' := by
  fun_cases readMath t with
  | case4 c r _ _ _ s =>
    by_cases hc : c = '$' ∨ c = '#'
    · simp [hc]
    · simpa [hc] using fun he => hc (.inl he)
  | _ => simp

/-- Math is closed at once where nothing of it is written. -/
theorem closesAtOnce_iff (t : Text) :
    closesAtOnce t = true ↔ (readMath t).1 = [] ∧ (readMath t).2 ≠ .never := by
  fun_cases readMath t with
  | case4 c r _ hdollars hbreak s =>
    refine iff_of_false ?_ fun h => ?_
    · rw [closesAtOnce]
      · exact Bool.false_ne_true
      · intro r' he
        cases he
        exact hdollars _ rfl rfl
      · intro r' he
        cases he
        exact hbreak rfl
    · have hempty := h.1
      split at hempty <;> cases hempty
  | _ => simp [closesAtOnce]

/-- Without a dollar in front, only a line feed closes math at once. -/
theorem closesAtOnce_of_head {t : Text} (h : ∀ r, t ≠ '$' :: r) :
    closesAtOnce t = true ↔ t.head? = some '\n' := by
  cases t with
  | nil => simp [closesAtOnce]
  | cons c r =>
    by_cases hc : c = '\n'
    · subst hc
      exact iff_of_true rfl rfl
    · refine iff_of_false ?_ (by simpa using hc)
      rw [closesAtOnce]
      · exact Bool.false_ne_true
      · exact fun r' he => h _ he
      · exact fun r' he => hc (List.cons.inj he).1

namespace Formatter

variable {f : Formatter}

theorem doubled_put {origin : Origin} {t : Text} :
    Doubled (f.put origin t).out ↔ Doubled f.out ∨ Ajar f.out ∧ t.head? = some '$' := doubled_concat

/-- What is put behind a dollar that opens math, unless it is another one. -/
theorem ajar_put {origin : Origin} {t : Text} (h : f.mathOpen = true ∨ origin ≠ .dollar ∨ t ≠ ['$']) :
    Ajar (f.put origin t).out ↔ Ajar f.out ∧ t = [] := by
  refine ajar_concat.trans (or_iff_right fun hq => ?_)
  rcases h with h | h | h
  · exact Bool.false_ne_true ((congrArg Piece.inMath hq).symm.trans h)
  · exact h (congrArg Piece.origin hq)
  · exact h (congrArg Piece.text hq)

/-- A dollar that opens math is only bare while math is open. -/
def Sparse (f : Formatter) : Prop := Ajar f.out → f.mathOpen = true

/-- The dollar that closes math is doubled if nothing of the math was written. -/
theorem closing_doubled {g : Formatter} {t : Text} (ho : f.mathOpen = true) (h : (readMath t).2 ≠ .never)
    (hg : g.out = ((f.put .content (readMath t).1).put .dollar ['$']).out) :
    (Doubled g.out ↔ Doubled f.out ∨ Ajar f.out ∧ closesAtOnce t = true) ∧ ¬ Ajar g.out := by
  constructor
  · rw [hg, doubled_put, doubled_put, ajar_put (.inl ho), closesAtOnce_iff]
    simp [head_readMath, h]
  · rw [hg, ajar_put (f := f.put .content (readMath t).1) (.inl ho)]
    exact fun hg => by cases hg.2

/-- What comes behind a dollar that closes math doubles a dollar only if it opens math and closes it at
once. -/
theorem doubled_behind {g : Formatter} {r : Text} (hclosed : g.mathOpen = false) (hajar : ¬ Ajar g.out)
    (h : Doubled (g.spans r).out ↔ Doubled g.out ∨ (Ajar g.out ∧ closesAtOnce r = true) ∨
      hollowIn g.mathOpen r = true) :
    Doubled (g.spans r).out ↔ Doubled g.out ∨ hollowIn false r = true := by
  rwa [hclosed, or_iff_right (b := hollowIn false r = true) fun hg => hajar hg.1] at h

/-- A fragment doubles the dollar in front of it if it closes math at once, and those of the math that it
opens and closes at once. -/
theorem spans_doubled (f : Formatter) (t : Text) (hf : f.Sparse) :
    (Doubled (f.spans t).out ↔ Doubled f.out ∨ (Ajar f.out ∧ closesAtOnce t = true) ∨
      hollowIn f.mathOpen t = true) ∧ (f.spans t).Sparse := by
  fun_induction Formatter.spans f t with
  | case1 f t ho f' h =>
    have hcloses : ¬ closesAtOnce t = true := fun hc => ((closesAtOnce_iff t).1 hc).2 h
    constructor
    · rw [doubled_put, ho, hollowIn_of_read, h]
      simp [head_readMath, hcloses]
    · exact fun _ => ho
  | case2 f t ho f' r h ih =>
    have hclosed : (f'.toggleMath ['$']).mathOpen = false := congrArg not ho
    obtain ⟨hdoubled, hajar⟩ := closing_doubled (g := f'.toggleMath ['$']) ho (by simp [h]) rfl
    obtain ⟨hrest, hsparse⟩ := ih fun hg => absurd hg hajar
    rw [ho, hollowIn_of_read, h, ← or_assoc, ← hdoubled]
    exact ⟨doubled_behind hclosed hajar hrest, hsparse⟩
  | case3 f t ho f' r h ih =>
    have hclosed : ((f'.note .spanClosedAtLineBreak).toggleMath ['$']).mathOpen = false := congrArg not ho
    obtain ⟨hdoubled, hajar⟩ :=
      closing_doubled (g := (f'.note .spanClosedAtLineBreak).toggleMath ['$']) ho (by simp [h]) rfl
    obtain ⟨hrest, hsparse⟩ := ih fun hg => absurd hg hajar
    rw [ho, hollowIn_of_read, h, ← or_assoc, ← hdoubled]
    exact ⟨doubled_behind hclosed hajar hrest, hsparse⟩
  | case4 f t ho h =>
    have ho : f.mathOpen = false := eq_false_of_ne_true ho
    have hajar : ¬ Ajar f.out := fun h => by cases ho.symm.trans (hf h)
    rw [doubled_put, ho, hollowIn_of_split, h]
    refine ⟨by simp [hajar], fun h => ?_⟩
    exact absurd ((ajar_put (.inr (.inl (by decide)))).1 h).1 hajar
  | case5 f t ho a b h ih =>
    have ho : f.mathOpen = false := eq_false_of_ne_true ho
    have hajar : ¬ Ajar f.out := fun h => by cases ho.symm.trans (hf h)
    have hput : ¬ Ajar (f.put .content (escape a)).out := fun h =>
      absurd ((ajar_put (.inr (.inl (by decide)))).1 h).1 hajar
    have hopen : ((f.put .content (escape a)).toggleMath ['$']).mathOpen = true := congrArg not ho
    have hopener : Ajar ((f.put .content (escape a)).toggleMath ['$']).out :=
      ajar_concat.2 (.inl (by rw [opener, ← ho]; rfl))
    have hdoubled : Doubled ((f.put .content (escape a)).toggleMath ['$']).out ↔ Doubled f.out := by
      refine doubled_concat.trans ((or_iff_left fun h => hput h.1).trans ?_)
      exact doubled_put.trans (or_iff_left fun h => hajar h.1)
    obtain ⟨hrest, hsparse⟩ := ih fun _ => hopen
    refine ⟨hrest.trans ?_, hsparse⟩
    rw [hdoubled, hopen, ho, hollowIn_of_split, h]
    simp [hopener, hajar]

/-- A gap closes math, and that doubles the dollar in front of it. -/
theorem Sparse.flush (hf : f.Sparse) :
    (Doubled f.flush.out ↔ Doubled f.out ∨ Ajar f.out ∧ f.spacing.count ≠ 0) ∧
      (Ajar f.flush.out ↔ Ajar f.out ∧ f.spacing.count = 0) := by
  have hhead : f.spacing.gap.head? ≠ some '$' := fun h => by
    rcases blank_gap f.spacing '$' (List.mem_of_mem_head? h) with h | h <;> cases h
  have hflush : f.flush.out = (f.closeMath.put .gap f.spacing.gap).out := by
    rw [← closeMath_spacing f]
    rfl
  rw [hflush, doubled_put, ajar_put (.inr (.inl (by decide))), or_iff_left fun h => hhead h.2]
  by_cases hcloses : f.mathOpen = true ∧ f.spacing.count ≠ 0
  · have hclose : f.closeMath.out = (f.put .dollar ['$']).out := by
      rw [closeMath, if_pos hcloses]
      rfl
    rw [hclose, doubled_put, ajar_put (.inl hcloses.1)]
    simp [hcloses.2]
  · have hclose : f.closeMath = f := by rw [closeMath, if_neg hcloses]
    have hcount : Ajar f.out → f.spacing.count = 0 := fun h =>
      Decidable.byContradiction fun hc => hcloses ⟨hf h, hc⟩
    rw [hclose]
    refine ⟨(or_iff_left fun h => h.2 (hcount h.1)).symm, and_congr_right fun h => ?_⟩
    exact iff_of_true (by rw [Spacing.gap, if_pos (hcount h)]) (hcount h)

theorem Sparse.sparse_flush (hf : f.Sparse) : f.flush.Sparse := by
  intro h
  obtain ⟨hajar, hc⟩ := hf.flush.2.1 h
  rw [flush_mathOpen, if_pos hc]
  exact hf hajar

/-- The space in front of a dollar at the start keeps it apart. -/
theorem stray_doubled (ho : f.mathOpen = true) (r : Text) :
    let g := (f.note .spanClosedAtDollar).toggleMath [' ', '$']
    (Doubled (g.spans r).out ↔ Doubled f.out ∨ hollowIn false r = true) ∧ (g.spans r).Sparse := by
  intro g
  have hclosed : g.mathOpen = false := congrArg not ho
  have hajar : ¬ Ajar g.out := by
    have hg : g.out = (f.put .dollar [' ', '$']).out := rfl
    rw [hg, ajar_put (.inl ho)]
    exact fun h => by cases h.2
  have hdoubled : Doubled g.out ↔ Doubled f.out := doubled_put.trans (or_iff_left fun h => by cases h.2)
  obtain ⟨hrest, hsparse⟩ := spans_doubled g r fun h => absurd h hajar
  rw [← hdoubled]
  exact ⟨doubled_behind hclosed hajar hrest, hsparse⟩

/-! ## Calls -/

/-- Whether a call closes math in which nothing was written. -/
def Hollows (f : Formatter) : Call → Prop
  | .act (.write _ _) | .finish => Ajar f.out ∧ f.spacing.count ≠ 0
  | .act (.escaped t) => Ajar f.out ∧ (f.spacing.count ≠ 0 ∨ t.head? = some '\n') ∨
      (if f.flush.mathOpen then hollowOver t else hollowIn false t) = true
  | _ => False

theorem Sparse.write (hf : f.Sparse) (origin : Origin) {t : Text} (ht : '$' ∉ t) :
    (Doubled (f.write origin t).out ↔ Doubled f.out ∨ Ajar f.out ∧ f.spacing.count ≠ 0) ∧
      (f.write origin t).Sparse := by
  have hhead : t.head? ≠ some '$' := fun h => ht (List.mem_of_mem_head? h)
  refine ⟨?_, fun h => hf.sparse_flush ((ajar_put (.inr (.inr ?_))).1 h).1⟩
  · rw [← hf.flush.1]
    exact doubled_put.trans (or_iff_left fun h => hhead h.2)
  · rintro rfl
    exact ht List.mem_cons_self

theorem Sparse.escaped (hf : f.Sparse) (haware : f.mathAware = true) (t : Text) :
    (Doubled (f.writeEscaped t).out ↔ Doubled f.out ∨ f.Hollows (.act (.escaped t))) ∧
      (f.writeEscaped t).Sparse := by
  have haware : f.flush.mathAware = true := f.flush_mathAware.trans haware
  obtain ⟨hdoubled, hajar⟩ := hf.flush
  unfold Hollows Formatter.writeEscaped
  simp only [haware, Bool.not_true, Bool.false_eq_true, if_false]
  cases ho : f.flush.mathOpen with
  | false =>
    rw [if_neg (by simp), if_neg (by simp)]
    obtain ⟨hrest, hsparse⟩ := spans_doubled f.flush t hf.sparse_flush
    have hshut : ¬ Ajar f.flush.out := fun h => by cases ho.symm.trans (hf.sparse_flush h)
    refine ⟨?_, hsparse⟩
    rw [hrest, ho, hdoubled, or_iff_right (b := hollowIn false t = true) fun h => hshut h.1, or_assoc]
    refine or_congr_right (or_congr_left (and_congr_right fun h => ?_))
    have hc : f.spacing.count ≠ 0 := fun hc => hshut (hajar.2 ⟨h, hc⟩)
    simp [hc]
  | true =>
    have hc : f.spacing.count = 0 := Decidable.byContradiction fun hc => by
      rw [flush_mathOpen, if_neg hc] at ho
      cases ho
    simp only [hc, ne_eq, not_true_eq_false, and_false, or_false, and_true] at hdoubled hajar
    simp only [if_true, hc, ne_eq, not_true_eq_false, false_or]
    split
    · next r =>
      have h := stray_doubled ho r
      rw [hdoubled] at h
      simpa [hollowOver] using h
    · next r hone =>
      have h := stray_doubled ho r
      have hover : hollowOver ('$' :: r) = hollowIn false r := by
        rw [hollowOver]
        exact hone
      rw [hdoubled] at h
      simpa [hover] using h
    · next htwo hone =>
      obtain ⟨hrest, hsparse⟩ := spans_doubled f.flush t hf.sparse_flush
      have hover : hollowOver t = hollowIn true t := by
        rw [hollowOver]
        · exact htwo
        · exact hone
      rw [ho, hdoubled, hajar, closesAtOnce_of_head hone, ← hover] at hrest
      exact ⟨hrest, hsparse⟩

/-- A call doubles a dollar if it closes math in which nothing was written. -/
theorem Sparse.call (hf : f.Sparse) (haware : f.mathAware = true) {c : Call}
    (hplain : ∀ origin t, c = .act (.write origin t) → '$' ∉ t) :
    (Doubled (f.call c).out ↔ Doubled f.out ∨ f.Hollows c) ∧ (f.call c).Sparse := by
  cases c with
  | finish => exact ⟨hf.flush.1, hf.sparse_flush⟩
  | act a =>
    cases a with
    | write origin t => exact hf.write origin (hplain origin t rfl)
    | escaped t => exact hf.escaped haware t
    | _ => exact ⟨(or_iff_left id).symm, hf⟩

theorem Sparse.calls {f : Formatter} (hf : f.Sparse) (haware : f.mathAware = true) {cs : List Call}
    (hplain : ∀ origin t, .act (.write origin t) ∈ cs → '$' ∉ t) :
    Doubled (f.calls cs).out ↔
      Doubled f.out ∨ ∃ front c rest, cs = front ++ c :: rest ∧ (f.calls front).Hollows c := by
  induction cs generalizing f with
  | nil => exact (or_iff_left fun ⟨front, c, rest, h, _⟩ => by simp at h).symm
  | cons c cs ih =>
    obtain ⟨hdoubled, hsparse⟩ := hf.call haware (c := c)
      fun origin t h => hplain origin t (h ▸ List.mem_cons_self)
    have hsplit : (∃ front e rest, c :: cs = front ++ e :: rest ∧ (f.calls front).Hollows e) ↔
        f.Hollows c ∨ ∃ front e rest, cs = front ++ e :: rest ∧ ((f.call c).calls front).Hollows e := by
      constructor
      · rintro ⟨front, e, rest, h, he⟩
        cases front with
        | nil =>
          cases h
          exact .inl he
        | cons b front =>
          cases h
          exact .inr ⟨front, e, rest, rfl, he⟩
      · rintro (h | ⟨front, e, rest, rfl, he⟩)
        · exact ⟨[], c, cs, rfl, h⟩
        · exact ⟨c :: front, e, rest, rfl, he⟩
    rw [hsplit, ← or_assoc, ← hdoubled]
    exact ih hsparse ((f.call_mathAware c).trans haware)
      fun origin t h => hplain origin t (List.mem_cons_of_mem c h)

/-- Some call on a fresh formatter puts a dollar behind one that opens math, exactly if one closes math in
which nothing was written. -/
theorem doubled_iff (indentWidth : Int) {cs : List Call}
    (hplain : ∀ origin t, .act (.write origin t) ∈ cs → '$' ∉ t) :
    Doubled ((fresh indentWidth).calls cs).out ↔
      ∃ front c rest, cs = front ++ c :: rest ∧ ((fresh indentWidth).calls front).Hollows c := by
  have hnone (out : List Piece) (h : out = []) : ¬ Doubled out ∧ ¬ Ajar out := by
    subst h
    exact ⟨fun ⟨front, rest, h, _⟩ => by simp at h, fun ⟨front, rest, h, _⟩ => by simp at h⟩
  have hfresh : (fresh indentWidth).Sparse := fun h => absurd h (hnone _ rfl).2
  exact (hfresh.calls rfl hplain).trans (or_iff_right (hnone _ rfl).1)

/-- No dollar is doubled where a fragment ends in a delimiter and the next one begins with one. -/
theorem doubled_iff_cut :
    let cs : List Call := [.act (.escaped "$$".toList), .act (.escaped "$$x".toList), .finish]
    (∀ origin t, .act (.write origin t) ∈ cs → '$' ∉ t) ∧ ¬ Doubled ((fresh 2).calls cs).out := by
  intro cs
  have hplain : ∀ origin t, .act (.write origin t) ∈ cs → '$' ∉ t := by simp [cs]
  refine ⟨hplain, fun hdoubled => ?_⟩
  obtain ⟨front, c, rest, h, hhollow⟩ := (doubled_iff 2 hplain).1 hdoubled
  rcases front with _ | ⟨a, _ | ⟨b, _ | ⟨d, front⟩⟩⟩
  · simp only [cs, List.nil_append, List.cons.injEq] at h
    obtain ⟨rfl, -⟩ := h
    rcases hhollow with ⟨⟨front, rest, h, -⟩, -⟩ | hin
    · cases front <;> cases h
    · exact absurd hin (by decide)
  · simp only [cs, List.cons_append, List.nil_append, List.cons.injEq] at h
    obtain ⟨rfl, rfl, -⟩ := h
    rcases hhollow with ⟨-, hc | hhead⟩ | hin
    · exact hc (count_writeEscaped (fresh 2) _)
    · exact absurd hhead (by decide)
    · split at hin <;> exact absurd hin (by decide)
  · simp only [cs, List.cons_append, List.nil_append, List.cons.injEq] at h
    obtain ⟨rfl, rfl, rfl, -⟩ := h
    exact hhollow.2 (count_writeEscaped ((fresh 2).writeEscaped _) _)
  · simp [cs] at h

/-- Four dollars in a row open display math. -/
theorem doubled_four :
    let f := (fresh 2).calls [.act (.escaped "$$$$".toList)]
    f.text = "$$".toList ∧ Doubled f.out := by
  have hf : (fresh 2).calls [.act (.escaped "$$$$".toList)]
      = ((((fresh 2).flush.put .content []).toggleMath ['$']).put .content []
        |>.toggleMath ['$'] |>.put .content []) := by
    show (fresh 2).flush.spans _ = _
    rw [spans_some rfl rfl, spans_delimiter rfl rfl, spans_none rfl rfl]
    rfl
  intro f
  have hout : f.out = [⟨.gap, [], false⟩, ⟨.content, [], false⟩] ++ opener ::
      [⟨.content, [], true⟩, ⟨.dollar, ['$'], true⟩, ⟨.content, [], false⟩] := by
    rw [show f = _ from hf]
    rfl
  exact ⟨by rw [Formatter.text, hout]; rfl, _, _, hout, rfl⟩

end Formatter

end Texdown.Latex
