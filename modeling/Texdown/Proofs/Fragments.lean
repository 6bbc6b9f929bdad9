import Texdown.Proofs.OnePass

/-!
# Text that comes in fragments

A reader of Markdown may cut a text into pieces wherever it likes. A formatter escapes each piece on its
own, so a cut could fall into something that is written as a whole: three dots, several spaces, a
delimiter, or what a backslash keeps. Where it does not (`Apart`), two pieces are written as one would be,
in either mode: every reader of a fragment goes through the first piece as it would alone, and goes on with
the second one.

Results:
* `escape_append`, `splitAtDelimiter?_append`, `readMath_append`: the readers of a fragment do.
* `spans_append`: so does a formatter, in whatever mode it is.
* `writeEscaped_append`: two fragments are written as the one that they make up, with the same notices.
-/
namespace Texdown.Latex

/-! ## Cuts -/

/-- The cut between two texts is not inside of what is written as a whole. -/
structure Apart (a b : Text) : Prop where
  last : ∀ c ∈ a.getLast?, c ∉ ['.', ' ', '$', '\\']
  head : b.head? ≠ some '$'

namespace Apart

variable {a b r : Text} {c : Char}

theorem of_suffix (h : Apart a b) (hr : r <:+ a) : Apart r b where
  last c hc := by
    obtain ⟨front, rfl⟩ := hr
    refine h.last c ?_
    rw [Option.mem_def] at hc ⊢
    rw [List.getLast?_append, hc, Option.some_or]
  head := h.head

theorem tail (h : Apart (c :: a) b) : Apart a b := h.of_suffix (List.suffix_cons c a)

/-- What begins a longer token does not come last in the first text. -/
theorem exists_cons (h : Apart (c :: a) b) (hc : c ∈ ['.', ' ', '$', '\\']) : ∃ d r, a = d :: r := by
  cases a with
  | nil => exact absurd hc (h.last c rfl)
  | cons d r => exact ⟨d, r, rfl⟩

/-- In front of the second text the first one goes on as it would alone. -/
theorem eq_cons_of_append {d : Char} {s : Text} (h : Apart (c :: a) b) (hc : c ∈ ['.', ' ', '$', '\\'])
    (hs : a ++ b = d :: s) : ∃ r, a = d :: r ∧ r ++ b = s := by
  obtain ⟨e, r, rfl⟩ := h.exists_cons hc
  obtain ⟨rfl, hrest⟩ := List.cons.inj hs
  exact ⟨r, rfl, hrest⟩

end Apart

/-! ## The readers of a fragment -/

theorem escape_append {a b : Text} (h : Apart a b) : escape (a ++ b) = escape a ++ escape b := by
  induction a using escape.induct with
  | case1 r ih =>
    show ellipsis ++ escape (r ++ b) = ellipsis ++ escape r ++ escape b
    rw [ih h.tail.tail.tail, List.append_assoc]
  | case2 r ih => exact ih h.tail
  | case3 c r hdots hspaces ih =>
    have hfront : escape (c :: (r ++ b)) = escapeChar c ++ escape (r ++ b) := by
      apply escape_of_single
      · rintro s rfl hs
        obtain ⟨r', rfl, hr'⟩ := h.eq_cons_of_append (by decide) hs
        obtain ⟨r'', rfl, -⟩ := h.tail.eq_cons_of_append (by decide) hr'
        exact hdots r'' rfl rfl
      · rintro s rfl hs
        obtain ⟨r', rfl, -⟩ := h.eq_cons_of_append (by decide) hs
        exact hspaces r' rfl rfl
    rw [List.cons_append, hfront, escape_of_single hdots hspaces, ih h.tail, List.append_assoc]
  | case4 => rfl

/-- The first delimiter is that of the first text, or else that of the second one. -/
theorem splitAtDelimiter?_append {a b : Text} (h : Apart a b) :
    splitAtDelimiter? (a ++ b) = match splitAtDelimiter? a with
      | some (x, y) => some (x, y ++ b)
      | none => (splitAtDelimiter? b).map fun s => (a ++ s.1, s.2) := by
  fun_induction splitAtDelimiter? a with
  | case1 r => rfl
  | case2 c r hpair ih =>
    have hfront : splitAtDelimiter? (c :: (r ++ b))
        = (splitAtDelimiter? (r ++ b)).map fun s => (c :: s.1, s.2) := by
      rw [splitAtDelimiter?]
      rintro s rfl hs
      obtain ⟨r', rfl, -⟩ := h.eq_cons_of_append (by decide) hs
      exact hpair r' rfl rfl
    rw [List.cons_append, hfront, ih h.tail]
    cases splitAtDelimiter? r with
    | none => cases splitAtDelimiter? b <;> rfl
    | some s => rfl
  | case3 => exact Option.map_id'.symm

/-- What is left of a fragment when math ends is its end. -/
theorem suffix_of_readMath {t r : Text} (h : (readMath t).2 = .delimiter r ∨ (readMath t).2 = .lineBreak r) :
    r <:+ t := by
  fun_induction readMath t with
  | case1 c q s ih => exact (ih h).trans ((List.suffix_cons c q).trans (List.suffix_cons '\\' _))
  | case2 q =>
    obtain rfl : q = r := by simpa using h
    exact (List.suffix_cons '$' q).trans (List.suffix_cons '$' _)
  | case3 q =>
    obtain rfl : '\n' :: q = r := by simpa using h
    exact List.suffix_rfl
  | case4 c q _ _ _ s ih => exact (ih h).trans (List.suffix_cons c q)
  | case5 => simp at h

/-- How a fragment is read in math if `b` comes behind it. -/
def followedBy (b : Text) : Text × MathEnd → Text × MathEnd
  | (w, .never) => (w ++ (readMath b).1, (readMath b).2)
  | (w, .delimiter r) => (w, .delimiter (r ++ b))
  | (w, .lineBreak r) => (w, .lineBreak (r ++ b))

theorem followedBy_behind (b w : Text) (s : Text × MathEnd) :
    followedBy b (w ++ s.1, s.2) = (w ++ (followedBy b s).1, (followedBy b s).2) := by
  obtain ⟨v, stop⟩ := s
  cases stop with
  | never => exact congrArg (·, (readMath b).2) (List.append_assoc ..)
  | delimiter r => rfl
  | lineBreak r => rfl

/-- Math ends in the first text, or else goes on in the second one. -/
theorem readMath_append {a b : Text} (h : Apart a b) :
    readMath (a ++ b) = followedBy b (readMath a) := by
  fun_induction readMath a with
  | case1 c r s ih =>
    show ('\\' :: c :: (readMath (r ++ b)).1, (readMath (r ++ b)).2) = _
    rw [ih h.tail.tail]
    exact (followedBy_behind b ['\\', c] s).symm
  | case2 r => rfl
  | case3 r => rfl
  | case4 c r hpair hdollars hc s ih =>
    have hfront : readMath (c :: (r ++ b)) = ((if c = '$' ∨ c = '#' then ['\\', c] else [c])
        ++ (readMath (r ++ b)).1, (readMath (r ++ b)).2) := by
      rw [readMath, if_neg hc]
      · rintro d r' rfl hs
        obtain ⟨r', rfl, -⟩ := h.eq_cons_of_append (by decide) hs
        exact hpair d r' rfl rfl
      · rintro r' rfl hs
        obtain ⟨r', rfl, -⟩ := h.eq_cons_of_append (by decide) hs
        exact hdollars r' rfl rfl
    rw [List.cons_append, hfront, ih h.tail, followedBy_behind]
  | case5 => rfl

namespace Formatter

/-! ## Formatters that cannot be told apart -/

/-- The second formatter has written the text of the first one and made its notices, and it goes on as the
first one does. They may have written the text in other pieces. -/
structure Alike (f g : Formatter) : Prop where
  text : g.text = f.text
  notices : g.notices = f.notices
  spacing : g.spacing = f.spacing
  mathAware : g.mathAware = f.mathAware
  mathOpen : g.mathOpen = f.mathOpen

namespace Alike

variable {f g h : Formatter}

theorem symm (hfg : Alike f g) : Alike g f :=
  ⟨hfg.text.symm, hfg.notices.symm, hfg.spacing.symm, hfg.mathAware.symm, hfg.mathOpen.symm⟩

theorem trans (hfg : Alike f g) (hgh : Alike g h) : Alike f h :=
  ⟨hgh.text.trans hfg.text, hgh.notices.trans hfg.notices, hgh.spacing.trans hfg.spacing,
    hgh.mathAware.trans hfg.mathAware, hgh.mathOpen.trans hfg.mathOpen⟩

theorem note (hfg : Alike f g) (n : Notice) : Alike (f.note n) (g.note n) :=
  { hfg with notices := congrArg (· ++ [n]) hfg.notices }

theorem put (hfg : Alike f g) (origin : Origin) (t : Text) : Alike (f.put origin t) (g.put origin t) where
  text := by rw [text_put, text_put, hfg.text]
  notices := hfg.notices
  spacing := hfg.spacing
  mathAware := hfg.mathAware
  mathOpen := hfg.mathOpen

theorem toggleMath (hfg : Alike f g) (mark : Text) : Alike (f.toggleMath mark) (g.toggleMath mark) where
  text := (hfg.put .dollar mark).text
  notices := hfg.notices
  spacing := hfg.spacing
  mathAware := hfg.mathAware
  mathOpen := congrArg not hfg.mathOpen

theorem spans (hfg : Alike f g) (t : Text) : Alike (f.spans t) (g.spans t) := by
  obtain ⟨pieces, ns, opened, hs⟩ := exists_spans f t
  rw [hs f rfl, hs g hfg.mathOpen]
  refine ⟨?_, ?_, hfg.spacing, hfg.mathAware, rfl⟩
  · show textOf (g.out ++ pieces) = textOf (f.out ++ pieces)
    rw [textOf_append, textOf_append]
    exact congrArg (· ++ textOf pieces) hfg.text
  · exact congrArg (· ++ ns) hfg.notices

/-- Two pieces of content are as good as one. -/
theorem content (f : Formatter) (v w : Text) :
    Alike ((f.put .content v).put .content w) (f.put .content (v ++ w)) where
  text := by rw [text_put, text_put, text_put, List.append_assoc]
  notices := rfl
  spacing := rfl
  mathAware := rfl
  mathOpen := rfl

/-- Without line breaks to write, a flush does nothing that could be told. -/
theorem flush {s : Spacing} (hf : f.spacing = s.flushed) : Alike f f.flush := by
  have hcount : f.spacing.count = 0 := by rw [hf]; rfl
  have hclose : f.closeMath = f := if_neg fun h => h.2 hcount
  have hflush : f.flush = { f.put .gap [] with spacing := s.flushed } := by
    unfold Formatter.flush
    simp only [hclose, hf]
    rfl
  rw [hflush]
  exact ⟨(text_put f .gap []).trans (List.append_nil _), rfl, hf.symm, rfl, rfl⟩

end Alike

/-! ## Two fragments -/

variable {f : Formatter} {a b t w : Text}

/-- Math that goes on in the second fragment. -/
theorem spans_math (ho : f.mathOpen = true) (ht : readMath t = (w ++ (readMath b).1, (readMath b).2)) :
    Alike ((f.put .content w).spans b) (f.spans t) := by
  have hput : (f.put .content w).mathOpen = true := ho
  have hfront : (readMath t).1 = w ++ (readMath b).1 := by rw [ht]
  have hstop : (readMath t).2 = (readMath b).2 := by rw [ht]
  have hsame := Alike.content f w (readMath b).1
  rw [← hfront] at hsame
  cases hb : (readMath b).2 with
  | never =>
    rw [spans_never hput hb, spans_never ho (hstop.trans hb)]
    exact hsame
  | delimiter r =>
    rw [spans_delimiter hput hb, spans_delimiter ho (hstop.trans hb)]
    exact (hsame.toggleMath ['$']).spans r
  | lineBreak r =>
    rw [spans_lineBreak hput hb, spans_lineBreak ho (hstop.trans hb)]
    exact ((hsame.note .spanClosedAtLineBreak).toggleMath ['$']).spans r

/-- Text that goes on in the second fragment. -/
theorem spans_text (ho : f.mathOpen = false) (h : Apart a b) (ha : splitAtDelimiter? a = none) :
    Alike ((f.put .content (escape a)).spans b) (f.spans (a ++ b)) := by
  have hput : (f.put .content (escape a)).mathOpen = false := ho
  have hsplit := splitAtDelimiter?_append h
  rw [ha] at hsplit
  cases hb : splitAtDelimiter? b with
  | none =>
    rw [hb] at hsplit
    rw [spans_none hput hb, spans_none ho hsplit, escape_append h]
    exact .content f (escape a) (escape b)
  | some s =>
    obtain ⟨x, y⟩ := s
    rw [hb] at hsplit
    -- The second fragment is cut again, at its first delimiter.
    have hx : Apart a x := by
      refine ⟨h.last, fun hhead => h.head ?_⟩
      rw [eq_of_splitAtDelimiter? hb]
      cases x with
      | nil => rfl
      | cons c x => exact hhead
    rw [spans_some hput hb, spans_some ho hsplit, escape_append hx]
    exact ((Alike.content f (escape a) (escape x)).toggleMath ['$']).spans y

/-- In whatever mode a formatter is, it reads two fragments as it reads the one that they make up. -/
theorem spans_append (f : Formatter) (h : Apart a b) : Alike ((f.spans a).spans b) (f.spans (a ++ b)) := by
  fun_induction spans f a with
  | case1 f a ho f' hstop =>
    have hread := readMath_append h
    rw [show readMath a = ((readMath a).1, .never) from Prod.ext rfl hstop] at hread
    exact spans_math ho hread
  | case2 f a ho f' r hstop ih =>
    have hread := readMath_append h
    rw [show readMath a = ((readMath a).1, .delimiter r) from Prod.ext rfl hstop] at hread
    rw [spans_delimiter ho (congrArg Prod.snd hread), congrArg Prod.fst hread]
    exact ih (h.of_suffix (suffix_of_readMath (.inl hstop)))
  | case3 f a ho f' r hstop ih =>
    have hread := readMath_append h
    rw [show readMath a = ((readMath a).1, .lineBreak r) from Prod.ext rfl hstop] at hread
    rw [spans_lineBreak ho (congrArg Prod.snd hread), congrArg Prod.fst hread]
    exact ih (h.of_suffix (suffix_of_readMath (.inr hstop)))
  | case4 f a ho hnone => exact spans_text (eq_false_of_ne_true ho) h hnone
  | case5 f a ho x y hsome ih =>
    have hsplit := splitAtDelimiter?_append h
    rw [hsome] at hsplit
    rw [spans_some (eq_false_of_ne_true ho) hsplit]
    refine ih (h.of_suffix ?_)
    rw [eq_of_splitAtDelimiter? hsome]
    exact ⟨x ++ ['$', '$'], by simp⟩

/-- A fragment that does not begin with a dollar is read in the mode of the formatter. -/
theorem writeEscaped_eq_spans (haware : f.mathAware = true) (h : t.head? ≠ some '$') :
    f.writeEscaped t = f.flush.spans t := by
  unfold writeEscaped
  simp only [f.flush_mathAware.trans haware, Bool.not_true, Bool.false_eq_true, if_false]
  split
  · split
    · exact absurd rfl h
    · exact absurd rfl h
    · rfl
  · rfl

/-- Without math the whole fragment is escaped. -/
theorem writeEscaped_plain (h : f.mathAware = false) :
    f.writeEscaped t = f.flush.put .content (escape t) := by
  unfold writeEscaped
  simp only [f.flush_mathAware.trans h, Bool.not_false, if_true]

/-- A formatter starts on two fragments as it starts on the first one. -/
theorem exists_spans_append (haware : f.mathAware = true) (h : Apart a b) :
    ∃ (g : Formatter) (r : Text), r <:+ a ∧ f.writeEscaped a = g.spans r ∧
      f.writeEscaped (a ++ b) = g.spans (r ++ b) := by
  by_cases hdollar : ∃ r, a = '$' :: r
  · obtain ⟨r, rfl⟩ := hdollar
    unfold writeEscaped
    simp only [f.flush_mathAware.trans haware, Bool.not_true, Bool.false_eq_true, if_false]
    cases ho : f.flush.mathOpen with
    | false => exact ⟨f.flush, '$' :: r, List.suffix_rfl, rfl, rfl⟩
    | true =>
      let g := (f.flush.note .spanClosedAtDollar).toggleMath [' ', '$']
      obtain ⟨c, r, rfl⟩ := h.exists_cons (by decide)
      by_cases hc : c = '$'
      · subst hc
        exact ⟨g, r, (List.suffix_cons '$' r).trans (List.suffix_cons '$' _), rfl, rfl⟩
      · refine ⟨g, c :: r, List.suffix_cons '$' _, ?_, ?_⟩
        · simp [g, hc]
        · simp [g, hc]
  · have hhead : a.head? ≠ some '$' ∧ (a ++ b).head? ≠ some '$' := by
      cases a with
      | nil => exact ⟨nofun, h.head⟩
      | cons c r =>
        have hc : some c ≠ some '$' := fun hc => hdollar ⟨r, by rw [Option.some.inj hc]⟩
        exact ⟨hc, hc⟩
    exact ⟨f.flush, a, List.suffix_rfl, writeEscaped_eq_spans haware hhead.1,
      writeEscaped_eq_spans haware hhead.2⟩

/-- Where nothing that is written as a whole is cut, two fragments are written as the one that they make
up: the same text and notices, the same spacing and mode. -/
theorem writeEscaped_append (f : Formatter) (h : Apart a b) :
    Alike ((f.writeEscaped a).writeEscaped b) (f.writeEscaped (a ++ b)) := by
  have hflush : Alike (f.writeEscaped a).flush (f.writeEscaped a) :=
    (Alike.flush (f.writeEscaped_spacing a)).symm
  have haware : (f.writeEscaped a).mathAware = f.mathAware := f.writeEscaped_mathAware a
  cases hf : f.mathAware with
  | false =>
    rw [writeEscaped_plain (haware.trans hf), writeEscaped_plain (t := a ++ b) hf, escape_append h]
    rw [writeEscaped_plain hf] at hflush ⊢
    exact (hflush.put .content (escape b)).trans (.content f.flush (escape a) (escape b))
  | true =>
    obtain ⟨g, r, hr, ha, hab⟩ := exists_spans_append hf h
    rw [writeEscaped_eq_spans (haware.trans hf) h.head, hab]
    rw [ha] at hflush ⊢
    exact (hflush.spans b).trans (spans_append g (h.of_suffix hr))

/-- A span is open, and the first fragment closes it at once, opens another one and leaves it open. -/
theorem writeEscaped_append_open :
    let f : Formatter := { mathOpen := true }
    let a := "$_b$$x#".toList
    let b := "y\n...c".toList
    Apart a b ∧ Alike ((f.writeEscaped a).writeEscaped b) (f.writeEscaped (a ++ b)) ∧
      ((f.writeEscaped a).writeEscaped b).text = " $\\_b$x\\#y$\n\\ldots\x7b\x7dc".toList := by
  intro f a b
  have h : Apart a b := ⟨by simp [a], by decide⟩
  have hsame := f.writeEscaped_append h
  refine ⟨h, hsame, ?_⟩
  rw [← hsame.text, writeEscaped_text rfl]
  decide +kernel

end Formatter

end Texdown.Latex
