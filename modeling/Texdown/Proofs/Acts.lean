import Texdown.Latex.Formatter

/-!
# What is done to a formatter

An event does a few things to a formatter one after the other (`Act`). Which they are does not depend
on what was written before, so a rendering that goes on behind other text can be followed act by act
beside one that starts afresh. Until the fresh one writes, it only waits (`Waits`); from then on it has
written the end of what the other one has (`Trails`). The same acts keep any two formatters in step whose
states are equal but for what they have written (`InStep`).

Results:
* `spacing_perform`: line breaks and indentation do not depend on the text.
* `out_flush`, `out_writeEscaped`: what is written between commands.
* `picked_perform`: the commands of a kind that acts write.
* `InStep.perform`: acts keep two formatters in step.
* `prefix_perform`: they take nothing back that was written.
* `Follows.perform`: so they do from a fresh formatter on, whose first text comes behind some line
  breaks in the other.
-/
namespace Texdown.Latex

/-- One thing done to a formatter. -/
inductive Act where
  | add (n : Int)
  | cap (n : Int)
  | indent
  | dedent
  | note (n : Notice)
  | write (origin : Origin) (t : Text)
  | escaped (t : Text)
  deriving DecidableEq

namespace Act

/-- The acts that flush the spacing and write behind it. -/
def writes : Act → Bool
  | write _ _ | escaped _ => true
  | _ => false

/-- The acts that neither write, nor indent, nor limit line breaks. -/
def waits : Act → Bool
  | add _ | dedent | note _ => true
  | cap _ | indent | write _ _ | escaped _ => false

/-- Until something is written, the acts only wait. -/
def courteous : List Act → Bool
  | [] => true
  | a :: acts => a.writes || (a.waits && courteous acts)

end Act

theorem textOf_append (as bs : List Piece) : textOf (as ++ bs) = textOf as ++ textOf bs :=
  List.flatMap_append

def Spacing.act (s : Spacing) : Act → Spacing
  | .add n => s.add n
  | .cap n => s.cap n
  | .indent => s.indent
  | .dedent => s.dedent
  | .note _ => s
  | .write _ _ | .escaped _ => s.flushed

theorem blank_gap (s : Spacing) : ∀ c ∈ s.gap, c = '\n' ∨ c = ' ' := by
  unfold Spacing.gap
  split
  · intro c hc
    cases hc
  · intro c hc
    rcases List.mem_append.1 hc with hc | hc
    · exact .inl (List.eq_of_mem_replicate hc)
    · exact .inr (List.eq_of_mem_replicate hc)

namespace Formatter

def act (f : Formatter) : Act → Formatter
  | .add n => f.add n
  | .cap n => f.cap n
  | .indent => f.indent
  | .dedent => f.dedent
  | .note n => f.note n
  | .write origin t => f.write origin t
  | .escaped t => f.writeEscaped t

def perform (f : Formatter) (acts : List Act) : Formatter := acts.foldl act f

@[simp] theorem perform_nil (f : Formatter) : f.perform [] = f := rfl

@[simp] theorem perform_cons (f : Formatter) (a : Act) (acts : List Act) :
    f.perform (a :: acts) = (f.act a).perform acts := rfl

@[simp] theorem perform_append (f : Formatter) (as bs : List Act) :
    f.perform (as ++ bs) = (f.perform as).perform bs := by simp [perform]

/-! ## Reading text with math -/

theorem spans_never {f : Formatter} {t : Text} (ho : f.mathOpen = true) (h : (readMath t).2 = .never) :
    f.spans t = f.put .content (readMath t).1 := by
  rw [spans, dif_pos ho]
  split
  · rfl
  · next h' => rw [h] at h'; cases h'
  · next h' => rw [h] at h'; cases h'

theorem spans_delimiter {f : Formatter} {t r : Text} (ho : f.mathOpen = true)
    (h : (readMath t).2 = .delimiter r) :
    f.spans t = ((f.put .content (readMath t).1).toggleMath ['$']).spans r := by
  rw [spans, dif_pos ho]
  split
  · next h' => rw [h] at h'; cases h'
  · next h' => rw [h] at h'; cases h'; rfl
  · next h' => rw [h] at h'; cases h'

theorem spans_lineBreak {f : Formatter} {t r : Text} (ho : f.mathOpen = true)
    (h : (readMath t).2 = .lineBreak r) :
    f.spans t
      = (((f.put .content (readMath t).1).note .spanClosedAtLineBreak).toggleMath ['$']).spans r := by
  rw [spans, dif_pos ho]
  split
  · next h' => rw [h] at h'; cases h'
  · next h' => rw [h] at h'; cases h'
  · next h' => rw [h] at h'; cases h'; rfl

theorem spans_none {f : Formatter} {t : Text} (ho : f.mathOpen = false)
    (h : splitAtDelimiter? t = none) : f.spans t = f.put .content (escape t) := by
  rw [spans, dif_neg (by simp [ho])]
  split
  · rfl
  · next h' => rw [h] at h'; cases h'

theorem spans_some {f : Formatter} {t a b : Text} (ho : f.mathOpen = false)
    (h : splitAtDelimiter? t = some (a, b)) :
    f.spans t = ((f.put .content (escape a)).toggleMath ['$']).spans b := by
  rw [spans, dif_neg (by simp [ho])]
  split
  · next h' => rw [h] at h'; cases h'
  · next h' => rw [h] at h'; cases h'; rfl

/-- What a formatter writes for a fragment depends on its mode only. -/
theorem exists_spans (f : Formatter) (t : Text) : ∃ pieces ns opened, ∀ g : Formatter,
    g.mathOpen = f.mathOpen → g.spans t
      = { g with mathOpen := opened, out := g.out ++ pieces, notices := g.notices ++ ns } := by
  fun_induction spans f t with
  | case1 f t ho f' h =>
    refine ⟨[⟨.content, (readMath t).1, true⟩], [], true, fun g hg => ?_⟩
    rw [spans_never (hg.trans ho) h]
    simp [put, hg, ho]
  | case2 f t ho f' r h ih =>
    obtain ⟨pieces, ns, opened, ih⟩ := ih
    refine ⟨⟨.content, (readMath t).1, true⟩ :: ⟨.dollar, ['$'], true⟩ :: pieces, ns, opened,
      fun g hg => ?_⟩
    rw [spans_delimiter (hg.trans ho) h, ih _ (by simp [f', toggleMath, put, hg])]
    simp [toggleMath, put, hg, ho]
  | case3 f t ho f' r h ih =>
    obtain ⟨pieces, ns, opened, ih⟩ := ih
    refine ⟨⟨.content, (readMath t).1, true⟩ :: ⟨.dollar, ['$'], true⟩ :: pieces,
      .spanClosedAtLineBreak :: ns, opened, fun g hg => ?_⟩
    rw [spans_lineBreak (hg.trans ho) h, ih _ (by simp [f', toggleMath, put, note, hg])]
    simp [toggleMath, put, note, hg, ho]
  | case4 f t ho h =>
    have ho : f.mathOpen = false := by simpa using ho
    refine ⟨[⟨.content, escape t, false⟩], [], false, fun g hg => ?_⟩
    rw [spans_none (hg.trans ho) h]
    simp [put, hg, ho]
  | case5 f t ho a b h ih =>
    have ho : f.mathOpen = false := by simpa using ho
    obtain ⟨pieces, ns, opened, ih⟩ := ih
    refine ⟨⟨.content, escape a, false⟩ :: ⟨.dollar, ['$'], false⟩ :: pieces, ns, opened,
      fun g hg => ?_⟩
    rw [spans_some (hg.trans ho) h, ih _ (by simp [toggleMath, put, hg])]
    simp [toggleMath, put, hg, ho]

/-! ## Spacing -/

theorem closeMath_spacing (f : Formatter) : f.closeMath.spacing = f.spacing := by
  unfold closeMath
  split <;> rfl

theorem flush_spacing (f : Formatter) : f.flush.spacing = f.spacing.flushed :=
  congrArg Spacing.flushed f.closeMath_spacing

theorem spans_spacing (f : Formatter) (t : Text) : (f.spans t).spacing = f.spacing := by
  obtain ⟨pieces, ns, opened, h⟩ := exists_spans f t
  rw [h f rfl]

theorem writeEscaped_spacing (f : Formatter) (t : Text) :
    (f.writeEscaped t).spacing = f.spacing.flushed := by
  rw [← flush_spacing]
  unfold writeEscaped
  simp only
  split
  · rfl
  · split
    · split
      · rw [spans_spacing]
        rfl
      · rw [spans_spacing]
        rfl
      · rw [spans_spacing]
    · rw [spans_spacing]

theorem spacing_act (f : Formatter) (a : Act) : (f.act a).spacing = f.spacing.act a := by
  cases a with
  | write origin t => exact flush_spacing f
  | escaped t => exact writeEscaped_spacing f t
  | _ => rfl

theorem spacing_perform (f : Formatter) (acts : List Act) :
    (f.perform acts).spacing = acts.foldl Spacing.act f.spacing := by
  induction acts generalizing f with
  | nil => rfl
  | cons a acts ih => rw [perform_cons, ih, spacing_act, List.foldl_cons]

theorem flush_mathAware (f : Formatter) : f.flush.mathAware = f.mathAware := by
  unfold flush closeMath
  split <;> rfl

theorem spans_mathAware (f : Formatter) (t : Text) : (f.spans t).mathAware = f.mathAware := by
  obtain ⟨pieces, ns, opened, h⟩ := exists_spans f t
  rw [h f rfl]

theorem writeEscaped_mathAware (f : Formatter) (t : Text) :
    (f.writeEscaped t).mathAware = f.mathAware := by
  refine Eq.trans ?_ f.flush_mathAware
  unfold writeEscaped
  simp only
  split
  · rfl
  · split
    · split
      · rw [spans_mathAware]
        rfl
      · rw [spans_mathAware]
        rfl
      · rw [spans_mathAware]
    · rw [spans_mathAware]

theorem perform_mathAware (f : Formatter) (acts : List Act) :
    (f.perform acts).mathAware = f.mathAware := by
  induction acts generalizing f with
  | nil => rfl
  | cons a acts ih =>
    rw [perform_cons, ih]
    cases a with
    | write origin t => exact flush_mathAware f
    | escaped t => exact writeEscaped_mathAware f t
    | _ => rfl

end Formatter

/-! ## Kinds of pieces -/

/-- Pieces that only space what is written: line breaks with their indentation, and the dollar of math
that they close. -/
def Piece.isSpacing (p : Piece) : Bool :=
  match p.origin with
  | .gap => p.text.all fun c => c == '\n' || c == ' '
  | .dollar => p.text == ['$']
  | _ => false

/-- Pieces that are written between commands: spacing, and text with the dollars of its math. -/
def Piece.isPlain (p : Piece) : Bool :=
  p.isSpacing || p.origin == .content || p.origin == .dollar && p.text == [' ', '$']

theorem isSpacing_gap (s : Spacing) (m : Bool) : Piece.isSpacing ⟨.gap, s.gap, m⟩ = true := by
  show (s.gap.all fun c => c == '\n' || c == ' ') = true
  rw [List.all_eq_true]
  intro c hc
  rcases blank_gap s c hc with rfl | rfl <;> rfl

theorem all_isPlain {ps : List Piece} (h : ps.all Piece.isSpacing = true) :
    ps.all Piece.isPlain = true := by
  rw [List.all_eq_true] at h ⊢
  intro p hp
  rw [Piece.isPlain, h p hp]
  rfl

/-- A kind of commands, whether math is open or not: no plain piece is of it. -/
structure IsKind (k : Piece → Bool) : Prop where
  plain : ∀ p : Piece, p.isPlain = true → k p = false
  mode : ∀ (origin : Origin) (t : Text) (m : Bool), k ⟨origin, t, m⟩ = k ⟨origin, t, false⟩

/-- The text of a kind that an act writes. -/
def Act.picked (k : Piece → Bool) : Act → List Text
  | .write origin t => if k ⟨origin, t, false⟩ then [t] else []
  | _ => []

namespace Formatter

def picked (k : Piece → Bool) (f : Formatter) : List Text := (f.out.filter k).map (·.text)

theorem out_closeMath (f : Formatter) :
    ∃ ps, f.closeMath.out = f.out ++ ps ∧ ps.all Piece.isSpacing = true := by
  unfold closeMath
  split
  · exact ⟨[⟨.dollar, ['$'], f.mathOpen⟩], rfl, rfl⟩
  · exact ⟨[], (List.append_nil f.out).symm, rfl⟩

/-- A flush writes nothing but spacing. -/
theorem out_flush (f : Formatter) : ∃ ps, f.flush.out = f.out ++ ps ∧ ps.all Piece.isSpacing = true := by
  obtain ⟨ps, hout, hps⟩ := f.out_closeMath
  let gap : Piece := ⟨.gap, f.closeMath.spacing.gap, f.closeMath.mathOpen⟩
  refine ⟨ps ++ [gap], ?_, ?_⟩
  · show f.closeMath.out ++ [gap] = f.out ++ (ps ++ [gap])
    rw [hout, List.append_assoc]
  · rw [List.all_append, hps, List.all_cons, isSpacing_gap]
    rfl

/-- Behind a plain piece goes what is plain. -/
theorem out_put {f g : Formatter} {origin : Origin} {t : Text} {ps : List Piece}
    (ht : Piece.isPlain ⟨origin, t, f.mathOpen⟩ = true) (hg : g.out = (f.put origin t).out ++ ps)
    (hps : ps.all Piece.isPlain = true) :
    ∃ qs, g.out = f.out ++ qs ∧ qs.all Piece.isPlain = true := by
  refine ⟨⟨origin, t, f.mathOpen⟩ :: ps, ?_, ?_⟩
  · rw [hg]
    exact List.append_assoc f.out _ ps
  · rw [List.all_cons, ht, hps]
    rfl

theorem out_content (f : Formatter) (t : Text) :
    ∃ ps, (f.put .content t).out = f.out ++ ps ∧ ps.all Piece.isPlain = true :=
  out_put rfl (List.append_nil _).symm rfl

theorem out_spans (f : Formatter) (t : Text) :
    ∃ ps, (f.spans t).out = f.out ++ ps ∧ ps.all Piece.isPlain = true := by
  have hdollar : ∀ m, Piece.isPlain ⟨.dollar, ['$'], m⟩ = true := fun _ => rfl
  fun_induction spans f t with
  | case1 f t ho f' h => exact out_content f _
  | case2 f t ho f' r h ih | case3 f t ho f' r h ih =>
    obtain ⟨ps, hout, hps⟩ := ih
    obtain ⟨qs, hout, hqs⟩ := out_put (hdollar f'.mathOpen) hout hps
    exact out_put rfl hout hqs
  | case4 f t ho h => exact out_content f _
  | case5 f t ho a b h ih =>
    obtain ⟨ps, hout, hps⟩ := ih
    obtain ⟨qs, hout, hqs⟩ := out_put (hdollar (f.put .content (escape a)).mathOpen) hout hps
    exact out_put rfl hout hqs

theorem out_writeEscaped (f : Formatter) (t : Text) :
    ∃ ps, (f.writeEscaped t).out = f.out ++ ps ∧ ps.all Piece.isPlain = true := by
  obtain ⟨ps, hflush, hps⟩ := f.out_flush
  have hclosing : ∀ (g : Formatter) (r : Text),
      ∃ qs, ((g.toggleMath [' ', '$']).spans r).out = g.out ++ qs ∧ qs.all Piece.isPlain = true := by
    intro g r
    obtain ⟨qs, hout, hqs⟩ := out_spans (g.toggleMath [' ', '$']) r
    exact out_put rfl hout hqs
  have hbehind : ∃ qs, (f.writeEscaped t).out = f.flush.out ++ qs ∧ qs.all Piece.isPlain = true := by
    unfold writeEscaped
    simp only
    split
    · exact out_content f.flush _
    · split
      · split
        · exact hclosing _ _
        · exact hclosing _ _
        · exact out_spans f.flush t
      · exact out_spans f.flush t
  obtain ⟨qs, hout, hqs⟩ := hbehind
  refine ⟨ps ++ qs, ?_, ?_⟩
  · rw [hout, hflush, List.append_assoc]
  · rw [List.all_append, all_isPlain hps, hqs]
    rfl

section kind

variable {k : Piece → Bool} (hk : IsKind k)

include hk

/-- What is plain adds nothing of a kind. -/
theorem filter_of_plain {f g : Formatter} {ps : List Piece} (hg : g.out = f.out ++ ps)
    (hps : ps.all Piece.isPlain = true) : g.out.filter k = f.out.filter k := by
  have hnone : ps.filter k = [] := by
    rw [List.filter_eq_nil_iff]
    intro p hp
    rw [hk.plain p (List.all_eq_true.1 hps p hp)]
    exact Bool.false_ne_true
  rw [hg, List.filter_append, hnone, List.append_nil]

theorem filter_flush (f : Formatter) : f.flush.out.filter k = f.out.filter k := by
  obtain ⟨ps, hout, hps⟩ := f.out_flush
  exact filter_of_plain hk hout (all_isPlain hps)

theorem picked_flush (f : Formatter) : f.flush.picked k = f.picked k :=
  congrArg (List.map Piece.text) (filter_flush hk f)

theorem filter_writeEscaped (f : Formatter) (t : Text) :
    (f.writeEscaped t).out.filter k = f.out.filter k := by
  obtain ⟨ps, hout, hps⟩ := f.out_writeEscaped t
  exact filter_of_plain hk hout hps

omit hk in
theorem picked_notes (ns : List Notice) : (ns.map Act.note).flatMap (Act.picked k) = [] := by
  induction ns with
  | nil => rfl
  | cons n ns ih => exact ih

theorem picked_content (t : Text) : Act.picked k (.write .content t) = [] := by
  rw [Act.picked, hk.plain ⟨.content, t, false⟩ rfl]
  rfl

theorem picked_act (f : Formatter) (a : Act) : (f.act a).picked k = f.picked k ++ a.picked k := by
  cases a with
  | write origin t =>
    have hwrite : (f.write origin t).out = f.flush.out ++ [⟨origin, t, f.flush.mathOpen⟩] := rfl
    have hmode : k ⟨origin, t, f.flush.mathOpen⟩ = k ⟨origin, t, false⟩ := hk.mode origin t _
    show (f.write origin t).picked k = _
    rw [picked, hwrite, List.filter_append, List.map_append, filter_flush hk, List.filter_cons, hmode,
      Act.picked]
    split <;> rfl
  | escaped t =>
    have hsame : (f.writeEscaped t).picked k = f.picked k :=
      congrArg (List.map Piece.text) (filter_writeEscaped hk f t)
    exact hsame.trans (List.append_nil _).symm
  | _ => exact (List.append_nil _).symm

/-- Acts write what each of them does. -/
theorem picked_perform (f : Formatter) (acts : List Act) :
    (f.perform acts).picked k = f.picked k ++ acts.flatMap (Act.picked k) := by
  induction acts generalizing f with
  | nil => exact (List.append_nil _).symm
  | cons a acts ih => rw [perform_cons, ih, picked_act hk, List.flatMap_cons, List.append_assoc]

end kind

/-! ## In step -/

theorem text_put (f : Formatter) (origin : Origin) (t : Text) : (f.put origin t).text = f.text ++ t := by
  simp [text, textOf, put]

/-- What two formatters have written stays related whatever both of them write. -/
def Extends (R : List Piece → List Piece → Prop) : Prop :=
  ∀ {ps qs : List Piece} (more : List Piece), R ps qs → R (ps ++ more) (qs ++ more)

/-- The second formatter is as the first, but for what they have written, which is so related. -/
structure InStep (R : List Piece → List Piece → Prop) (f g : Formatter) : Prop where
  spacing : g.spacing = f.spacing
  mathAware : g.mathAware = f.mathAware
  mathOpen : g.mathOpen = f.mathOpen
  out : R f.out g.out

namespace InStep

variable {R : List Piece → List Piece → Prop} {f g : Formatter}

theorem add (h : InStep R f g) (n : Int) : InStep R (f.add n) (g.add n) :=
  ⟨congrArg (Spacing.add · n) h.spacing, h.mathAware, h.mathOpen, h.out⟩

theorem note (h : InStep R f g) (n : Notice) : InStep R (f.note n) (g.note n) :=
  ⟨h.spacing, h.mathAware, h.mathOpen, h.out⟩

/-- The notices of the second formatter do not matter. -/
theorem note_right (h : InStep R f g) (n : Notice) : InStep R f (g.note n) :=
  ⟨h.spacing, h.mathAware, h.mathOpen, h.out⟩

/-- Nor do those of the first. -/
theorem note_left (h : InStep R f g) (n : Notice) : InStep R (f.note n) g :=
  ⟨h.spacing, h.mathAware, h.mathOpen, h.out⟩

variable (hR : Extends R)

include hR

theorem put (h : InStep R f g) (origin : Origin) (t : Text) :
    InStep R (f.put origin t) (g.put origin t) :=
  ⟨h.spacing, h.mathAware, h.mathOpen, by simpa only [Formatter.put, h.mathOpen] using hR _ h.out⟩

theorem toggleMath (h : InStep R f g) (mark : Text) : InStep R (f.toggleMath mark) (g.toggleMath mark) :=
  ⟨h.spacing, h.mathAware, congrArg not h.mathOpen, (h.put hR .dollar mark).out⟩

theorem flush (h : InStep R f g) : InStep R f.flush g.flush := by
  have hclose : InStep R f.closeMath g.closeMath := by
    unfold closeMath
    rw [h.mathOpen, h.spacing]
    split
    · exact (h.note _).toggleMath hR _
    · exact h
  have hput := hclose.put hR .gap f.closeMath.spacing.gap
  refine ⟨?_, hput.mathAware, hput.mathOpen, ?_⟩
  · rw [flush_spacing, flush_spacing, h.spacing]
  · unfold Formatter.flush
    simp only [hclose.spacing]
    exact hput.out

theorem spans (h : InStep R f g) (t : Text) : InStep R (f.spans t) (g.spans t) := by
  obtain ⟨pieces, ns, opened, hs⟩ := exists_spans f t
  rw [hs f rfl, hs g h.mathOpen]
  exact ⟨h.spacing, h.mathAware, rfl, hR pieces h.out⟩

theorem writeEscaped (hf : InStep R f.flush g.flush) (t : Text) :
    InStep R (f.writeEscaped t) (g.writeEscaped t) := by
  unfold Formatter.writeEscaped
  simp only [hf.mathAware, hf.mathOpen]
  split
  · exact hf.put hR _ _
  · split
    · split
      · exact ((hf.note _).toggleMath hR _).spans hR _
      · exact ((hf.note _).toggleMath hR _).spans hR _
      · exact hf.spans hR t
    · exact hf.spans hR t

theorem act (h : InStep R f g) (a : Act) : InStep R (f.act a) (g.act a) := by
  cases a with
  | note n => exact h.note n
  | write origin t => exact (h.flush hR).put hR origin t
  | escaped t => exact (h.flush hR).writeEscaped hR t
  | _ =>
    exact ⟨by simp [Formatter.act, Formatter.add, cap, indent, dedent, h.spacing], h.mathAware,
      h.mathOpen, h.out⟩

theorem perform (h : InStep R f g) (acts : List Act) : InStep R (f.perform acts) (g.perform acts) := by
  induction acts generalizing f g with
  | nil => exact h
  | cons a acts ih => exact ih (h.act hR a)

end InStep

/-- The second formatter is as the first, but has written some text in front of it. -/
abbrev Trails (front : Text) : Formatter → Formatter → Prop :=
  InStep fun ps qs => textOf qs = front ++ textOf ps

theorem Trails.text {front : Text} {f g : Formatter} (h : Trails front f g) : g.text = front ++ f.text :=
  h.out

theorem extends_front (front : Text) : Extends fun ps qs => textOf qs = front ++ textOf ps :=
  fun more h => by simp only [textOf, List.flatMap_append] at h ⊢; rw [h, List.append_assoc]

/-! ## Nothing is taken back -/

theorem extends_behind (front : List Piece) : Extends fun _ qs => front <+: qs :=
  fun {_ qs} more h => h.trans (List.prefix_append qs more)

/-- A formatter is in step with itself, behind what it has written. -/
theorem inStep_behind (f : Formatter) : InStep (fun _ qs => f.out <+: qs) f f :=
  ⟨rfl, rfl, rfl, List.prefix_refl f.out⟩

theorem prefix_out (f : Formatter) (acts : List Act) : f.out <+: (f.perform acts).out :=
  (f.inStep_behind.perform (@extends_behind f.out) acts).out

theorem text_behind {f g : Formatter} (h : f.out <+: g.out) : f.text <+: g.text := by
  obtain ⟨more, hmore⟩ := h
  refine ⟨textOf more, ?_⟩
  rw [text, text, ← hmore, textOf_append]

theorem prefix_perform (f : Formatter) (acts : List Act) : f.text <+: (f.perform acts).text :=
  text_behind (f.prefix_out acts)

theorem prefix_flush (f : Formatter) : f.text <+: f.flush.text :=
  text_behind (f.inStep_behind.flush (@extends_behind f.out)).out

theorem prefix_writeEscaped (f : Formatter) (t : Text) : f.flush.text <+: (f.writeEscaped t).text := by
  have hself : InStep (fun _ qs => f.flush.out <+: qs) f.flush f.flush := f.flush.inStep_behind
  exact text_behind (hself.writeEscaped (@extends_behind f.flush.out) t).out

/-- What is written comes behind the gap. -/
theorem prefix_act (f : Formatter) {a : Act} (ha : a.writes = true) : f.flush.text <+: (f.act a).text := by
  cases a with
  | write origin t => exact ⟨t, (text_put f.flush origin t).symm⟩
  | escaped t => exact f.prefix_writeEscaped t
  | _ => cases ha

/-! ## From a fresh formatter on -/

/-- What is written, with the dollar that closes math that is still open. -/
def closed (f : Formatter) : Text := f.text ++ if f.mathOpen then ['$'] else []

theorem flush_text (f : Formatter) :
    f.flush.text = (if f.spacing.count = 0 then f.text else f.closed) ++ f.spacing.gap := by
  have hput : f.flush.text = f.closeMath.text ++ f.spacing.gap := by
    rw [← closeMath_spacing f]
    exact text_put f.closeMath .gap _
  rw [hput]
  congr 1
  unfold closeMath closed
  cases f.mathOpen with
  | false => simp
  | true =>
    by_cases hc : f.spacing.count = 0
    · simp [hc]
    · simp only [ne_eq, hc, not_false_eq_true, and_self, if_true, if_false]
      exact text_put (f.note .spanClosedAtBlock) .dollar ['$']

theorem flush_mathOpen (f : Formatter) :
    f.flush.mathOpen = if f.spacing.count = 0 then f.mathOpen else false := by
  unfold flush closeMath
  cases h : f.mathOpen with
  | false => simp [put, h]
  | true =>
    by_cases hc : f.spacing.count = 0
    · simp [put, h, hc]
    · simp [put, note, toggleMath, h, hc]

theorem gap_of_level_eq_zero {s : Spacing} (h : s.level = 0) :
    s.gap = List.replicate s.count.toNat '\n' := by
  have hblank : (min maxIndent (s.indentWidth * s.level)).toNat = 0 := by
    rw [h, Int.natCast_zero, Int.mul_zero]
    rfl
  unfold Spacing.gap
  rw [hblank]
  split
  · next hc => rw [hc]; rfl
  · exact List.append_nil _

/-- Without indentation, nothing but line breaks comes behind the text. -/
theorem flush_text_flat {f : Formatter} (hflat : f.spacing.level = 0) {k : Nat}
    (hk : f.spacing.count = k) :
    f.flush.text = (if k = 0 then f.text else f.closed) ++ List.replicate k '\n' := by
  simp only [flush_text, gap_of_level_eq_zero hflat, hk, Int.toNat_natCast, Int.natCast_eq_zero]

/-- The first formatter has written nothing. Where it will write, the second one breaks the line, from
`lo` to `hi` times. -/
structure Waits (lo hi : Nat) (f g : Formatter) : Prop where
  fresh : f.text = []
  plain : f.mathOpen = false
  shut : f.spacing.limit = 0
  flat : f.spacing.level = 0 ∧ g.spacing.level = 0
  breaks : 1 ≤ lo
  pending : lo ≤ g.spacing.pending
  limit : lo ≤ min g.spacing.limit maxBreaks ∧ min g.spacing.limit maxBreaks ≤ hi
  indentWidth : g.spacing.indentWidth = f.spacing.indentWidth
  mathAware : g.mathAware = f.mathAware

namespace Waits

variable {lo hi : Nat} {f g : Formatter}

theorem count (h : Waits lo hi f g) : lo ≤ g.spacing.count ∧ g.spacing.count ≤ hi := by
  have := h.pending
  have := h.limit
  simp only [Spacing.count]
  omega

/-- The first text comes behind some line breaks, and outside of math. -/
theorem flush (h : Waits lo hi f g) :
    ∃ k, lo ≤ k ∧ k ≤ hi ∧ Trails (g.closed ++ List.replicate k '\n') f.flush g.flush := by
  have hf : f.spacing.count.toNat = 0 := by
    have := h.shut
    simp only [Spacing.count, maxBreaks]
    omega
  have hg := h.count
  have hsome := h.breaks
  refine ⟨g.spacing.count.toNat, by omega, by omega, ?_, ?_, ?_, ?_⟩
  · rw [flush_spacing, flush_spacing]
    simp only [Spacing.flushed, h.flat.1, h.flat.2, h.indentWidth]
  · rw [flush_mathAware, flush_mathAware, h.mathAware]
  · rw [flush_mathOpen, flush_mathOpen, h.plain, if_neg (by omega), ite_self]
  · have hclosed : f.closed = [] := by rw [closed, h.fresh, h.plain]; rfl
    change g.flush.text = _ ++ f.flush.text
    rw [flush_text, flush_text, if_neg (by omega), gap_of_level_eq_zero h.flat.1,
      gap_of_level_eq_zero h.flat.2, hf, hclosed, h.fresh, ite_self]
    simp

theorem act (h : Waits lo hi f g) {a : Act} (ha : a.waits = true) : Waits lo hi (f.act a) (g.act a) := by
  obtain ⟨hfresh, hplain, hshut, ⟨hf, hg⟩, hsome, hpending, hlimit, hwidth, haware⟩ := h
  cases a with
  | add n =>
    refine ⟨hfresh, hplain, hshut, ⟨hf, hg⟩, hsome, ?_, hlimit, hwidth, haware⟩
    simp only [Formatter.act, add, Spacing.add]
    omega
  | dedent =>
    refine ⟨hfresh, hplain, hshut, ⟨?_, ?_⟩, hsome, hpending, hlimit, hwidth, haware⟩
    · simp [Formatter.act, dedent, Spacing.dedent, hf]
    · simp [Formatter.act, dedent, Spacing.dedent, hg]
  | note n => exact ⟨hfresh, hplain, hshut, ⟨hf, hg⟩, hsome, hpending, hlimit, hwidth, haware⟩
  | cap | indent | write | escaped => cases ha

end Waits

/-- The second formatter goes on, behind some text and `lo` to `hi` line breaks, as the first one does,
which started afresh. -/
def Follows (lo hi : Nat) (body : Text) (f g : Formatter) : Prop :=
  Waits lo hi f g ∧ g.closed = body ∨
    ∃ k, lo ≤ k ∧ k ≤ hi ∧ Trails (body ++ List.replicate k '\n') f g

theorem closed_act {g : Formatter} {a : Act} (ha : a.waits = true) : (g.act a).closed = g.closed := by
  cases a with
  | cap | indent | write | escaped => cases ha
  | _ => rfl

theorem Follows.perform {lo hi : Nat} {body : Text} {f g : Formatter} {acts : List Act}
    (h : Follows lo hi body f g) (ha : Act.courteous acts = true) :
    Follows lo hi body (f.perform acts) (g.perform acts) := by
  have hR := @extends_front
  induction acts generalizing f g with
  | nil => exact h
  | cons a acts ih =>
    rcases h with ⟨hwaits, rfl⟩ | ⟨k, hlo, hhi, htrails⟩
    · simp only [Act.courteous, Bool.or_eq_true, Bool.and_eq_true] at ha
      rcases ha with ha | ⟨ha, hacts⟩
      · obtain ⟨k, hlo, hhi, hflush⟩ := hwaits.flush
        refine .inr ⟨k, hlo, hhi, InStep.perform (hR _) ?_ acts⟩
        cases a with
        | write origin t => exact hflush.put (hR _) origin t
        | escaped t => exact hflush.writeEscaped (hR _) t
        | _ => cases ha
      · exact ih (.inl ⟨hwaits.act ha, closed_act ha⟩) hacts
    · exact .inr ⟨k, hlo, hhi, htrails.perform (hR _) _⟩

end Formatter
end Texdown.Latex
