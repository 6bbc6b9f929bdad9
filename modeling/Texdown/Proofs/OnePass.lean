import Texdown.Proofs.Acts

/-!
# Escaping in one pass

What is written for a fragment is told by a machine that reads it from left to right and never looks
further than the token in front of it (`step`). Outside of math it takes the longest token that there is
a substitute for, and a delimiter opens math. In math it keeps what a backslash protects, and a
delimiter or a line feed closes math. In math that is open from before, a dollar at the very start
closes it.

A formatter looks for delimiters and line feeds first and escapes what is between them as a whole. No
token reaches over such a cut, so both write the same.

Results:
* `transduce_text`, `transduce_math`: the machine writes what stands in front of a cut as a whole.
* `spans_transduce`: from there on, a formatter goes through a fragment as the machine does.
* `writeEscaped_transduce`: a formatter writes what the machine writes, and ends in the same mode.
-/
namespace Texdown.Latex

/-- How the next character of a fragment is read. -/
inductive Reading where
  | text
  | math
  /-- In math that was open in front of the fragment, at its first character. -/
  | resumed
  deriving DecidableEq, Repr

namespace Reading

def inMath : Reading → Bool
  | text => false
  | math | resumed => true

/-- How the first character of a fragment is read. -/
def start (mathOpen : Bool) : Reading := if mathOpen then resumed else text

end Reading

/-! ## The machine -/

/-- What is written for the longest token that begins with this character, and what is left. -/
def token : Char → Text → Text × Text
  | '.', '.' :: '.' :: r => (ellipsis, r)
  | ' ', r => ([' '], r.dropWhile (· == ' '))
  | c, r => (escapeChar c, r)

/-- A move outside of math: what is written, how the text is read on, and what is left of it. -/
def moveInText : Text → Option (Text × Reading × Text)
  | '$' :: '$' :: r => some (['$'], .math, r)
  | c :: r => some ((token c r).1, .text, (token c r).2)
  | [] => none

/-- A move in math. The line feed that closes it is read again. -/
def moveInMath : Text → Option (Text × Reading × Text)
  | '\\' :: c :: r => some (['\\', c], .math, r)
  | '#' :: r => some (['\\', '#'], .math, r)
  | '$' :: '$' :: r => some (['$'], .text, r)
  | '$' :: r => some (['\\', '$'], .math, r)
  | '\n' :: r => some (['$'], .text, '\n' :: r)
  | c :: r => some ([c], .math, r)
  | [] => none

def step : Reading → Text → Option (Text × Reading × Text)
  | .text, t => moveInText t
  | .math, t => moveInMath t
  | .resumed, '$' :: '$' :: r => some ([' ', '$'], .text, r)
  | .resumed, '$' :: r => some ([' ', '$'], .text, r)
  | .resumed, t => moveInMath t

theorem length_token (c : Char) (r : Text) : (token c r).2.length ≤ r.length := by
  unfold token
  split
  · simp only [List.length_cons]; omega
  · exact (List.dropWhile_suffix _).length_le
  · exact Nat.le_refl _

/-- What is still to do: in math, a line feed may be read once more. -/
def Reading.measure : Reading → Text → Nat
  | text, t => 2 * t.length
  | math, t | resumed, t => 2 * t.length + 1

theorem measure_moveInText {m : Reading} {t t' w : Text} (h : moveInText t = some (w, m, t')) :
    m.measure t' < Reading.text.measure t := by
  unfold moveInText at h
  split at h
  · cases h
    simp only [Reading.measure, List.length_cons]
    omega
  · next c r _ =>
    cases h
    have := length_token c r
    simp only [Reading.measure, List.length_cons]
    omega
  · cases h

theorem measure_moveInMath {m : Reading} {t t' w : Text} (h : moveInMath t = some (w, m, t')) :
    m.measure t' < Reading.math.measure t := by
  unfold moveInMath at h
  split at h
  all_goals cases h
  all_goals simp only [Reading.measure, List.length_cons]
  all_goals omega

theorem measure_step {m m' : Reading} {t t' w : Text} (h : step m t = some (w, m', t')) :
    m'.measure t' < m.measure t := by
  unfold step at h
  split at h
  · exact measure_moveInText h
  · exact measure_moveInMath h
  · cases h
    simp only [Reading.measure, List.length_cons]
    omega
  · cases h
    simp only [Reading.measure, List.length_cons]
    omega
  · exact measure_moveInMath h

/-- What the machine writes for a text, and how it would read on. -/
def transduce (m : Reading) (t : Text) : Text × Reading :=
  match _h : step m t with
  | none => ([], m)
  | some (w, m', t') => let s := transduce m' t'; (w ++ s.1, s.2)
termination_by m.measure t
decreasing_by exact measure_step _h

/-- Something is written in front. -/
def behind (w : Text) (s : Text × Reading) : Text × Reading := (w ++ s.1, s.2)

theorem behind_behind (v w : Text) (s : Text × Reading) : behind v (behind w s) = behind (v ++ w) s := by
  simp [behind]

theorem transduce_step {m m' : Reading} {t t' w : Text} (h : step m t = some (w, m', t')) :
    transduce m t = behind w (transduce m' t') := by
  rw [transduce]
  split
  · next h' => rw [h] at h'; cases h'
  · next h' => rw [h] at h'; cases h'; rfl

theorem transduce_nil (m : Reading) : transduce m [] = ([], m) := by
  rw [transduce]
  cases m <;> rfl

/-! ## What stands in front of a cut -/

/-- Several spaces are written as the last one. -/
theorem transduce_spaces (r : Text) :
    transduce .text (' ' :: ' ' :: r) = transduce .text (' ' :: r) := by
  rw [transduce_step (m := .text) (t := ' ' :: ' ' :: r) rfl,
    transduce_step (m := .text) (t := ' ' :: r) rfl]
  simp [token]

theorem token_of_single {c : Char} {r : Text} (hdots : ∀ r', c = '.' → r = '.' :: '.' :: r' → False)
    (hspaces : ∀ r', c = ' ' → r = ' ' :: r' → False) : token c r = (escapeChar c, r) := by
  unfold token
  split
  · exact (hdots _ rfl rfl).elim
  · have hr : r.dropWhile (· == ' ') = r := by
      cases r with
      | nil => rfl
      | cons d r =>
        have hd : d ≠ ' ' := fun hd => hspaces r rfl (by rw [hd])
        simp [hd]
    rw [hr]
    rfl
  · rfl

theorem transduce_char {c : Char} {r : Text} (hdots : ∀ r', c = '.' → r = '.' :: '.' :: r' → False)
    (hspaces : ∀ r', c = ' ' → r = ' ' :: r' → False)
    (hdollars : ∀ r', c = '$' → r = '$' :: r' → False) :
    transduce .text (c :: r) = behind (escapeChar c) (transduce .text r) := by
  refine transduce_step ?_
  rw [step, moveInText, token_of_single hdots hspaces]
  exact hdollars

theorem eq_of_splitAtDelimiter? {t a b : Text} (h : splitAtDelimiter? t = some (a, b)) :
    t = a ++ '$' :: '$' :: b := by
  fun_induction splitAtDelimiter? t generalizing a b with
  | case1 r => cases h; rfl
  | case2 c r _ ih =>
    obtain ⟨s, hs, he⟩ := Option.map_eq_some_iff.1 h
    cases he
    exact congrArg (c :: ·) (ih hs)
  | case3 => cases h

theorem escape_of_single {c : Char} {r : Text} (hdots : ∀ r', c = '.' → r = '.' :: '.' :: r' → False)
    (hspaces : ∀ r', c = ' ' → r = ' ' :: r' → False) :
    escape (c :: r) = escapeChar c ++ escape r := by
  rw [escape]
  · exact hdots
  · exact hspaces

/-- A delimiter is no part of an ellipsis or of several spaces. -/
theorem escape_front {c : Char} {a b : Text}
    (hdots : ∀ r', c = '.' → a ++ '$' :: b = '.' :: '.' :: r' → False)
    (hspaces : ∀ r', c = ' ' → a ++ '$' :: b = ' ' :: r' → False) :
    escape (c :: a) = escapeChar c ++ escape a := by
  refine escape_of_single ?_ ?_
  · rintro r' hc rfl
    exact hdots _ hc rfl
  · rintro r' hc rfl
    exact hspaces _ hc rfl

/-- What stands in front of a delimiter is escaped as a whole. -/
theorem transduce_text (t : Text) : transduce .text t = match splitAtDelimiter? t with
    | none => (escape t, .text)
    | some (a, b) => behind (escape a ++ ['$']) (transduce .math b) := by
  induction t using escape.induct with
  | case1 r ih =>
    have hsplit : splitAtDelimiter? ('.' :: '.' :: '.' :: r)
        = (splitAtDelimiter? r).map fun s => ('.' :: '.' :: '.' :: s.1, s.2) := by
      simp [splitAtDelimiter?, Function.comp_def]
    rw [transduce_step (m := .text) (t := '.' :: '.' :: '.' :: r) rfl, token, hsplit, ih]
    cases splitAtDelimiter? r with
    | none => rfl
    | some s => exact (behind_behind ..).trans (by rw [← List.append_assoc]; rfl)
  | case2 r ih =>
    have hsplit : splitAtDelimiter? (' ' :: ' ' :: r)
        = (splitAtDelimiter? r).map fun s => (' ' :: ' ' :: s.1, s.2) := by
      simp [splitAtDelimiter?, Function.comp_def]
    have hrest : splitAtDelimiter? (' ' :: r) = (splitAtDelimiter? r).map fun s => (' ' :: s.1, s.2) := rfl
    rw [transduce_spaces, ih, hsplit, hrest]
    cases splitAtDelimiter? r <;> rfl
  | case3 c r hdots hspaces ih =>
    by_cases hpair : ∃ b, c = '$' ∧ r = '$' :: b
    · obtain ⟨b, rfl, rfl⟩ := hpair
      exact transduce_step rfl
    · have hdollars : ∀ b, c = '$' → r = '$' :: b → False := fun b hc hr => hpair ⟨b, hc, hr⟩
      have hsplit : splitAtDelimiter? (c :: r)
          = (splitAtDelimiter? r).map fun s => (c :: s.1, s.2) := by
        rw [splitAtDelimiter?]
        exact hdollars
      rw [transduce_char hdots hspaces hdollars, ih, hsplit]
      cases hr : splitAtDelimiter? r with
      | none => exact congrArg (·, Reading.text) (escape_of_single hdots hspaces).symm
      | some s =>
        have he := eq_of_splitAtDelimiter? hr
        subst he
        show behind _ (behind _ _) = behind _ _
        rw [behind_behind, ← List.append_assoc, escape_front hdots hspaces]
  | case4 => exact transduce_nil .text

theorem moveInMath_char {c : Char} {r : Text} (hpair : ∀ d r', c = '\\' → r = d :: r' → False)
    (hdollars : ∀ r', c = '$' → r = '$' :: r' → False) (hc : ¬ c = '\n') :
    moveInMath (c :: r) = some (if c = '$' ∨ c = '#' then ['\\', c] else [c], .math, r) := by
  by_cases hnumber : c = '#'
  · subst hnumber
    rfl
  by_cases hdollar : c = '$'
  · subst hdollar
    rw [moveInMath]
    · rfl
    · exact fun r' => hdollars r' rfl
  · rw [moveInMath, if_neg (by simp [hnumber, hdollar])]
    · exact hpair
    · exact hnumber
    · exact hdollars
    · exact hdollar
    · exact hc

theorem transduce_math (t : Text) : transduce .math t = behind (readMath t).1 (match (readMath t).2 with
    | .never => ([], .math)
    | .delimiter r => behind ['$'] (transduce .text r)
    | .lineBreak r => behind ['$'] (transduce .text r)) := by
  fun_induction readMath t with
  | case1 c r s ih =>
    rw [transduce_step (m := .math) (t := '\\' :: c :: r) rfl, ih, behind_behind]
    rfl
  | case2 r => exact transduce_step rfl
  | case3 r => exact transduce_step rfl
  | case4 c r hpair hdollars hc s ih =>
    rw [transduce_step (m := .math) (moveInMath_char hpair hdollars hc), ih, behind_behind]
  | case5 => exact transduce_nil .math

/-! ## The formatter -/

/-- Only a dollar is read otherwise where math is resumed. -/
theorem transduce_resumed {t : Text} (h : ∀ r, t ≠ '$' :: r) :
    (transduce .resumed t).1 = (transduce .math t).1
      ∧ (transduce .resumed t).2.inMath = (transduce .math t).2.inMath := by
  cases t with
  | nil => simp [transduce_nil, Reading.inMath]
  | cons c r =>
    have hsame : step .resumed (c :: r) = moveInMath (c :: r) := by
      rw [step]
      · exact fun r' he => h _ he
      · exact h
    obtain ⟨w, m, t, hstep⟩ : ∃ w m t, moveInMath (c :: r) = some (w, m, t) := by
      unfold moveInMath
      split <;> simp_all
    rw [transduce_step (hsame.trans hstep), transduce_step (m := .math) hstep]
    exact ⟨rfl, rfl⟩

/-- The mode of a formatter, inside of a fragment. -/
def Formatter.reading (f : Formatter) : Reading := if f.mathOpen then .math else .text

theorem text_toggleMath (f : Formatter) (mark : Text) : (f.toggleMath mark).text = f.text ++ mark :=
  f.text_put .dollar mark

theorem spans_transduce (f : Formatter) (t : Text) :
    (f.spans t).text = f.text ++ (transduce f.reading t).1 ∧
      (f.spans t).mathOpen = (transduce f.reading t).2.inMath := by
  fun_induction Formatter.spans f t with
  | case1 f t ho f' h =>
    rw [Formatter.reading, if_pos ho, transduce_math, h]
    exact ⟨by rw [Formatter.text_put, behind, List.append_nil], ho⟩
  | case2 f t ho f' r h ih =>
    have hout : (f'.toggleMath ['$']).reading = .text := by
      simp [Formatter.reading, Formatter.toggleMath, f', Formatter.put, ho]
    rw [hout, text_toggleMath, Formatter.text_put] at ih
    rw [Formatter.reading, if_pos ho, transduce_math, h]
    exact ⟨by simpa [behind] using ih.1, ih.2⟩
  | case3 f t ho f' r h ih =>
    have hout : ((f'.note .spanClosedAtLineBreak).toggleMath ['$']).reading = .text := by
      simp [Formatter.reading, Formatter.toggleMath, f', Formatter.put, Formatter.note, ho]
    have htext : ((f'.note .spanClosedAtLineBreak).toggleMath ['$']).text = f'.text ++ ['$'] :=
      text_toggleMath ..
    rw [hout, htext, Formatter.text_put] at ih
    rw [Formatter.reading, if_pos ho, transduce_math, h]
    exact ⟨by simpa [behind] using ih.1, ih.2⟩
  | case4 f t ho h =>
    rw [Formatter.reading, if_neg ho, transduce_text, h]
    exact ⟨Formatter.text_put .., eq_false_of_ne_true ho⟩
  | case5 f t ho a b h ih =>
    have hin : ((f.put .content (escape a)).toggleMath ['$']).reading = .math := by
      simpa [Formatter.reading, Formatter.toggleMath, Formatter.put] using ho
    rw [hin, text_toggleMath, Formatter.text_put] at ih
    rw [Formatter.reading, if_neg ho, transduce_text, h]
    exact ⟨by simpa [behind] using ih.1, ih.2⟩

/-- A formatter starts as the machine does: it closes math that is resumed, or goes on in its mode. -/
theorem exists_writeEscaped {f : Formatter} (h : f.mathAware = true) (t : Text) :
    ∃ (g : Formatter) (w u : Text), f.writeEscaped t = g.spans u ∧ g.text = f.flush.text ++ w ∧
      (transduce (.start f.flush.mathOpen) t).1 = w ++ (transduce g.reading u).1 ∧
      (transduce (.start f.flush.mathOpen) t).2.inMath = (transduce g.reading u).2.inMath := by
  have haware : f.flush.mathAware = true := f.flush_mathAware.trans h
  unfold Formatter.writeEscaped
  simp only [haware, Bool.not_true, Bool.false_eq_true, if_false]
  cases ho : f.flush.mathOpen with
  | false =>
    rw [if_neg (by simp)]
    exact ⟨f.flush, [], t, rfl, (List.append_nil _).symm, by rw [Formatter.reading, ho]; exact ⟨rfl, rfl⟩⟩
  | true =>
    let g := (f.flush.note .spanClosedAtDollar).toggleMath [' ', '$']
    have hout : g.reading = .text := by
      simp [g, Formatter.reading, Formatter.toggleMath, Formatter.note, Formatter.put, ho]
    have htext : g.text = f.flush.text ++ [' ', '$'] := text_toggleMath ..
    simp only [if_true, Reading.start]
    split
    · next r =>
      have hstep := transduce_step (m := .resumed) (t := '$' :: '$' :: r) rfl
      exact ⟨g, [' ', '$'], r, rfl, htext, by rw [hstep, hout]; exact ⟨rfl, rfl⟩⟩
    · next r hone =>
      have hstep : step .resumed ('$' :: r) = some ([' ', '$'], .text, r) := by
        rw [step]
        exact hone
      exact ⟨g, [' ', '$'], r, rfl, htext, by rw [transduce_step hstep, hout]; exact ⟨rfl, rfl⟩⟩
    · next htwo hone =>
      have hsame := transduce_resumed hone
      refine ⟨f.flush, [], t, rfl, (List.append_nil _).symm, ?_⟩
      rwa [Formatter.reading, ho, if_pos rfl, List.nil_append]

theorem writeEscaped_text {f : Formatter} (h : f.mathAware = true) (t : Text) :
    (f.writeEscaped t).text = f.flush.text ++ (transduce (.start f.flush.mathOpen) t).1 := by
  obtain ⟨g, w, u, hg, htext, hw, -⟩ := exists_writeEscaped h t
  rw [hg, (spans_transduce g u).1, htext, hw, List.append_assoc]

theorem writeEscaped_inMath {f : Formatter} (h : f.mathAware = true) (t : Text) :
    (f.writeEscaped t).mathOpen = (transduce (.start f.flush.mathOpen) t).2.inMath := by
  obtain ⟨g, w, u, hg, -, -, hmode⟩ := exists_writeEscaped h t
  rw [hg, (spans_transduce g u).2, hmode]

/-- Behind the gap, a formatter writes what the machine writes, and ends in its mode. -/
theorem writeEscaped_transduce {f : Formatter} (h : f.mathAware = true) (t : Text) :
    (f.writeEscaped t).text = f.flush.text ++ (transduce (.start f.flush.mathOpen) t).1 ∧
      (f.writeEscaped t).mathOpen = (transduce (.start f.flush.mathOpen) t).2.inMath :=
  ⟨writeEscaped_text h t, writeEscaped_inMath h t⟩

/-- A dollar at the start closes math, and the text that follows opens and closes it again. -/
theorem writeEscaped_transduce_resumed :
    let f : Formatter := { mathOpen := true }
    f.mathAware = true ∧
      (f.writeEscaped "$$ a...   b$$\\#x#$$$y\n_".toList).text
        = " $ a\\ldots\x7b\x7d b$\\#x\\#$\\$y\n\\_".toList ∧
      (f.writeEscaped "$$ a...   b$$\\#x#$$$y\n_".toList).mathOpen = false := by
  intro f
  obtain ⟨htext, hmode⟩ := writeEscaped_transduce (f := f) rfl "$$ a...   b$$\\#x#$$$y\n_".toList
  have hmachine : transduce (.start f.flush.mathOpen) "$$ a...   b$$\\#x#$$$y\n_".toList
      = (" $ a\\ldots\x7b\x7d b$\\#x\\#$\\$y\n\\_".toList, .text) := by decide +kernel
  rw [hmachine] at htext hmode
  exact ⟨rfl, htext, hmode⟩

end Texdown.Latex
