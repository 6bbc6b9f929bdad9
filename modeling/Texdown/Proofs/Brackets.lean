import Texdown.Latex.Escape
import Texdown.Latex.Preamble

/-!
# Brackets in LaTeX

A reader goes over LaTeX from left to right and marks what opens and what closes something: braces, and
the begin and the end of environments. A backslash protects the character behind it, unless that is a
letter: then it begins the name of a command. What stands in a verbatim environment is passed over.

Results:
* `Open.balanced`: a word of marks that leaves no bracket open is balanced.
* `scan_append`: a text is read part by part.
* `passes_escape`: escaped text neither opens nor closes anything around it.
* `scan_verbatim`, `scan_endsVerbatim`: a verbatim environment ends where its end first stands.
-/
namespace Texdown.Latex

/-! ## Words of brackets -/

/-- What stands around a part of a document. -/
inductive Bracket where
  | brace
  | environment (name : Text)
  deriving DecidableEq, Repr

/-- A place where a bracket opens or closes. -/
inductive Mark where
  | opens (b : Bracket)
  | closes (b : Bracket)
  deriving DecidableEq, Repr

namespace Mark

/-- The words in which every bracket that opens is closed by its like, around such a word. -/
inductive Balanced : List Mark → Prop where
  | nil : Balanced []
  | group (b : Bracket) {inner : List Mark} (h : Balanced inner) :
    Balanced (opens b :: inner ++ [closes b])
  | append {ms ns : List Mark} (h1 : Balanced ms) (h2 : Balanced ns) : Balanced (ms ++ ns)

/-- The words that leave these brackets open, innermost first. -/
inductive Open : List Bracket → List Mark → Prop where
  | base {ms : List Mark} (h : Balanced ms) : Open [] ms
  | inside {st : List Bracket} {ms ns : List Mark} (b : Bracket) (h : Open st ms) (hn : Balanced ns) :
    Open (b :: st) (ms ++ opens b :: ns)

namespace Open

variable {st : List Bracket} {ms ns : List Mark} {b : Bracket}

theorem append (h : Open st ms) (hn : Balanced ns) : Open st (ms ++ ns) := by
  cases h with
  | base h => exact .base (h.append hn)
  | inside b h hm =>
    rw [List.append_assoc]
    exact .inside b h (hm.append hn)

theorem opens (h : Open st ms) (b : Bracket) : Open (b :: st) (ms ++ [.opens b]) := .inside b h .nil

theorem closes (h : Open (b :: st) ms) : Open st (ms ++ [.closes b]) := by
  cases h with
  | inside b h hm =>
    rw [List.append_assoc]
    exact h.append (.group b hm)

theorem balanced (h : Open [] ms) : Balanced ms := by
  cases h with
  | base h => exact h

end Open
end Mark

/-! ## The reader -/

open Text (isLetter)

def endsVerbatim : Text := command "end".toList "verbatim".toList

/-- Where a reader of LaTeX is. -/
inductive Mode where
  | text
  /-- Behind a backslash. -/
  | escape
  /-- In the name of a command. -/
  | command (name : Text)
  /-- In the name of an environment that begins or ends. -/
  | environment (opens : Bool) (name : Text)
  /-- In a verbatim environment, with what was read since its begin or the last backslash. -/
  | verbatim (seen : Text)
  deriving DecidableEq, Repr

namespace Mode

/-- A character that is not part of a name. -/
def readText (c : Char) : List Mark × Mode :=
  if c = '\\' then ([], .escape)
  else if c = '{' then ([.opens .brace], .text)
  else if c = '}' then ([.closes .brace], .text)
  else ([], .text)

def next : Mode → Char → List Mark × Mode
  | .text, c => readText c
  | .escape, c => if isLetter c then ([], .command [c]) else ([], .text)
  | .command name, c =>
    if isLetter c then ([], .command (name ++ [c]))
    else if c = '{' ∧ name = "begin".toList then ([], .environment true [])
    else if c = '{' ∧ name = "end".toList then ([], .environment false [])
    else readText c
  | .environment opens name, c =>
    if c ≠ '}' then ([], .environment opens (name ++ [c]))
    else if opens then
      ([.opens (.environment name)], if name = "verbatim".toList then .verbatim [] else .text)
    else ([.closes (.environment name)], .text)
  | .verbatim seen, c =>
    let seen := if c = '\\' then [c] else seen ++ [c]
    if seen = endsVerbatim then ([.closes (.environment "verbatim".toList)], .text)
    else ([], .verbatim seen)

/-- Modes in which nothing is begun: if the name of a command goes on, it is not that of one that
begins or ends an environment. -/
def Calm : Mode → Prop
  | text => True
  | command name => ¬ name <+: "begin".toList ∧ ¬ name <+: "end".toList
  | escape | environment _ _ | verbatim _ => False

end Mode

open Mode (Calm readText)

def scan : Mode → Text → List Mark × Mode
  | m, [] => ([], m)
  | m, c :: t =>
    let first := m.next c
    let rest := scan first.2 t
    (first.1 ++ rest.1, rest.2)

/-- The marks of a whole text; a text that ends within something has none. -/
def marksOf? (t : Text) : Option (List Mark) :=
  match scan .text t with
  | (ms, .text) | (ms, .command _) => some ms
  | _ => none

theorem scan_append (m : Mode) (a b : Text) :
    scan m (a ++ b) = ((scan m a).1 ++ (scan (scan m a).2 b).1, (scan (scan m a).2 b).2) := by
  induction a generalizing m with
  | nil => rfl
  | cons c a ih => simp only [List.cons_append, scan, ih, List.append_assoc]

theorem scan_append_of {m m1 m2 : Mode} {a b : Text} {ms ns : List Mark} (ha : scan m a = (ms, m1))
    (hb : scan m1 b = (ns, m2)) : scan m (a ++ b) = (ms ++ ns, m2) := by
  rw [scan_append, ha, hb]

theorem marksOf?_of_calm {t : Text} {ms : List Mark} {m : Mode} (h : scan .text t = (ms, m))
    (hm : Calm m) : marksOf? t = some ms := by
  rw [marksOf?, h]
  cases m with
  | text | command => rfl
  | escape | environment | verbatim => cases hm

/-! ## Texts that begin nothing -/

/-- In a calm mode, a letter changes nothing that matters. -/
theorem Mode.Calm.letter {m : Mode} (hm : Calm m) {c : Char} (hc : isLetter c = true) :
    ∃ m', Calm m' ∧ m.next c = ([], m') := by
  cases m with
  | text =>
    refine ⟨.text, trivial, ?_⟩
    have h1 : c ≠ '\\' := by rintro rfl; cases hc
    have h2 : c ≠ '{' := by rintro rfl; cases hc
    have h3 : c ≠ '}' := by rintro rfl; cases hc
    simp only [Mode.next, readText, h1, h2, h3, if_false]
  | command name =>
    have hlonger : ∀ p : Text, ¬ name <+: p → ¬ name ++ [c] <+: p := fun p h hp =>
      h ((List.prefix_append name [c]).trans hp)
    exact ⟨.command (name ++ [c]), ⟨hlonger _ hm.1, hlonger _ hm.2⟩, if_pos hc⟩
  | escape | environment | verbatim => cases hm

/-- Any other character is read as if no name stood in front of it. -/
theorem Mode.Calm.next_eq {m : Mode} (hm : Calm m) {c : Char} (hc : isLetter c = false) :
    m.next c = readText c := by
  cases m with
  | text => rfl
  | command name =>
    have hbegin : name ≠ "begin".toList := fun h => hm.1 (h ▸ List.prefix_refl _)
    have hend : name ≠ "end".toList := fun h => hm.2 (h ▸ List.prefix_refl _)
    simp only [Mode.next, hc, hbegin, hend, and_false, if_false, Bool.false_eq_true]
  | escape | environment | verbatim => cases hm

/-- Read from a calm mode on, a text gives these marks, and leaves a calm mode. -/
def Passes (t : Text) (ms : List Mark) : Prop := ∀ m, Calm m → ∃ m', Calm m' ∧ scan m t = (ms, m')

theorem Passes.append {a b : Text} {ms ns : List Mark} (ha : Passes a ms) (hb : Passes b ns) :
    Passes (a ++ b) (ms ++ ns) := fun m hm => by
  obtain ⟨m1, hm1, h1⟩ := ha m hm
  obtain ⟨m2, hm2, h2⟩ := hb m1 hm1
  exact ⟨m2, hm2, scan_append_of h1 h2⟩

theorem passes_nil : Passes [] [] := fun m hm => ⟨m, hm, rfl⟩

theorem Mode.Calm.scan_eq {m : Mode} (hm : Calm m) {c : Char} (hc : isLetter c = false) (t : Text) :
    scan m (c :: t) = scan .text (c :: t) := by
  rw [scan, scan, hm.next_eq hc]
  rfl

/-- It is enough to read it as text, unless it begins with a letter. -/
theorem passes_of_scan {t : Text} {ms : List Mark} {m' : Mode} (hc : t.head?.any isLetter = false)
    (h : scan .text t = (ms, m')) (hm' : Calm m') : Passes t ms := fun m hm => by
  cases t with
  | nil =>
    cases h
    exact ⟨m, hm, rfl⟩
  | cons c t =>
    have hc : isLetter c = false := hc
    exact ⟨m', hm', (hm.scan_eq hc t).trans h⟩

/-- A text behind which text goes on. -/
theorem passes_fixed {t : Text} {ms : List Mark} (hc : t.head?.any isLetter = false)
    (h : scan .text t = (ms, .text)) : Passes t ms := passes_of_scan hc h trivial

/-- The name of a command that does not begin as those that begin and end environments. -/
theorem passes_name {name : Text} (h : scan .text ('\\' :: name) = ([], .command name))
    (hbegin : ¬ name <+: "begin".toList) (hend : ¬ name <+: "end".toList) : Passes ('\\' :: name) [] :=
  passes_of_scan rfl h ⟨hbegin, hend⟩

/-- Characters that the reader takes for nothing but text. -/
def isPlain (c : Char) : Bool := c ≠ '\\' && c ≠ '{' && c ≠ '}'

theorem passes_plain {t : Text} (h : t.all isPlain = true) : Passes t [] := by
  induction t with
  | nil => exact passes_nil
  | cons c t ih =>
    simp only [List.all_cons, Bool.and_eq_true] at h
    have hone : Passes [c] [] := fun m hm => by
      cases hc : isLetter c with
      | true =>
        obtain ⟨m', hm', hnext⟩ := hm.letter hc
        exact ⟨m', hm', by rw [scan, hnext, scan]; rfl⟩
      | false =>
        refine ⟨.text, trivial, ?_⟩
        have hplain := h.1
        simp only [isPlain, Bool.and_eq_true, decide_eq_true_eq] at hplain
        simp only [scan, hm.next_eq hc, readText, hplain.1.1, hplain.1.2, hplain.2, if_false,
          List.append_nil]
    exact hone.append (ih h.2)

theorem passes_closing : Passes ['}'] [.closes .brace] := passes_fixed rfl rfl

theorem balanced_braces : Mark.Balanced [.opens .brace, .closes .brace] := .group .brace .nil

/-- A character is escaped so that nothing remains open. -/
theorem passes_escapeChar (c : Char) : ∃ ms, Mark.Balanced ms ∧ Passes (escapeChar c) ms := by
  unfold escapeChar
  split
  case h_8 | h_9 | h_10 | h_14 => exact ⟨_, balanced_braces, passes_fixed rfl rfl⟩
  case h_15 hopen hclose _ _ hbackslash _ _ _ _ =>
    refine ⟨[], .nil, passes_plain ?_⟩
    simp only [List.all_cons, List.all_nil, isPlain, Bool.and_true, Bool.and_eq_true,
      decide_eq_true_eq]
    exact ⟨⟨hbackslash, hopen⟩, hclose⟩
  all_goals exact ⟨[], .nil, passes_fixed rfl rfl⟩

/-- Escaped text is balanced in itself. -/
theorem passes_escape (t : Text) : ∃ ms, Mark.Balanced ms ∧ Passes (escape t) ms := by
  fun_induction escape t with
  | case1 r ih =>
    obtain ⟨ms, hms, hpass⟩ := ih
    have hdots : Passes ellipsis [.opens .brace, .closes .brace] := passes_fixed rfl rfl
    exact ⟨_, balanced_braces.append hms, hdots.append hpass⟩
  | case2 r ih => exact ih
  | case3 c r _ _ ih =>
    obtain ⟨ms, hms, hc⟩ := passes_escapeChar c
    obtain ⟨ns, hns, hr⟩ := ih
    exact ⟨_, hms.append hns, hc.append hr⟩
  | case4 => exact ⟨[], .nil, passes_nil⟩

/-! ## Verbatim text -/

/-- No occurrence of a word goes over a character that is not part of it. -/
theorem infix_of_infix_cons {α : Type} {p a b : List α} {c : α} (hc : c ∉ p) (h : p <:+: a ++ c :: b) :
    p <:+: a ∨ p <:+: b := by
  obtain ⟨s, t, h⟩ := h
  rcases List.append_eq_append_iff.1 h with ⟨d, ha, -⟩ | ⟨d, hd, ht⟩
  · exact .inl ⟨s, d, ha.symm⟩
  · cases d with
    | nil => exact .inl ⟨s, [], by simpa using hd⟩
    | cons x d =>
      obtain ⟨rfl, hb⟩ := List.cons.inj ht
      rcases List.append_eq_append_iff.1 hd with ⟨e, -, he⟩ | ⟨e, -, he⟩
      · exact absurd (he ▸ by simp) hc
      · cases e with
        | nil => exact absurd (he.subst (motive := (c ∈ ·)) List.mem_cons_self) hc
        | cons y e =>
          obtain ⟨-, rfl⟩ := List.cons.inj he
          exact .inr ⟨e, t, hb.symm⟩

theorem infix_of_infix_append {α : Type} {p a b g : List α} (hg : ∀ c ∈ g, c ∉ p)
    (h : p <:+: a ++ (g ++ b)) : p <:+: a ++ b := by
  induction g generalizing a with
  | nil => exact h
  | cons c g ih =>
    have hrest : ∀ x ∈ g, x ∉ p := fun x hx => hg x (List.mem_cons_of_mem c hx)
    rcases infix_of_infix_cons (hg c List.mem_cons_self) h with h | h
    · exact h.trans (List.prefix_append a b).isInfix
    · have hb : p <:+: [] ++ b := ih hrest h
      exact hb.trans (List.suffix_append a b).isInfix

/-- While its end does not stand in it, a verbatim environment goes on. -/
theorem scan_verbatim {seen t : Text} (h : ¬ endsVerbatim <:+: seen ++ t) :
    ∃ seen', seen' <:+ seen ++ t ∧ scan (.verbatim seen) t = ([], .verbatim seen') := by
  induction t generalizing seen with
  | nil => exact ⟨seen, (List.append_nil seen).symm ▸ List.suffix_refl _, rfl⟩
  | cons c t ih =>
    obtain ⟨seen1, hseen1⟩ : ∃ s, s = if c = '\\' then [c] else seen ++ [c] := ⟨_, rfl⟩
    have hsuffix : seen1 ++ t <:+ seen ++ c :: t := by
      rw [hseen1]
      split
      · exact ⟨seen, rfl⟩
      · rw [List.append_assoc]
        exact List.suffix_refl _
    have hgoes : seen1 ≠ endsVerbatim := by
      rintro rfl
      exact h ((List.prefix_append _ t).isInfix.trans hsuffix.isInfix)
    obtain ⟨seen', hseen', hscan⟩ := ih fun hstands => h (hstands.trans hsuffix.isInfix)
    refine ⟨seen', hseen'.trans hsuffix, ?_⟩
    rw [scan, Mode.next]
    simp only [← hseen1, if_neg hgoes, hscan]
    rfl

/-- From a calm mode on, its begin is read as such. -/
theorem scan_beginsVerbatim {m : Mode} (hm : Calm m) :
    scan m (command "begin".toList "verbatim".toList)
      = ([.opens (.environment "verbatim".toList)], .verbatim []) :=
  hm.scan_eq rfl _

/-- At its end it ends, whatever stands in front. -/
theorem scan_endsVerbatim (seen : Text) :
    scan (.verbatim seen) endsVerbatim = ([.closes (.environment "verbatim".toList)], .text) := by
  -- Its backslash makes the reader forget what it has seen.
  have hforgets : scan (.verbatim seen) endsVerbatim = scan (.verbatim []) endsVerbatim := rfl
  rw [hforgets]
  decide

end Texdown.Latex
