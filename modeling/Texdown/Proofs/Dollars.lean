import Texdown.Proofs.OnePass

/-!
# Dollars come in pairs

LaTeX sees the dollars that no backslash protects (`tally`). Outside of math they come in pairs, and in
math one is left over (`Paired`): a dollar is written wherever math begins or ends, and every other one
is escaped.

One thing upsets this. A fragment may end in math with a backslash that has nothing to protect yet. A
dollar that is written next is protected by it, be it the one that closes math at a line break or one of
the text that follows, and LaTeX does not see it (`Severs`).

Results:
* `read_transduce`: a fragment keeps the dollars paired, if nothing protects its first character.
* `read_transduce_odd`: what it does behind a lone backslash.
* `Settled.call`: the dollars stay paired exactly until math is severed.
* `dollars_paired_iff`: so it is in every run of calls on a fresh formatter.
-/
namespace Texdown.Latex

/-! ## Calls -/

/-- A call of a formatter. -/
inductive Call where
  | act (a : Act)
  | finish
  deriving DecidableEq

namespace Formatter

/-- A formatter that has written nothing yet. -/
def fresh (indentWidth : Int) : Formatter := { spacing := { indentWidth } }

def call (f : Formatter) : Call → Formatter
  | .act a => f.act a
  | .finish => f.finish

def calls (f : Formatter) (cs : List Call) : Formatter := cs.foldl call f

theorem call_mathAware (f : Formatter) (c : Call) : (f.call c).mathAware = f.mathAware := by
  cases c with
  | act a => exact f.perform_mathAware [a]
  | finish => exact f.flush_mathAware

end Formatter

/-! ## Dollars that LaTeX sees -/

/-- How many dollars no backslash protects, and whether an odd number of backslashes comes last. -/
structure Tally where
  dollars : Nat := 0
  odd : Bool := false
  deriving DecidableEq, Repr

namespace Tally

/-- Behind an odd number of backslashes, a dollar is protected. -/
def next (s : Tally) (c : Char) : Tally :=
  if c = '\\' then { s with odd := !s.odd }
  else if c = '$' ∧ s.odd = false then ⟨s.dollars + 1, false⟩
  else ⟨s.dollars, false⟩

def read (s : Tally) (t : Text) : Tally := t.foldl next s

@[simp] theorem read_nil (s : Tally) : s.read [] = s := rfl

@[simp] theorem read_cons (s : Tally) (c : Char) (t : Text) : s.read (c :: t) = (s.next c).read t := rfl

theorem read_append (s : Tally) (a b : Text) : s.read (a ++ b) = (s.read a).read b := List.foldl_append

/-- Outside of math an even number of dollars was seen, and in math an odd one. -/
def Matches (s : Tally) (inMath : Bool) : Prop := s.dollars % 2 = inMath.toNat

end Tally

def tally (t : Text) : Tally := ({} : Tally).read t

theorem tally_append (a b : Text) : tally (a ++ b) = (tally a).read b := Tally.read_append ..

namespace Tally

variable {s : Tally} {d : Nat} {m : Reading} {t t' w : Text}

theorem next_plain (s : Tally) {c : Char} (hc : c ≠ '\\') (hd : c ≠ '$') : s.next c = ⟨s.dollars, false⟩ := by
  rw [next, if_neg hc, if_neg fun h => hd h.1]

theorem dollars_read_plain (s : Tally) (h : '$' ∉ t) : (s.read t).dollars = s.dollars := by
  induction t generalizing s with
  | nil => rfl
  | cons c t ih =>
    rw [read_cons, ih _ (List.not_mem_of_not_mem_cons h), next]
    have hc : c ≠ '$' := fun hc => h (hc ▸ List.mem_cons_self)
    split
    · rfl
    · rw [if_neg fun hd => hc hd.1]

theorem odd_read (s : Tally) (h : t.getLast? ≠ some '\\') (ho : (s.read t).odd = true) :
    t = [] ∧ s.odd = true := by
  rcases List.eq_nil_or_concat t with rfl | ⟨t, c, rfl⟩
  · exact ⟨rfl, ho⟩
  · have hc : c ≠ '\\' := fun hc => h (by simp [hc])
    rw [List.concat_eq_append, read_append, read_cons, read_nil, next, if_neg hc] at ho
    split at ho <;> cases ho

theorem read_pair (d : Nat) (c : Char) : (⟨d, false⟩ : Tally).read ['\\', c] = ⟨d, false⟩ := by
  show next ⟨d, true⟩ c = _
  unfold next
  split
  · rfl
  · rw [if_neg (by simp)]

theorem matches_succ (d : Nat) (o : Bool) (inMath : Bool) :
    Matches ⟨d + 1, o⟩ inMath ↔ Matches ⟨d, o⟩ (!inMath) := by
  unfold Matches
  cases inMath
  · simp only [Bool.toNat_false, Bool.not_false, Bool.toNat_true]
    omega
  · simp only [Bool.toNat_false, Bool.not_true, Bool.toNat_true]
    omega

theorem read_blank (h : ∀ c ∈ t, c = '\n' ∨ c = ' ') (d : Nat) :
    (⟨d, false⟩ : Tally).read t = ⟨d, false⟩ := by
  induction t with
  | nil => rfl
  | cons c t ih =>
    have hc : (⟨d, false⟩ : Tally).next c = ⟨d, false⟩ := by
      rcases h c List.mem_cons_self with rfl | rfl <;> rfl
    rw [read_cons, hc]
    exact ih fun e he => h e (List.mem_cons_of_mem c he)

/-! ### Fragments -/

/-- What is escaped shows no dollar, and no backslash comes last in it. -/
theorem read_escapeChar (d : Nat) (c : Char) :
    (⟨d, false⟩ : Tally).read (escapeChar c) = ⟨d, false⟩ := by
  unfold escapeChar
  split
  case h_15 c _ _ hdollar _ _ _ _ _ _ hbackslash _ _ _ _ => exact next_plain _ hbackslash hdollar
  all_goals rfl

theorem read_token (d : Nat) (c : Char) (r : Text) :
    (⟨d, false⟩ : Tally).read (token c r).1 = ⟨d, false⟩ := by
  unfold token
  split
  · rfl
  · rfl
  · exact read_escapeChar d _

theorem read_moveInText (ht : moveInText t = some (w, m, t')) :
    (((⟨d, false⟩ : Tally).read w).Matches m.inMath ↔ Matches ⟨d, false⟩ false) ∧
      ((⟨d, false⟩ : Tally).read w).odd = false := by
  unfold moveInText at ht
  split at ht
  · cases ht
    exact ⟨matches_succ d false true, rfl⟩
  · cases ht
    rw [read_token]
    exact ⟨Iff.rfl, rfl⟩
  · cases ht

/-- Only at the end of a fragment a backslash has nothing to protect. -/
theorem read_moveInMath (ht : moveInMath t = some (w, m, t')) :
    (((⟨d, false⟩ : Tally).read w).Matches m.inMath ↔ Matches ⟨d, false⟩ true) ∧
      (((⟨d, false⟩ : Tally).read w).odd = true → m = .math ∧ t' = []) := by
  unfold moveInMath at ht
  split at ht
  case h_6 c r hpair _ _ hdollar _ =>
    cases ht
    by_cases hc : c = '\\'
    · subst hc
      refine ⟨Iff.rfl, fun _ => ⟨rfl, ?_⟩⟩
      cases t' with
      | nil => rfl
      | cons c r => exact (hpair c r rfl rfl).elim
    · rw [read_cons, read_nil, next_plain _ hc hdollar]
      exact ⟨Iff.rfl, fun h => by cases h⟩
  case h_7 => cases ht
  case h_3 =>
    cases ht
    exact ⟨matches_succ d false false, fun h => by cases h⟩
  case h_5 =>
    cases ht
    exact ⟨matches_succ d false false, fun h => by cases h⟩
  all_goals
    cases ht
    rw [read_pair]
    exact ⟨Iff.rfl, fun h => by cases h⟩

theorem read_step {m' : Reading} (h : step m t = some (w, m', t')) :
    (((⟨d, false⟩ : Tally).read w).Matches m'.inMath ↔ Matches ⟨d, false⟩ m.inMath) ∧
      (((⟨d, false⟩ : Tally).read w).odd = true → m' = .math ∧ t' = []) := by
  unfold step at h
  split at h
  · obtain ⟨hmatches, hodd⟩ := read_moveInText (d := d) h
    exact ⟨hmatches, fun ho => by rw [hodd] at ho; cases ho⟩
  · exact read_moveInMath h
  · cases h
    exact ⟨matches_succ d false false, fun ho => by cases ho⟩
  · cases h
    exact ⟨matches_succ d false false, fun ho => by cases ho⟩
  · exact read_moveInMath h

/-- Behind what is written, the dollars are paired exactly under a condition, and a backslash that has
nothing to protect comes last only in math. -/
def PairsIf (s : Tally) (r : Text × Reading) (p : Prop) : Prop :=
  ((s.read r.1).Matches r.2.inMath ↔ p) ∧ ((s.read r.1).odd = true → r.2.inMath = true)

theorem PairsIf.behind {s : Tally} {r : Text × Reading} {p : Prop} (h : (s.read w).PairsIf r p) :
    s.PairsIf (behind w r) p := by
  unfold PairsIf Latex.behind
  rw [read_append]
  exact h

/-- What the machine writes for a text keeps the dollars as they are, paired or not. -/
theorem read_transduce (m : Reading) (t : Text) (d : Nat) :
    (⟨d, false⟩ : Tally).PairsIf (transduce m t) (Matches ⟨d, false⟩ m.inMath) := by
  fun_induction transduce m t generalizing d with
  | case1 m t h => exact ⟨Iff.rfl, fun ho => by cases ho⟩
  | case2 m t w m' t' h s ih =>
    obtain ⟨hmatches, hodd⟩ := read_step (d := d) h
    refine PairsIf.behind ?_
    rw [← hmatches]
    cases hw : (⟨d, false⟩ : Tally).read w with
    | mk d' o =>
      cases o with
      | false => exact ih d'
      | true =>
        obtain ⟨rfl, rfl⟩ := hodd (by rw [hw])
        have hs : s = ([], .math) := transduce_nil .math
        rw [hs]
        exact ⟨Iff.rfl, fun _ => rfl⟩

/-- Whether a text begins, in math behind a lone backslash, with a dollar that comes to be seen or a line
feed whose dollar does not. -/
def cuts : Text → Bool
  | '\\' :: '\\' :: t => cuts t
  | '\\' :: '$' :: _ | '$' :: _ | '\n' :: _ => true
  | _ => false

/-- What follows a move does not mend the dollars. -/
theorem read_transduce_move {u : Text} {n : Nat} {torn : Bool} (h : moveInMath t = some (w, m, u))
    (hw : (⟨d, true⟩ : Tally).read w = ⟨n, false⟩) (htorn : Matches ⟨n, false⟩ m.inMath ↔ torn = false) :
    (⟨d, true⟩ : Tally).PairsIf (transduce .math t) (torn = false) := by
  rw [transduce_step (m := .math) h, ← htorn]
  refine PairsIf.behind ?_
  rw [hw]
  exact read_transduce m u n

/-- Behind a lone backslash, a text keeps the dollars paired if it does not begin with one that the
backslash takes part in. -/
theorem read_transduce_odd (t : Text) {d : Nat} (hd : Matches ⟨d, true⟩ true) :
    (⟨d, true⟩ : Tally).PairsIf (transduce .math t) (cuts t = false) := by
  -- A dollar that closes math is protected, or one that does not is seen.
  have hclose : Matches ⟨d, false⟩ false ↔ true = false :=
    iff_of_false (fun h => by cases h.symm.trans hd) (by decide)
  have hseen : Matches ⟨d + 1, false⟩ true ↔ true = false := (matches_succ d false true).trans hclose
  have hkeep : Matches ⟨d, false⟩ true ↔ false = false := iff_of_true hd rfl
  fun_induction cuts t with
  | case1 t ih =>
    rw [transduce_step (m := .math) (t := '\\' :: '\\' :: t) rfl]
    exact PairsIf.behind ih
  | case2 r => exact read_transduce_move (t := '\\' :: '$' :: r) rfl rfl hseen
  | case3 r =>
    by_cases hr : ∃ r', r = '$' :: r'
    · obtain ⟨r, rfl⟩ := hr
      exact read_transduce_move (t := '$' :: '$' :: r) rfl rfl hclose
    · have hmove := moveInMath_char (c := '$') (r := r) (fun _ _ hc => by cases hc)
        (fun r' _ h => hr ⟨r', h⟩) (by decide)
      exact read_transduce_move hmove rfl hseen
  | case4 r => exact read_transduce_move (t := '\n' :: r) rfl rfl hclose
  | case5 t hpair hprotected hdollar hbreak =>
    cases t with
    | nil =>
      rw [transduce_nil]
      exact ⟨iff_of_true hd rfl, fun _ => rfl⟩
    | cons c r =>
      have hc : c ≠ '$' := fun hc => hdollar r (by rw [hc])
      by_cases hescape : c = '\\'
      · subst hescape
        cases r with
        | nil => exact read_transduce_move (t := ['\\']) rfl rfl hkeep
        | cons c r =>
          have hnext : c ≠ '\\' ∧ c ≠ '$' :=
            ⟨fun hc => hpair r (by rw [hc]), fun hc => hprotected r (by rw [hc])⟩
          exact read_transduce_move (t := '\\' :: c :: r) rfl (next_plain _ hnext.1 hnext.2) hkeep
      · have hmove := moveInMath_char (r := r) (fun _ _ hc => absurd hc hescape) (fun _ h => absurd h hc)
          (fun hc => hbreak r (by rw [hc]))
        refine read_transduce_move hmove (n := d) ?_ hkeep
        by_cases hnumber : c = '#'
        · subst hnumber
          rfl
        · rw [if_neg (by simp [hc, hnumber])]
          exact next_plain _ hescape hc

/-- A dollar at the start is written behind a space, so that nothing protects it. -/
theorem read_transduce_resumed (t : Text) {d : Nat} (hd : Matches ⟨d, true⟩ true) :
    (⟨d, true⟩ : Tally).PairsIf (transduce .resumed t) (¬ (t.head? ≠ some '$' ∧ cuts t = true)) := by
  by_cases h : ∃ r, t = '$' :: r
  · obtain ⟨r, rfl⟩ := h
    obtain ⟨u, hstep⟩ : ∃ u, step .resumed ('$' :: r) = some ([' ', '$'], .text, u) := by
      unfold step
      split <;> simp_all
    have hspace : (⟨d, true⟩ : Tally).read [' ', '$'] = ⟨d + 1, false⟩ := rfl
    obtain ⟨hmatches, hodd⟩ := read_transduce .text u (d + 1)
    rw [transduce_step hstep]
    refine PairsIf.behind ?_
    rw [hspace]
    exact ⟨hmatches.trans (iff_of_true ((matches_succ d false false).2 hd) (by simp)), hodd⟩
  · obtain ⟨htext, hmode⟩ := transduce_resumed fun r hr => h ⟨r, hr⟩
    obtain ⟨hmatches, hodd⟩ := read_transduce_odd t hd
    have hhead : t.head? ≠ some '$' := by
      intro hhead
      cases t with
      | nil => cases hhead
      | cons c r => exact h ⟨r, by cases hhead; rfl⟩
    unfold PairsIf
    rw [htext, hmode, hmatches]
    exact ⟨by simp [hhead], hodd⟩

end Tally

/-! ## Calls -/

namespace Formatter

/-- Outside of math the dollars that LaTeX sees come in pairs, and in math one is left over. -/
def Paired (f : Formatter) : Prop := (tally f.text).Matches f.mathOpen

/-- In math, behind a backslash that has nothing to protect. -/
def Torn (f : Formatter) : Prop := f.mathOpen = true ∧ (tally f.text).odd = true

/-- Only in math a backslash comes last. -/
def Quiet (f : Formatter) : Prop := (tally f.text).odd = true → f.mathOpen = true

structure Settled (f : Formatter) : Prop where
  paired : f.Paired
  quiet : f.Quiet

/-- Whether a call closes math, or shows a dollar, right behind a backslash that has nothing to protect. -/
def Severs (f : Formatter) : Call → Prop
  | .act (.write _ _) | .finish => f.Torn ∧ f.spacing.count ≠ 0
  | .act (.escaped t) => f.Torn ∧ (f.spacing.count ≠ 0 ∨ t.head? ≠ some '$' ∧ Tally.cuts t = true)
  | _ => False

end Formatter

/-- What is written as it is has no dollar, and no backslash comes last in it. -/
def Call.Plain : Call → Prop
  | .act (.write _ t) => '$' ∉ t ∧ t.getLast? ≠ some '\\'
  | _ => True

namespace Formatter

variable {f : Formatter}

/-- Without a gap nothing changes. -/
theorem flush_same (h : f.spacing.count = 0) : f.flush.text = f.text ∧ f.flush.mathOpen = f.mathOpen := by
  constructor
  · rw [flush_text, if_pos h, Spacing.gap, if_pos h, List.append_nil]
  · rw [flush_mathOpen, if_pos h]

theorem flush_breaks (h : f.spacing.count ≠ 0) :
    tally f.flush.text = ((tally f.text).read (if f.mathOpen then ['$'] else [])).read f.spacing.gap ∧
      f.flush.mathOpen = false :=
  ⟨by rw [flush_text, if_neg h, closed, tally_append, tally_append], by rw [flush_mathOpen, if_neg h]⟩

/-- The dollar in front of a gap closes math, if nothing protects it. -/
theorem Settled.flush (hf : f.Settled) :
    (f.flush.Paired ↔ ¬ (f.Torn ∧ f.spacing.count ≠ 0)) ∧ f.flush.Quiet ∧
      (f.spacing.count ≠ 0 → (tally f.flush.text).odd = false) := by
  obtain ⟨hpaired, hquiet⟩ := hf
  by_cases hc : f.spacing.count = 0
  · obtain ⟨htext, hopen⟩ := flush_same hc
    refine ⟨?_, ?_, fun h => absurd hc h⟩
    · rw [Paired, htext, hopen]
      exact iff_of_true hpaired fun h => h.2 hc
    · rw [Quiet, htext, hopen]
      exact hquiet
  · obtain ⟨htally, hflush⟩ := flush_breaks hc
    obtain ⟨d, o, hd⟩ : ∃ d o, tally f.text = ⟨d, o⟩ := ⟨_, _, rfl⟩
    unfold Paired Quiet Torn at *
    rw [htally, hflush, hd]
    rw [hd] at hpaired hquiet
    cases ho : f.mathOpen with
    | false =>
      rw [ho] at hpaired hquiet
      cases o with
      | true => cases hquiet rfl
      | false =>
        rw [if_neg (by simp), Tally.read_nil, Tally.read_blank (blank_gap _)]
        exact ⟨iff_of_true hpaired (by simp), fun h => h, fun _ => rfl⟩
    | true =>
      rw [ho] at hpaired
      cases o with
      | true =>
        have hlast : (⟨d, true⟩ : Tally).read ['$'] = ⟨d, false⟩ := rfl
        rw [if_pos rfl, hlast, Tally.read_blank (blank_gap _)]
        exact ⟨iff_of_false (fun h => by cases h.symm.trans hpaired) (by simp [hc]), Bool.noConfusion,
          fun _ => rfl⟩
      | false =>
        have hlast : (⟨d, false⟩ : Tally).read ['$'] = ⟨d + 1, false⟩ := rfl
        rw [if_pos rfl, hlast, Tally.read_blank (blank_gap _), Tally.matches_succ]
        exact ⟨iff_of_true hpaired (by simp), Bool.noConfusion, fun _ => rfl⟩

/-- Text that is written as it is shows no dollar. -/
theorem Settled.write (hf : f.Settled) (origin : Origin) {t : Text} (hdollar : '$' ∉ t)
    (hlast : t.getLast? ≠ some '\\') :
    ((f.write origin t).Paired ↔ ¬ (f.Torn ∧ f.spacing.count ≠ 0)) ∧ (f.write origin t).Quiet := by
  obtain ⟨hpaired, hquiet, -⟩ := hf.flush
  have htext : tally (f.write origin t).text = (tally f.flush.text).read t := by
    rw [Formatter.write, text_put, tally_append]
  constructor
  · rw [← hpaired]
    unfold Paired Tally.Matches
    rw [htext, Tally.dollars_read_plain _ hdollar]
    rfl
  · intro hodd
    rw [htext] at hodd
    exact hquiet (Tally.odd_read _ hlast hodd).2

theorem count_writeEscaped (f : Formatter) (t : Text) : (f.writeEscaped t).spacing.count = 0 := by
  rw [writeEscaped_spacing]
  rfl

theorem Settled.escaped (hf : f.Settled) (haware : f.mathAware = true) (t : Text) :
    ((f.writeEscaped t).Paired ↔ ¬ f.Severs (.act (.escaped t))) ∧ (f.writeEscaped t).Quiet := by
  obtain ⟨hpaired, hquiet, hgap⟩ := hf.flush
  obtain ⟨d, o, hd⟩ : ∃ d o, tally f.flush.text = ⟨d, o⟩ := ⟨_, _, rfl⟩
  have hstart : (Reading.start f.flush.mathOpen).inMath = f.flush.mathOpen := by
    cases f.flush.mathOpen <;> rfl
  have htally : tally (f.writeEscaped t).text
      = (⟨d, o⟩ : Tally).read (transduce (.start f.flush.mathOpen) t).1 := by
    rw [writeEscaped_text haware, tally_append, hd]
  have hcalm : f.spacing.count = 0 → (f.Torn ↔ o = true) := by
    intro hc
    rw [Torn, ← (flush_same hc).1, ← (flush_same hc).2, hd]
    exact ⟨And.right, fun ho => ⟨hquiet (by rw [hd, ho]), ho⟩⟩
  rw [Paired, Quiet, htally, writeEscaped_inMath haware]
  cases o with
  | false =>
    obtain ⟨hmatches, hodd⟩ := Tally.read_transduce (.start f.flush.mathOpen) t d
    refine ⟨?_, hodd⟩
    rw [hmatches, hstart, ← hd]
    refine hpaired.trans (not_congr ⟨fun h => ⟨h.1, .inl h.2⟩, fun h => ⟨h.1, fun hc => ?_⟩⟩)
    cases (hcalm hc).1 h.1
  | true =>
    have hc : f.spacing.count = 0 := Decidable.byContradiction fun hc => by cases hd ▸ hgap hc
    have hopen : f.flush.mathOpen = true := hquiet (by rw [hd])
    have hin : Tally.Matches ⟨d, true⟩ true := by
      have h := hpaired.2 fun h => h.2 hc
      rwa [Paired, hd, hopen] at h
    obtain ⟨hmatches, hodd⟩ := Tally.read_transduce_resumed t hin
    rw [hopen]
    refine ⟨hmatches.trans (not_congr ?_), hodd⟩
    exact ⟨fun h => ⟨(hcalm hc).2 rfl, .inr h⟩, fun h => h.2.resolve_left fun hne => hne hc⟩

/-- A call keeps the dollars paired, if it does not sever math. -/
theorem Settled.call (hf : f.Settled) (haware : f.mathAware = true) {c : Call} (hplain : c.Plain) :
    ((f.call c).Paired ↔ ¬ f.Severs c) ∧ (f.call c).Quiet := by
  cases c with
  | finish =>
    obtain ⟨hpaired, hquiet, -⟩ := hf.flush
    exact ⟨hpaired, hquiet⟩
  | act a =>
    cases a with
    | write origin t => exact hf.write origin hplain.1 hplain.2
    | escaped t => exact hf.escaped haware t
    | _ => exact ⟨iff_of_true hf.paired id, hf.quiet⟩

theorem settled_fresh (indentWidth : Int) : (fresh indentWidth).Settled := ⟨rfl, fun h => by cases h⟩

/-- The first call that severs math is the first behind which the dollars are not paired. -/
theorem Settled.calls {f : Formatter} (hf : f.Settled) (haware : f.mathAware = true) {cs : List Call}
    (hplain : ∀ c ∈ cs, c.Plain) :
    (∀ front, front <+: cs → (f.calls front).Paired) ↔
      ∀ front c, front ++ [c] <+: cs → ¬ (f.calls front).Severs c := by
  induction cs generalizing f with
  | nil =>
    refine iff_of_true (fun front h => ?_) fun front c h => ?_
    · rw [List.prefix_nil.1 h]
      exact hf.paired
    · exact absurd (List.prefix_nil.1 h) (by simp)
  | cons c cs ih =>
    obtain ⟨hpaired, hquiet⟩ := hf.call haware (hplain c List.mem_cons_self)
    by_cases hsevers : f.Severs c
    · refine iff_of_false (fun h => ?_) fun h => ?_
      · exact hpaired.1 (h [c] (by simp)) hsevers
      · exact h [] c (by simp) hsevers
    · have hrest := ih ⟨hpaired.2 hsevers, hquiet⟩ ((f.call_mathAware c).trans haware)
        fun e he => hplain e (List.mem_cons_of_mem c he)
      constructor
      · intro h front e he
        cases front with
        | nil =>
          obtain ⟨rfl, -⟩ := List.cons_prefix_cons.1 he
          exact hsevers
        | cons b front =>
          obtain ⟨rfl, hrun⟩ := List.cons_prefix_cons.1 he
          exact hrest.1 (fun front hp => h (b :: front) (List.cons_prefix_cons.2 ⟨rfl, hp⟩)) front e hrun
      · intro h front hp
        cases front with
        | nil => exact hf.paired
        | cons b front =>
          obtain ⟨rfl, hrun⟩ := List.cons_prefix_cons.1 hp
          exact hrest.2 (fun front e he => h (b :: front) e (List.cons_prefix_cons.2 ⟨rfl, he⟩)) front hrun

/-- Behind every call on a fresh formatter the dollars that LaTeX sees are paired, exactly if no call severs
math from the dollar that closes it. -/
theorem dollars_paired_iff (indentWidth : Int) {cs : List Call} (hplain : ∀ c ∈ cs, c.Plain) :
    (∀ front, front <+: cs → ((fresh indentWidth).calls front).Paired) ↔
      ∀ front c, front ++ [c] <+: cs → ¬ ((fresh indentWidth).calls front).Severs c :=
  (settled_fresh indentWidth).calls rfl hplain

/-- A dollar at the start of the next fragment is not protected by the backslash in front of it. -/
theorem dollars_paired_stray :
    let cs : List Call := [.act (.escaped "$$a\\".toList), .act (.escaped "$".toList), .finish]
    (∀ c ∈ cs, c.Plain) ∧ ∀ front, front <+: cs → ((fresh 2).calls front).Paired := by
  intro cs
  have hplain : ∀ c ∈ cs, c.Plain := by simp [cs, Call.Plain]
  refine ⟨hplain, (dollars_paired_iff 2 hplain).2 fun front c h => ?_⟩
  rcases front with _ | ⟨a, _ | ⟨b, _ | ⟨d, front⟩⟩⟩
  · obtain ⟨rfl, -⟩ := List.cons_prefix_cons.1 h
    exact fun hs => by cases hs.1.1
  · simp only [cs, List.cons_append, List.nil_append, List.cons_prefix_cons] at h
    obtain ⟨rfl, rfl, -⟩ := h
    exact fun hs => hs.2.elim (absurd (count_writeEscaped (fresh 2) _)) fun hcut => hcut.1 (by decide)
  · simp only [cs, List.cons_append, List.nil_append, List.cons_prefix_cons] at h
    obtain ⟨rfl, rfl, rfl, -⟩ := h
    exact fun hs => hs.2 (count_writeEscaped ((fresh 2).writeEscaped _) _)
  · simp only [cs, List.cons_append, List.cons_prefix_cons] at h
    simp at h

/-- A line break behind a fragment that ends in a lone backslash: LaTeX does not see the dollar that closes
math. -/
theorem dollars_not_paired :
    let cs : List Call := [.act (.escaped "$$a\\".toList), .act (.add 1), .act (.write .content ['x'])]
    let f := (fresh 2).calls cs
    (∀ c ∈ cs, c.Plain) ∧ f.text = "$a\\$\nx".toList ∧ f.mathOpen = false ∧ (tally f.text).dollars = 1 := by
  have hfirst : (fresh 2).writeEscaped "$$a\\".toList
      = (((fresh 2).flush.put .content []).toggleMath ['$']).put .content "a\\".toList := by
    show (fresh 2).flush.spans _ = _
    rw [spans_some rfl rfl, spans_never rfl rfl]
    rfl
  intro cs f
  have hf : f = (((fresh 2).writeEscaped "$$a\\".toList).add 1).write .content ['x'] := rfl
  rw [hf, hfirst]
  refine ⟨?_, by decide +kernel, by decide +kernel, by decide +kernel⟩
  intro c hc
  simp only [cs, List.mem_cons, List.not_mem_nil, or_false] at hc
  rcases hc with rfl | rfl | rfl
  · trivial
  · trivial
  · exact ⟨by decide, by decide⟩

end Formatter

end Texdown.Latex
