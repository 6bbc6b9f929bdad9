import Mathlib.Data.List.Infix
import Texdown.Proofs.Acts

/-!
# Fused line breaks over whole runs

A formatter forgets requests as it fuses them: it keeps the largest number of line breaks that was asked
for, the smallest limit and the level. What it writes can be told from the requests themselves. Before a
text stand as many line breaks as the largest request since the last flush asks for, the limits since then
and the ceiling permitting, and behind them the indentation, one level for each increase that no later
decrease has undone.

Results:
* `lt_deficit_iff`, `levelAfter_eq`: the level counts the increases that are not undone.
* `Tracks.step`: what a formatter keeps is what the steps behind it tell, and a flush writes the gap.
* `operateAll_waiting`: between two flushes, requests and indentation do not meet.
* `text_operateAll`: a run writes its texts, each flush the gap in front; the order of the requests between
  two flushes does not matter.
-/
namespace Texdown.Latex

/-! ## Operations -/

/-- What can be done to a formatter that does not escape. -/
inductive Operation where
  | add (n : Nat)
  | cap (n : Nat)
  | indent
  | dedent
  | write (t : Text)
  | writeLine (t : Text)
  /-- The outlet itself is asked for; the gap is written first. -/
  | outlet
  /-- Text is written to the outlet, past the formatter. -/
  | straight (t : Text)
  | finish
  deriving DecidableEq, Repr

/-- What an operation comes down to. -/
inductive Step where
  | add (n : Nat)
  | cap (n : Nat)
  | indent
  | dedent
  | flush
  | put (t : Text)
  deriving DecidableEq, Repr

namespace Operation

def steps : Operation → List Step
  | add n => [.add n]
  | cap n => [.cap n]
  | indent => [.indent]
  | dedent => [.dedent]
  | write t => [.flush, .put t]
  | writeLine t => [.add 1, .flush, .put t, .add 1]
  | outlet | finish => [.flush]
  | straight t => [.put t]

/-- Something is asked for. -/
def isRequest : Operation → Bool
  | add _ | cap _ => true
  | _ => false

def isIndentation : Operation → Bool
  | indent | dedent => true
  | _ => false

/-- Nothing is written. -/
def waits (op : Operation) : Bool := op.isRequest || op.isIndentation

end Operation

namespace Formatter

def operate (f : Formatter) : Operation → Formatter
  | .add n => f.add n
  | .cap n => f.cap n
  | .indent => f.indent
  | .dedent => f.dedent
  | .write t => f.write .content t
  | .writeLine t => f.writeLine .content t
  | .outlet => f.flush
  | .straight t => f.put .content t
  | .finish => f.finish

def operateAll (f : Formatter) (ops : List Operation) : Formatter := ops.foldl operate f

def step (f : Formatter) : Step → Formatter
  | .add n => f.add n
  | .cap n => f.cap n
  | .indent => f.indent
  | .dedent => f.dedent
  | .flush => f.flush
  | .put t => f.put .content t

theorem operate_eq (f : Formatter) (op : Operation) : f.operate op = op.steps.foldl step f := by
  cases op <;> rfl

theorem operateAll_eq (f : Formatter) (ops : List Operation) :
    f.operateAll ops = (ops.flatMap Operation.steps).foldl step f := by
  induction ops generalizing f with
  | nil => rfl
  | cons op ops ih =>
    rw [List.flatMap_cons, List.foldl_append, ← operate_eq]
    exact ih (f.operate op)

end Formatter

/-! ## What is written -/

namespace Step

/-- Whether an increase in front of some steps is undone by them: at some point they have decreased the
level more often than they have increased it. -/
def Undone (later : List Step) : Prop := ∃ front ∈ later.inits, front.count .indent < front.count .dedent

instance (later : List Step) : Decidable (Undone later) :=
  inferInstanceAs (Decidable (∃ front ∈ later.inits, _))

/-- The increases that no later decrease has undone. -/
def standing : List Step → Nat
  | [] => 0
  | .indent :: later => if Undone later then standing later else standing later + 1
  | _ :: later => standing later

/-! The steps behind a formatter are given with the last one first. -/

/-- The steps since the last flush. -/
def recent (past : List Step) : List Step := past.takeWhile (· ≠ .flush)

def added (past : List Step) : List Nat :=
  past.filterMap fun | .add n => some n | _ => none

def capped (past : List Step) : List Nat :=
  past.filterMap fun | .cap n => some n | _ => none

/-- The largest number of line breaks that was asked for since the last flush. -/
def asked (past : List Step) : Nat := (added (recent past)).max?.getD 0

/-- The smallest limit since the last flush, up to the ceiling. Nothing is allowed at the first flush. -/
def allowed (past : List Step) : Nat :=
  if .flush ∈ past then min ((capped (recent past)).min?.getD 4) 4 else 0

def breaks (past : List Step) : Nat := min (asked past) (allowed past)

/-- The line breaks and the indentation that a flush writes. -/
def gap (indentWidth : Int) (past : List Step) : Text :=
  List.replicate (breaks past) '\n' ++
    if 0 < breaks past then
      List.replicate (min 32 (indentWidth * standing past.reverse)).toNat ' '
    else []

/-- What a step writes. -/
def writes (indentWidth : Int) (past : List Step) : Step → Text
  | .flush => gap indentWidth past
  | .put t => t
  | _ => []

def written (indentWidth : Int) (past : List Step) : List Step → Text
  | [] => []
  | s :: rest => s.writes indentWidth past ++ written indentWidth (s :: past) rest

example : written 2 [] [.flush, .put ['a'], .indent, .cap 2, .add 3, .indent, .dedent, .flush, .put ['b']]
    = "a\n\n  b".toList := by decide

/-! ## The level -/

/-- The level behind some steps. -/
def levelAfter (l : Nat) (steps : List Step) : Nat :=
  steps.foldl (fun l s => match s with | .indent => l + 1 | .dedent => l - 1 | _ => l) l

/-- How many increases in front of some steps they undo at most. -/
def deficit : List Step → Nat
  | [] => 0
  | .indent :: later => deficit later - 1
  | .dedent :: later => deficit later + 1
  | _ :: later => deficit later

theorem exists_prefix_cons {P : List Step → Prop} {s : Step} {steps : List Step} :
    (∃ front, front <+: s :: steps ∧ P front) ↔ P [] ∨ ∃ front, front <+: steps ∧ P (s :: front) := by
  constructor
  · rintro ⟨front, hfront, h⟩
    rcases List.prefix_cons_iff.1 hfront with rfl | ⟨rest, rfl, hrest⟩
    · exact .inl h
    · exact .inr ⟨rest, hrest, h⟩
  · rintro (h | ⟨front, hfront, h⟩)
    · exact ⟨[], List.nil_prefix, h⟩
    · exact ⟨s :: front, List.cons_prefix_cons.2 ⟨rfl, hfront⟩, h⟩

theorem lt_deficit_iff {steps : List Step} {n : Nat} :
    n < deficit steps ↔ ∃ front, front <+: steps ∧ front.count .indent + n < front.count .dedent := by
  induction steps generalizing n with
  | nil => simp [deficit]
  | cons s steps ih =>
    rw [exists_prefix_cons]
    cases s with
    | indent =>
      have hmore : n < deficit steps - 1 ↔ n + 1 < deficit steps := by omega
      simp [deficit, hmore, ih, Nat.add_assoc, Nat.add_comm 1 n]
    | dedent =>
      cases n with
      | zero => exact iff_of_true (Nat.succ_pos _) (.inr ⟨[], List.nil_prefix, by simp⟩)
      | succ m =>
        have hless : m + 1 < deficit steps + 1 ↔ m < deficit steps := by omega
        simp [deficit, hless, ih, ← Nat.add_assoc]
    | add k | cap k | put t => simp [deficit, ih]
    | flush => simp [deficit, ih]

theorem undone_iff {later : List Step} : Undone later ↔ 0 < deficit later := by
  simp [Undone, lt_deficit_iff]

/-- Behind some steps the level is made up of their increases that stand, and of what their decreases have
left of the level in front. -/
theorem levelAfter_eq (l : Nat) (steps : List Step) :
    levelAfter l steps = standing steps + (l - deficit steps) := by
  induction steps generalizing l with
  | nil => simp [levelAfter, standing, deficit]
  | cons s steps ih =>
    cases s with
    | indent =>
      refine (ih (l + 1)).trans ?_
      simp only [standing, deficit, undone_iff]
      split <;> omega
    | dedent =>
      refine (ih (l - 1)).trans ?_
      simp only [standing, deficit]
      omega
    | add k | cap k | put t => exact ih l
    | flush => exact ih l

/-! ## Requests since the last flush -/

section Requests

variable (past : List Step)

theorem recent_flush : recent (.flush :: past) = [] := by simp [recent]

theorem recent_cons {s : Step} (hs : s ≠ .flush) : recent (s :: past) = s :: recent past := by
  simp [recent, hs]

@[simp] theorem asked_add (n : Nat) : asked (.add n :: past) = max (asked past) n := by
  rw [asked, asked, recent_cons past (by simp)]
  show (n :: added (recent past)).max?.getD 0 = _
  rw [List.max?_cons]
  cases (added (recent past)).max? with
  | none => exact (Nat.zero_max n).symm
  | some m => exact Nat.max_comm n m

@[simp] theorem allowed_cap (n : Nat) : allowed (.cap n :: past) = min (allowed past) n := by
  rw [allowed, allowed, recent_cons past (by simp)]
  show (if _ then min ((n :: capped (recent past)).min?.getD 4) 4 else 0) = _
  rw [List.min?_cons]
  by_cases hf : .flush ∈ past
  · cases (capped (recent past)).min? with
    | none => simp [hf, Nat.min_comm]
    | some m =>
      simp [hf]
      omega
  · simp [hf]

@[simp] theorem asked_flush : asked (.flush :: past) = 0 := by simp [asked, recent_flush, added]

@[simp] theorem allowed_flush : allowed (.flush :: past) = 4 := by simp [allowed, recent_flush, capped]

/-- What asks for nothing changes nothing that is asked for. -/
theorem asked_same {s : Step} (hs : s ≠ .flush) (ha : ∀ n, s ≠ .add n) : asked (s :: past) = asked past := by
  rw [asked, asked, recent_cons past hs, added, List.filterMap_cons_none]
  · rfl
  · cases s <;> simp_all

theorem allowed_same {s : Step} (hs : s ≠ .flush) (hc : ∀ n, s ≠ .cap n) :
    allowed (s :: past) = allowed past := by
  have hmem : .flush ∈ s :: past ↔ .flush ∈ past := by simp [hs.symm]
  rw [allowed, allowed, recent_cons past hs, capped, List.filterMap_cons_none]
  · simp only [hmem]
    rfl
  · cases s <;> simp_all

end Requests

end Step

namespace Formatter

open Step

/-! ## What a formatter keeps -/

/-- A formatter keeps what the steps behind it tell. -/
structure Tracks (indentWidth : Int) (past : List Step) (f : Formatter) : Prop where
  width : f.spacing.indentWidth = indentWidth
  level : f.spacing.level = levelAfter 0 past.reverse
  pending : f.spacing.pending = asked past
  limit : f.spacing.limit = allowed past
  outside : f.mathOpen = false

namespace Tracks

variable {indentWidth : Int} {past : List Step} {f : Formatter}

theorem start (indentWidth : Int) (mathAware : Bool) :
    Tracks indentWidth [] { spacing := { indentWidth }, mathAware } :=
  ⟨rfl, rfl, rfl, rfl, rfl⟩

theorem count (h : Tracks indentWidth past f) : f.spacing.count = breaks past := by
  have hceiling : allowed past ≤ 4 := by
    unfold allowed
    split <;> omega
  rw [Spacing.count, h.pending, h.limit, breaks, maxBreaks]
  omega

theorem gap (h : Tracks indentWidth past f) : f.spacing.gap = Step.gap indentWidth past := by
  have hlevel : f.spacing.level = standing past.reverse := by
    rw [h.level, levelAfter_eq, Nat.zero_sub, Nat.add_zero]
  rw [Spacing.gap, Step.gap, h.count, h.width, hlevel]
  by_cases hb : breaks past = 0
  · simp [hb]
  · simp [hb, Nat.pos_of_ne_zero hb, maxIndent]

/-- A step writes what it should, and what is kept is told by the steps with it. -/
theorem step (h : Tracks indentWidth past f) (s : Step) :
    (f.step s).text = f.text ++ s.writes indentWidth past ∧
      Tracks indentWidth (s :: past) (f.step s) := by
  have hlevel : levelAfter 0 (s :: past).reverse = levelAfter f.spacing.level [s] := by
    rw [h.level, List.reverse_cons, levelAfter, List.foldl_append]
    rfl
  have hnone : f.text = f.text ++ [] := (List.append_nil _).symm
  have hpending (hs : s ≠ .flush) (ha : ∀ n, s ≠ .add n) : f.spacing.pending = asked (s :: past) := by
    rw [asked_same past hs ha, h.pending]
  have hlimit (hs : s ≠ .flush) (hc : ∀ n, s ≠ .cap n) : f.spacing.limit = allowed (s :: past) := by
    rw [allowed_same past hs hc, h.limit]
  cases s with
  | add n =>
    refine ⟨hnone, h.width, hlevel.symm, ?_, hlimit nofun nofun, h.outside⟩
    show max f.spacing.pending n = _
    rw [h.pending, asked_add]
    omega
  | cap n =>
    refine ⟨hnone, h.width, hlevel.symm, hpending nofun nofun, ?_, h.outside⟩
    show min f.spacing.limit n = _
    rw [h.limit, allowed_cap]
    omega
  | indent => exact ⟨hnone, h.width, hlevel.symm, hpending nofun nofun, hlimit nofun nofun, h.outside⟩
  | dedent => exact ⟨hnone, h.width, hlevel.symm, hpending nofun nofun, hlimit nofun nofun, h.outside⟩
  | put t =>
    exact ⟨text_put f .content t, h.width, hlevel.symm, hpending nofun nofun, hlimit nofun nofun,
      h.outside⟩
  | flush =>
    have hspacing : (f.step .flush).spacing = f.spacing.flushed := f.flush_spacing
    have hclosed : f.closed = f.text := by
      rw [Formatter.closed, h.outside]
      exact List.append_nil _
    refine ⟨?_, ?_, ?_, ?_, ?_, ?_⟩
    · show f.flush.text = _
      rw [flush_text, hclosed, ite_self, h.gap]
      rfl
    · rw [hspacing]
      exact h.width
    · rw [hspacing]
      exact hlevel.symm
    · rw [hspacing, asked_flush]
      rfl
    · rw [hspacing, allowed_flush]
      rfl
    · show f.flush.mathOpen = false
      rw [flush_mathOpen, h.outside, ite_self]

/-- So it is along a run. -/
theorem run (h : Tracks indentWidth past f) (steps : List Step) :
    (steps.foldl Formatter.step f).text = f.text ++ written indentWidth past steps := by
  induction steps generalizing past f with
  | nil => exact (List.append_nil _).symm
  | cons s steps ih =>
    obtain ⟨htext, hnext⟩ := h.step s
    rw [List.foldl_cons, ih hnext, htext, List.append_assoc]
    rfl

end Tracks

/-! ## Between two flushes -/

/-- A request may be made before or behind any other operation that does not write. -/
theorem operate_comm (f : Formatter) {a b : Operation} (ha : a.isRequest = true) (hb : b.waits = true) :
    (f.operate a).operate b = (f.operate b).operate a := by
  cases a with
  | add m =>
    cases b with
    | add n => simp only [operate, Formatter.add, Spacing.add, Int.max_assoc, Int.max_comm (m : Int) n]
    | cap n | indent | dedent => rfl
    | write | writeLine | outlet | straight | finish => cases hb
  | cap m =>
    cases b with
    | cap n => simp only [operate, Formatter.cap, Spacing.cap, Int.min_assoc, Int.min_comm (m : Int) n]
    | add n | indent | dedent => rfl
    | write | writeLine | outlet | straight | finish => cases hb
  | indent | dedent | write | writeLine | outlet | straight | finish => cases ha

theorem operateAll_comm (f : Formatter) {a : Operation} {ops : List Operation} (ha : a.isRequest = true)
    (h : ∀ op ∈ ops, op.waits = true) :
    (f.operate a).operateAll ops = (f.operateAll ops).operate a := by
  induction ops generalizing f with
  | nil => rfl
  | cons b ops ih =>
    obtain ⟨hb, hops⟩ := List.forall_mem_cons.1 h
    show ((f.operate a).operate b).operateAll ops = ((f.operate b).operateAll ops).operate a
    rw [operate_comm f ha hb, ih (f.operate b) hops]

/-- The requests may as well be made behind the changes of the level. -/
theorem operateAll_waiting (f : Formatter) {ops : List Operation} (h : ∀ op ∈ ops, op.waits = true) :
    f.operateAll ops =
      (f.operateAll (ops.filter Operation.isIndentation)).operateAll (ops.filter Operation.isRequest) := by
  induction ops generalizing f with
  | nil => rfl
  | cons a ops ih =>
    obtain ⟨ha, hops⟩ := List.forall_mem_cons.1 h
    refine (ih (f.operate a) hops).trans ?_
    rcases (Bool.or_eq_true _ _).mp ha with ha | ha
    · have hindent : a.isIndentation = false := by cases a <;> first | rfl | cases ha
      have hfilter : ∀ op ∈ ops.filter Operation.isIndentation, op.waits = true :=
        fun op hop => hops op (List.mem_filter.1 hop).1
      rw [List.filter_cons_of_pos ha, List.filter_cons_of_neg (by simp [hindent]),
        operateAll_comm f ha hfilter]
      rfl
    · have hrequest : a.isRequest = false := by cases a <;> first | rfl | cases ha
      rw [List.filter_cons_of_pos ha, List.filter_cons_of_neg (by simp [hrequest])]
      rfl

theorem operateAll_append (f : Formatter) (as bs : List Operation) :
    f.operateAll (as ++ bs) = (f.operateAll as).operateAll bs := List.foldl_append

/-- The order of the requests does not matter, nor where the level changes between them. -/
theorem operateAll_perm (f : Formatter) {as bs : List Operation} (hp : as.Perm bs)
    (h : ∀ op ∈ as, op.waits = true)
    (hindent : as.filter Operation.isIndentation = bs.filter Operation.isIndentation) :
    f.operateAll as = f.operateAll bs := by
  have hbs : ∀ op ∈ bs, op.waits = true := fun op hop => h op (hp.mem_iff.2 hop)
  rw [operateAll_waiting f h, operateAll_waiting f hbs, hindent]
  refine (hp.filter Operation.isRequest).foldl_eq' (fun a ha b hb g => ?_) _
  exact operate_comm g (List.mem_filter.1 ha).2 (h b (List.mem_filter.1 hb).1)

/-- A run writes its texts in order, and each flush the gap in front of them that the operations since the
last flush ask for. Operations between two flushes may change places, as long as the level changes in the
same order. -/
theorem text_operateAll (indentWidth : Int) (mathAware : Bool) (ops : List Operation) :
    let f : Formatter := { spacing := { indentWidth }, mathAware }
    (f.operateAll ops).text = written indentWidth [] (ops.flatMap Operation.steps) ∧
      ∀ front as bs back, ops = front ++ as ++ back →
        (∀ op ∈ as, op.waits = true) → as.Perm bs → as.filter Operation.isIndentation =
          bs.filter Operation.isIndentation →
        f.operateAll (front ++ bs ++ back) = f.operateAll ops := by
  intro f
  constructor
  · rw [operateAll_eq, (Tracks.start indentWidth mathAware).run]
    rfl
  · rintro front as bs back rfl hwaits hp hindent
    simp only [operateAll_append]
    rw [operateAll_perm (f.operateAll front) hp hwaits hindent]

/-- A limit that comes first holds all the same, and a line of its own asks for a break behind it. -/
theorem text_operateAll_line :
    let f : Formatter := {}
    let back : List Operation := [.writeLine ['b'], .outlet, .straight ['c']]
    let ops := [.write ['a'], .add 3, .indent, .cap 2] ++ back
    (f.operateAll ops).text = "a\n\n  b\n  c".toList ∧
      f.operateAll ([.write ['a'], .cap 2, .add 3, .indent] ++ back) = f.operateAll ops := by
  intro f back ops
  obtain ⟨htext, hmove⟩ := text_operateAll 2 true ops
  refine ⟨htext.trans (by decide), ?_⟩
  exact hmove [.write ['a']] [.add 3, .indent, .cap 2] [.cap 2, .add 3, .indent] back rfl (by decide)
    (by decide) rfl

end Formatter
end Texdown.Latex
