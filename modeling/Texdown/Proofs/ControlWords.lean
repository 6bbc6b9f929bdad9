import Texdown.Proofs.NextText

/-!
# Where control words end

A control word is a backslash and letters, and it goes on over every letter behind it. The renderer ends
its words with a brace, a bracket or a space, but for the rule, whose last word is bare. What comes behind
a rule has to end it: a line break, or anything but a letter.

Output is read from left to right with what stands in front of it (`Tail`). A letter that the document
says behind a word strays into it (`strays`). An event leaves the word of a rule bare if it is mute, and
otherwise says what comes behind it.

Results:
* `strays_iff`: letters stray exactly where a word of the renderer runs into them.
* `utters_transcribe`, `utters_sayEscaped`: escaped text begins as it reads, and leaves no word of the
  renderer bare.
* `acts_settle`: an event that is neither mute nor a text nor a rule ends the word in front of it.
* `handsOn_step`: what an event writes behind a word, and what it leaves to the next.
* `strays_glyphsOf`, `runsInto_iff`: along a run, letters stray exactly if the text that comes next behind
  a rule begins with one.
-/
namespace Texdown.Latex

namespace Glyph

/-- A backslash of the renderer. -/
def isOwnSlash (g : Glyph) : Bool := g.voice.isOwn && g.char == '\\'

/-- A letter of the renderer. -/
def isOwnLetter (g : Glyph) : Bool := g.voice.isOwn && g.char.isAlpha

/-- A letter that the document says. -/
def isSaidLetter (g : Glyph) : Bool := !g.voice.isOwn && g.char.isAlpha

theorem isOwnSlash_of_isOwnLetter {g : Glyph} (h : g.isOwnLetter = true) : g.isOwnSlash = false := by
  have hc : g.char ≠ '\\' := by
    intro hc
    simp [isOwnLetter, hc] at h
  simp [isOwnSlash, hc]

end Glyph

/-- A backslash and letters, all of them the renderer's. -/
def IsControlWord (w : Glyphs) : Prop :=
  ∃ slash letters, w = slash :: letters ∧ slash.isOwnSlash = true ∧ letters ≠ [] ∧
    letters.all Glyph.isOwnLetter = true

/-- A control word of the renderer is directly followed by a letter that the document says. -/
def RunsInto (gs : Glyphs) : Prop :=
  ∃ pre w g post, gs = pre ++ w ++ g :: post ∧ IsControlWord w ∧ g.isSaidLetter = true

/-! ## Reading output -/

/-- What stands in front: a backslash of the renderer, a control word of the renderer, or neither. -/
inductive Tail where
  | other
  | slash
  | word
  deriving DecidableEq, Repr

namespace Tail

def next (s : Tail) (g : Glyph) : Tail :=
  if g.isOwnSlash then slash
  else if g.isOwnLetter ∧ s ≠ other then word
  else other

def after (s : Tail) (gs : Glyphs) : Tail := gs.foldl next s

@[simp] theorem after_nil (s : Tail) : s.after [] = s := rfl

@[simp] theorem after_cons (s : Tail) (g : Glyph) (gs : Glyphs) :
    s.after (g :: gs) = (s.next g).after gs := rfl

theorem after_append (s : Tail) (as bs : Glyphs) : s.after (as ++ bs) = (s.after as).after bs :=
  List.foldl_append

theorem next_eq_slash {s : Tail} {g : Glyph} : s.next g = slash ↔ g.isOwnSlash = true := by
  unfold next
  split
  · next h => simp [h]
  · next h => split <;> simp [h]

theorem next_eq_word {s : Tail} {g : Glyph} :
    s.next g = word ↔ g.isOwnLetter = true ∧ s ≠ other := by
  unfold next
  split
  · next h =>
    refine ⟨fun h' => (by cases h'), fun h' => ?_⟩
    rw [Glyph.isOwnSlash_of_isOwnLetter h'.1] at h
    cases h
  · split
    · next h => simp [h]
    · next h => simp [h]

/-- Behind something else than a letter, there is no word. -/
theorem next_ne_word {g : Glyph} (h : g.char.isAlpha = false) (s : Tail) : s.next g ≠ word := by
  rw [Ne, next_eq_word]
  simp [Glyph.isOwnLetter, h]

theorem next_of_said {g : Glyph} (h : g.voice.isOwn = false) (s : Tail) : s.next g = other := by
  simp [next, Glyph.isOwnSlash, Glyph.isOwnLetter, h]

/-- What stands in front is what the output ends in. -/
theorem after_eq_slash {gs : Glyphs} :
    after .other gs = slash ↔ ∃ pre g, gs = pre ++ [g] ∧ g.isOwnSlash = true := by
  rcases List.eq_nil_or_concat gs with rfl | ⟨gs, g, rfl⟩
  · simp
  · rw [List.concat_eq_append, after_append, after_cons, after_nil, next_eq_slash]
    constructor
    · exact fun h => ⟨gs, g, rfl, h⟩
    · rintro ⟨pre, g', h, hg'⟩
      obtain ⟨-, hg⟩ := List.append_inj' h rfl
      cases hg
      exact hg'

theorem after_eq_word {gs : Glyphs} :
    after .other gs = word ↔ ∃ pre w, gs = pre ++ w ∧ IsControlWord w := by
  induction gs using List.reverseRecOn with
  | nil =>
    refine ⟨fun h => (by cases h), ?_⟩
    rintro ⟨pre, w, h, slash, letters, rfl, -⟩
    simp at h
  | append_singleton gs g ih =>
    rw [after_append, after_cons, after_nil, next_eq_word]
    constructor
    · -- The letter begins a word behind its backslash, or goes on with one.
      rintro ⟨hg, hs⟩
      cases hfront : after .other gs with
      | other => exact absurd hfront hs
      | slash =>
        obtain ⟨pre, slash, rfl, hslash⟩ := after_eq_slash.1 hfront
        exact ⟨pre, [slash, g], by simp, slash, [g], rfl, hslash, by simp, by simpa using hg⟩
      | word =>
        obtain ⟨pre, w, rfl, slash, letters, rfl, hslash, -, hall⟩ := ih.1 hfront
        exact ⟨pre, slash :: letters ++ [g], by simp, slash, letters ++ [g], rfl, hslash, by simp,
          by simpa [hg] using hall⟩
    · rintro ⟨pre, w, h, slash, letters, rfl, hslash, hne, hall⟩
      obtain ⟨letters, l, rfl⟩ := (List.eq_nil_or_concat letters).resolve_left hne
      rw [List.concat_eq_append, ← List.cons_append, ← List.append_assoc] at h
      obtain ⟨rfl, hg⟩ := List.append_inj' h rfl
      cases hg
      rw [List.concat_eq_append, List.all_append, Bool.and_eq_true] at hall
      refine ⟨by simpa using hall.2, ?_⟩
      cases letters with
      | nil =>
        rw [after_eq_slash.2 ⟨pre, slash, rfl, hslash⟩]
        simp
      | cons l' letters =>
        rw [ih.2 ⟨pre, _, rfl, slash, l' :: letters, rfl, hslash, by simp, hall.1⟩]
        simp

end Tail

/-- A letter of the document comes directly behind a word of the renderer. -/
def strays : Tail → Glyphs → Bool
  | _, [] => false
  | s, g :: gs => (s == .word && g.isSaidLetter) || strays (s.next g) gs

theorem strays_append (s : Tail) (as bs : Glyphs) :
    strays s (as ++ bs) = (strays s as || strays (s.after as) bs) := by
  induction as generalizing s with
  | nil => rfl
  | cons g as ih => rw [List.cons_append, strays, ih, strays, Tail.after_cons, Bool.or_assoc]

theorem exists_of_strays {s : Tail} {gs : Glyphs} : strays s gs = true ↔
    ∃ pre g post, gs = pre ++ g :: post ∧ s.after pre = .word ∧ g.isSaidLetter = true := by
  constructor
  · intro h
    induction gs generalizing s with
    | nil => cases h
    | cons g gs ih =>
      rw [strays, Bool.or_eq_true, Bool.and_eq_true, beq_iff_eq] at h
      rcases h with ⟨hs, hg⟩ | h
      · exact ⟨[], g, gs, rfl, hs, hg⟩
      · obtain ⟨pre, g', post, rfl, hpre, hg'⟩ := ih h
        exact ⟨g :: pre, g', post, rfl, hpre, hg'⟩
  · rintro ⟨pre, g, post, rfl, hpre, hg⟩
    rw [strays_append, strays, hpre, hg]
    simp

/-- Letters stray exactly where a word of the renderer runs into them. -/
theorem strays_iff (gs : Glyphs) : strays .other gs = true ↔ RunsInto gs := by
  rw [exists_of_strays]
  constructor
  · rintro ⟨pre, g, post, rfl, hpre, hg⟩
    obtain ⟨pre, w, rfl, hw⟩ := Tail.after_eq_word.1 hpre
    exact ⟨pre, w, g, post, rfl, hw, hg⟩
  · rintro ⟨pre, w, g, post, rfl, hw, hg⟩
    exact ⟨pre ++ w, g, post, rfl, Tail.after_eq_word.2 ⟨pre, w, rfl, hw⟩, hg⟩

/-! ## What is written -/

/-- Output that no letter strays in, and that does not end in a word, whatever stands in front of it. -/
def Shut (gs : Glyphs) : Prop := ∀ s : Tail, strays s gs = false ∧ s.after gs ≠ .word

/-- Output that says a text: its first letter is that of the text, and no other one strays. -/
structure Utters (t : Text) (gs : Glyphs) : Prop where
  nil : t = [] → gs = []
  first : ∀ s : Tail, strays s gs = (s == .word && t.head?.any Char.isAlpha)
  behind : t ≠ [] → ∀ s : Tail, s.after gs ≠ .word

/-- A text behind which no word of the renderer is left. -/
def endsWord (t : Text) : Bool := t.getLast?.any fun c => !c.isAlpha

theorem endsWord_concat (t : Text) {c : Char} (h : c.isAlpha = false) : endsWord (t ++ [c]) = true := by
  simp [endsWord, h]

theorem endsWord_append (t : Text) {u : Text} (h : endsWord u = true) : endsWord (t ++ u) = true := by
  unfold endsWord at h ⊢
  rw [List.getLast?_append]
  cases hu : u.getLast? with
  | none => rw [hu] at h; cases h
  | some c => rwa [hu] at h

theorem endsWord_braced (t : Text) : endsWord (braced t) = true :=
  endsWord_concat ('\x7b' :: t) (by decide)

theorem endsWord_command (name argument : Text) : endsWord (command name argument) = true :=
  endsWord_append ('\\' :: name) (endsWord_braced argument)

section own

variable {v : Voice} (hv : v.isOwn = true)

include hv

/-- The renderer alone writes no letter of the document. -/
theorem strays_own (t : Text) (s : Tail) : strays s (v.say t) = false := by
  induction t generalizing s with
  | nil => rfl
  | cons c t ih =>
    have hsaid : Glyph.isSaidLetter ⟨c, v⟩ = false := by simp [Glyph.isSaidLetter, hv]
    show (s == .word && Glyph.isSaidLetter ⟨c, v⟩ || strays _ (v.say t)) = false
    rw [hsaid, Bool.and_false, Bool.false_or, ih]

omit hv in
theorem after_endsWord {t : Text} (h : endsWord t = true) (s : Tail) : s.after (v.say t) ≠ .word := by
  rcases List.eq_nil_or_concat t with rfl | ⟨t, c, rfl⟩
  · cases h
  · have hsay : v.say (t.concat c) = v.say t ++ [⟨c, v⟩] := by simp [Voice.say]
    rw [hsay, Tail.after_append]
    exact Tail.next_ne_word (by simpa [endsWord] using h) _

theorem shut_say {t : Text} (h : endsWord t = true) : Shut (v.say t) := fun s =>
  ⟨strays_own hv t s, after_endsWord h s⟩

/-- What the renderer writes in front does no harm. -/
theorem Shut.own_append {gs : Glyphs} (h : Shut gs) (t : Text) : Shut (v.say t ++ gs) := fun s => by
  rw [strays_append, strays_own hv, Tail.after_append]
  exact h _

end own

theorem Shut.append {as bs : Glyphs} (ha : ∀ s, strays s as = false) (hb : Shut bs) :
    Shut (as ++ bs) := fun s => by
  rw [strays_append, ha, Tail.after_append]
  exact hb _

/-! ### Texts -/

theorem utters_nil : Utters [] [] := ⟨fun _ => rfl, fun s => by simp [strays], fun h => absurd rfl h⟩

theorem after_said {v : Voice} (hv : v.isOwn = false) {t : Text} (ht : t ≠ []) (s : Tail) :
    s.after (v.say t) = .other := by
  induction t generalizing s with
  | nil => exact absurd rfl ht
  | cons c t ih =>
    show ((s.next ⟨c, v⟩).after (v.say t)) = .other
    rw [Tail.next_of_said hv]
    cases t with
    | nil => rfl
    | cons d t => exact ih (by simp) .other

/-- What is copied of a text says it. -/
theorem utters_say {v : Voice} (hv : v.isOwn = false) (t : Text) : Utters t (v.say t) := by
  refine ⟨fun h => by rw [h]; rfl, fun s => ?_, fun h s => by rw [after_said hv h]; simp⟩
  induction t generalizing s with
  | nil => simp [strays, Voice.say]
  | cons c t ih =>
    show (s == .word && Glyph.isSaidLetter ⟨c, v⟩ || strays (s.next ⟨c, v⟩) (v.say t)) = _
    rw [Tail.next_of_said hv, ih]
    simp [Glyph.isSaidLetter, hv]

/-- The rest of a text comes behind its first part. -/
theorem Utters.append {t t' : Text} {as bs : Glyphs} (ht : t ≠ []) (ha : Utters t as)
    (hb : Utters t' bs) : Utters t (as ++ bs) := by
  refine ⟨fun h => absurd h ht, fun s => ?_, fun _ s => ?_⟩
  · rw [strays_append, ha.first, hb.first, beq_false_of_ne (ha.behind ht s), Bool.false_and,
      Bool.or_false]
  · rw [Tail.after_append]
    by_cases h : t' = []
    · rw [hb.nil h]
      exact ha.behind ht s
    · exact hb.behind h _

/-- A move copies what it reads, or what it writes instead has no letter where it begins and ends. -/
def Substitutes (w t t' : Text) : Prop :=
  w ≠ [] ∧ t ≠ [] ∧ (w ++ t' = t ∨ t.head?.any Char.isAlpha = false ∧ endsWord w = true)

theorem utters_move {v : Voice} (hv : v.isOwn = false) {w t t' : Text} (h : Substitutes w t t')
    {gs : Glyphs} (hgs : Utters t' gs) : Utters t (sayMove v w t t' ++ gs) := by
  obtain ⟨hw, ht, hmove⟩ := h
  refine Utters.append ht ⟨fun h => absurd h ht, fun s => ?_, fun _ s => ?_⟩ hgs
  · unfold sayMove
    split
    · next hcopy =>
      obtain ⟨c, w, rfl⟩ := List.exists_cons_of_ne_nil hw
      rw [(utters_say hv _).first, ← hcopy]
      rfl
    · next hcopy =>
      rw [strays_own rfl, (hmove.resolve_left hcopy).1, Bool.and_false]
  · unfold sayMove
    split
    · exact (utters_say hv w).behind hw s
    · next hcopy => exact after_endsWord (hmove.resolve_left hcopy).2 s

theorem substitutes_of {c : Char} {r w t' : Text} (hc : c.isAlpha = false) (hw : endsWord w = true) :
    Substitutes w (c :: r) t' := by
  refine ⟨?_, by simp, .inr ⟨hc, hw⟩⟩
  rintro rfl
  cases hw

theorem substitutes_copy {w t' : Text} (hw : w ≠ []) : Substitutes w (w ++ t') t' :=
  ⟨hw, by simp [hw], .inl rfl⟩

theorem substitutes_token (c : Char) (r : Text) :
    Substitutes (token c r).1 (c :: r) (token c r).2 := by
  unfold token
  split
  all_goals dsimp only
  · exact substitutes_of (by decide) (by decide)
  · exact substitutes_of (by decide) (by decide)
  · unfold escapeChar
    split
    all_goals first
      | exact substitutes_copy (w := [_]) (by simp)
      | exact substitutes_of (by decide) (by decide)

theorem substitutes_step {m m' : Reading} {w t t' : Text} (h : step m t = some (w, m', t')) :
    Substitutes w t t' := by
  have htext : moveInText t = some (w, m', t') → Substitutes w t t' := fun h => by
    unfold moveInText at h
    split at h
    · cases h
      exact substitutes_of (by decide) (by decide)
    · cases h
      exact substitutes_token _ _
    · cases h
  have hmath : moveInMath t = some (w, m', t') → Substitutes w t t' := fun h => by
    unfold moveInMath at h
    split at h
    all_goals cases h
    · exact substitutes_copy (w := ['\\', _]) (by simp)
    · exact substitutes_of (by decide) (by decide)
    · exact substitutes_of (by decide) (by decide)
    · exact substitutes_of (by decide) (by decide)
    · exact substitutes_of (by decide) (by decide)
    · exact substitutes_copy (w := [_]) (by simp)
  unfold step at h
  split at h
  · exact htext h
  · exact hmath h
  · cases h
    exact substitutes_of (by decide) (by decide)
  · cases h
    exact substitutes_of (by decide) (by decide)
  · exact hmath h

theorem utters_sayEscaped {v : Voice} (hv : v.isOwn = false) (t : Text) : Utters t (sayEscaped v t) := by
  fun_induction sayEscaped v t with
  | case1 => exact utters_nil
  | case2 c r ih => exact utters_move hv (substitutes_token c r) ih

theorem utters_transcribe (m : Reading) (t : Text) : Utters t (transcribe m t) := by
  fun_induction transcribe m t with
  | case1 m t h =>
    rw [eq_nil_of_step h]
    exact utters_nil
  | case2 m t w m' t' h ih => exact utters_move rfl (substitutes_step h) ih

theorem shut_sayTypewriter {v : Voice} (hv : v.isOwn = false) (t : Text) :
    Shut (sayTypewriter v t) := by
  have hopen : Shut (Voice.own.say "\\texttt\x7b".toList) := shut_say rfl (by decide)
  have hclose : Shut (Voice.own.say ['\x7d']) := shut_say rfl (by decide)
  refine Shut.append (fun s => ?_) hclose
  rw [strays_append, (hopen s).1, Bool.false_or, (utters_sayEscaped hv t).first,
    beq_false_of_ne (hopen s).2, Bool.false_and]

theorem shut_sayCode (math : Bool) (t : Text) : Shut (sayCode math t) := by
  cases math with
  | true =>
    have hdollar : Shut (Voice.own.say ['$']) := shut_say rfl (by decide)
    refine Shut.append (fun s => ?_) hdollar
    rw [strays_append, (hdollar s).1, Bool.false_or, (utters_say rfl t).first,
      beq_false_of_ne (hdollar s).2, Bool.false_and]
  | false => exact shut_sayTypewriter rfl t

/-! ## Acts -/

/-- A word of the renderer is in front, and no line break will come behind it. -/
def Bare (s : Tail) (f : Formatter) : Prop := s = .word ∧ f.breaks = []

theorem isAlpha_of_mem_breaks {f : Formatter} {c : Char} (h : c ∈ f.breaks) : c.isAlpha = false := by
  rcases List.mem_append.1 h with h | h
  · split at h
    · cases List.mem_singleton.1 h
      decide
    · cases h
  · rcases blank_gap _ c h with rfl | rfl <;> decide

theorem after_breaks (s : Tail) (f : Formatter) :
    s.after (Voice.own.say f.breaks) = .word ↔ Bare s f := by
  unfold Bare
  rcases List.eq_nil_or_concat f.breaks with h | ⟨t, c, h⟩
  · rw [h]
    simp [Voice.say]
  · have hc : c.isAlpha = false := isAlpha_of_mem_breaks (f := f) (by simp [h])
    have hends : endsWord f.breaks = true := by
      rw [h, List.concat_eq_append]
      exact endsWord_concat t hc
    exact ⟨fun h' => absurd h' (after_endsWord hends s), fun h' => by simp [h] at h'⟩

/-- Behind what was just written, no line break is asked for. -/
theorem breaks_of_flushed {f : Formatter} {s : Spacing} (h : f.spacing = s.flushed) : f.breaks = [] := by
  have hcount : f.spacing.count = 0 := by
    rw [h]
    rfl
  simp [Formatter.breaks, Spacing.gap, hcount]

/-- A line break that is asked for is written, unless it is forbidden. -/
theorem breaks_ne_nil {f : Formatter} (hp : 1 ≤ f.spacing.pending) (hl : 1 ≤ f.spacing.limit) :
    f.breaks ≠ [] := by
  have hcount : 1 ≤ f.spacing.count := by
    simp only [Spacing.count, maxBreaks]
    omega
  unfold Formatter.breaks Spacing.gap
  rw [if_neg (by omega : ¬ f.spacing.count = 0)]
  intro h
  have hnone := (List.append_eq_nil_iff.1 (List.append_eq_nil_iff.1 h).2).1
  rw [List.replicate_eq_nil_iff] at hnone
  omega

/-- A text behind a word: a letter it begins with strays, and nothing of the word is left. -/
theorem strays_uttered {f g : Formatter} {t : Text} {gs : Glyphs} (h : Utters t gs)
    (hg : g.spacing = f.spacing.flushed) (s : Tail) :
    (strays s (Voice.own.say f.breaks ++ gs) = true ↔ Bare s f ∧ t.head?.any Char.isAlpha = true) ∧
      (Bare (s.after (Voice.own.say f.breaks ++ gs)) g ↔ Bare s f ∧ t = []) := by
  rw [strays_append, strays_own rfl, Bool.false_or, h.first, Bool.and_eq_true, beq_iff_eq,
    after_breaks, Tail.after_append]
  refine ⟨Iff.rfl, ?_⟩
  have hbare : ∀ s, Bare s g ↔ s = .word := fun s => by simp [Bare, breaks_of_flushed hg]
  rw [hbare]
  by_cases ht : t = []
  · rw [h.nil ht, Tail.after_nil, after_breaks]
    simp [ht]
  · simp [ht, h.behind ht]

/-- Every piece that the act writes ends the word in front of it, and none is left behind it. -/
def Act.Ends (w : Text → Glyphs) : Act → Prop
  | .write _ t => Shut (w t)
  | .escaped _ => False
  | _ => True

theorem shut_sayActs {w : Text → Glyphs} {acts : List Act} (h : ∀ a ∈ acts, a.Ends w)
    (hany : acts.any Act.writes = true) (f : Formatter) : Shut (f.sayActs w acts) := by
  induction acts generalizing f with
  | nil => cases hany
  | cons a acts ih =>
    rw [List.forall_mem_cons] at h
    have hact : a.writes = true → Shut (f.sayAct w a) := fun ha => by
      cases a with
      | write origin t => exact Shut.own_append rfl h.1 f.breaks
      | escaped t => exact h.1.elim
      | _ => cases ha
    have hsilent : a.writes = false → f.sayAct w a = [] := fun ha => by
      cases a with
      | write | escaped => cases ha
      | _ => rfl
    rw [Formatter.sayActs]
    cases hrest : acts.any Act.writes with
    | true =>
      refine Shut.append (fun s => ?_) (ih h.2 hrest _)
      cases ha : a.writes with
      | true => exact (hact ha s).1
      | false => rw [hsilent ha]; rfl
    | false =>
      rw [Formatter.sayActs_silent w _ hrest, List.append_nil]
      rw [List.any_cons, hrest, Bool.or_false] at hany
      exact hact hany

/-! ## Events -/

theorem ends_own (origin : Origin) {t : Text} (h : endsWord t = true) :
    (Act.write origin t).Ends Voice.own.say := shut_say rfl h

theorem ends_line (origin : Origin) {t : Text} (h : endsWord t = true) :
    ∀ a ∈ Act.line origin t, a.Ends Voice.own.say := by
  simp only [Act.line, List.forall_mem_cons]
  exact ⟨trivial, ends_own origin h, trivial, fun _ ha => by cases ha⟩

theorem ends_notes (w : Text → Glyphs) (ns : List Notice) : ∀ a ∈ ns.map Act.note, a.Ends w := by
  intro a ha
  obtain ⟨n, -, rfl⟩ := List.mem_map.1 ha
  trivial

theorem endsWord_headingCommand (level : Int) : endsWord (headingCommand level).1 = true := by
  unfold headingCommand
  repeat' split
  all_goals decide

theorem endsWord_commandWith (name option argument : Text) :
    endsWord (commandWith name option argument) = true :=
  endsWord_append ('\\' :: name ++ '[' :: option) (endsWord_append [']'] (endsWord_braced argument))

theorem endsWord_figure (width url : Text) (path : Option Text) :
    endsWord (figure width url path) = true := by
  cases path with
  | some path => exact endsWord_commandWith _ _ path
  | none => exact endsWord_append ['%'] (endsWord_commandWith _ _ url)

namespace Rendering

open Math (Disguised prepare disguise)

variable {settings : Settings} {resolve : Resolver} {r r' : Rendering} {st : List Tag}
  {last : Option Event}

theorem ends_openActs (depth : Nat) (t : Tag) : ∀ a ∈ openActs depth t, a.Ends Voice.own.say := by
  have hline : ∀ name argument, ∀ a ∈ Act.line .command (command name argument), a.Ends Voice.own.say :=
    fun name argument => ends_line .command (endsWord_command name argument)
  have hone : ∀ {u : Text} (origin : Origin), endsWord u = true →
      ∀ a ∈ [Act.write origin u], a.Ends Voice.own.say := fun origin h a ha => by
    cases List.mem_singleton.1 ha
    exact ends_own origin h
  cases t with
  | heading level =>
    simp only [openActs, List.forall_mem_cons]
    exact ⟨trivial, ends_own .heading (endsWord_headingCommand level), fun _ ha => by cases ha⟩
  | blockQuote => exact hline _ _
  | codeBlock language =>
    simp only [openActs, List.forall_mem_append]
    exact ⟨hline _ _, by simp [Act.Ends]⟩
  | list start =>
    cases start with
    | none =>
      simp only [openActs, List.forall_mem_append]
      exact ⟨hline _ _, by simp [Act.Ends]⟩
    | some n =>
      simp only [openActs, List.forall_mem_append, List.forall_mem_cons]
      refine ⟨hline _ _, trivial, ?_, by simp [Act.Ends]⟩
      unfold setCounter?
      split
      · simp
      · cases counterNumerals[depth]? with
        | none => simp
        | some numeral => exact ends_line .command (endsWord_append _ (endsWord_braced _))
  | item =>
    simp only [openActs, List.forall_mem_cons]
    exact ⟨trivial, trivial, ends_own .command (by decide), trivial, trivial, fun _ ha => by cases ha⟩
  | link target =>
    simp only [openActs]
    split
    · exact hone .opening (endsWord_concat _ (by decide))
    · exact ends_notes _ [_]
  | emphasis | strong | strikethrough => exact hone .opening (by decide)
  | paragraph => simp [openActs, Act.Ends]
  | footnoteDefinition | table => exact ends_notes _ [_]
  | tableHead | tableRow | tableCell | image => exact ends_notes _ []

theorem ends_closeActs (lineOpen : Bool) (links : List Bool) (t : Tag) :
    ∀ a ∈ closeActs lineOpen links t, a.Ends Voice.own.say := by
  have hline : ∀ name argument, ∀ a ∈ Act.line .command (command name argument), a.Ends Voice.own.say :=
    fun name argument => ends_line .command (endsWord_command name argument)
  have hbrace : ∀ a ∈ [Act.write .closing ['\x7d']], a.Ends Voice.own.say := fun a ha => by
    cases List.mem_singleton.1 ha
    exact ends_own .closing (by decide)
  cases t with
  | heading level =>
    simp only [closeActs, List.forall_mem_cons]
    exact ⟨ends_own .closing (by decide), trivial, trivial, fun _ ha => by cases ha⟩
  | codeBlock language =>
    simp only [closeActs, List.forall_mem_append, List.forall_mem_cons]
    refine ⟨?_, ends_own .command (endsWord_command _ _), trivial, fun _ ha => by cases ha⟩
    split
    · intro a ha
      cases List.mem_singleton.1 ha
      exact ends_own .content (by decide)
    · simp
  | list start =>
    cases start <;>
      · simp only [closeActs, List.forall_mem_cons]
        exact ⟨trivial, trivial, hline _ _⟩
  | link target =>
    simp only [closeActs]
    split
    · exact hbrace
    · simp
  | blockQuote => exact hline _ _
  | emphasis | strong | strikethrough => exact hbrace
  | paragraph => simp [closeActs, Act.Ends]
  | item | footnoteDefinition | table | tableHead | tableRow | tableCell | image =>
    exact ends_notes _ []

/-- An event that is none of these writes something that ends a word, or asks for a line break. -/
theorem acts_settle (hl : Linked r st) (h0 : skipping st = 0) {e : Event} (he : e.fits st = true)
    (hi : r.startsImage? e = none) (hmute : e.isMute = false) (htext : e.isText = false)
    (hrule : e ≠ .rule) (span : Span) :
    (∃ n, 1 ≤ n ∧ r.acts settings e span = [.add n]) ∨
      (r.acts settings e span).any Act.writes = true ∧
        ∀ a ∈ r.acts settings e span, a.Ends (r.wording span e) := by
  have hdepth : ¬ 0 < r.skipDepth := by
    rw [hl.skips, h0]
    exact Nat.lt_irrefl 0
  unfold acts
  rw [if_neg hdepth]
  cases e with
  | start t =>
    have hends := ends_openActs r.enumDepth t
    cases t with
    | paragraph => exact .inl ⟨2, by decide, rfl⟩
    | list start => cases start <;> exact .inr ⟨rfl, hends⟩
    | link target =>
      have hform : target.form = some .inline := by simpa [Event.isMute, Tag.isMute] using hmute
      exact .inr ⟨by simp [openActs, hform, Act.writes], hends⟩
    | image target => rw [startsImage?, if_neg hdepth] at hi; cases hi
    | footnoteDefinition | table | tableHead | tableRow | tableCell => cases hmute
    | _ => exact .inr ⟨rfl, hends⟩
  | stop t =>
    obtain ⟨outer, rfl⟩ := eq_cons_of_fits he
    have hends := ends_closeActs r.codeLineOpen r.openLinks t
    cases t with
    | paragraph => exact .inl ⟨2, by decide, rfl⟩
    | list start => cases start <;> exact .inr ⟨rfl, hends⟩
    | codeBlock language => exact .inr ⟨by simp [closeActs, Act.writes], hends⟩
    | link target =>
      have hform : target.form = some .inline := by simpa [Event.isMute, Tag.isMute] using hmute
      have hgroups := hl.groups
      rw [shown_eq_self h0] at hgroups
      exact .inr ⟨by simp [closeActs, hgroups, grouped?, hform, Act.writes], hends⟩
    | item | footnoteDefinition | table | tableHead | tableRow | tableCell | image => cases hmute
    | _ => exact .inr ⟨rfl, hends⟩
  | anonymous opens => cases he
  | text t => cases htext
  | rule => exact absurd rfl hrule
  | footnoteReference label => cases hmute
  | code t | html t =>
    refine .inr ⟨by simp [leafActs, Act.writes], ?_⟩
    simp only [leafActs, List.forall_mem_append, List.forall_mem_singleton]
    refine ⟨ends_notes _ _, ?_⟩
    first
      | exact shut_sayCode _ _
      | exact shut_sayTypewriter rfl _
  | softBreak =>
    simp only [leafActs]
    cases settings.softBreak with
    | hard =>
      refine .inr ⟨rfl, ?_⟩
      simp only [List.forall_mem_cons]
      exact ⟨ends_own .content (by decide), trivial, fun _ ha => by cases ha⟩
    | space => exact .inl ⟨1, by decide, rfl⟩
  | hardBreak =>
    refine .inr ⟨rfl, ?_⟩
    simp only [leafActs, List.forall_mem_cons]
    exact ⟨ends_own .content (by decide), trivial, fun _ ha => by cases ha⟩
  | taskMarker checked =>
    refine .inr ⟨rfl, ?_⟩
    simp only [leafActs, List.forall_mem_cons]
    exact ⟨shut_say rfl (by cases checked <;> decide), trivial, fun _ ha => by cases ha⟩

/-! ### What stands in front of the next event -/

/-- In code, no word is bare, and a line break may come behind a word. -/
structure Paced (s : Tail) (r : Rendering) : Prop where
  guarded : s = .word → 1 ≤ r.formatter.spacing.limit
  outside : r.inCode = true → ¬ Bare s r.formatter

/-- Notices change nothing of it. -/
theorem bare_notes (s : Tail) (f : Formatter) (ns : List Notice) :
    Bare s (f.perform (ns.map .note)) ↔ Bare s f := by
  rw [perform_notes]
  rfl

theorem Paced.hear {s : Tail} (h : Paced s r) (ns : List Notice) : Paced s (r.hear ns) := by
  rw [hear_eq]
  exact ⟨h.guarded, h.outside⟩

/-- Where no word is in front, or a line break comes behind it, nothing is bare. -/
theorem Paced.of_not_word {s : Tail} (h : s ≠ .word) (r : Rendering) : Paced s r :=
  ⟨fun hs => absurd hs h, fun _ hbare => h hbare.1⟩

/-- The text that comes next begins with a letter. -/
def letterNext (st : List Tag) (es : List Event) : Bool :=
  (textBehind Event.isMute st es).head?.any Char.isAlpha

/-- What an event writes and leaves behind: a letter strays at once, or the next text begins with one
and a word is still bare, exactly if the word in front was bare and the next text begins with a letter, or
if the event is a rule and the text behind it does. -/
structure HandsOn (s : Tail) (f : Formatter) (st : List Tag) (e : Event) (gs : Glyphs) (r : Rendering) :
    Prop where
  paced : Paced (s.after gs) r
  strays : ∀ es,
    (strays s gs = true ∨ Bare (s.after gs) r.formatter ∧ letterNext (e.opened st) es = true) ↔
      Bare s f ∧ letterNext st (e :: es) = true ∨
        (e = .rule ∧ skipping st = 0) ∧ letterNext st es = true

section handsOn

variable {s : Tail} {q : Rendering} {e e' : Event} {span : Span}

/-- An event that only reports something leaves all to the next one. -/
theorem handsOn_silent (ns : List Notice) (hacts : q.acts settings e span = ns.map .note)
    (hq : Paced s q) (hs : q.step settings e span = .ok r') (hin : r'.inCode = true → q.inCode = true)
    (hnext : ∀ es, letterNext st (e' :: es) = letterNext (e'.opened st) es)
    (hrule : ¬ (e' = .rule ∧ skipping st = 0)) :
    HandsOn s q.formatter st e' (sayEvent settings q e span) r' := by
  have hsaid : sayEvent settings q e span = [] := by
    rw [sayEvent, hacts]
    exact Formatter.sayActs_silent _ _ (by simp [Act.writes])
  have hf := formatter_step hs
  rw [hacts] at hf
  have hbare : Bare s r'.formatter ↔ Bare s q.formatter := by
    rw [hf]
    exact bare_notes s _ ns
  rw [hsaid]
  refine ⟨⟨fun hword => ?_, fun h => hbare.not.2 (hq.outside (hin h))⟩, fun es => ?_⟩
  · rw [hf, perform_notes]
    exact hq.guarded hword
  · simp [Texdown.Latex.strays, hbare, hnext, hrule]

/-- An event that says no text and leaves nothing bare. -/
theorem handsOn_other {f : Formatter} {gs : Glyphs} (hp : Paced (s.after gs) r')
    (hstrays : strays s gs = false) (hbare : ¬ Bare (s.after gs) r'.formatter) (h0 : skipping st = 0)
    (hmute : e'.isMute = false) (htext : e'.isText = false) (hrule : e' ≠ .rule) :
    HandsOn s f st e' gs r' := by
  refine ⟨hp, fun es => ?_⟩
  have hnext : letterNext st (e' :: es) = false := by
    rw [letterNext, textBehind_other h0 hmute htext]
    rfl
  simp [hstrays, hbare, hnext, hrule]

/-- A text says what it says behind the line breaks. -/
theorem handsOn_text {f : Formatter} {t : Text} {gs : Glyphs} (h : Utters t gs)
    (hf : r'.formatter.spacing = f.spacing.flushed) (hin : r'.inCode = false) (h0 : skipping st = 0) :
    HandsOn s f st (.text t) (Voice.own.say f.breaks ++ gs) r' := by
  obtain ⟨hstrays, hbare⟩ := strays_uttered h hf s
  refine ⟨⟨fun _ => ?_, fun h => ?_⟩, fun es => ?_⟩
  · rw [hf]
    exact (by decide : (1 : Int) ≤ maxBreaks)
  · rw [hin] at h
    cases h
  · rw [hstrays, hbare, letterNext, letterNext, letterNext]
    by_cases ht : t = []
    · subst ht
      rw [textBehind_passes (by rfl)]
      simp [Event.opened]
    · rw [textBehind_text h0 (by simpa [Event.isMute] using ht)]
      simp [ht]

/-- In code no word is bare in front of a text, so none is behind it. -/
theorem handsOn_code {f : Formatter} {t u : Text} {gs : Glyphs} (h : Utters t gs)
    (hf : r'.formatter.spacing = f.spacing.flushed) (hout : ¬ Bare s f) :
    HandsOn s f st (.text u) (Voice.own.say f.breaks ++ gs) r' := by
  obtain ⟨hstrays, hbare⟩ := strays_uttered h hf s
  have hnone : ¬ Bare (s.after (Voice.own.say f.breaks ++ gs)) r'.formatter := fun hb =>
    hout (hbare.1 hb).1
  refine ⟨⟨fun _ => ?_, fun _ => hnone⟩, fun es => ?_⟩
  · rw [hf]
    exact (by decide : (1 : Int) ≤ maxBreaks)
  · simp [hstrays, hnone, hout]

/-- A rule leaves its last word bare. -/
theorem handsOn_rule (hs : q.step settings .rule span = .ok r') (hdepth : q.skipDepth = 0)
    (hin : r'.inCode = false) (h0 : skipping st = 0) :
    HandsOn s q.formatter st .rule (sayEvent settings q .rule span) r' := by
  have hacts : q.acts settings .rule span = [].map .note ++ [.write .content horizontalRule] :=
    acts_of_isLeaf hdepth rfl span
  obtain ⟨hsaid, hflushed⟩ := sayEvent_single hacts hs
  have hsaid : sayEvent settings q .rule span
      = Voice.own.say q.formatter.breaks ++ Voice.own.say horizontalRule := hsaid
  have hword : s.after (sayEvent settings q .rule span) = .word := by
    rw [hsaid, Tail.after_append]
    generalize Tail.after s _ = s'
    cases s' <;> decide
  have hbare : Bare (s.after (sayEvent settings q .rule span)) r'.formatter :=
    ⟨hword, breaks_of_flushed hflushed⟩
  have hnone : strays s (sayEvent settings q .rule span) = false := by
    rw [hsaid, strays_append, strays_own rfl, strays_own rfl]
    rfl
  have hnext : ∀ es, letterNext st (.rule :: es) = false := fun es => by
    rw [letterNext, textBehind_other h0 rfl rfl]
    rfl
  refine ⟨⟨fun _ => by rw [hflushed]; exact (by decide : (1 : Int) ≤ maxBreaks), fun h => ?_⟩,
    fun es => ?_⟩
  · rw [hin] at h
    cases h
  · simp [hnone, hbare, hnext, h0, Event.opened]

/-- A line break that is asked for ends the word, and so does every command. -/
theorem handsOn_settled (hq : Paced s q) (hs : q.step settings e span = .ok r')
    (hacts : (∃ n, 1 ≤ n ∧ q.acts settings e span = [.add n]) ∨
      (q.acts settings e span).any Act.writes = true ∧
        ∀ a ∈ q.acts settings e span, a.Ends (q.wording span e))
    (h0 : skipping st = 0) (hmute : e.isMute = false) (htext : e.isText = false) (hrule : e ≠ .rule) :
    HandsOn s q.formatter st e (sayEvent settings q e span) r' := by
  rcases hacts with ⟨n, hn, hacts⟩ | ⟨hany, hends⟩
  · have hf := formatter_step hs
    rw [hacts] at hf
    have hsaid : sayEvent settings q e span = [] := by
      rw [sayEvent, hacts]
      rfl
    have hguarded : s = .word → 1 ≤ r'.formatter.spacing.limit := fun hword => by
      rw [hf]
      exact hq.guarded hword
    have hbare : ¬ Bare s r'.formatter := fun hb => by
      refine breaks_ne_nil ?_ (hguarded hb.1) hb.2
      rw [hf]
      exact Int.le_trans hn (Int.le_max_right _ _)
    rw [hsaid]
    exact handsOn_other ⟨hguarded, fun _ => hbare⟩ rfl hbare h0 hmute htext hrule
  · have hshut := shut_sayActs hends hany q.formatter s
    exact handsOn_other (.of_not_word hshut.2 r') hshut.1 (fun hb => hshut.2 hb.1) h0 hmute htext hrule

end handsOn

variable {o d : Text} {offsets : List Nat} {x y : Located} {xs : List Located} {s : Tail}

/-- A text hands on what it should, in code and outside of it. -/
theorem handsOn_step_text (h : Disguised o d offsets) (hr : Ready offsets d st last (x :: xs) r)
    (hc : Coded r st) (hp : Paced s r) (h0 : skipping st = 0) {payload : Text} (hx : x.event = .text payload)
    (hs : (r.hear x.notices).step settings x.event x.span = .ok r') (hc' : Coded r' st) :
    HandsOn s (r.hear x.notices).formatter st (.text (wordsAt offsets o x.span payload))
      (sayEvent settings (r.hear x.notices) x.event x.span) r' := by
  have hin : r'.inCode = r.inCode := (hc'.inCode_eq h0).trans (hc.inCode_eq h0).symm
  cases hcode : r.inCode with
  | false =>
    obtain ⟨ns, hacts⟩ := acts_text settings h hr h0 hcode hx
    obtain ⟨hsaid, hspacing⟩ := sayEvent_single hacts hs
    rw [hsaid]
    refine handsOn_text ?_ hspacing (hin.trans hcode) h0
    split
    · exact utters_transcribe _ _
    · exact utters_sayEscaped rfl _
  | true =>
    have hincode : (r.hear x.notices).inCode = true :=
      (inCode_hear r x.notices).trans hcode
    have hdepth : (r.hear x.notices).skipDepth = 0 := (hc.hear x.notices).skips.trans h0
    obtain ⟨t, ns, hacts⟩ : ∃ t ns, (r.hear x.notices).acts settings x.event x.span
        = List.map Act.note ns ++ [.write .content t] := by
      rw [acts_of_isLeaf hdepth (by rw [hx]; rfl), hx]
      simp only [leafActs, hincode, if_true]
      exact ⟨_, _, rfl⟩
    obtain ⟨hsaid, hspacing⟩ := sayEvent_single hacts hs
    have hword : (r.hear x.notices).wording x.span x.event = Voice.text.say := by rw [hx]; rfl
    rw [hword] at hsaid
    rw [hsaid]
    exact handsOn_code (utters_say rfl t) hspacing ((hp.hear x.notices).outside hincode)

/-- Every event hands on what it should. -/
theorem handsOn_step (h : Disguised o d offsets) (hr : Ready offsets d st last (x :: xs) r)
    (hc : Coded r st) (hp : Paced s r) (hi : r.startsImage? x.event = none)
    (hs : (r.hear x.notices).step settings x.event x.span = .ok r') (hc' : Coded r' (x.event.opened st)) :
    HandsOn s (r.hear x.notices).formatter st (x.decoded offsets o)
      (sayEvent settings (r.hear x.notices) x.event x.span) r' := by
  have hq := hc.hear x.notices
  have hpq := hp.hear x.notices
  have hi' := (startsImage?_hear r x.notices x.event).trans hi
  obtain ⟨hfits, hmay, -⟩ := placed_cons hr.placed
  rcases Nat.eq_zero_or_pos (skipping st) with h0 | hpos
  · cases htext : x.event.isText with
    | true =>
      obtain ⟨payload, hx⟩ := Event.exists_eq_text htext
      rw [Located.decoded_text hx]
      rw [hx] at hc'
      exact handsOn_step_text h hr hc hp h0 hx hs hc'
    | false =>
      rw [x.decoded_of_not_text htext]
      cases hmute : x.event.isMute with
      | true =>
        obtain ⟨ns, hacts⟩ := acts_of_isMute settings hq.toLinked h0 hfits hmute htext x.span
        refine handsOn_silent ns hacts hpq hs (inCode_of_step hs fun _ language hx => ?_) (fun es => ?_) ?_
        · rw [hx] at hmute
          cases hmute
        · rw [letterNext, textBehind_passes hmute]
          rfl
        · rintro ⟨hx, -⟩
          rw [hx] at hmute
          cases hmute
      | false =>
        by_cases hrule : x.event = .rule
        · have htextin : Placement.textInCode st last x.event = true := (Placement.walked_iff.1 hmay).2.1
          rw [hrule] at hs hc' htextin ⊢
          have hout : r'.inCode = false := by
            refine (hc'.inCode_eq h0).trans ?_
            simpa [Placement.textInCode, Event.isText, Event.isStop, Event.opened] using htextin
          exact handsOn_rule hs (hq.skips.trans h0) hout h0
        · exact handsOn_settled hpq hs (acts_settle hq.toLinked h0 hfits hi' hmute htext hrule x.span) h0
            hmute htext hrule
  · refine handsOn_silent [] (acts_of_skipping settings hq.toNested hpos _ _) hpq hs
      (inCode_of_step hs fun hzero => ?_) (fun es => ?_) fun hrule => ?_
    · exact absurd (hq.skips.symm.trans hzero) (Nat.ne_of_gt hpos)
    · rw [letterNext, textBehind_skipped hpos]
      rfl
    · exact absurd hrule.2 (Nat.ne_of_gt hpos)

/-- A drawn image ends the word in front of it and leaves none behind it. -/
theorem shut_imageActs (settings : Settings) (resolve : Resolver) {target : Target}
    (hmute : (Tag.image target).isMute = false) (f : Formatter) :
    Shut (f.sayActs Voice.own.say (imageActs settings resolve target)) := by
  have hform : target.form = some .inline := by simpa [Tag.isMute] using hmute
  have hline := ends_line .figure
    (endsWord_figure settings.imageWidth (target.url.getD []) (resolve (target.url.getD [])))
  have hends : ∀ a ∈ imageActs settings resolve target, a.Ends Voice.own.say := by
    simp only [imageActs, hform, if_true, List.forall_mem_append]
    refine ⟨?_, hline⟩
    split
    · exact ends_notes _ [_]
    · exact ends_notes _ []
  exact shut_sayActs hends (by simp [imageActs, hform, Act.line, Act.writes]) f

/-- An image writes a figure on a line of its own, or only reports something. -/
theorem handsOn_image (settings : Settings) (resolve : Resolver) (hp : Paced s r)
    (h0 : skipping st = 0) (target : Target) (hy : endsImage y.event = true) :
    let gs := r.formatter.sayActs Voice.own.say (imageActs settings resolve target)
    let r' := (r.image settings resolve target).hear y.notices
    Paced (s.after gs) r' ∧
      ∀ es, (strays s gs = true ∨ Bare (s.after gs) r'.formatter ∧ letterNext st es = true) ↔
        Bare s r.formatter ∧ letterNext st (.start (.image target) :: y.event :: es) = true := by
  intro gs r'
  have hf : r'.formatter
      = (r.formatter.perform (imageActs settings resolve target)).perform (y.notices.map .note) := by
    rw [formatter_hear, formatter_image]
  have hin : r'.inCode = r.inCode := by
    rw [inCode_hear, inCode_image]
  have hymute : y.event.isMute = true := by
    cases hevent : y.event with
    | stop t =>
      rw [hevent] at hy
      cases t with
      | image target => rfl
      | _ => cases hy
    | _ => rw [hevent] at hy; cases hy
  cases hmute : (Tag.image target).isMute with
  | true =>
    obtain ⟨ns, hacts⟩ := imageActs_of_isMute settings resolve hmute
    have hgs : gs = [] := by
      unfold gs
      rw [hacts]
      exact Formatter.sayActs_silent _ _ (by simp [Act.writes])
    have hbare : Bare s r'.formatter ↔ Bare s r.formatter := by
      rw [hf, hacts, bare_notes, bare_notes]
    have hopened : y.event.opened (.image target :: st) = st := by
      cases hevent : y.event with
      | stop t => rfl
      | _ => rw [hevent] at hymute hy; cases hy
    rw [hgs]
    refine ⟨⟨fun hword => ?_, fun h => hbare.not.2 (hp.outside (hin ▸ h))⟩, fun es => ?_⟩
    · rw [hf, hacts, perform_notes, perform_notes]
      exact hp.guarded hword
    · have hnext : letterNext st (.start (.image target) :: y.event :: es) = letterNext st es := by
        have hst : y.event.opened (Event.opened st (.start (.image target))) = st := hopened
        rw [letterNext, textBehind_passes hmute, textBehind_passes hymute, hst]
        rfl
      simp [strays, hbare, hnext]
  | false =>
    have hshut : Shut gs := shut_imageActs settings resolve hmute r.formatter
    have hnext : ∀ es, letterNext st (.start (.image target) :: es) = false := fun es => by
      rw [letterNext, textBehind_other h0 hmute rfl]
      rfl
    refine ⟨.of_not_word (hshut s).2 r', fun es => ?_⟩
    have hbare : ¬ Bare (s.after gs) r'.formatter := fun hb => (hshut s).2 hb.1
    simp [(hshut s).1, hbare, hnext]

/-! ### Runs -/

/-- A rule is followed by a text that begins with a letter, with nothing between them that ends a word. -/
def ruleRunsOn : List Tag → List Event → Prop
  | _, [] => False
  | st, e :: es => (e = .rule ∧ skipping st = 0) ∧ letterNext st es = true ∨ ruleRunsOn (e.opened st) es

theorem ruleRunsOn_iff {es : List Event} : ruleRunsOn st es ↔ ∃ pre post, es = pre ++ .rule :: post ∧
    skipping (openTags st pre) = 0 ∧ letterNext (openTags st pre) post = true := by
  constructor
  · intro h
    induction es generalizing st with
    | nil => exact h.elim
    | cons e es ih =>
      rcases h with ⟨⟨rfl, h0⟩, hnext⟩ | h
      · exact ⟨[], es, rfl, h0, hnext⟩
      · obtain ⟨pre, post, rfl, h0, hnext⟩ := ih h
        exact ⟨e :: pre, post, rfl, h0, hnext⟩
  · rintro ⟨pre, post, rfl, h0, hnext⟩
    induction pre generalizing st with
    | nil => exact .inl ⟨⟨rfl, h0⟩, hnext⟩
    | cons e pre ih => exact .inr (ih h0 hnext)

/-- Along a run, letters stray into a word that is bare in front of it, and into those of its rules. -/
theorem strays_glyphsOf (h : Disguised o d offsets) (hruns : Runs settings resolve xs r r') :
    ∀ {st : List Tag} {last : Option Event} {s : Tail}, Ready offsets d st last xs r → Coded r st →
      Paced s r → (strays s (glyphsOf settings resolve xs r) = true ↔
        Bare s r.formatter ∧ letterNext st (decodedEvents offsets o xs) = true ∨
          ruleRunsOn st (decodedEvents offsets o xs)) := by
  induction hruns with
  | nil r =>
    intro st last s _ _ _
    simp [glyphsOf, strays, letterNext, textBehind, ruleRunsOn]
  | @event x rest r r1 r2 hi hs _ ih =>
    intro st last s hr hc hp
    obtain ⟨r1', hs', hr1⟩ := hr.step settings h hi
    cases hs.symm.trans hs'
    obtain ⟨hfits, hmay, -⟩ := placed_cons hr.placed
    have hc1 : Coded r1 (x.event.opened st) :=
      (hc.hear x.notices).step hfits (Placement.walked_iff.1 hmay).2.1
        ((startsImage?_hear r _ _).trans hi) hs
    obtain ⟨hp1, hstep⟩ := handsOn_step h hr hc hp hi hs hc1
    have hbare : Bare s (r.hear x.notices).formatter ↔ Bare s r.formatter := by
      rw [formatter_hear, bare_notes]
    rw [glyphsOf_event hi hs, strays_append, Bool.or_eq_true]
    rw [ih hr1 hc1 hp1, ← or_assoc, ← opened_decoded offsets o, hstep, hbare, or_assoc,
      decodedEvents_cons]
    rfl
  | @image x y rest r r2 target hi hy _ ih =>
    intro st last s hr hc hp
    obtain ⟨-, hr1⟩ := hr.image settings resolve hi
    obtain ⟨hx, hzero⟩ := eq_of_startsImage? hi
    obtain ⟨hopened, -⟩ := opened_image hi hy st
    have h0 : skipping st = 0 := hc.skips.symm.trans hzero
    have hc1 := ((hc.hear x.notices).image settings resolve target).hear y.notices
    obtain ⟨hp1, hstep⟩ := handsOn_image settings resolve
      (hp.hear x.notices) h0 target hy
    have hbare : Bare s (r.hear x.notices).formatter ↔ Bare s r.formatter := by
      rw [formatter_hear, bare_notes]
    have hxd : x.decoded offsets o = .start (.image target) := by
      rw [x.decoded_of_not_text (by rw [hx]; rfl), hx]
    have hyd : y.decoded offsets o = y.event := y.decoded_of_not_text (by
      cases hevent : y.event with
      | text t => rw [hevent] at hy; cases hy
      | _ => rfl)
    have hyrule : y.event ≠ .rule := by
      intro hevent
      rw [hevent] at hy
      cases hy
    rw [hx] at hopened
    rw [glyphsOf_image hi, strays_append, Bool.or_eq_true, ih hr1 hc1 hp1, ← or_assoc, hstep, hbare,
      decodedEvents_cons, decodedEvents_cons, hxd, hyd]
    simp [ruleRunsOn, hyrule, hopened]

/-- Nothing is bare in front of a body: the line breaks behind a preamble. -/
theorem paced_initial (settings : Settings) (frame : Option Text) (table : Math.Table) :
    let r := initial settings frame table
    let s := Tail.after .other (Voice.own.say r.latex)
    Paced s r ∧ ¬ Bare s r.formatter := by
  intro r s
  have hin : r.inCode = false := by cases frame <;> rfl
  have hout : ∀ {p : Prop}, r.inCode = true → p := fun h => by
    rw [hin] at h
    cases h
  cases frame with
  | none =>
    have hs : s ≠ .word := by
      show Tail.other ≠ .word
      decide
    exact ⟨.of_not_word hs r, fun h => hs h.1⟩
  | some preamble =>
    have hlimit : r.formatter.spacing.limit = 2 := by
      show min ((ofTable settings table).formatter.write _ _).spacing.limit 2 = 2
      rw [show ((ofTable settings table).formatter.write .command
        (Text.dropEndWhile (· == '\n') preamble)).spacing = _ from Formatter.flush_spacing _]
      rfl
    have hpending : 1 ≤ r.formatter.spacing.pending := Int.le_trans (by decide) (Int.le_max_right _ 2)
    exact ⟨⟨fun _ => by omega, hout⟩, fun h => breaks_ne_nil hpending (by omega) h.2⟩

/-- A word runs into a letter exactly if the first text behind some rule begins with one, with nothing
between them that writes anything or asks for a line break. -/
theorem runsInto_iff (settings : Settings) (resolve : Resolver) (preamble : Option Text) (o : Text)
    (tokens : List Token) :
    let xs := (streamOf (prepare o).1 tokens).1
    RunsInto (documentGlyphs settings resolve preamble xs (prepare o).2) ↔
      ∃ pre post, decodedEvents (disguise o).2 o xs = pre ++ .rule :: post ∧
        skipping (openTags [] pre) = 0 ∧
        (textBehind Event.isMute (openTags [] pre) post).head?.any Char.isAlpha = true := by
  intro xs
  obtain ⟨r, hruns⟩ := exists_runs_streamOf o tokens settings resolve preamble
  obtain ⟨hpaced, hbare⟩ := paced_initial settings preamble (prepare o).2
  have hstrays := strays_glyphsOf (Math.disguised_disguise o) hruns
    (ready_initial settings preamble o tokens) (coded_initial settings preamble _) hpaced
  have hwhole : strays .other (documentGlyphs settings resolve preamble xs (prepare o).2) = strays
      (Tail.after .other (Voice.own.say (initial settings preamble (prepare o).2).latex))
      (glyphsOf settings resolve xs (initial settings preamble (prepare o).2)) := by
    unfold documentGlyphs glyphsBehind
    rw [strays_append, strays_own rfl, strays_append, strays_own rfl, Bool.false_or, Bool.or_false]
  rw [← strays_iff, hwhole, hstrays]
  refine Iff.trans ?_ ruleRunsOn_iff
  exact ⟨fun h => h.resolve_left fun h => hbare h.1, .inr⟩

/-- A conversion has an output, and a control word of the renderer runs into a letter of the document in
it exactly if the first text behind some rule begins with a letter, with nothing between them that writes
anything or asks for a line break. -/
theorem rule_runs_into_text_iff (settings : Settings) (resolve : Resolver) (preamble : Option Text)
    (markdown : Text) (tokens : List Token) :
    let o := Text.normalizeNewlines markdown
    let xs := (streamOf (prepare o).1 tokens).1
    let c := Job.convert ⟨settings, preamble.map .ok, resolve⟩ (fun _ => .ok tokens) markdown
    let gs := documentGlyphs settings resolve preamble xs (prepare o).2
    c.error = none ∧ c.latex = chars gs ∧
      (RunsInto gs ↔ ∃ pre post, decodedEvents (disguise o).2 o xs = pre ++ .rule :: post ∧
        skipping (openTags [] pre) = 0 ∧
        (textBehind Event.isMute (openTags [] pre) post).head?.any Char.isAlpha = true) := by
  intro o xs c gs
  obtain ⟨hnone, hlatex⟩ := convert_chars settings resolve preamble markdown tokens
  exact ⟨hnone, hlatex, runsInto_iff settings resolve preamble o tokens⟩

/-- In a tight item nothing ends the last word of a rule: the text behind it does not ask for a line
break. -/
theorem rule_runs_into_item :
    let markdown := "- a\n  ***\n  b".toList
    let o := Text.normalizeNewlines markdown
    let tokens : List Token := [.list none [.item none
      [.group [.text "a".toList], .rule, .group [.text "b".toList]]]]
    let xs := (streamOf (prepare o).1 tokens).1
    let c := Job.convert ⟨{}, none, fun _ => none⟩ (fun _ => .ok tokens) markdown
    let gs := documentGlyphs {} (fun _ => none) none xs (prepare o).2
    (∀ e ∈ eventsOf xs, ∀ language, e ≠ .start (.codeBlock language)) ∧ c.error = none ∧
      c.latex = ("\\begin\x7bitemize\x7d\n  \\item a\\par\\noindent\\hrulefill\\parb\n"
        ++ "\\end\x7bitemize\x7d\n").toList ∧
      c.latex = chars gs ∧ RunsInto gs := by
  intro markdown o tokens xs c gs
  obtain ⟨hnone, hsaid⟩ := convert_chars {} (fun _ => none) none markdown tokens
  have hevents : eventsOf xs = [.start (.list none), .start .item, .text "a".toList, .rule,
      .text "b".toList, .stop .item, .stop (.list none)] := by decide +kernel
  have hdecoded : decodedEvents (disguise o).2 o xs = [.start (.list none), .start .item,
      .text "a".toList, .rule, .text "b".toList, .stop .item, .stop (.list none)] := by decide +kernel
  refine ⟨?_, hnone, ?_, hsaid, (runsInto_iff _ _ _ o tokens).2 ?_⟩
  · rw [hevents]
    simp
  · obtain ⟨r, hruns⟩ := exists_runs_streamOf o tokens {} (fun _ => none) none
    have hacts : actsOf {} (fun _ => none) xs (initial {} none (prepare o).2)
        = (openActs 0 (.list none) ++ openActs 0 .item) ++ .escaped "a".toList ::
          .write .content horizontalRule :: .escaped "b".toList ::
            (closeActs false [] .item ++ closeActs false [] (.list none)) := by decide +kernel
    refine (convert_latex none markdown tokens hruns).trans ?_
    rw [hruns.formatter_eq, hacts, Formatter.perform_append, Formatter.perform_cons,
      Formatter.perform_cons, Formatter.perform_cons, Formatter.act, Formatter.act, Formatter.act,
      Formatter.writeEscaped_of_split (t := "a".toList) (by decide +kernel) (by decide),
      Formatter.writeEscaped_of_split (t := "b".toList) (by decide +kernel) (by decide)]
    decide +kernel
  · exact ⟨[.start (.list none), .start .item, .text "a".toList],
      [.text "b".toList, .stop .item, .stop (.list none)], hdecoded, rfl, by decide⟩

end Rendering
end Texdown.Latex
