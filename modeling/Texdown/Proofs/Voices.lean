import Texdown.Proofs.Groups
import Texdown.Proofs.OnePass

/-!
# Who says what

What is written for a document is partly its own text and partly the renderer's: commands, line breaks,
the dollars of math, and what is written instead of a special character. `documentGlyphs` gives every
character of the output with its voice.

Results:
* `chars_transcribe`, `chars_sayEscaped`: without the voices, that is what is written for a text.
* `text_perform`: it is what acts write, if each piece is worded as it is written.
* `Runs.text_eq`: it is what a run writes.
* `convert_chars`: it is the output of a conversion, which has one for every document.
-/
namespace Texdown.Latex

/-- Who a character of the output comes from. -/
inductive Voice where
  /-- The renderer. -/
  | own
  /-- The renderer, in the box of a task. -/
  | label
  | text
  | code
  | html
  deriving DecidableEq, Repr

/-- Whether the renderer speaks. -/
def Voice.isOwn : Voice → Bool
  | own | label => true
  | text | code | html => false

/-- A character of the output, and who it comes from. -/
structure Glyph where
  char : Char
  voice : Voice
  deriving DecidableEq, Repr

abbrev Glyphs := List Glyph

/-- A text in one voice. -/
def Voice.say (v : Voice) (t : Text) : Glyphs := t.map (⟨·, v⟩)

def chars (gs : Glyphs) : Text := gs.map (·.char)

@[simp] theorem chars_say (v : Voice) (t : Text) : chars (v.say t) = t := by
  simp [chars, Voice.say, Function.comp_def]

@[simp] theorem chars_append (as bs : Glyphs) : chars (as ++ bs) = chars as ++ chars bs :=
  List.map_append

/-! ## Texts -/

/-- What a move says that writes `w` and goes on from `t` to `t'`: what is only copied is said by the
text, and what is written instead of it by the renderer. -/
def sayMove (v : Voice) (w t t' : Text) : Glyphs :=
  if w ++ t' = t then v.say w else Voice.own.say w

@[simp] theorem chars_sayMove (v : Voice) (w t t' : Text) : chars (sayMove v w t t') = w := by
  unfold sayMove
  split <;> exact chars_say _ w

/-- A text that is escaped as a whole. -/
def sayEscaped (v : Voice) : Text → Glyphs
  | [] => []
  | c :: r => sayMove v (token c r).1 (c :: r) (token c r).2 ++ sayEscaped v (token c r).2
termination_by t => t.length
decreasing_by
  have := length_token c r
  simp only [List.length_cons]
  omega

/-- A text with its math. -/
def transcribe (m : Reading) (t : Text) : Glyphs :=
  match _h : step m t with
  | none => []
  | some (w, m', t') => sayMove .text w t t' ++ transcribe m' t'
termination_by m.measure t
decreasing_by exact measure_step _h

theorem escape_spaces (r : Text) : escape (' ' :: r) = ' ' :: escape (r.dropWhile (· == ' ')) := by
  induction r with
  | nil => rfl
  | cons c r ih =>
    by_cases hc : c = ' '
    · subst hc
      exact ih
    · rw [List.dropWhile_cons_of_neg (by simpa using hc), escape_of_single (by rintro _ h; cases h)]
      · rfl
      · rintro _ - h
        cases h
        exact hc rfl

/-- A text is escaped token by token. -/
theorem escape_token (c : Char) (r : Text) :
    escape (c :: r) = (token c r).1 ++ escape (token c r).2 := by
  unfold token
  split
  · rfl
  · exact escape_spaces r
  · next hspaces hdots =>
    exact escape_of_single hdots fun r' hc _ => hspaces hc

theorem chars_sayEscaped (v : Voice) (t : Text) : chars (sayEscaped v t) = escape t := by
  fun_induction sayEscaped v t with
  | case1 => rfl
  | case2 c r ih => rw [chars_append, chars_sayMove, ih, ← escape_token]

/-- The machine stops at the end only. -/
theorem eq_nil_of_step {m : Reading} {t : Text} (h : step m t = none) : t = [] := by
  cases t with
  | nil => rfl
  | cons c r =>
    unfold step moveInText moveInMath at h
    split at h <;> first | cases h | (split at h <;> simp_all)

theorem chars_transcribe (m : Reading) (t : Text) : chars (transcribe m t) = (transduce m t).1 := by
  fun_induction transcribe m t with
  | case1 m t h =>
    rw [transduce]
    split
    · rfl
    · next h' => rw [h] at h'; cases h'
  | case2 m t w m' t' h ih =>
    rw [chars_append, chars_sayMove, ih, transduce_step h]
    rfl

/-! ## Acts -/

namespace Formatter

/-- What is written in front of the next piece: the dollar of math that line breaks cut, and the line
breaks that were asked for. -/
def breaks (f : Formatter) : Text :=
  (if f.mathOpen ∧ f.spacing.count ≠ 0 then ['$'] else []) ++ f.spacing.gap

theorem breaks_congr {f g : Formatter} (hs : g.spacing = f.spacing) (hm : g.mathOpen = f.mathOpen) :
    g.breaks = f.breaks := by
  unfold breaks
  rw [hs, hm]

theorem flush_text_eq (f : Formatter) : f.flush.text = f.text ++ f.breaks := by
  rw [flush_text, breaks, ← List.append_assoc, closed]
  by_cases hcount : f.spacing.count = 0
  · simp [hcount]
  · simp [hcount]

/-- A text without delimiters is escaped as a whole while no math is open. -/
theorem writeEscaped_of_split {f : Formatter} {t : Text} (ho : f.mathOpen = false)
    (ht : splitAtDelimiter? t = none) : f.writeEscaped t = f.flush.put .content (escape t) := by
  have hflush := (flush_of_closed ho).2
  unfold writeEscaped
  simp only [hflush, Bool.false_eq_true, if_false, spans_none hflush ht, ite_self]

/-- A text behind the line breaks, as the formatter escapes it. -/
def sayText (f : Formatter) (t : Text) : Glyphs :=
  Voice.own.say f.breaks ++
    if f.mathAware then transcribe (.start f.flush.mathOpen) t else sayEscaped .text t

/-- What an act writes; `w` tells how a piece is worded. -/
def sayAct (w : Text → Glyphs) (f : Formatter) : Act → Glyphs
  | .write _ t => Voice.own.say f.breaks ++ w t
  | .escaped t => f.sayText t
  | _ => []

def sayActs (w : Text → Glyphs) : Formatter → List Act → Glyphs
  | _, [] => []
  | f, a :: acts => f.sayAct w a ++ sayActs w (f.act a) acts

theorem text_writeEscaped (f : Formatter) (t : Text) :
    (f.writeEscaped t).text = f.text ++ chars (f.sayText t) := by
  rw [sayText, chars_append, chars_say, ← List.append_assoc, ← flush_text_eq]
  cases haware : f.mathAware with
  | true => rw [if_pos rfl, chars_transcribe, writeEscaped_text haware]
  | false =>
    have hflush : f.flush.mathAware = false := f.flush_mathAware.trans haware
    unfold writeEscaped
    simp only [hflush, Bool.not_false, Bool.false_eq_true, if_true, if_false, chars_sayEscaped]
    exact text_put f.flush .content _

theorem text_act {w : Text → Glyphs} (f : Formatter) {a : Act}
    (h : ∀ origin t, a = .write origin t → chars (w t) = t) :
    (f.act a).text = f.text ++ chars (f.sayAct w a) := by
  cases a with
  | write origin t =>
    rw [sayAct, chars_append, chars_say, h origin t rfl, ← List.append_assoc, ← flush_text_eq]
    exact text_put f.flush origin t
  | escaped t => exact text_writeEscaped f t
  | _ => exact (List.append_nil _).symm

/-- Acts write what is said of them. -/
theorem text_perform {w : Text → Glyphs} (f : Formatter) {acts : List Act}
    (h : ∀ origin t, .write origin t ∈ acts → chars (w t) = t) :
    (f.perform acts).text = f.text ++ chars (f.sayActs w acts) := by
  induction acts generalizing f with
  | nil => exact (List.append_nil _).symm
  | cons a acts ih =>
    have ha : ∀ origin t, a = .write origin t → chars (w t) = t := fun origin t ha =>
      h origin t (ha ▸ List.mem_cons_self)
    have hacts : ∀ origin t, .write origin t ∈ acts → chars (w t) = t := fun origin t ht =>
      h origin t (List.mem_cons_of_mem a ht)
    rw [perform_cons, ih _ hacts, text_act f ha, sayActs, chars_append, List.append_assoc]

theorem sayActs_append (w : Text → Glyphs) (f : Formatter) (as bs : List Act) :
    f.sayActs w (as ++ bs) = f.sayActs w as ++ (f.perform as).sayActs w bs := by
  induction as generalizing f with
  | nil => rfl
  | cons a as ih => rw [List.cons_append, sayActs, ih, sayActs, List.append_assoc, perform_cons]

/-- Where nothing is written, nothing is said. -/
theorem sayActs_silent (w : Text → Glyphs) (f : Formatter) {acts : List Act}
    (h : acts.any Act.writes = false) : f.sayActs w acts = [] := by
  induction acts generalizing f with
  | nil => rfl
  | cons a acts ih =>
    rw [List.any_cons, Bool.or_eq_false_iff] at h
    rw [sayActs, ih _ h.2, List.append_nil]
    cases a with
    | write | escaped => cases h.1
    | _ => rfl

end Formatter

/-! ## Events -/

def sayTypewriter (v : Voice) (t : Text) : Glyphs :=
  Voice.own.say "\\texttt\x7b".toList ++ sayEscaped v t ++ Voice.own.say ['\x7d']

theorem chars_sayTypewriter (v : Voice) (t : Text) :
    chars (sayTypewriter v t) = typewriter (escape t) := by
  rw [sayTypewriter, chars_append, chars_append, chars_say, chars_say, chars_sayEscaped]
  rfl

/-- The text of a code span, which may be math. -/
def sayCode (math : Bool) (t : Text) : Glyphs :=
  if math then Voice.own.say ['$'] ++ Voice.code.say t ++ Voice.own.say ['$']
  else sayTypewriter .code t

namespace Rendering

open Math (prepare disguise)

variable {settings : Settings} {resolve : Resolver} {r r' : Rendering}

theorem chars_sayCode (math : Bool) (t : Text) : chars (sayCode math t) = codeText math t := by
  cases math with
  | true => simp [sayCode, codeText]
  | false => exact chars_sayTypewriter .code t

/-- How the pieces of an event are worded. Text that is escaped is none of them. -/
def wording (r : Rendering) (span : Span) : Event → Text → Glyphs
  | .text _ => Voice.text.say
  | .code t => fun _ => sayCode (mathAt r.table span)
      (restored (tableAsked r.table span) t (innerSpan t span)).1
  | .html t => fun _ => sayTypewriter .html (restored r.table t span).1
  | .taskMarker _ => Voice.label.say
  | _ => Voice.own.say

theorem mem_notes_append {ns : List Notice} {acts : List Act} {origin : Origin} {t : Text}
    (h : Act.write origin t ∈ ns.map .note ++ acts) : .write origin t ∈ acts := by
  rcases List.mem_append.1 h with h | h
  · obtain ⟨n, -, hn⟩ := List.mem_map.1 h
    cases hn
  · exact h

/-- A piece is worded as it is written. -/
theorem chars_wording {e : Event} {span : Span} {origin : Origin} {t : Text}
    (h : .write origin t ∈ r.acts settings e span) : chars (r.wording span e t) = t := by
  unfold acts at h
  split at h
  · cases h
  · cases e with
    | code u =>
      have hmem := mem_notes_append h
      cases List.mem_singleton.1 hmem
      exact chars_sayCode _ _
    | html u =>
      have hmem := mem_notes_append h
      cases List.mem_singleton.1 hmem
      exact chars_sayTypewriter .html _
    | _ => exact chars_say _ t

/-- What an event writes, with its voices. -/
def sayEvent (settings : Settings) (r : Rendering) (e : Event) (span : Span) : Glyphs :=
  r.formatter.sayActs (r.wording span e) (r.acts settings e span)

theorem perform_notes (f : Formatter) (ns : List Notice) :
    f.perform (ns.map .note) = { f with notices := f.notices ++ ns } := by
  induction ns generalizing f with
  | nil => simp
  | cons n ns ih => simp [ih, Formatter.act, Formatter.note]

/-- An event that does one thing says it. -/
theorem sayEvent_single {q : Rendering} {e : Event} {span : Span} {ns : List Notice}
    {a : Act} (hacts : q.acts settings e span = ns.map .note ++ [a])
    (hs : q.step settings e span = .ok r') :
    sayEvent settings q e span = q.formatter.sayAct (q.wording span e) a ∧
      r'.formatter.spacing = q.formatter.spacing.act a := by
  constructor
  · rw [sayEvent, hacts, Formatter.sayActs_append, Formatter.sayActs_silent _ _ (by simp [Act.writes]),
      perform_notes, List.nil_append, Formatter.sayActs, Formatter.sayActs, List.append_nil]
    cases a with
    | escaped t =>
      unfold Formatter.sayAct Formatter.sayText
      rw [Formatter.flush_mathOpen, Formatter.flush_mathOpen]
      rfl
    | _ => rfl
  · rw [formatter_step hs, hacts, Formatter.perform_append, perform_notes]
    exact Formatter.spacing_act _ a

/-- What a run writes, with its voices. -/
def glyphsOf (settings : Settings) (resolve : Resolver) : List Located → Rendering → Glyphs
  | [], _ => []
  | x :: rest, r =>
    let r := r.hear x.notices
    match r.startsImage? x.event with
    | some target =>
      r.formatter.sayActs Voice.own.say (imageActs settings resolve target) ++
        match rest with
        | [] => []
        | y :: rest => glyphsOf settings resolve rest ((r.image settings resolve target).hear y.notices)
    | none =>
      sayEvent settings r x.event x.span ++
        match r.step settings x.event x.span with
        | .ok r => glyphsOf settings resolve rest r
        | .error _ => []

theorem glyphsOf_event {x : Located} {rest : List Located} (hi : r.startsImage? x.event = none)
    (hs : (r.hear x.notices).step settings x.event x.span = .ok r') :
    glyphsOf settings resolve (x :: rest) r
      = sayEvent settings (r.hear x.notices) x.event x.span ++ glyphsOf settings resolve rest r' := by
  simp only [glyphsOf, startsImage?_hear, hi, hs]

theorem glyphsOf_image {x y : Located} {rest : List Located} {target : Target}
    (hi : r.startsImage? x.event = some target) :
    glyphsOf settings resolve (x :: y :: rest) r
      = (r.hear x.notices).formatter.sayActs Voice.own.say (imageActs settings resolve target) ++
          glyphsOf settings resolve rest
            (((r.hear x.notices).image settings resolve target).hear y.notices) := by
  simp only [glyphsOf, startsImage?_hear, hi]

theorem text_hear (r : Rendering) (ns : List Notice) : (r.hear ns).formatter.text = r.formatter.text := by
  rw [hear_eq]
  rfl

/-- A run writes what it says. -/
theorem Runs.text_eq {xs : List Located} (h : Runs settings resolve xs r r') :
    r'.formatter.text = r.formatter.text ++ chars (glyphsOf settings resolve xs r) := by
  induction h with
  | nil r => exact (List.append_nil _).symm
  | event hi hs _ ih =>
    rw [ih, glyphsOf_event hi hs, sayEvent, formatter_step hs,
      Formatter.text_perform _ fun origin t => chars_wording, text_hear, chars_append, List.append_assoc]
  | image hi _ _ ih =>
    rw [ih, glyphsOf_image hi, text_hear, formatter_image,
      Formatter.text_perform _ fun origin t _ => chars_say .own t, text_hear, chars_append,
      List.append_assoc]

/-! ## Documents -/

/-- What is written once the events are read. -/
def endingText (frame : Option Text) (f : Formatter) : Text :=
  match frame with
  | some _ => ((f.cap 3).add 3).breaks ++ endsDocument
  | none => ((f.cap 1).add 1).breaks

theorem text_ended (frame : Option Text) (r : Rendering) :
    (ended frame r).formatter.text = r.formatter.text ++ endingText frame r.formatter := by
  cases frame with
  | none => exact Formatter.flush_text_eq ((r.formatter.cap 1).add 1)
  | some preamble =>
    have hwrite : (ended (some preamble) r).formatter.text
        = ((r.formatter.cap 3).add 3).flush.text ++ endsDocument := Formatter.text_put _ _ _
    rw [hwrite, Formatter.flush_text_eq, List.append_assoc]
    rfl

/-- What the rest of a document is written as, behind the events that were read. -/
def glyphsBehind (settings : Settings) (resolve : Resolver) (frame : Option Text) (xs : List Located)
    (r : Rendering) : Glyphs :=
  glyphsOf settings resolve xs r
    ++ Voice.own.say (endingText frame (run settings resolve xs r).1.formatter)

/-- What a document is written as. -/
def documentGlyphs (settings : Settings) (resolve : Resolver) (frame : Option Text) (xs : List Located)
    (table : Math.Table) : Glyphs :=
  Voice.own.say (initial settings frame table).latex
    ++ glyphsBehind settings resolve frame xs (initial settings frame table)

theorem endingText_congr {f g : Formatter} (hs : g.spacing = f.spacing) (hm : g.mathOpen = f.mathOpen)
    (frame : Option Text) : endingText frame g = endingText frame f := by
  have hbreaks : ∀ n m, ((g.cap n).add m).breaks = ((f.cap n).add m).breaks := fun n m =>
    Formatter.breaks_congr (congrArg (fun s => (s.cap n).add m) hs) hm
  cases frame <;> simp only [endingText, hbreaks]

theorem latex_ended (frame : Option Text) (r : Rendering) (ts : List Notice) :
    ((ended frame (r.hear ts)).note .renderingTimed).latex
      = r.formatter.text ++ endingText frame r.formatter := by
  have hending : endingText frame (r.hear ts).formatter = endingText frame r.formatter :=
    endingText_congr (by rw [hear_eq]; rfl) (by rw [hear_eq]; rfl) frame
  have htext : ((ended frame (r.hear ts)).note .renderingTimed).latex
      = (ended frame (r.hear ts)).formatter.text := rfl
  rw [htext, text_ended, hending, text_hear]

/-- What is written behind the events that were read is what the rest of the document says. -/
theorem Runs.ending {xs : List Located} (h : Runs settings resolve xs r r') (frame : Option Text) :
    r'.formatter.text ++ endingText frame r'.formatter
      = r.formatter.text ++ chars (glyphsBehind settings resolve frame xs r) := by
  rw [h.text_eq, glyphsBehind, h.run_eq, chars_append, chars_say, List.append_assoc]

/-- The output of a conversion is that of its run. -/
theorem convert_latex (preamble : Option Text) (markdown : Text) (tokens : List Token) {r : Rendering} :
    let o := Text.normalizeNewlines markdown
    Runs settings resolve (streamOf (prepare o).1 tokens).1 (initial settings preamble (prepare o).2) r →
      (Job.convert ⟨settings, preamble.map .ok, resolve⟩ (fun _ => .ok tokens) markdown).latex
        = r.formatter.text ++ endingText preamble r.formatter := by
  intro o hruns
  have hdoc := document_of_runs preamble hruns (streamOf (prepare o).1 tokens).2
  rw [← latex_ended preamble r (streamOf (prepare o).1 tokens).2]
  cases preamble <;> exact congrArg (fun p => p.1.latex) hdoc

/-- A conversion has an output, and it is what its document is written as. -/
theorem convert_chars (settings : Settings) (resolve : Resolver) (preamble : Option Text)
    (markdown : Text) (tokens : List Token) :
    let o := Text.normalizeNewlines markdown
    let c := Job.convert ⟨settings, preamble.map .ok, resolve⟩ (fun _ => .ok tokens) markdown
    c.error = none ∧ c.latex
      = chars (documentGlyphs settings resolve preamble (streamOf (prepare o).1 tokens).1 (prepare o).2) := by
  intro o c
  obtain ⟨r, hruns⟩ := exists_runs_streamOf o tokens settings resolve preamble
  refine ⟨convert_error settings preamble resolve markdown tokens hruns.run_eq, ?_⟩
  rw [convert_latex preamble markdown tokens hruns, hruns.ending, documentGlyphs, chars_append, chars_say]
  rfl

end Rendering
end Texdown.Latex
