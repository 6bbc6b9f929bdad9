import Texdown.Proofs.Acts
import Texdown.Proofs.Running

/-!
# What events write

Every event does some acts to the formatter (`acts`). They are settled by the event and by what a
rendering keeps beside the text, so the same event does the same acts on any other text (`step_on`).
Outside of what is left out, they indent where a list opens and dedent where it closes, and each event
that writes leaves a limit on the next line breaks that only its kind decides (`Effect`).

Results:
* `step_on`: the acts of an event, on any text.
* `effect_acts`: what they do to line breaks and indentation.
* `step_on_error`: nor does it depend on the text which events are errors.
* `Runs.carry`: a run that starts on one formatter can be repeated on another one, related to it.
* `Runs.follows`: so a run that starts afresh can be repeated behind other text.
-/
namespace Texdown.Latex

/-- Acts that neither write nor set a limit. -/
def Act.isSilent : Act → Bool
  | add _ | indent | dedent | note _ => true
  | cap _ | write _ _ | escaped _ => false

/-- A piece on a line of its own. -/
def Act.line (origin : Origin) (t : Text) : List Act := [.add 1, .write origin t, .add 1]

theorem Formatter.perform_silent {f : Formatter} {acts : List Act} (h : acts.all Act.isSilent = true) :
    (f.perform acts).text = f.text ∧ (f.perform acts).mathOpen = f.mathOpen ∧
      (f.perform acts).spacing.limit = f.spacing.limit := by
  induction acts generalizing f with
  | nil => exact ⟨rfl, rfl, rfl⟩
  | cons a acts ih =>
    simp only [List.all_cons, Bool.and_eq_true] at h
    rw [perform_cons]
    have hact : (f.act a).text = f.text ∧ (f.act a).mathOpen = f.mathOpen ∧
        (f.act a).spacing.limit = f.spacing.limit := by
      cases a with
      | add | indent | dedent | note => exact ⟨rfl, rfl, rfl⟩
      | cap | write | escaped => cases h.1
    obtain ⟨h1, h2, h3⟩ := ih (f := f.act a) h.2
    exact ⟨h1.trans hact.1, h2.trans hact.2.1, h3.trans hact.2.2⟩

end Texdown.Latex

namespace Texdown.Event

/-- The level of indentation behind an event. -/
def levelAfter (n : Nat) : Event → Nat
  | start (.list _) => n + 2
  | stop (.list _) => n - 2
  | start .item => n - 1 + 1
  | _ => n

/-- The line breaks that are allowed behind an event, if it writes. -/
def limitAfter : Event → Int
  | start .item | taskMarker _ => 0
  | start (.codeBlock _) => 1
  | stop (.heading _) => 2
  | _ => Latex.maxBreaks

/-- The ends of the containers in which line breaks are limited. -/
def loosens : Event → Bool
  | stop (.list _) | stop (.codeBlock _) => true
  | _ => false

end Texdown.Event

namespace Texdown.Latex

/-- The acts of an event outside of what is left out. They set the limit on line breaks of its kind, or
leave all as it was. -/
structure Effect (e : Event) (acts : List Act) : Prop where
  courteous : Act.courteous acts = true
  level : ∀ s : Spacing, (acts.foldl Spacing.act s).level = e.levelAfter s.level
  limit : (∀ s : Spacing, (acts.foldl Spacing.act s).limit = e.limitAfter) ∨
    (acts.all Act.isSilent && !e.loosens) = true

/-- Notices do not matter. -/
theorem Effect.notes {e : Event} {acts : List Act} (h : Effect e acts) (ns : List Notice) :
    Effect e (ns.map .note ++ acts) := by
  induction ns with
  | nil => exact h
  | cons n ns ih => exact ⟨ih.courteous, ih.level, ih.limit⟩

/-- What is written sets a limit. -/
theorem effect_write {e : Event} {acts : List Act} (hc : Act.courteous acts = true)
    (hl : ∀ s : Spacing, (acts.foldl Spacing.act s).level = e.levelAfter s.level)
    (hb : ∀ s : Spacing, (acts.foldl Spacing.act s).limit = e.limitAfter) : Effect e acts :=
  ⟨hc, hl, .inl hb⟩

/-- Silent acts leave the limit as it was. -/
theorem effect_silent {e : Event} {acts : List Act} (hc : Act.courteous acts = true)
    (hl : ∀ s : Spacing, (acts.foldl Spacing.act s).level = e.levelAfter s.level)
    (hs : (acts.all Act.isSilent && !e.loosens) = true) : Effect e acts :=
  ⟨hc, hl, .inr hs⟩

namespace Rendering

/-! ## The acts of an event -/

/-- The acts that open a container inside of so many numbered lists. -/
def openActs (depth : Nat) : Tag → List Act
  | .paragraph => [.add 2]
  | .heading level =>
    [.add ((headingCommand level).2 + 1), .write .heading (headingCommand level).1]
  | .blockQuote => Act.line .command (command "begin".toList "quote".toList)
  | .codeBlock _ => Act.line .command (command "begin".toList "verbatim".toList) ++ [.cap 1]
  | .list none => Act.line .command (command "begin".toList "itemize".toList) ++ [.indent, .indent]
  | .list (some start) =>
    Act.line .command (command "begin".toList "enumerate".toList) ++ .indent ::
      ((setCounter? depth start).elim [] (Act.line .command) ++ [.indent])
  | .item => [.add 1, .dedent, .write .command "\\item ".toList, .indent, .cap 0]
  | .footnoteDefinition label => [.note (.footnoteIgnored label)]
  | .table => [.note .tableIgnored]
  | .tableHead | .tableRow | .tableCell | .image _ => []
  | .emphasis => [.write .opening "\\emph\x7b".toList]
  | .strong => [.write .opening "\\textbf\x7b".toList]
  | .strikethrough => [.write .opening "\\sout\x7b".toList]
  | .link target =>
    if target.form = some .inline then
      [.write .opening (command "href".toList (target.url.getD []) ++ ['\x7b'])]
    else [.note (.linkIgnored target.formName target.url)]

/-- The acts that close a container: `lineOpen` tells whether the last line of code lacks its end, and
`links` which of the open links have a group. -/
def closeActs (lineOpen : Bool) (links : List Bool) : Tag → List Act
  | .paragraph => [.add 2]
  | .heading level => [.write .closing ['\x7d'], .add (headingCommand level).2, .cap 2]
  | .blockQuote => Act.line .command (command "end".toList "quote".toList)
  | .codeBlock _ =>
    (if lineOpen then [.write .content ['\n']] else [])
      ++ [.write .command (command "end".toList "verbatim".toList), .add 1]
  | .list none =>
    .dedent :: .dedent :: Act.line .command (command "end".toList "itemize".toList)
  | .list (some _) =>
    .dedent :: .dedent :: Act.line .command (command "end".toList "enumerate".toList)
  | .item | .footnoteDefinition _ | .table | .tableHead | .tableRow | .tableCell | .image _ => []
  | .emphasis | .strong | .strikethrough => [.write .closing ['\x7d']]
  | .link _ => if links.head? = some true then [.write .closing ['\x7d']] else []

/-- What a fragment is restored to, and what that reports. -/
def restored (table : Math.Table) (t : Text) (span : Span) : Text × List Notice :=
  match table.restore t span with
  | (.ok t', ns, _) => (t', ns)
  | (.error _, _, _) => ([], [])

/-- Whether a code span is math. -/
def mathAt (table : Math.Table) (span : Span) : Bool :=
  (table.isRecorded? span.start).1 = some true ∧ 4 < span.length ∧
    ((table.advance span.start).isRecorded? (span.stop - 2)).1 = some true

/-- The text of a code span as it is written. -/
def codeText (math : Bool) (t : Text) : Text :=
  if math then '$' :: t ++ ['$'] else typewriter (escape t)

def leafActs (settings : Settings) (r : Rendering) (span : Span) : Event → List Act
  | .text t =>
    let (t', ns) := restored r.table t span
    ns.map .note
      ++ [if r.inCode then .write .content t' else .escaped (Text.decodeReferences t')]
  | .code t =>
    let (t', ns) := restored (tableAsked r.table span) t (innerSpan t span)
    ns.map .note ++ [.write .content (codeText (mathAt r.table span) t')]
  | .html t =>
    let (t', ns) := restored r.table t span
    (Notice.htmlFound :: ns).map .note ++ [.write .content (typewriter (escape t'))]
  | .softBreak =>
    match settings.softBreak with
    | .hard => [.write .content lineBreak, .add 1]
    | .space => [.add 1]
  | .hardBreak => [.write .content lineBreak, .add 1]
  | .rule => [.write .content horizontalRule]
  | .taskMarker checked => [.write .content (taskBox checked), .cap 0]
  | .footnoteReference label => [.note (.footnoteReferenceIgnored label)]
  | .start _ | .stop _ | .anonymous _ => []

/-- Leaves write no commands. -/
theorem picked_leafActs {k : Piece → Bool} (hk : IsKind k) (settings : Settings) (r : Rendering)
    (span : Span) (e : Event) : (leafActs settings r span e).flatMap (Act.picked k) = [] := by
  have hcontent : ∀ t : Text, Act.picked k (.write .content t) = [] := Formatter.picked_content hk
  cases e with
  | text t =>
    simp only [leafActs, List.flatMap_append, Formatter.picked_notes]
    cases r.inCode with
    | true => exact congrArg (· ++ []) (hcontent _)
    | false => rfl
  | code t | html t =>
    simp only [leafActs, List.flatMap_append, Formatter.picked_notes]
    exact congrArg (· ++ []) (hcontent _)
  | softBreak =>
    simp only [leafActs]
    cases settings.softBreak with
    | hard => exact congrArg (· ++ []) (hcontent lineBreak)
    | space => rfl
  | hardBreak | rule | taskMarker => exact congrArg (· ++ []) (hcontent _)
  | start | stop | anonymous | footnoteReference => rfl

def acts (settings : Settings) (r : Rendering) (e : Event) (span : Span) : List Act :=
  if 0 < r.skipDepth then []
  else match e with
    | .start t => openActs r.enumDepth t
    | .stop t => closeActs r.codeLineOpen r.openLinks t
    | e => leafActs settings r span e

theorem acts_of_isLeaf {settings : Settings} {r : Rendering} (h0 : r.skipDepth = 0) {e : Event}
    (he : e.isLeaf = true) (span : Span) : r.acts settings e span = leafActs settings r span e := by
  refine (if_neg (by omega)).trans ?_
  cases e with
  | start | stop => cases he
  | _ => rfl

/-- The URL that an image asks a path for, if it stands in the text. -/
def urlsAsked (target : Target) : List Text :=
  if target.form = some .inline then [target.url.getD []] else []

def imageActs (settings : Settings) (resolve : Resolver) (target : Target) : List Act :=
  if target.form = some .inline then
    let url := target.url.getD []
    (if (resolve url).isNone then [.note (.imageUnresolved url)] else [])
      ++ Act.line .figure (figure settings.imageWidth url (resolve url))
  else [.note (.imageIgnored target.formName target.url)]

/-- A rendering as it would be with another text. -/
def on (r : Rendering) (f : Formatter) (asked : List Text) : Rendering :=
  { r with formatter := f, asked := asked }

theorem on_self (r : Rendering) : r.on r.formatter r.asked = r := rfl

theorem hear_on (r : Rendering) (ns : List Notice) (f : Formatter) (q : List Text) :
    (r.on f q).hear ns = (r.hear ns).on (f.perform (ns.map .note)) q := by
  induction ns generalizing r f with
  | nil => rfl
  | cons n ns ih => exact ih (r.note n) (f.note n)

theorem formatter_hear (r : Rendering) (ns : List Notice) :
    (r.hear ns).formatter = r.formatter.perform (ns.map .note) :=
  (congrArg Rendering.formatter (hear_on r ns r.formatter r.asked) :)

theorem openTag_on (r : Rendering) (t : Tag) (f : Formatter) (q : List Text) :
    (r.on f q).openTag t = (r.openTag t).on (f.perform (openActs r.enumDepth t)) q := by
  cases t with
  | list start =>
    cases start with
    | none => rfl
    | some n =>
      cases hc : setCounter? r.enumDepth n <;>
        · simp only [openTag, openList, format, openActs, on, hc]
          rfl
  | link target =>
    simp only [openTag, openActs]
    split <;> rfl
  | _ => rfl

theorem closeTag_on {r r' : Rendering} {t : Tag} (h : r.closeTag t = .ok r') (f : Formatter)
    (q : List Text) : (r.on f q).closeTag t
      = .ok (r'.on (f.perform (closeActs r.codeLineOpen r.openLinks t)) q) := by
  cases t with
  | list start => cases start <;> cases h <;> rfl
  | codeBlock language =>
    cases h
    cases hopen : r.codeLineOpen <;>
      · simp only [closeTag, closeActs, on, hopen]
        rfl
  | link target =>
    simp only [closeTag, closeActs, on] at h ⊢
    cases hlinks : r.openLinks with
    | nil => rw [hlinks] at h; cases h
    | cons grouped rest =>
      rw [hlinks] at h
      cases h
      cases grouped <;> rfl
  | image target => cases h
  | _ =>
    cases h
    rfl

/-! ## Leaves -/

theorem exists_restore_on {r r' : Rendering} {t t' : Text} {span : Span}
    (h : r.restore t span = .ok (t', r')) :
    ∃ ns : List Notice, restored r.table t span = (t', ns) ∧ ∀ f q, (r.on f q).restore t span
      = .ok (t', r'.on (f.perform (ns.map .note)) q) := by
  rw [restore_eq] at h
  split at h
  · next t'' ns table hr =>
    cases h
    refine ⟨ns, by rw [restored, hr], fun f q => ?_⟩
    have hr' : (r.on f q).table.restore t span = (.ok t', ns, table) := hr
    rw [restore_eq, hr']
    exact congrArg (fun x => Except.ok (t', x)) (hear_on { r with table } ns f q)
  · cases h

theorem isRecorded_on {r r' : Rendering} {pos : Nat} {b : Bool} (h : r.isRecorded pos = .ok (b, r'))
    (f : Formatter) (q : List Text) : (r.on f q).isRecorded pos = .ok (b, r'.on f q) := by
  have htable : (r.on f q).table = r.table := rfl
  simp only [isRecorded, htable] at h ⊢
  split at h
  · cases h
    rfl
  · cases h

theorem isMath_on {r r' : Rendering} {span : Span} {b : Bool} (h : r.isMath span = .ok (b, r')) :
    b = mathAt r.table span ∧ ∀ f q, (r.on f q).isMath span = .ok (b, r'.on f q) := by
  obtain ⟨⟨opens, r1⟩, h1, h⟩ := exists_of_bind h
  obtain ⟨hopens, hr1⟩ := eq_of_isRecorded h1
  unfold isMath mathAt
  simp only [isRecorded_on h1, bind, Except.bind]
  simp only at h
  split at h
  · next hc =>
    obtain ⟨hb, -⟩ := eq_of_isRecorded h
    refine ⟨?_, fun f q => ?_⟩
    · rw [hr1] at hb
      simp only at hb
      rw [hb, hopens, hc.1]
      simp [hc.2]
    · rw [if_pos hc]
      exact isRecorded_on h f q
  · next hc =>
    cases h
    refine ⟨?_, fun f q => by rw [if_neg hc]; rfl⟩
    rw [hopens]
    cases opens with
    | false => simp
    | true => simp only [true_and] at hc; simp [hc]

theorem text_on {settings : Settings} {r r' : Rendering} {t : Text} {span : Span}
    (h : r.text t span = .ok r') (f : Formatter) (q : List Text) : (r.on f q).text t span
      = .ok (r'.on (f.perform (leafActs settings r span (.text t))) q) := by
  obtain ⟨⟨t', r1⟩, h1, h⟩ := exists_of_bind h
  obtain ⟨ns, hns, hr⟩ := exists_restore_on h1
  obtain ⟨-, hb⟩ := beside_restore h1
  have hcode : r1.inCode = r.inCode := (congrArg Rendering.inCode hb :)
  simp only [leafActs, hns, Formatter.perform_append]
  simp only [hcode] at h
  simp only [text, hr, bind, Except.bind]
  have hon : ∀ g, (r1.on g q).inCode = r.inCode := fun _ => hcode
  rw [hon]
  cases hin : r.inCode with
  | false =>
    rw [hin] at h
    cases h
    rfl
  | true =>
    rw [hin] at h
    simp only [if_true] at h ⊢
    split at h
    · next he => cases h; rw [if_pos he]; rfl
    · next he => cases h; rw [if_neg he]; rfl

theorem code_on {settings : Settings} {r r' : Rendering} {t : Text} {span : Span}
    (h : r.code t span = .ok r') (f : Formatter) (q : List Text) : (r.on f q).code t span
      = .ok (r'.on (f.perform (leafActs settings r span (.code t))) q) := by
  obtain ⟨⟨math, r1⟩, h1, h⟩ := exists_of_bind h
  obtain ⟨hmath, hon⟩ := isMath_on h1
  obtain rfl := eq_of_isMath h1
  simp only at h
  obtain ⟨⟨t', r2⟩, h2, h⟩ := exists_of_bind h
  obtain ⟨ns, hns, hr⟩ := exists_restore_on h2
  cases h
  simp only [leafActs, hns, ← hmath, Formatter.perform_append]
  simp only [code, hon, hr, bind, Except.bind]
  rfl

theorem html_on {settings : Settings} {r r' : Rendering} {t : Text} {span : Span}
    (h : r.html t span = .ok r') (f : Formatter) (q : List Text) : (r.on f q).html t span
      = .ok (r'.on (f.perform (leafActs settings r span (.html t))) q) := by
  obtain ⟨⟨t', r1⟩, h1, h⟩ := exists_of_bind h
  obtain ⟨ns, hns, hr⟩ := exists_restore_on h1
  cases h
  have hns : restored r.table t span = (t', ns) := hns
  have hr' : ((r.on f q).note .htmlFound).restore t span
      = .ok (t', r1.on ((f.note .htmlFound).perform (ns.map .note)) q) := hr (f.note .htmlFound) q
  simp only [leafActs, hns, Formatter.perform_append]
  simp only [html, hr', bind, Except.bind]
  rfl

/-! ## Steps -/

/-- The acts of an event, on any text. -/
theorem step_on {settings : Settings} {r r' : Rendering} {e : Event} {span : Span}
    (h : r.step settings e span = .ok r') (f : Formatter) (q : List Text) :
    (r.on f q).step settings e span = .ok (r'.on (f.perform (r.acts settings e span)) q) := by
  unfold step acts at *
  by_cases hskip : 0 < r.skipDepth
  · rw [if_pos hskip] at h ⊢
    cases h
    refine (if_pos hskip).trans ?_
    unfold skip
    split
    · split <;> rfl
    · split <;> rfl
    · rfl
  · rw [if_neg hskip] at h ⊢
    refine (if_neg hskip).trans ?_
    cases e with
    | start t =>
      cases h
      exact congrArg Except.ok (openTag_on r t f q)
    | stop t => exact closeTag_on h f q
    | anonymous opens => cases h
    | text t => exact text_on h f q
    | code t => exact code_on h f q
    | html t => exact html_on h f q
    | softBreak =>
      cases h
      simp only [leafActs, softBreak]
      cases settings.softBreak <;> rfl
    | hardBreak | rule | taskMarker | footnoteReference =>
      cases h
      rfl

theorem restore_on_error {r : Rendering} {t : Text} {span : Span} {err : Error}
    (h : r.restore t span = .error err) (f : Formatter) (q : List Text) :
    (r.on f q).restore t span = .error err := by
  have htable : (r.on f q).table = r.table := rfl
  rw [restore_eq] at h ⊢
  rw [htable]
  split at h
  · cases h
  · exact h

theorem isRecorded_on_error {r : Rendering} {pos : Nat} {err : Error}
    (h : r.isRecorded pos = .error err) (f : Formatter) (q : List Text) :
    (r.on f q).isRecorded pos = .error err := by
  have htable : (r.on f q).table = r.table := rfl
  simp only [isRecorded, htable] at h ⊢
  split at h
  · cases h
  · exact h

theorem isMath_on_error {r : Rendering} {span : Span} {err : Error}
    (h : r.isMath span = .error err) (f : Formatter) (q : List Text) :
    (r.on f q).isMath span = .error err := by
  rcases error_of_bind h with h1 | ⟨⟨opens, r1⟩, h1, h2⟩
  · simp only [isMath, isRecorded_on_error h1, bind, Except.bind]
  · simp only [isMath, isRecorded_on h1, bind, Except.bind]
    simp only at h2
    split at h2
    · next hc => rw [if_pos hc]; exact isRecorded_on_error h2 f q
    · cases h2

theorem text_on_error {r : Rendering} {t : Text} {span : Span} {err : Error}
    (h : r.text t span = .error err) (f : Formatter) (q : List Text) :
    (r.on f q).text t span = .error err := by
  rcases error_of_bind h with h1 | ⟨⟨t', r1⟩, h1, h2⟩
  · simp only [text, restore_on_error h1, bind, Except.bind]
  · simp only at h2
    split at h2
    · split at h2 <;> cases h2
    · cases h2

theorem code_on_error {r : Rendering} {t : Text} {span : Span} {err : Error}
    (h : r.code t span = .error err) (f : Formatter) (q : List Text) :
    (r.on f q).code t span = .error err := by
  rcases error_of_bind h with h1 | ⟨⟨math, r1⟩, h1, h2⟩
  · simp only [code, isMath_on_error h1, bind, Except.bind]
  · rcases error_of_bind h2 with h3 | ⟨⟨t', r2⟩, h3, h4⟩
    · simp only [code, (isMath_on h1).2, restore_on_error h3, bind, Except.bind]
    · cases h4

theorem html_on_error {r : Rendering} {t : Text} {span : Span} {err : Error}
    (h : r.html t span = .error err) (f : Formatter) (q : List Text) :
    (r.on f q).html t span = .error err := by
  rcases error_of_bind h with h1 | ⟨⟨t', r1⟩, h1, h2⟩
  · have h1 : ((r.on f q).note .htmlFound).restore t span = .error err :=
      restore_on_error h1 (f.note .htmlFound) q
    simp only [html, h1, bind, Except.bind]
  · cases h2

/-- The links that are open decide whether a container fails to close. -/
theorem closeTag_on_error {r : Rendering} {t : Tag} {err : Error} (h : r.closeTag t = .error err)
    (f : Formatter) (q : List Text) : (r.on f q).closeTag t = .error err := by
  cases t with
  | list start => cases start <;> cases h
  | link target =>
    have hlinks : (r.on f q).openLinks = r.openLinks := rfl
    simp only [closeTag, hlinks] at h ⊢
    split at h
    · exact h
    · cases h
  | image target => exact h
  | _ => cases h

/-- The error of an event, on any text. -/
theorem step_on_error {settings : Settings} {r : Rendering} {e : Event} {span : Span} {err : Error}
    (h : r.step settings e span = .error err) (f : Formatter) (q : List Text) :
    (r.on f q).step settings e span = .error err := by
  unfold step at *
  by_cases hskip : 0 < r.skipDepth
  · rw [if_pos hskip] at h
    cases h
  · rw [if_neg hskip] at h
    refine (if_neg hskip).trans ?_
    cases e with
    | stop t => exact closeTag_on_error h f q
    | anonymous opens => exact h
    | text t => exact text_on_error h f q
    | code t => exact code_on_error h f q
    | html t => exact html_on_error h f q
    | _ => cases h

theorem formatter_step {settings : Settings} {r r' : Rendering} {e : Event} {span : Span}
    (h : r.step settings e span = .ok r') :
    r'.formatter = r.formatter.perform (r.acts settings e span) :=
  (congrArg Rendering.formatter
    (Except.ok.inj (h.symm.trans (step_on h r.formatter r.asked))) :)

theorem asked_step {settings : Settings} {r r' : Rendering} {e : Event} {span : Span}
    (h : r.step settings e span = .ok r') : r'.asked = r.asked :=
  (congrArg Rendering.asked (Except.ok.inj (h.symm.trans (step_on h r.formatter r.asked))) :)

theorem image_on (settings : Settings) (resolve : Resolver) (r : Rendering) (target : Target)
    (f : Formatter) (q : List Text) : image settings resolve (r.on f q) target
      = (image settings resolve r target).on (f.perform (imageActs settings resolve target))
        (q ++ urlsAsked target) := by
  unfold image imageActs urlsAsked
  by_cases hform : target.form = some .inline
  · simp only [if_pos hform]
    cases hpath : resolve (target.url.getD []) <;> rfl
  · simp only [if_neg hform, List.append_nil]
    rfl

theorem formatter_image (settings : Settings) (resolve : Resolver) (r : Rendering) (target : Target) :
    (image settings resolve r target).formatter
      = r.formatter.perform (imageActs settings resolve target) :=
  (congrArg Rendering.formatter (image_on settings resolve r target r.formatter r.asked) :)

theorem asked_image (settings : Settings) (resolve : Resolver) (r : Rendering) (target : Target) :
    (image settings resolve r target).asked = r.asked ++ urlsAsked target :=
  (congrArg Rendering.asked (image_on settings resolve r target r.formatter r.asked) :)

/-! ## Effects -/

theorem effect_openActs (depth : Nat) (t : Tag) : Effect (.start t) (openActs depth t) := by
  cases t with
  | list start =>
    cases start with
    | none => exact effect_write rfl (fun _ => rfl) fun _ => rfl
    | some n =>
      simp only [openActs]
      cases setCounter? depth n <;> exact effect_write rfl (fun _ => rfl) fun _ => rfl
  | link target =>
    simp only [openActs]
    split
    · exact effect_write rfl (fun _ => rfl) fun _ => rfl
    · exact effect_silent rfl (fun _ => rfl) rfl
  | heading | blockQuote | codeBlock | item | emphasis | strong | strikethrough =>
    exact effect_write rfl (fun _ => rfl) fun _ => rfl
  | paragraph | footnoteDefinition | table | tableHead | tableRow | tableCell | image =>
    exact effect_silent rfl (fun _ => rfl) rfl

theorem effect_closeActs (lineOpen : Bool) (links : List Bool) (t : Tag) :
    Effect (.stop t) (closeActs lineOpen links t) := by
  cases t with
  | list start => cases start <;> exact effect_write rfl (fun _ => rfl) fun _ => rfl
  | codeBlock language => cases lineOpen <;> exact effect_write rfl (fun _ => rfl) fun _ => rfl
  | link target =>
    simp only [closeActs]
    split
    · exact effect_write rfl (fun _ => rfl) fun _ => rfl
    · exact effect_silent rfl (fun _ => rfl) rfl
  | heading | blockQuote | emphasis | strong | strikethrough =>
    exact effect_write rfl (fun _ => rfl) fun _ => rfl
  | paragraph | item | footnoteDefinition | table | tableHead | tableRow | tableCell | image =>
    exact effect_silent rfl (fun _ => rfl) rfl

theorem effect_leafActs (settings : Settings) (r : Rendering) (span : Span) {e : Event}
    (he : e.isLeaf = true) : Effect e (leafActs settings r span e) := by
  cases e with
  | start | stop => cases he
  | text t =>
    refine Effect.notes ?_ _
    cases r.inCode <;> exact effect_write rfl (fun _ => rfl) fun _ => rfl
  | code t => exact Effect.notes (effect_write rfl (fun _ => rfl) fun _ => rfl) _
  | html t => exact Effect.notes (effect_write rfl (fun _ => rfl) fun _ => rfl) _
  | softBreak =>
    simp only [leafActs]
    cases settings.softBreak with
    | hard => exact effect_write rfl (fun _ => rfl) fun _ => rfl
    | space => exact effect_silent rfl (fun _ => rfl) rfl
  | hardBreak | rule | taskMarker => exact effect_write rfl (fun _ => rfl) fun _ => rfl
  | footnoteReference | anonymous => exact effect_silent rfl (fun _ => rfl) rfl

theorem effect_acts (settings : Settings) {r : Rendering} (h0 : r.skipDepth = 0) (e : Event)
    (span : Span) : Effect e (r.acts settings e span) := by
  unfold acts
  rw [if_neg (by omega)]
  cases e with
  | start t => exact effect_openActs _ t
  | stop t => exact effect_closeActs _ _ t
  | _ => exact effect_leafActs settings r span rfl

theorem effect_imageActs (settings : Settings) (resolve : Resolver) (target : Target) :
    Effect (.start (.image target)) (imageActs settings resolve target) := by
  unfold imageActs
  split
  · simp only
    split <;> exact effect_write rfl (fun _ => rfl) fun _ => rfl
  · exact effect_silent rfl (fun _ => rfl) rfl

theorem courteous_notes (ns : List Notice) : Act.courteous (ns.map .note) = true := by
  induction ns with
  | nil => rfl
  | cons n ns ih => exact ih

theorem courteous_acts (settings : Settings) (r : Rendering) (e : Event) (span : Span) :
    Act.courteous (r.acts settings e span) = true := by
  rcases Nat.eq_zero_or_pos r.skipDepth with h0 | hpos
  · exact (effect_acts settings h0 e span).courteous
  · have hnone : r.acts settings e span = [] := if_pos hpos
    rw [hnone]
    rfl

/-! ## Runs -/

/-- Formatters that courteous acts keep related are so along a run, which goes the same way on both. -/
theorem Runs.carry {settings : Settings} {resolve : Resolver} {R : Formatter → Formatter → Prop}
    (hR : ∀ {f g : Formatter} (acts : List Act), Act.courteous acts = true → R f g →
      R (f.perform acts) (g.perform acts))
    {xs : List Located} {r r' : Rendering} (h : Runs settings resolve xs r r') :
    ∀ {g : Formatter} (q : List Text), R r.formatter g →
      ∃ g' q', Runs settings resolve xs (r.on g q) (r'.on g' q') ∧ R r'.formatter g' := by
  induction h with
  | nil r => exact fun q hg => ⟨_, q, .nil _, hg⟩
  | @event e rest r r1 r2 hi hs _ ih =>
    intro g q hg
    have hg1 := hR _ (courteous_notes e.notices) hg
    rw [← formatter_hear] at hg1
    have hg2 := hR _ (courteous_acts settings (r.hear e.notices) e.event e.span) hg1
    rw [← formatter_step hs] at hg2
    obtain ⟨g', q', hruns, hg'⟩ := ih q hg2
    refine ⟨g', q', .event hi ?_ hruns, hg'⟩
    rw [hear_on]
    exact step_on hs _ q
  | @image x y rest r r2 target hi hy _ ih =>
    intro g q hg
    have hg1 := hR _ (courteous_notes x.notices) hg
    rw [← formatter_hear] at hg1
    have hg2 := hR _ (courteous_notes y.notices)
      (hR _ (effect_imageActs settings resolve target).courteous hg1)
    rw [← formatter_image, ← formatter_hear] at hg2
    obtain ⟨g', q', hruns, hg'⟩ := ih (q ++ urlsAsked target) hg2
    refine ⟨g', q', .image hi hy ?_, hg'⟩
    rw [hear_on, image_on, hear_on]
    exact hruns

/-- What a run has written afresh, it writes at the end of what another one has written before. -/
theorem Runs.follows {settings : Settings} {resolve : Resolver} {xs : List Located}
    {r r' : Rendering} (h : Runs settings resolve xs r r') {lo hi : Nat} {body : Text} {g : Formatter}
    (q : List Text) (hg : Formatter.Follows lo hi body r.formatter g) :
    ∃ g' q', Runs settings resolve xs (r.on g q) (r'.on g' q') ∧
      Formatter.Follows lo hi body r'.formatter g' :=
  h.carry (fun _ hc hf => hf.perform hc) q hg

end Rendering
end Texdown.Latex
