import Mathlib.Data.List.Infix
import Texdown.Proofs.Blocks
import Texdown.Proofs.Brackets

/-!
# Output is balanced

The brackets that are open in what is written are those of the open containers. Each event writes the
marks that keep it so, and payloads write none but balanced ones: they are escaped, or stand in a
verbatim environment that they do not end.

Results:
* `pass_openActs`, `pass_closeActs`, `pass_leafActs`: the marks that an event writes.
* `Bracketed.step`, `Bracketed.image`: each event keeps the open brackets those of the open containers.
* `brackets_balanced`: the LaTeX of a body is read as a balanced word of marks.
-/
namespace Texdown

open Latex (Bracket)

/-- What stands around the text of a container. -/
def Tag.bracket? : Tag → Option Bracket
  | heading _ | emphasis | strong | strikethrough => some .brace
  | link target => if target.form = some .inline then some .brace else none
  | blockQuote => some (.environment "quote".toList)
  | codeBlock _ => some (.environment "verbatim".toList)
  | list none => some (.environment "itemize".toList)
  | list (some _) => some (.environment "enumerate".toList)
  | paragraph | item | footnoteDefinition _ | table | tableHead | tableRow | tableCell | image _ => none

def leadingText : List Event → Text
  | .text t :: es => t ++ leadingText es
  | _ => []

def codeContents : List Event → List Text
  | [] => []
  | .start (.codeBlock _) :: es => leadingText es :: codeContents es
  | _ :: es => codeContents es

namespace Latex

open Mode (Calm)
open Mark (Open)
open Rendering (openActs closeActs leafActs imageActs)

/-- Only text stands in code, and the rest cannot be taken for LaTeX, but for what is escaped: links and
the paths of figures are plain, and text that is decoded has no math. -/
def tame (resolve : Resolver) : Placement := fun st last e =>
  Placement.textInCode st last e && match e with
    | .text t => st.head?.any Tag.isCodeBlock || decide (¬ ['$', '$'] <:+: Text.decodeReferences t)
    | .start (.link target) =>
      decide (target.form ≠ some .inline) || (target.url.getD []).all isPlain
    | .start (.image target) =>
      decide (target.form ≠ some .inline)
        || ((resolve (target.url.getD [])).getD (target.url.getD [])).all isPlain
    | _ => true

section Tame

variable {resolve : Resolver} {st : List Tag} {last : Option Event} {e : Event} {target : Target}

theorem textInCode_of_tame (h : tame resolve st last e = true) :
    Placement.textInCode st last e = true := (Bool.and_eq_true_iff.1 h).1

theorem not_infix_of_tame {t : Text} (h : tame resolve st last (.text t) = true)
    (hcode : st.head?.any Tag.isCodeBlock = false) :
    ¬ ['$', '$'] <:+: Text.decodeReferences t := by
  rcases Bool.or_eq_true_iff.1 (Bool.and_eq_true_iff.1 h).2 with hin | htext
  · rw [hcode] at hin
    cases hin
  · exact of_decide_eq_true htext

theorem isPlain_url_of_tame (h : tame resolve st last (.start (.link target)) = true)
    (hform : target.form = some .inline) : (target.url.getD []).all isPlain = true := by
  rcases Bool.or_eq_true_iff.1 (Bool.and_eq_true_iff.1 h).2 with hother | hurl
  · exact absurd hform (of_decide_eq_true hother)
  · exact hurl

theorem isPlain_path_of_tame (h : tame resolve st last (.start (.image target)) = true)
    (hform : target.form = some .inline) :
    ((resolve (target.url.getD [])).getD (target.url.getD [])).all isPlain = true := by
  rcases Bool.or_eq_true_iff.1 (Bool.and_eq_true_iff.1 h).2 with hother | hpath
  · exact absurd hform (of_decide_eq_true hother)
  · exact hpath

end Tame

/-! ## What acts write -/

/-- Outside of math, what is written is read as these marks, and in this mode. -/
structure ReadTo (ms : List Mark) (m : Mode) (f : Formatter) : Prop where
  closed : f.mathOpen = false
  scan : scan .text f.text = (ms, m)

/-- What is written is read as these marks, and nothing is begun at its end. -/
def Reads (ms : List Mark) (f : Formatter) : Prop := ∃ m, Calm m ∧ ReadTo ms m f

theorem passes_gap (s : Spacing) : Passes s.gap [] := by
  refine passes_plain (List.all_eq_true.2 fun c hc => ?_)
  rcases blank_gap s c hc with rfl | rfl <;> rfl

/-- Outside of math, line breaks only add blanks. -/
theorem flush_of_closed {f : Formatter} (h : f.mathOpen = false) :
    f.flush.text = f.text ++ f.spacing.gap ∧ f.flush.mathOpen = false := by
  constructor
  · have hclosed : f.closed = f.text := by
      rw [Formatter.closed, h]
      exact List.append_nil _
    rw [Formatter.flush_text, hclosed, ite_self]
  · rw [Formatter.flush_mathOpen, h, ite_self]

theorem Reads.add {ms : List Mark} {f : Formatter} (h : Reads ms f) (n : Int) : Reads ms (f.add n) := by
  obtain ⟨m, hm, hclosed, hscan⟩ := h
  exact ⟨m, hm, hclosed, hscan⟩

theorem Reads.cap {ms : List Mark} {f : Formatter} (h : Reads ms f) (n : Int) : Reads ms (f.cap n) := by
  obtain ⟨m, hm, hclosed, hscan⟩ := h
  exact ⟨m, hm, hclosed, hscan⟩

theorem Reads.flush {ms : List Mark} {f : Formatter} (h : Reads ms f) : Reads ms f.flush := by
  obtain ⟨m, hm, hclosed, hscan⟩ := h
  obtain ⟨m', hm', hgap⟩ := passes_gap f.spacing m hm
  obtain ⟨htext, hflush⟩ := flush_of_closed hclosed
  exact ⟨m', hm', hflush, by rw [htext, scan_append_of hscan hgap, List.append_nil]⟩

theorem Reads.put {ms ns : List Mark} {f : Formatter} (h : Reads ms f) {t : Text} (ht : Passes t ns)
    (origin : Origin) : Reads (ms ++ ns) (f.put origin t) := by
  obtain ⟨m, hm, hclosed, hscan⟩ := h
  obtain ⟨m', hm', hpass⟩ := ht m hm
  exact ⟨m', hm', hclosed, by rw [Formatter.text_put, scan_append_of hscan hpass]⟩

/-- These acts write these marks. -/
def Pass (acts : List Act) (ns : List Mark) : Prop :=
  ∀ (ms : List Mark) (f : Formatter), Reads ms f → Reads (ms ++ ns) (f.perform acts)

namespace Pass

theorem nil : Pass [] [] := fun ms _ h => (List.append_nil ms).symm ▸ h

theorem append {as bs : List Act} {ms ns : List Mark} (ha : Pass as ms) (hb : Pass bs ns) :
    Pass (as ++ bs) (ms ++ ns) := fun ls f h => by
  rw [Formatter.perform_append, ← List.append_assoc]
  exact hb _ _ (ha ls f h)

/-- Acts that write nothing. -/
theorem still {acts : List Act} (h : acts.all (!·.writes) = true) : Pass acts [] := by
  induction acts with
  | nil => exact nil
  | cons a acts ih =>
    simp only [List.all_cons, Bool.and_eq_true] at h
    have hone : Pass [a] [] := by
      rintro ms f ⟨m, hm, hclosed, hscan⟩
      rw [List.append_nil]
      cases a with
      | write | escaped => cases h.1
      | _ => exact ⟨m, hm, hclosed, hscan⟩
    exact append hone (ih h.2)

theorem write {t : Text} {ns : List Mark} (ht : Passes t ns) (origin : Origin) :
    Pass [.write origin t] ns := fun _ _ h => h.flush.put ht origin

theorem line {t : Text} {ns : List Mark} (ht : Passes t ns) (origin : Origin) :
    Pass (Act.line origin t) ns := by
  have hadd : Pass [.add 1] [] := still rfl
  have h : Pass (Act.line origin t) ([] ++ ns ++ []) := append (append hadd (write ht origin)) hadd
  rwa [List.nil_append, List.append_nil] at h

/-- Text without math is only escaped. -/
theorem splitAtDelimiter?_eq_none {t : Text} (h : ¬ ['$', '$'] <:+: t) :
    splitAtDelimiter? t = none := by
  fun_induction splitAtDelimiter? t with
  | case1 r => exact absurd ⟨[], r, rfl⟩ h
  | case2 c r _ ih =>
    rw [ih fun hr => h (hr.trans (List.suffix_cons c r).isInfix)]
    rfl
  | case3 => rfl

theorem escaped {t : Text} (h : ¬ ['$', '$'] <:+: t) :
    ∃ ns, Mark.Balanced ns ∧ Pass [.escaped t] ns := by
  obtain ⟨ns, hns, ht⟩ := passes_escape t
  refine ⟨ns, hns, fun ms f hf => ?_⟩
  have hflush := hf.flush
  obtain ⟨-, -, hclosed, -⟩ := hflush
  have hact : f.act (.escaped t) = f.flush.put .content (escape t) := by
    have hspans := Formatter.spans_none hclosed (splitAtDelimiter?_eq_none h)
    simp only [Formatter.act, Formatter.writeEscaped, hclosed, hspans]
    cases f.flush.mathAware <;> rfl
  rw [Formatter.perform_cons, Formatter.perform_nil, hact]
  exact hf.flush.put ht .content

end Pass

/-! ### Containers -/

/-- The brackets of some containers, innermost first. -/
def brackets (st : List Tag) : List Bracket := st.filterMap Tag.bracket?

theorem brackets_cons (t : Tag) (st : List Tag) :
    brackets (t :: st) = t.bracket?.toList ++ brackets st := by
  unfold brackets
  cases h : t.bracket? with
  | none => rw [List.filterMap_cons_none h]; rfl
  | some b => rw [List.filterMap_cons_some h]; rfl

theorem passes_number (n : Int) : Passes (Text.ofInt n) [] := by
  have hnat : ∀ n : Nat, (Text.ofNat n).all isPlain = true := fun n => by
    refine List.all_eq_true.2 fun c hc => ?_
    have hdigit : c.isDigit = true := Text.isDigit_of_mem_ofNat hc
    have hne : ∀ d : Char, d.isDigit = false → c ≠ d := by
      rintro d hd rfl
      rw [hdigit] at hd
      cases hd
    simp [isPlain, hne]
  cases n with
  | ofNat n => exact passes_plain (hnat n)
  | negSucc n => exact passes_plain (by simpa [Text.ofInt, isPlain] using hnat (n + 1))

theorem passes_braced {t : Text} {ns : List Mark} (ht : Passes t ns) :
    Passes (braced t) (.opens .brace :: ns ++ [.closes .brace]) := by
  have hopening : Passes ['{'] [.opens .brace] := passes_fixed rfl rfl
  exact (hopening.append ht).append passes_closing

/-- The argument of a command is a group, unless the command begins or ends an environment. -/
theorem passes_command {name t : Text} {ns : List Mark} (hname : Passes ('\\' :: name) [])
    (ht : Passes t ns) : Passes (command name t) (.opens .brace :: ns ++ [.closes .brace]) :=
  hname.append (passes_braced ht)

/-- The command that sets a counter opens and closes two groups. -/
theorem passes_setCounter {depth : Nat} {start : Int} {t : Text} (h : setCounter? depth start = some t) :
    ∃ ns, Mark.Balanced ns ∧ Passes t ns := by
  unfold setCounter? at h
  split at h
  · cases h
  · obtain ⟨numeral, hnumeral, rfl⟩ := Option.map_eq_some_iff.1 h
    have hcounter : Passes ("enum".toList ++ numeral) [] := by
      have hmem : numeral ∈ counterNumerals := List.mem_of_getElem? hnumeral
      simp only [counterNumerals, List.mem_cons, List.not_mem_nil, or_false] at hmem
      rcases hmem with rfl | rfl | rfl | rfl <;> exact passes_plain rfl
    have hname : Passes ('\\' :: "setcounter".toList) [] :=
      passes_name rfl (by decide) (by decide)
    exact ⟨_, balanced_braces.append balanced_braces,
      (passes_command hname hcounter).append (passes_braced (passes_number _))⟩

theorem passes_headingCommand (level : Int) : Passes (headingCommand level).1 [.opens .brace] := by
  unfold headingCommand
  repeat' split
  all_goals exact passes_fixed rfl rfl

theorem passes_href {url : Text} (h : url.all isPlain = true) :
    Passes (command "href".toList url ++ ['{'])
      [.opens .brace, .closes .brace, .opens .brace] := by
  have hname : Passes ('\\' :: "href".toList) [] := passes_name rfl (by decide) (by decide)
  have hopening : Passes ['{'] [.opens .brace] := passes_fixed rfl rfl
  exact (passes_command hname (passes_plain h)).append hopening

/-- Behind the opening of a container, its bracket is open too. -/
theorem pass_openActs {t : Tag} (hcode : t.isCodeBlock = false)
    (hlink : ∀ target, t = .link target → target.form = some .inline →
      (target.url.getD []).all isPlain = true) (depth : Nat) :
    ∃ ns, Pass (openActs depth t) ns ∧
      ∀ {st ms}, Open (brackets st) ms → Open (brackets (t :: st)) (ms ++ ns) := by
  have hone : ∀ {t : Tag} {b : Bracket} {acts : List Act}, t.bracket? = some b →
      Pass acts [.opens b] → ∃ ns, Pass acts ns ∧
        ∀ {st ms}, Open (brackets st) ms → Open (brackets (t :: st)) (ms ++ ns) := fun hb hp =>
    ⟨_, hp, fun h => by rw [brackets_cons, hb]; exact h.opens _⟩
  have hnone : ∀ {t : Tag} {acts : List Act}, t.bracket? = none → Pass acts [] → ∃ ns, Pass acts ns ∧
        ∀ {st ms}, Open (brackets st) ms → Open (brackets (t :: st)) (ms ++ ns) := fun hb hp =>
    ⟨_, hp, fun h => by rw [brackets_cons, hb, List.append_nil]; exact h⟩
  cases t with
  | heading level =>
    have hadd : Pass [.add ((headingCommand level).2 + 1)] [] := .still rfl
    exact hone rfl (hadd.append (.write (passes_headingCommand level) .heading))
  | blockQuote => exact hone rfl (.line (passes_fixed rfl rfl) .command)
  | codeBlock language => cases hcode
  | list start =>
    cases start with
    | none =>
      have hline : Pass (Act.line .command (command "begin".toList "itemize".toList)) _ :=
        .line (passes_fixed rfl rfl) .command
      have hindent : Pass [.indent, .indent] [] := .still rfl
      exact hone rfl (hline.append hindent)
    | some n =>
      have hline : Pass (Act.line .command (command "begin".toList "enumerate".toList)) _ :=
        .line (passes_fixed rfl rfl) .command
      have hindent : Pass [.indent] [] := .still rfl
      simp only [openActs]
      cases hcounter : setCounter? depth n with
      | none => exact hone rfl (hline.append (hindent.append hindent))
      | some text =>
        obtain ⟨ns, hns, htext⟩ := passes_setCounter hcounter
        refine ⟨_, hline.append (hindent.append ((Pass.line htext .command).append hindent)), ?_⟩
        intro st ms h
        rw [List.nil_append, List.append_nil, ← List.append_assoc]
        exact (h.opens _).append hns
  | item =>
    have hfront : Pass [.add 1, .dedent] [] := .still rfl
    have hback : Pass [.indent, .cap 0] [] := .still rfl
    have hitem : Pass [.write .command "\\item ".toList] [] := .write (passes_fixed rfl rfl) .command
    exact hnone rfl (hfront.append (hitem.append hback))
  | emphasis => exact hone rfl (.write (passes_fixed rfl rfl) .opening)
  | strong => exact hone rfl (.write (passes_fixed rfl rfl) .opening)
  | strikethrough => exact hone rfl (.write (passes_fixed rfl rfl) .opening)
  | link target =>
    simp only [openActs]
    split
    · next hform =>
      refine ⟨_, .write (passes_href (hlink target rfl hform)) .opening, fun {st ms} h => ?_⟩
      have hb : (Tag.link target).bracket? = some .brace := if_pos hform
      have hms := (h.append balanced_braces).opens .brace
      rw [brackets_cons, hb]
      rwa [List.append_assoc] at hms
    · next hform => exact hnone (if_neg hform) (.still rfl)
  | paragraph | footnoteDefinition | table | tableHead | tableRow | tableCell | image =>
    exact hnone rfl (.still rfl)

/-- Behind the end of a container, its bracket is closed. -/
theorem pass_closeActs {t : Tag} (hcode : t.isCodeBlock = false) {links : List Bool}
    (hlink : ∀ target, t = .link target →
      links.head? = some (decide (target.form = some .inline))) (lineOpen : Bool) :
    ∃ ns, Pass (closeActs lineOpen links t) ns ∧
      ∀ {st ms}, Open (brackets (t :: st)) ms → Open (brackets st) (ms ++ ns) := by
  have hone : ∀ {t : Tag} {b : Bracket} {acts : List Act}, t.bracket? = some b →
      Pass acts [.closes b] → ∃ ns, Pass acts ns ∧
        ∀ {st ms}, Open (brackets (t :: st)) ms → Open (brackets st) (ms ++ ns) := fun hb hp =>
    ⟨_, hp, fun h => by rw [brackets_cons, hb] at h; exact h.closes⟩
  have hnone : ∀ {t : Tag} {acts : List Act}, t.bracket? = none → Pass acts [] → ∃ ns, Pass acts ns ∧
        ∀ {st ms}, Open (brackets (t :: st)) ms → Open (brackets st) (ms ++ ns) := fun hb hp =>
    ⟨_, hp, fun h => by rw [brackets_cons, hb] at h; rw [List.append_nil]; exact h⟩
  have hbrace : Pass [.write .closing ['}']] [.closes .brace] := .write passes_closing .closing
  have hdedent : Pass [.dedent, .dedent] [] := .still rfl
  cases t with
  | heading level =>
    have hback : Pass [.add (headingCommand level).2, .cap 2] [] := .still rfl
    exact hone rfl (hbrace.append hback)
  | blockQuote => exact hone rfl (.line (passes_fixed rfl rfl) .command)
  | codeBlock language => cases hcode
  | list start =>
    cases start with
    | none => exact hone rfl (hdedent.append (.line (passes_fixed rfl rfl) .command))
    | some n => exact hone rfl (hdedent.append (.line (passes_fixed rfl rfl) .command))
  | emphasis | strong | strikethrough => exact hone rfl hbrace
  | link target =>
    simp only [closeActs, hlink target rfl, Option.some.injEq, decide_eq_true_eq]
    split
    · next hform => exact hone (if_pos hform) hbrace
    · next hform => exact hnone (if_neg hform) .nil
  | paragraph | item | footnoteDefinition | table | tableHead | tableRow | tableCell | image =>
    exact hnone rfl (.still rfl)

/-! ### Leaves and figures -/

/-- Escaped text in the typewriter font is a group. -/
theorem passes_typewriter (t : Text) :
    ∃ ns, Mark.Balanced ns ∧ Passes (typewriter (escape t)) ns := by
  obtain ⟨ns, hns, ht⟩ := passes_escape t
  exact ⟨_, .group .brace hns, passes_command (passes_name rfl (by decide) (by decide)) ht⟩

/-- Outside of code, a leaf opens nothing that it does not close. -/
theorem pass_leafActs (settings : Settings) {r : Rendering} (hcode : r.inCode = false) {span : Span}
    (hmath : Rendering.mathAt r.table span = false) {e : Event}
    (htext : ∀ t, e = .text t →
      ¬ ['$', '$'] <:+: Text.decodeReferences (Rendering.restored r.table t span).1) :
    ∃ ns, Mark.Balanced ns ∧ Pass (leafActs settings r span e) ns := by
  have hnotes : ∀ ns : List Notice, Pass (ns.map .note) [] := fun ns => .still (by simp [Act.writes])
  have hbreak : Pass [.write .content lineBreak, .add 1] [] := by
    have hwrite : Pass [.write .content lineBreak] [] := .write (passes_fixed rfl rfl) .content
    have hadd : Pass [.add 1] [] := .still rfl
    exact hwrite.append hadd
  cases e with
  | start | stop => exact ⟨[], .nil, .nil⟩
  | anonymous opens => exact ⟨[], .nil, .nil⟩
  | text t =>
    obtain ⟨ns, hns, hpass⟩ := Pass.escaped (htext t rfl)
    refine ⟨ns, hns, ?_⟩
    simp only [leafActs, hcode, Bool.false_eq_true, if_false]
    exact (hnotes _).append hpass
  | code t =>
    obtain ⟨ns, hns, hpass⟩ := passes_typewriter
      (Rendering.restored (Rendering.tableAsked r.table span) t (Rendering.innerSpan t span)).1
    refine ⟨ns, hns, ?_⟩
    simp only [leafActs, hmath]
    exact (hnotes _).append (.write hpass .content)
  | html t =>
    obtain ⟨ns, hns, hpass⟩ := passes_typewriter (Rendering.restored r.table t span).1
    exact ⟨ns, hns, (hnotes (.htmlFound :: _)).append (.write hpass .content)⟩
  | softBreak =>
    refine ⟨[], .nil, ?_⟩
    simp only [leafActs]
    cases settings.softBreak with
    | hard => exact hbreak
    | space => exact .still rfl
  | hardBreak => exact ⟨[], .nil, hbreak⟩
  | rule =>
    have hrule : Passes horizontalRule [] := passes_of_scan rfl
      (rfl : scan .text horizontalRule = ([], .command "par".toList)) ⟨by decide, by decide⟩
    exact ⟨[], .nil, .write hrule .content⟩
  | taskMarker checked =>
    have hbox : Pass [.write .content (taskBox checked)] [] := by
      cases checked <;> exact .write (passes_fixed rfl rfl) .content
    have hcap : Pass [.cap 0] [] := .still rfl
    exact ⟨[], .nil, hbox.append hcap⟩
  | footnoteReference label => exact ⟨[], .nil, .still rfl⟩

/-- A figure opens nothing that it does not close, whether or not it is commented out. -/
theorem passes_figure {url : Text} {path : Option Text} (h : (path.getD url).all isPlain = true) :
    Passes (figure "\\textwidth".toList url path) [.opens .brace, .closes .brace] := by
  have hcommand : Passes (commandWith "includegraphics".toList
      ("width=".toList ++ "\\textwidth".toList) (path.getD url)) [.opens .brace, .closes .brace] := by
    have hfront : Passes ('\\' :: "includegraphics".toList
        ++ '[' :: ("width=".toList ++ "\\textwidth".toList) ++ [']']) [] := passes_fixed rfl rfl
    have h := hfront.append (passes_braced (passes_plain h))
    simpa [commandWith] using h
  cases path with
  | some path => exact hcommand
  | none =>
    have hpercent : Passes ['%'] [] := passes_fixed rfl rfl
    exact hpercent.append hcommand

theorem pass_imageActs {settings : Settings} (hwidth : settings.imageWidth = "\\textwidth".toList)
    (resolve : Resolver) {target : Target} (h : target.form = some .inline →
      ((resolve (target.url.getD [])).getD (target.url.getD [])).all isPlain = true) :
    ∃ ns, Mark.Balanced ns ∧ Pass (imageActs settings resolve target) ns := by
  unfold imageActs
  split
  · next hform =>
    have hnotes : Pass (if (resolve (target.url.getD [])).isNone
        then [Act.note (.imageUnresolved (target.url.getD []))] else []) [] := by
      split <;> exact .still rfl
    rw [hwidth]
    exact ⟨_, balanced_braces, hnotes.append (.line (passes_figure (h hform)) .figure)⟩
  · exact ⟨[], .nil, .still rfl⟩

/-! ## Verbatim text -/

/-- Code is being written. With what comes next of it, nothing that was read of it ends it. -/
def InVerbatim (ms : List Mark) (rest : Text) (f : Formatter) : Prop :=
  ∃ seen, ReadTo ms (.verbatim seen) f ∧ ¬ endsVerbatim <:+: seen ++ rest

namespace InVerbatim

variable {ms : List Mark} {rest t : Text} {f : Formatter}

/-- Blanks do not take part in the end of code. -/
theorem blank (h : InVerbatim ms rest f) (ht : ∀ c ∈ t, c = '\n' ∨ c = ' ') :
    InVerbatim ms (t ++ rest) f := by
  obtain ⟨seen, hread, hgoes⟩ := h
  have hblank : ∀ c ∈ t, c ∉ endsVerbatim := fun c hc => by
    rcases ht c hc with rfl | rfl <;> decide
  exact ⟨seen, hread, fun hstands => hgoes (infix_of_infix_append hblank hstands)⟩

theorem put (h : InVerbatim ms (t ++ rest) f) (origin : Origin) :
    InVerbatim ms rest (f.put origin t) := by
  obtain ⟨seen, ⟨hclosed, hscan⟩, hgoes⟩ := h
  have hstands : endsVerbatim <:+: seen ++ t → endsVerbatim <:+: seen ++ (t ++ rest) := fun h =>
    List.append_assoc seen t rest ▸ h.trans (List.prefix_append _ rest).isInfix
  obtain ⟨seen', hsuffix, hread⟩ := scan_verbatim fun h => hgoes (hstands h)
  refine ⟨seen', ⟨hclosed, ?_⟩, fun h => hgoes ?_⟩
  · rw [Formatter.text_put, scan_append_of hscan hread, List.append_nil]
  · obtain ⟨front, hfront⟩ := hsuffix
    rw [← List.append_assoc, ← hfront, List.append_assoc]
    exact h.trans (List.suffix_append front _).isInfix

theorem flush (h : InVerbatim ms rest f) : InVerbatim ms rest f.flush := by
  obtain ⟨seen, ⟨hclosed, hscan⟩, hgoes⟩ := (h.blank (blank_gap f.spacing)).put .gap
  obtain ⟨htext, hflush⟩ := flush_of_closed (f := f) hclosed
  exact ⟨seen, ⟨hflush, by rwa [htext, ← Formatter.text_put f .gap]⟩, hgoes⟩

theorem write (h : InVerbatim ms (t ++ rest) f) (origin : Origin) :
    InVerbatim ms rest (f.perform [.write origin t]) := h.flush.put origin

theorem notes (h : InVerbatim ms rest f) (ns : List Notice) :
    InVerbatim ms rest (f.perform (ns.map .note)) := by
  induction ns generalizing f with
  | nil => exact h
  | cons n ns ih =>
    obtain ⟨seen, ⟨hclosed, hscan⟩, hgoes⟩ := h
    exact ih ⟨seen, ⟨hclosed, hscan⟩, hgoes⟩

/-- Code begins on a line of its own. -/
theorem openActs {ms : List Mark} {f : Formatter} (h : Reads ms f) (hrest : ¬ endsVerbatim <:+: rest)
    (depth : Nat) (language : Option Text) :
    InVerbatim (ms ++ [.opens (.environment "verbatim".toList)]) rest
      (f.perform (openActs depth (.codeBlock language))) := by
  obtain ⟨m, hm, hclosed, hscan⟩ := (h.add 1).flush
  refine ⟨[], ⟨hclosed, ?_⟩, hrest⟩
  exact (congrArg (scan .text) (Formatter.text_put _ _ _)).trans
    (scan_append_of hscan (scan_beginsVerbatim hm))

/-- Behind its last line, code ends. -/
theorem closeActs (h : InVerbatim ms rest f) (lineOpen : Bool) (links : List Bool)
    (language : Option Text) : Reads (ms ++ [.closes (.environment "verbatim".toList)])
      (f.perform (closeActs lineOpen links (.codeBlock language))) := by
  have hline : InVerbatim ms rest
      (f.perform (if lineOpen then [.write .content ['\n']] else [])) := by
    cases lineOpen with
    | false => exact h
    | true => exact (h.blank (t := ['\n']) fun c hc => .inl (List.mem_singleton.1 hc)).write .content
  obtain ⟨seen, ⟨hclosed, hscan⟩, -⟩ := hline.flush
  refine ⟨.text, trivial, ?_⟩
  rw [Rendering.closeActs, Formatter.perform_append]
  refine ⟨hclosed, ?_⟩
  exact (congrArg (scan .text) (Formatter.text_put _ _ _)).trans
    (scan_append_of hscan (scan_endsVerbatim seen))

end InVerbatim

/-! ## Open containers -/

theorem bracket?_of_isSkipped {t : Tag} (h : t.isSkipped = true) : t.bracket? = none := by
  cases t <;> first | rfl | cases h

/-! ## Payloads -/

theorem restored_ofOffsets_nil {r r' : Rendering} {n : Nat} (htable : r.table = .ofOffsets [] n)
    {t t' : Text} {span : Span} (h : r.restore t span = .ok (t', r')) :
    (Rendering.restored r.table t span).1 = t := by
  rw [Rendering.restore_eq, htable] at h
  rw [Rendering.restored, htable]
  rcases hr : (Math.Table.ofOffsets [] n).restore t span with ⟨result, ns, table⟩
  cases result with
  | ok t'' => exact (Math.Table.restore_ofOffsets_nil hr).1
  | error fault =>
    rw [hr] at h
    cases h

/-- Text that is written without an error is that of its event. -/
theorem restored_text {settings : Settings} {r r' : Rendering} {n : Nat}
    (htable : r.table = .ofOffsets [] n) (h0 : r.skipDepth = 0) {t : Text} {span : Span}
    (h : r.step settings (.text t) span = .ok r') : (Rendering.restored r.table t span).1 = t := by
  unfold Rendering.step at h
  rw [if_neg (by omega)] at h
  obtain ⟨⟨t', r1⟩, h1, -⟩ := Rendering.exists_of_bind h
  exact restored_ofOffsets_nil htable h1

/-- No code span is math. -/
theorem mathAt_ofOffsets_nil (n : Nat) (span : Span) :
    Rendering.mathAt (.ofOffsets [] n) span = false := by
  have hcurrent : (Math.Table.ofOffsets [] n).current? = some n := rfl
  simp only [Rendering.mathAt, Math.Table.isRecorded?, Math.Table.advance_ofOffsets_nil, hcurrent,
    Span.length, decide_eq_false_iff_not, Option.map_some, Option.some.injEq, beq_iff_eq]
  omega

theorem codeContents_subset (e : Event) (es : List Event) :
    codeContents es ⊆ codeContents (e :: es) := by
  cases e with
  | start t =>
    cases t with
    | codeBlock language => exact List.subset_cons_self _ _
    | _ => exact List.Subset.refl _
  | _ => exact List.Subset.refl _

/-! ## Along a run -/

variable {settings : Settings} {resolve : Resolver} {n : Nat} {st : List Tag} {last : Option Event}
  {t : Tag} {e : Event} {es : List Event} {ms : List Mark} {r r' : Rendering}

/-- In front of some events, the open brackets are those of the open containers. What comes next in
open code does not end it. -/
structure Bracketed (n : Nat) (st : List Tag) (es : List Event) (ms : List Mark) (r : Rendering) :
    Prop where
  linked : Rendering.Linked r st
  table : r.table = .ofOffsets [] n
  codeOnTop : st.tail.countP Tag.isCodeBlock = 0
  code : r.inCode = (decide (skipping st = 0) && st.head?.any Tag.isCodeBlock)
  opened : Open (brackets (shown st)) ms
  calm : r.inCode = false → Reads ms r.formatter
  verbatim : r.inCode = true → InVerbatim ms (leadingText es) r.formatter

namespace Bracketed

/-- It depends on the text only in what is read of it. -/
theorem congr (h : Bracketed n st es ms r) {table : Math.Table} {b : Bool}
    (hb : r'.beside = { r with table := table, codeLineOpen := b }.beside)
    (htable : table = .ofOffsets [] n) {es' : List Event} {ms' : List Mark}
    (hopened : Open (brackets (shown st)) ms')
    (hcalm : r.inCode = false → Reads ms' r'.formatter)
    (hverbatim : r.inCode = true → InVerbatim ms' (leadingText es') r'.formatter) :
    Bracketed n st es' ms' r' := by
  have hcode : r'.inCode = r.inCode := (congrArg Rendering.inCode hb :)
  refine ⟨h.linked.of_beside hb, (congrArg Rendering.table hb :).trans htable, h.codeOnTop,
    hcode.trans h.code, hopened, ?_, ?_⟩
  · rwa [hcode]
  · rwa [hcode]

theorem hear (h : Bracketed n st es ms r) (ns : List Notice) : Bracketed n st es ms (r.hear ns) := by
  have hnotes : Pass (ns.map .note) [] := .still (by simp [Act.writes])
  refine h.congr (Rendering.beside_hear r ns) h.table h.opened (fun hin => ?_) fun hin => ?_
  · have hread := hnotes _ _ (h.calm hin)
    rwa [List.append_nil, ← Rendering.formatter_hear] at hread
  · rw [Rendering.formatter_hear]
    exact (h.verbatim hin).notes ns

theorem inCode_eq (h : Bracketed n st es ms r) (h0 : skipping st = 0) :
    r.inCode = st.head?.any Tag.isCodeBlock := by
  rw [h.code, decide_eq_true h0, Bool.true_and]

/-- No code is open where a container starts. -/
theorem inCode_of_start (h : Bracketed n st es ms r) {t : Tag}
    (hmay : tame resolve st last (.start t) = true) : r.inCode = false := by
  rw [h.code, head?_isCodeBlock (countP_isCodeBlock_of_start h.codeOnTop (textInCode_of_tame hmay)),
    Bool.and_false]

/-- Inside of what is left out, nothing is written. -/
theorem skip (h : Bracketed n st (e :: es) ms r) (hpos : 0 < skipping st) (he : e.fits st = true)
    (hmay : tame resolve st last e = true) (hlinked : Rendering.Linked (r.skip e) (e.opened st)) :
    Bracketed n (e.opened st) es ms (r.skip e) := by
  have hin : r.inCode = false := by
    rw [h.code, decide_eq_false (Nat.ne_of_gt hpos), Bool.false_and]
  have hout : (decide (skipping (e.opened st) = 0) && (e.opened st).head?.any Tag.isCodeBlock) = false := by
    cases e with
    | start t =>
      have hne : skipping (t :: st) ≠ 0 := by
        rw [skipping_cons]
        omega
      rw [Event.opened, decide_eq_false hne, Bool.false_and]
    | stop t => rw [Event.opened, head?_isCodeBlock h.codeOnTop, Bool.and_false]
    | _ => exact h.code ▸ hin
  rw [Rendering.skip_eq r h.linked.skips he] at hlinked ⊢
  refine ⟨hlinked, h.table, countP_isCodeBlock_opened h.codeOnTop (textInCode_of_tame hmay),
    hin.trans hout.symm, shown_opened hpos he ▸ h.opened, h.calm, fun hcode => ?_⟩
  cases hin.symm.trans hcode

/-- What is written where a container opens decides whether its bracket is open. -/
theorem of_openTag (h : Bracketed n st (.start t :: es) ms r) (h0 : skipping st = 0)
    (hmay : tame resolve st last (.start t) = true) (hlinked : Rendering.Linked (r.openTag t) (t :: st))
    {ms' : List Mark} (hopened : Open (brackets (t :: st)) ms')
    (hcalm : t.isCodeBlock = false → Reads ms' (r.formatter.perform (openActs r.enumDepth t)))
    (hverbatim : t.isCodeBlock = true →
      InVerbatim ms' (leadingText es) (r.formatter.perform (openActs r.enumDepth t))) :
    Bracketed n (t :: st) es ms' (r.openTag t) := by
  have hin := h.inCode_of_start hmay
  obtain ⟨links, -, hb⟩ := Rendering.beside_openTag r t
  have hcode : (r.openTag t).inCode = t.isCodeBlock :=
    (congrArg Rendering.inCode hb :).trans ((congrArg (t.isCodeBlock || ·) hin).trans (Bool.or_false _))
  have hformatter : (r.openTag t).formatter = r.formatter.perform (openActs r.enumDepth t) :=
    (congrArg Rendering.formatter (Rendering.openTag_on r t r.formatter r.asked) :)
  refine ⟨hlinked, (congrArg Rendering.table hb :).trans h.table,
    countP_isCodeBlock_of_start h.codeOnTop (textInCode_of_tame hmay), hcode.trans ?_, ?_, ?_, ?_⟩
  · cases t <;> simp [Tag.isCodeBlock, Tag.isSkipped, h0]
  · rwa [brackets, filterMap_shown_cons h0 bracket?_of_isSkipped]
  · rwa [hcode, hformatter]
  · rwa [hcode, hformatter]

theorem openTag (h : Bracketed n st (.start t :: es) ms r) (h0 : skipping st = 0)
    (hmay : tame resolve st last (.start t) = true) (hlinked : Rendering.Linked (r.openTag t) (t :: st))
    (hcode : ∀ c ∈ codeContents (.start t :: es), ¬ endsVerbatim <:+: c) :
    ∃ ms', Bracketed n (t :: st) es ms' (r.openTag t) := by
  have hread := h.calm (h.inCode_of_start hmay)
  have hopened := h.opened
  rw [shown_eq_self h0] at hopened
  cases ht : t.isCodeBlock with
  | true =>
    obtain ⟨language, rfl⟩ := exists_eq_codeBlock ht
    have hverbatim := InVerbatim.openActs hread (hcode _ List.mem_cons_self) r.enumDepth language
    have hopened' : Open (brackets (.codeBlock language :: st)) _ := hopened.opens _
    exact ⟨_, h.of_openTag h0 hmay hlinked hopened' (fun hout => by cases hout) fun _ => hverbatim⟩
  | false =>
    have hlink : ∀ target, t = .link target → target.form = some .inline →
        (target.url.getD []).all isPlain = true := by
      rintro target rfl hform
      exact isPlain_url_of_tame hmay hform
    obtain ⟨ns, hpass, hns⟩ := pass_openActs ht hlink r.enumDepth
    refine ⟨_, h.of_openTag h0 hmay hlinked (hns hopened) (fun _ => hpass _ _ hread) fun hout => ?_⟩
    rw [ht] at hout
    cases hout

theorem closeTag (h : Bracketed n (t :: st) (.stop t :: es) ms r) (h0 : skipping (t :: st) = 0)
    (hr : r.closeTag t = .ok r') (hlinked : Rendering.Linked r' st) :
    ∃ ms', Bracketed n st es ms' r' := by
  have hst : skipping st = 0 := by
    rw [skipping_cons] at h0
    omega
  have hin : r.inCode = t.isCodeBlock := h.inCode_eq h0
  obtain ⟨links, -, hb⟩ := Rendering.beside_closeTag hr
  have hcode : r'.inCode = false := by
    refine (congrArg Rendering.inCode hb :).trans ((congrArg (!t.isCodeBlock && ·) hin).trans ?_)
    exact Bool.not_and_self _
  have hformatter : r'.formatter = r.formatter.perform (closeActs r.codeLineOpen r.openLinks t) :=
    (congrArg Rendering.formatter
      (Except.ok.inj (hr.symm.trans (Rendering.closeTag_on hr r.formatter r.asked))) :)
  have hgroups := h.linked.groups
  have hopened := h.opened
  rw [shown_eq_self h0] at hopened hgroups
  -- Whatever is written, the brackets around the container remain open.
  have hclosed : ∀ {ms' : List Mark}, Open (brackets st) ms' → Reads ms' r'.formatter →
      Bracketed n st es ms' r' := fun hopened hread => by
    refine ⟨hlinked, (congrArg Rendering.table hb :).trans h.table, ?_, hcode.trans ?_,
      (shown_eq_self hst).symm ▸ hopened, fun _ => hread, fun hout => ?_⟩
    · exact Nat.eq_zero_of_le_zero (h.codeOnTop ▸ (List.tail_sublist st).countP_le)
    · have hout : st.head?.any Tag.isCodeBlock = false := head?_isCodeBlock h.codeOnTop
      rw [hout, Bool.and_false]
    · rw [hcode] at hout
      cases hout
  rw [hformatter] at hclosed
  cases ht : t.isCodeBlock with
  | true =>
    obtain ⟨language, rfl⟩ := exists_eq_codeBlock ht
    have hread := (h.verbatim (hin.trans ht)).closeActs r.codeLineOpen r.openLinks language
    exact ⟨_, hclosed hopened.closes hread⟩
  | false =>
    have hlink : ∀ target, t = .link target →
        r.openLinks.head? = some (decide (target.form = some .inline)) := by
      rintro target rfl
      rw [hgroups]
      rfl
    obtain ⟨ns, hpass, hns⟩ := pass_closeActs ht hlink r.codeLineOpen
    exact ⟨_, hclosed (hns hopened) (hpass _ _ (h.calm (hin.trans ht)))⟩

theorem leaf (h : Bracketed n st (e :: es) ms r) (h0 : skipping st = 0)
    (hmay : tame resolve st last e = true) (he : e.isLeaf = true) {span : Span}
    (hr : r.step settings e span = .ok r') : ∃ ms', Bracketed n st es ms' r' := by
  have hzero : r.skipDepth = 0 := h.linked.skips.trans h0
  have hin := h.inCode_eq h0
  obtain ⟨hq, b, -, hb⟩ := Rendering.beside_leaf he hzero hr
  have htable := hq.eq_ofOffsets_nil h.table
  have hformatter : r'.formatter = r.formatter.perform (leafActs settings r span e) := by
    rw [Rendering.formatter_step hr, Rendering.acts_of_isLeaf hzero he]
  cases hcode : r.inCode with
  | true =>
    -- Only text stands in code, and it is written as it is.
    have htext : e.isText = true := by
      have htext := textInCode_of_tame hmay
      rw [Placement.textInCode, ← hin, hcode] at htext
      cases e with
      | start | stop => cases he
      | _ => exact htext
    obtain ⟨t, rfl⟩ : ∃ t, e = .text t := by
      cases e with
      | text t => exact ⟨t, rfl⟩
      | _ => cases htext
    have hwritten := ((h.verbatim hcode).notes (Rendering.restored r.table t span).2).write .content
    refine ⟨ms, h.congr hb htable h.opened (fun hout => ?_) fun _ => ?_⟩
    · rw [hcode] at hout
      cases hout
    · rw [hformatter]
      simp only [leafActs, restored_text h.table hzero hr, hcode, if_true, Formatter.perform_append]
      exact hwritten
  | false =>
    have hmath : Rendering.mathAt r.table span = false := h.table ▸ mathAt_ofOffsets_nil n span
    have htext : ∀ t, e = .text t →
        ¬ ['$', '$'] <:+: Text.decodeReferences (Rendering.restored r.table t span).1 := by
      rintro t rfl
      rw [restored_text h.table hzero hr]
      exact not_infix_of_tame hmay (hin.symm.trans hcode)
    obtain ⟨ns, hns, hpass⟩ := pass_leafActs settings hcode hmath htext
    refine ⟨ms ++ ns, h.congr hb htable (h.opened.append hns) (fun _ => ?_) fun hout => ?_⟩
    · rw [hformatter]
      exact hpass _ _ (h.calm hcode)
    · rw [hcode] at hout
      cases hout

/-- An event that is taken by itself keeps the open brackets those of the open containers. -/
theorem step (h : Bracketed n st (e :: es) ms r) (he : e.fits st = true)
    (hmay : tame resolve st last e = true) (hi : r.startsImage? e = none)
    (hcode : ∀ c ∈ codeContents (e :: es), ¬ endsVerbatim <:+: c) {span : Span}
    (hr : r.step settings e span = .ok r') : ∃ ms', Bracketed n (e.opened st) es ms' r' := by
  have hlinked := h.linked.step he hi hr
  rcases Nat.eq_zero_or_pos r.skipDepth with hzero | hpos
  · have h0 : skipping st = 0 := h.linked.skips.symm.trans hzero
    have hr' := hr
    unfold Rendering.step at hr'
    rw [if_neg (by omega)] at hr'
    cases e with
    | start t =>
      cases hr'
      exact h.openTag h0 hmay hlinked hcode
    | stop t =>
      obtain ⟨outer, rfl⟩ := eq_cons_of_fits he
      exact h.closeTag h0 hr' hlinked
    | _ => exact h.leaf h0 hmay rfl hr
  · unfold Rendering.step at hr
    rw [if_pos hpos] at hr
    cases hr
    exact ⟨ms, h.skip (h.linked.skips ▸ hpos) he hmay hlinked⟩

/-- So does an image with its end. -/
theorem image (hwidth : settings.imageWidth = "\\textwidth".toList) {target : Target} {z : Event}
    (h : Bracketed n st (.start (.image target) :: z :: es) ms r)
    (hmay : tame resolve st last (.start (.image target)) = true) :
    ∃ ms', Bracketed n st es ms' (r.image settings resolve target) := by
  have hin := h.inCode_of_start hmay
  obtain ⟨ns, hns, hpass⟩ := pass_imageActs hwidth resolve (isPlain_path_of_tame hmay)
  refine ⟨ms ++ ns, h.congr (Rendering.beside_image settings resolve r target) h.table
    (h.opened.append hns) (fun _ => ?_) fun hout => ?_⟩
  · rw [Rendering.formatter_image]
    exact hpass _ _ (h.calm hin)
  · rw [hin] at hout
    cases hout

/-- Along a run, the open brackets are those of the open containers. -/
theorem runs (hwidth : settings.imageWidth = "\\textwidth".toList) {xs : List Located}
    (hruns : Rendering.Runs settings resolve xs r r') : ∀ {st : List Tag} {last : Option Event}
    {ms : List Mark}, Bracketed n st (eventsOf xs) ms r →
      placed (tame resolve) st last (eventsOf xs) = true →
      (∀ c ∈ codeContents (eventsOf xs), ¬ endsVerbatim <:+: c) →
      ∃ ms', Bracketed n (openTags st (eventsOf xs)) [] ms' r' := by
  induction hruns with
  | nil r => exact fun {st last ms} h _ _ => ⟨ms, h⟩
  | @event e rest r r1 r2 hi hs _ ih =>
    intro st last ms h hp hcode
    obtain ⟨hfits, hmay, hp⟩ := placed_cons hp
    rw [eventsOf_cons] at hcode
    have hi : (r.hear e.notices).startsImage? e.event = none :=
      (Rendering.startsImage?_hear r e.notices e.event).trans hi
    obtain ⟨ms', h'⟩ := (h.hear e.notices).step hfits hmay hi hcode hs
    exact ih h' hp fun c hc => hcode c (codeContents_subset _ _ hc)
  | @image x y rest r r2 target hi hy _ ih =>
    intro st last ms h hp hcode
    rw [eventsOf_cons, eventsOf_cons] at h hcode hp
    obtain ⟨-, hmay, hp⟩ := placed_cons hp
    obtain ⟨-, -, hp⟩ := placed_cons hp
    obtain ⟨hopened, -⟩ := Rendering.opened_image hi hy st
    obtain ⟨hx, -⟩ := Rendering.eq_of_startsImage? hi
    rw [hx] at h hmay
    obtain ⟨ms', h'⟩ := (h.hear x.notices).image hwidth hmay
    rw [hopened] at hp
    rw [eventsOf_cons, eventsOf_cons, openTags_cons, openTags_cons, hopened]
    exact ih (h'.hear y.notices) hp fun c hc =>
      hcode c (codeContents_subset _ _ (codeContents_subset _ _ hc))

end Bracketed

theorem bracketed_ofTable (settings : Settings) (n : Nat) (es : List Event) :
    Bracketed n [] es [] (Rendering.ofTable settings (.ofOffsets [] n)) :=
  ⟨⟨Rendering.nested_begin rfl rfl, rfl⟩, rfl, rfl, rfl, .base .nil,
    fun _ => ⟨.text, trivial, rfl, rfl⟩, fun h => by cases h⟩

namespace Rendering

/-- The LaTeX of a body is balanced: its braces and environments are nested, whatever stands in its
payloads. No math is in it, its links and figures are plain, and no block of code ends itself. -/
theorem brackets_balanced {settings : Settings} (hwidth : settings.imageWidth = "\\textwidth".toList)
    {resolve : Resolver} {xs : List Located} (h : WellNested (tame resolve) xs)
    (hcode : ∀ c ∈ codeContents (eventsOf xs), ¬ endsVerbatim <:+: c) {n : Nat} {ts : List Notice}
    (hok : (bodyOf settings resolve n xs ts).error = none) :
    ∃ ms, marksOf? (bodyOf settings resolve n xs ts).latex = some ms ∧ Mark.Balanced ms := by
  obtain ⟨r, hruns⟩ := runs_of_bodyOf hok
  obtain ⟨ms, hr⟩ := Bracketed.runs hwidth hruns (bracketed_ofTable settings n _) h.1 hcode
  rw [h.2] at hr
  have hts := hr.hear ts
  have hread : Reads ms (((r.hear ts).formatter.cap 1).add 1) := ((hts.calm hts.code).cap 1).add 1
  obtain ⟨m, hm, -, hscan⟩ := hread.flush
  rw [(bodyOf_of_runs hruns ts).2]
  exact ⟨ms, marksOf?_of_calm hscan hm, hr.opened.balanced⟩

/-- Braces and commands in payloads open and close nothing around them. -/
theorem brackets_balanced_payloads :
    let link : Target := ⟨some "u".toList, none, some .inline, none⟩
    let xs : List Located := [⟨.start .blockQuote, ⟨0, 0⟩, []⟩, ⟨.start .emphasis, ⟨0, 0⟩, []⟩,
      ⟨.text "\x7d\\end\x7bquote\x7d".toList, ⟨0, 12⟩, []⟩, ⟨.start (.link link), ⟨13, 13⟩, []⟩,
      ⟨.code "\x7b\\".toList, ⟨13, 15⟩, []⟩, ⟨.stop (.link link), ⟨15, 15⟩, []⟩,
      ⟨.stop .emphasis, ⟨15, 15⟩, []⟩, ⟨.start (.codeBlock none), ⟨15, 15⟩, []⟩,
      ⟨.text "\x7b\\end\x7bverb".toList, ⟨15, 25⟩, []⟩, ⟨.stop (.codeBlock none), ⟨25, 25⟩, []⟩,
      ⟨.start (.image link), ⟨25, 25⟩, []⟩, ⟨.stop (.image link), ⟨25, 25⟩, []⟩,
      ⟨.stop .blockQuote, ⟨25, 25⟩, []⟩]
    let resolve : Resolver := fun _ => none
    WellNested (tame resolve) xs ∧ (∀ c ∈ codeContents (eventsOf xs), ¬ endsVerbatim <:+: c) ∧
      (bodyOf {} resolve 25 xs []).error = none ∧
      ∃ ms, marksOf? (bodyOf {} resolve 25 xs []).latex = some ms ∧ Mark.Balanced ms := by
  intro link xs resolve
  have hnested : WellNested (tame resolve) xs := by decide +kernel
  have hcode : ∀ c ∈ codeContents (eventsOf xs), ¬ endsVerbatim <:+: c := by decide +kernel
  have hok : (bodyOf {} resolve 25 xs []).error = none := by decide +kernel
  exact ⟨hnested, hcode, hok, brackets_balanced rfl hnested hcode hok⟩

end Rendering
end Latex
end Texdown
