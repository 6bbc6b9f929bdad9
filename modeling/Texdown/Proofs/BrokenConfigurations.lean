import Texdown.CommandLine.Session
import Texdown.Proofs.Archives
import Texdown.Proofs.Places
import Mathlib.Logic.Function.Iterate

/-!
# Broken configurations

A configuration that cannot be used is an argument that cannot be used: there is no file, or it may not be
read, or it is no document of its format, or the document is something else than a mapping. Some things are
worse than that and end a session. The system does not tell what stands at a path; what a file holds is no
text; the table of tools in a project file is no table. The last two concern files that nobody named, as a
search opens every project file on its way up. Of the reader of YAML nothing is assumed but that it has no error
but its own.

Results:
* `ofProject_spec`, `ofFile_spec`: what comes of a project file, and of a file that is named.
* `accepts_spec`: what a search makes of a candidate.
* `search_eq_iff`: a search ends at the first candidate that configures, or at one that breaks in front of it.
* `candidates_eq`: the candidates stand in the directory, in the one above, and so on up to the root.
* `broken_iff`: loading ends with a mapping or an argument error if and only if nothing breaks.
* `number_of_tools_unhandled`: a number in place of the table of tools ends loading and searching with an
  error that nothing handles.
-/
namespace Texdown

/-! ## Directories above a directory -/

namespace Path

variable {ps : List Text}

theorem root_ofParts_slash (hps : ∀ n ∈ ps, IsPart n) : root (ofParts ['/'] ps) = ['/'] := by
  cases ps with
  | nil => rfl
  | cons name names =>
    obtain ⟨hne, -, hslash⟩ := hps name List.mem_cons_self
    obtain ⟨c, rest, rfl⟩ := List.exists_cons_of_ne_nil hne
    have hc : c ≠ '/' := fun he => hslash (he ▸ List.mem_cons_self)
    have htext : ∃ more, ofParts ['/'] ((c :: rest) :: names) = '/' :: c :: more := by
      cases names with
      | nil => exact ⟨rest, by simp [ofParts]⟩
      | cons next names => exact ⟨rest ++ '/' :: List.intercalate ['/'] (next :: names), by simp [ofParts]⟩
    obtain ⟨more, htext⟩ := htext
    rw [htext]
    unfold root
    split
    · next h => exact absurd (List.cons.inj (List.cons.inj h).2).1 hc
    · next h => exact absurd (List.cons.inj (List.cons.inj h).2).1 hc
    · rfl
    · next h => exact absurd rfl (h (c :: more))

theorem parent_ofParts_slash (hps : ∀ n ∈ ps, IsPart n) :
    parent (ofParts ['/'] ps) = ofParts ['/'] ps.dropLast := by
  rw [parent, root_ofParts_slash hps, parts_ofParts (by simp) hps]

theorem iterate_parent_ofParts (hps : ∀ n ∈ ps, IsPart n) (k : Nat) :
    parent^[k] (ofParts ['/'] ps) = ofParts ['/'] (ps.take (ps.length - k)) := by
  induction k with
  | zero => simp
  | succ k ih =>
    rw [Function.iterate_succ_apply', ih, parent_ofParts_slash fun n hn => hps n (List.mem_of_mem_take hn),
      List.dropLast_eq_take, List.take_take, List.length_take]
    congr 2
    omega

/-- The directories above one are those that its parent leads to, up to the root. -/
theorem ancestors_eq (hps : ∀ n ∈ ps, IsPart n) :
    ancestors ps = (List.range (ps.length + 1)).map fun k => parent^[k] (ofParts ['/'] ps) := by
  rw [ancestors, List.range_eq_range', List.reverse_range', List.map_map, ← List.range_eq_range']
  refine List.map_congr_left fun k _ => ?_
  rw [iterate_parent_ofParts hps, Function.comp_apply]
  congr 2
  omega

end Path

namespace Config

variable {readYaml : YamlReader} {path : Text} {data : Bytes} {seen : Except FileProblem FileEntry} {e : Error}
  {es : Entries}

/-! ## Project files -/

/-- What a project file holds is a document. -/
def Opens (data : Bytes) (document : Value) : Prop := (Text.ofUtf8? data).bind Toml.read? = some document

/-- A project file with a section for the program. -/
inductive HasSection : Bytes → Entries → Prop
  | intro {data : Bytes} {document : Value} {tools es : Entries} (hopens : Opens data document)
      (htools : document.field? "tool".toList = some (.mapping tools))
      (hes : (Value.mapping tools).field? "mdtex".toList = some (.mapping es)) : HasSection data es

/-- What a project file holds is no text, or its table of tools is no table. -/
inductive Spoilt : Bytes → Error → Prop
  | undecodable {data : Bytes} (h : Text.ofUtf8? data = none) : Spoilt data .undecodable
  | noTools {data : Bytes} {document tools : Value} (hopens : Opens data document)
      (htools : document.field? "tool".toList = some tools) (hother : ∀ es, tools ≠ .mapping es) :
      Spoilt data (noTools tools)

theorem not_opens (h : Text.ofUtf8? data = none) (document : Value) : ¬ Opens data document := by
  rw [Opens, h]
  nofun

section Document

variable {document : Value} (hopens : Opens data document)
include hopens

theorem hasSection_iff : HasSection data es ↔ ∃ tools, document.field? "tool".toList = some (.mapping tools) ∧
    (Value.mapping tools).field? "mdtex".toList = some (.mapping es) := by
  constructor
  · rintro ⟨hopens', htools, hes⟩
    obtain rfl := Option.some.inj (hopens.symm.trans hopens')
    exact ⟨_, htools, hes⟩
  · rintro ⟨tools, htools, hes⟩
    exact .intro hopens htools hes

theorem spoilt_iff : Spoilt data e ↔ ∃ tools, document.field? "tool".toList = some tools ∧
    (∀ es, tools ≠ .mapping es) ∧ e = noTools tools := by
  constructor
  · rintro (h | ⟨hopens', htools, hother⟩)
    · exact absurd hopens (not_opens h document)
    · obtain rfl := Option.some.inj (hopens.symm.trans hopens')
      exact ⟨_, htools, hother, rfl⟩
  · rintro ⟨tools, htools, hother, rfl⟩
    exact .noTools hopens htools hother

end Document

theorem HasSection.unique {es' : Entries} (h : HasSection data es) (h' : HasSection data es') : es = es' := by
  obtain ⟨hopens, htools, hes⟩ := h
  obtain ⟨_, htools', hes'⟩ := (hasSection_iff hopens).1 h'
  cases htools.symm.trans htools'
  cases hes.symm.trans hes'
  rfl

theorem Spoilt.unique {e' : Error} (h : Spoilt data e) (h' : Spoilt data e') : e' = e := by
  cases h with
  | undecodable h =>
    cases h' with
    | undecodable => rfl
    | noTools hopens => exact absurd hopens (not_opens h _)
  | noTools hopens htools =>
    obtain ⟨_, htools', -, rfl⟩ := (spoilt_iff hopens).1 h'
    rw [Option.some.inj (htools.symm.trans htools')]

/-- A spoilt project file has no section. -/
theorem Spoilt.not_hasSection (h : Spoilt data e) : ¬ HasSection data es := by
  rintro ⟨hopens, htools, -⟩
  obtain ⟨_, htools', hother, -⟩ := (spoilt_iff hopens).1 h
  exact hother _ (Option.some.inj (htools'.symm.trans htools))

theorem Spoilt.not_isHandled (h : Spoilt data e) : CommandLine.isHandled e = false := by
  cases h <;> rfl

/-- What comes of what a project file holds. -/
inductive ProjectOutcome (data : Bytes) : Except Error Entries → Prop
  | spoilt {e : Error} (h : Spoilt data e) : ProjectOutcome data (.error e)
  | refused (message : Text) (hclean : ∀ e, ¬ Spoilt data e) (hsection : ∀ es, ¬ HasSection data es) :
      ProjectOutcome data (.error (.badArgument message))
  | empty (hclean : ∀ e, ¬ Spoilt data e) (hsection : ∀ es, ¬ HasSection data es) :
      ProjectOutcome data (.ok [])
  | read {es : Entries} (hclean : ∀ e, ¬ Spoilt data e) (h : HasSection data es) :
      ProjectOutcome data (.ok es)

/-- A document is judged by its table of tools, and that by its section. -/
theorem section?_spec (path : Text) {document : Value} (hopens : Opens data document) :
    ProjectOutcome data (section? path document) := by
  unfold section?
  split
  · next htools =>
    refine .empty (fun e h => ?_) fun es h => ?_
    · obtain ⟨_, htools', -⟩ := (spoilt_iff hopens).1 h
      cases htools.symm.trans htools'
    · obtain ⟨_, htools', -⟩ := (hasSection_iff hopens).1 h
      cases htools.symm.trans htools'
  · next tools htools =>
    have hclean : ∀ e, ¬ Spoilt data e := fun e h => by
      obtain ⟨_, htools', hother, -⟩ := (spoilt_iff hopens).1 h
      exact hother tools (Option.some.inj (htools.symm.trans htools')).symm
    have hvalue : ∀ es, HasSection data es →
        (Value.mapping tools).field? "mdtex".toList = some (.mapping es) := fun es h => by
      obtain ⟨_, htools', hes⟩ := (hasSection_iff hopens).1 h
      cases htools.symm.trans htools'
      exact hes
    split
    · next hnone => exact .empty hclean fun es h => nomatch hnone.symm.trans (hvalue es h)
    · next es hes => exact .read hclean ((hasSection_iff hopens).2 ⟨tools, htools, hes⟩)
    · next v hother hv =>
      exact .refused _ hclean fun es h => hother es (Option.some.inj (hv.symm.trans (hvalue es h)))
  · next tools hother htools =>
    exact .spoilt (.noTools hopens htools fun es h => hother es h)

theorem ofProject_spec (path : Text) (data : Bytes) : ProjectOutcome data (ofProject path (some data)) := by
  cases ht : Text.ofUtf8? data with
  | none =>
    simp only [ofProject, decode, ht, bind, Except.bind]
    exact .spoilt (.undecodable ht)
  | some t =>
    have hread : (Text.ofUtf8? data).bind Toml.read? = Toml.read? t := by rw [ht, Option.bind_some]
    simp only [ofProject, decode, ht, bind, Except.bind]
    split
    · next hnone =>
      have hopens : ∀ document, ¬ Opens data document := fun document h => by
        rw [Opens, hread, hnone] at h
        cases h
      refine .refused _ ?_ ?_
      · rintro e (h | ⟨h, -⟩)
        · cases ht.symm.trans h
        · exact hopens _ h
      · rintro es ⟨h, -⟩
        exact hopens _ h
    · next document hdocument => exact section?_spec path (hread.trans hdocument)

theorem ofProject_of_spoilt (path : Text) (h : Spoilt data e) : ofProject path (some data) = .error e := by
  have houtcome := ofProject_spec path data
  generalize ofProject path (some data) = r at houtcome
  cases houtcome with
  | spoilt h' => rw [h.unique h']
  | refused message hclean => exact absurd h (hclean e)
  | empty hclean => exact absurd h (hclean e)
  | read hclean => exact absurd h (hclean e)

/-! ## Loading -/

/-- The system does not tell what stands at a path. -/
inductive Untold (path : Text) : Except FileProblem FileEntry → Error → Prop
  | tooLong : Untold path (.error .nameTooLong) (.system path .nameTooLong)
  | refused (reason : Text) : Untold path (.error (.refused reason)) (.system path (.refused reason))

theorem Untold.not_isHandled (h : Untold path seen e) : CommandLine.isHandled e = false := by
  cases h <;> rfl

/-- A file is named like a project file. -/
def IsProject (path : Text) : Prop := Text.lower (Path.name path) = projectName

/-- A configuration that is named breaks: the system does not tell, or a project file is spoilt, or a file of a
known format holds no text. -/
inductive Breaks (path : Text) : Except FileProblem FileEntry → Error → Prop
  | untold {seen : Except FileProblem FileEntry} {e : Error} (h : Untold path seen e) : Breaks path seen e
  | project {data : Bytes} {e : Error} (hname : IsProject path) (h : Spoilt data e) :
      Breaks path (.ok (.file data)) e
  | undecodable {data : Bytes} {format : Format} (hname : ¬ IsProject path)
      (hformat : Format.ofSuffix? (Path.suffix path) = some format) (h : Text.ofUtf8? data = none) :
      Breaks path (.ok (.file data)) .undecodable

theorem Breaks.not_isHandled (h : Breaks path seen e) : CommandLine.isHandled e = false := by
  cases h with
  | untold h => exact h.not_isHandled
  | project _ h => exact h.not_isHandled
  | undecodable => rfl

theorem Untold.unique {e' : Error} (h : Untold path seen e) (h' : Untold path seen e') : e' = e := by
  cases h <;> cases h' <;> rfl

theorem Breaks.unique {e' : Error} (h : Breaks path seen e) (h' : Breaks path seen e') : e' = e := by
  cases h with
  | untold h =>
    cases h' with
    | untold h' => exact h.unique h'
    | project | undecodable => cases h
  | project hname h =>
    cases h' with
    | untold h' => cases h'
    | project _ h' => exact h.unique h'
    | undecodable hother => exact absurd hname hother
  | undecodable hother =>
    cases h' with
    | untold h' => cases h'
    | project hname => exact absurd hname hother
    | undecodable => rfl

/-- What comes of a configuration that is named. -/
inductive LoadOutcome (path : Text) (seen : Except FileProblem FileEntry) : Except Error Entries → Prop
  | broken {e : Error} (h : Breaks path seen e) : LoadOutcome path seen (.error e)
  | refused (message : Text) (hclean : ∀ e, ¬ Breaks path seen e) :
      LoadOutcome path seen (.error (.badArgument message))
  | read (es : Entries) (hclean : ∀ e, ¬ Breaks path seen e) : LoadOutcome path seen (.ok es)

/-- A reader of YAML gives a value, or its own error about the text. -/
def Settles (readYaml : YamlReader) : Prop := ∀ t e, readYaml t ≠ .error (.failed e)

theorem Settles.read_ne_failed (h : Settles readYaml) (format : Format) (t : Text) (e : Error) :
    format.read readYaml t ≠ .error (.failed e) := by
  cases format with
  | yaml => exact h _ e
  | toml =>
    rw [Format.read]
    cases Toml.read? t <;> nofun
  | json =>
    rw [Format.read]
    cases Json.read? (Text.normalizeNewlines t) <;> nofun

theorem ofHeld_none (readYaml : YamlReader) (path : Text) :
    ∃ message, ofHeld readYaml path none = .error (.badArgument message) := by
  unfold ofHeld
  split
  · exact ⟨_, rfl⟩
  · split <;> exact ⟨_, rfl⟩

/-- A project file is judged as one, whatever reads YAML. -/
theorem ofFile_of_isProject (h : IsProject path) (data : Bytes) :
    ofFile readYaml path (.ok (.file data)) = ofProject path (some data) := by
  rw [IsProject] at h
  rw [ofFile, ofHeld, if_pos h]

section Reader

variable (hyaml : Settles readYaml)
include hyaml

theorem ofFormat_spec {format : Format} (hname : ¬ IsProject path)
    (hformat : Format.ofSuffix? (Path.suffix path) = some format) (data : Bytes) :
    LoadOutcome path (.ok (.file data)) (ofFormat readYaml path format (some data)) := by
  cases ht : Text.ofUtf8? data with
  | none =>
    simp only [ofFormat, decode, ht, bind, Except.bind]
    exact .broken (.undecodable hname hformat ht)
  | some t =>
    have hclean : ∀ e, ¬ Breaks path (.ok (.file data)) e := by
      rintro e (⟨⟨⟩⟩ | h | ⟨-, -, h⟩)
      · contradiction
      · cases ht.symm.trans h
    simp only [ofFormat, decode, ht, bind, Except.bind]
    split
    · exact .refused _ hclean
    · next hfailed => exact absurd hfailed (hyaml.read_ne_failed format t _)
    · exact .read _ hclean
    · exact .read _ hclean
    · exact .refused _ hclean

theorem ofHeld_spec (path : Text) (data : Bytes) :
    LoadOutcome path (.ok (.file data)) (ofHeld readYaml path (some data)) := by
  unfold ofHeld
  split
  · next hname =>
    have hclean : (∀ e, ¬ Spoilt data e) → ∀ e, ¬ Breaks path (.ok (.file data)) e := by
      rintro h e (⟨⟨⟩⟩ | ⟨-, hspoilt⟩ | ⟨hother, -, -⟩)
      · exact h e hspoilt
      · exact hother hname
    have houtcome := ofProject_spec path data
    generalize ofProject path (some data) = r at houtcome ⊢
    cases houtcome with
    | spoilt h => exact .broken (.project hname h)
    | refused message h => exact .refused message (hclean h)
    | empty h => exact .read [] (hclean h)
    | read h => exact .read _ (hclean h)
  · next hname =>
    split
    · next format hformat => exact ofFormat_spec hyaml hname hformat data
    · next hformat =>
      refine .refused _ ?_
      rintro e (⟨⟨⟩⟩ | ⟨h, -⟩ | ⟨-, h, -⟩)
      · exact hname h
      · cases hformat.symm.trans h

theorem ofFile_spec (path : Text) (seen : Except FileProblem FileEntry) :
    LoadOutcome path seen (ofFile readYaml path seen) := by
  unfold ofFile
  split
  · exact .broken (.untold .tooLong)
  · exact .broken (.untold (.refused _))
  · obtain ⟨message, hrefused⟩ := ofHeld_none readYaml path
    rw [hrefused]
    exact .refused message (by rintro e ⟨⟨⟩⟩)
  · next problem hlong hrefused _ =>
    refine .refused _ ?_
    rintro e ⟨_ | _⟩
    · exact hlong rfl
    · exact hrefused _ rfl
  · exact .refused _ (by rintro e ⟨⟨⟩⟩)
  · exact ofHeld_spec hyaml path _

/-- Loading ends with a mapping or an argument error unless the configuration breaks, and then with the error
that it breaks with. -/
theorem ofFile_refuses_iff (path : Text) (seen : Except FileProblem FileEntry) :
    (((∃ es, ofFile readYaml path seen = .ok es) ∨
        ∃ message, ofFile readYaml path seen = .error (.badArgument message)) ↔ ∀ e, ¬ Breaks path seen e) ∧
    ∀ e, Breaks path seen e → ofFile readYaml path seen = .error e := by
  have houtcome := ofFile_spec hyaml path seen
  generalize ofFile readYaml path seen = r at houtcome
  cases houtcome with
  | @broken e h =>
    -- what breaks is not handled, and argument errors are
    refine ⟨⟨?_, fun hclean => absurd h (hclean e)⟩, fun e' h' => by rw [h.unique h']⟩
    rintro (⟨_, ⟨⟩⟩ | ⟨_, herror⟩)
    cases Except.error.inj herror
    cases h.not_isHandled
  | refused message hclean =>
    exact ⟨⟨fun _ => hclean, fun _ => .inr ⟨message, rfl⟩⟩, fun e h => absurd h (hclean e)⟩
  | read es hclean => exact ⟨⟨fun _ => hclean, fun _ => .inl ⟨es, rfl⟩⟩, fun e h => absurd h (hclean e)⟩

end Reader

/-! ## Searching -/

/-- A candidate configures: a configuration file stands there, or a project file with a section that is not
empty. -/
inductive Configures : Text × Bool → Except FileProblem FileEntry → Prop
  | file {path : Text} {data : Bytes} : Configures (path, false) (.ok (.file data))
  | unreadable {path : Text} : Configures (path, false) (.error .denied)
  | project {path : Text} {data : Bytes} {es : Entries} (h : HasSection data es) (hes : es ≠ []) :
      Configures (path, true) (.ok (.file data))

/-- A candidate breaks a search: the system does not tell what stands there, or a project file is spoilt. -/
inductive Stops : Text × Bool → Except FileProblem FileEntry → Error → Prop
  | untold {path : Text} {isProject : Bool} {seen : Except FileProblem FileEntry} {e : Error}
      (h : Untold path seen e) : Stops (path, isProject) seen e
  | spoilt {path : Text} {data : Bytes} {e : Error} (h : Spoilt data e) :
      Stops (path, true) (.ok (.file data)) e

theorem Stops.not_isHandled {c : Text × Bool} (h : Stops c seen e) : CommandLine.isHandled e = false := by
  cases h with
  | untold h => exact h.not_isHandled
  | spoilt h => exact h.not_isHandled

theorem Stops.unique {e' : Error} {c : Text × Bool} (h : Stops c seen e) (h' : Stops c seen e') : e' = e := by
  cases h with
  | untold h =>
    cases h' with
    | untold h' => exact h.unique h'
    | spoilt => cases h
  | spoilt h =>
    cases h' with
    | untold h' => cases h'
    | spoilt h' => exact h.unique h'

theorem Stops.not_configures {c : Text × Bool} (h : Stops c seen e) : ¬ Configures c seen := by
  cases h with
  | untold h => cases h <;> rintro ⟨⟩
  | spoilt h =>
    rintro (_ | _ | ⟨hsection, -⟩)
    exact h.not_hasSection hsection

/-- A candidate that a search passes over. -/
structure Passed (c : Text × Bool) (seen : Except FileProblem FileEntry) : Prop where
  leaves : ¬ Configures c seen
  goesOn : ∀ e, ¬ Stops c seen e

/-- What a search makes of a candidate. -/
inductive CandidateOutcome (c : Text × Bool) (seen : Except FileProblem FileEntry) :
    Except Error (Bool × List Notice) → Prop
  | configures (h : Configures c seen) : CandidateOutcome c seen (.ok (true, []))
  | stops {e : Error} (h : Stops c seen e) : CandidateOutcome c seen (.error e)
  | passed (ns : List Notice) (h : Passed c seen) : CandidateOutcome c seen (.ok (false, ns))

theorem passed_missing (c : Text × Bool) : Passed c (.error .missing) :=
  ⟨nofun, by rintro e ⟨⟨⟩⟩⟩

theorem passed_unreadable (path : Text) : Passed (path, true) (.error .denied) :=
  ⟨nofun, by rintro e ⟨⟨⟩⟩⟩

/-- A project file is passed over if it is not spoilt and has no section that is not empty. -/
theorem passed_project (hclean : ∀ e, ¬ Spoilt data e) (hsection : ∀ es, HasSection data es → es = []) :
    Passed (path, true) (.ok (.file data)) where
  leaves := by
    rintro (_ | _ | ⟨h, hes⟩)
    exact hes (hsection _ h)
  goesOn := by
    rintro e (⟨⟨⟩⟩ | ⟨h⟩)
    exact hclean e h

theorem acceptsHeld_spec (path : Text) (data : Bytes) :
    CandidateOutcome (path, true) (.ok (.file data)) (acceptsHeld path true (some data)) := by
  unfold acceptsHeld
  have houtcome := ofProject_spec path data
  generalize ofProject path (some data) = r at houtcome ⊢
  cases houtcome with
  | @spoilt e h =>
    -- the error of a spoilt file is never one that the search passes over
    have hstops : CandidateOutcome (path, true) (.ok (.file data)) (.error e) := .stops (.spoilt h)
    cases h <;> exact hstops
  | refused message hclean hsection =>
    exact .passed _ (passed_project hclean fun es h => absurd h (hsection es))
  | empty hclean hsection => exact .passed _ (passed_project hclean fun es h => absurd h (hsection es))
  | @read es hclean h =>
    cases es with
    | nil => exact .passed _ (passed_project hclean fun _ h' => h'.unique h)
    | cons entry es => exact .configures (.project h (List.cons_ne_nil entry es))

theorem accepts_spec (path : Text) (isProject : Bool) (seen : Except FileProblem FileEntry) :
    CandidateOutcome (path, isProject) seen (accepts path isProject seen) := by
  unfold accepts
  split
  · exact .stops (.untold .tooLong)
  · exact .stops (.untold (.refused _))
  · cases isProject with
    | false => exact .configures .unreadable
    | true => exact .passed _ (passed_unreadable path)
  · cases isProject with
    | false => exact .configures .file
    | true => exact acceptsHeld_spec path _
  · next problem hlong hrefused hdenied =>
    refine .passed _ ⟨?_, ?_⟩
    · rintro ⟨⟩
      exact hdenied rfl
    · rintro e ⟨_ | _⟩
      · exact hlong rfl
      · exact hrefused _ rfl
  · exact .passed _ ⟨nofun, by rintro e ⟨⟨⟩⟩⟩

section Search

variable {look : Text → Except FileProblem FileEntry} {before cs : List (Text × Bool)} {c : Text × Bool}

theorem search_cons (path : Text) (isProject : Bool) :
    (search (m := Id) look ((path, isProject) :: cs)).1 =
      match accepts path isProject (look path) with
      | .error e => .error e
      | .ok (true, _) => .ok (some path)
      | .ok (false, _) => (search (m := Id) look cs).1 := by
  rw [search]
  simp only [bind, pure]
  generalize accepts path isProject (look path) = r
  split <;> rfl

theorem search_cons_cases (look : Text → Except FileProblem FileEntry) (c : Text × Bool)
    (cs : List (Text × Bool)) :
    (Configures c (look c.1) ∧ (search (m := Id) look (c :: cs)).1 = .ok (some c.1)) ∨
      (∃ e, Stops c (look c.1) e ∧ (search (m := Id) look (c :: cs)).1 = .error e) ∨
      (Passed c (look c.1) ∧ (search (m := Id) look (c :: cs)).1 = (search (m := Id) look cs).1) := by
  have houtcome := accepts_spec c.1 c.2 (look c.1)
  rw [search_cons]
  generalize accepts c.1 c.2 (look c.1) = r at houtcome ⊢
  cases houtcome with
  | configures h => exact .inl ⟨h, rfl⟩
  | stops h => exact .inr (.inl ⟨_, h, rfl⟩)
  | passed _ h => exact .inr (.inr ⟨h, rfl⟩)

theorem search_of_configures (h : Configures c (look c.1)) :
    (search (m := Id) look (c :: cs)).1 = .ok (some c.1) := by
  rcases search_cons_cases look c cs with ⟨-, heq⟩ | ⟨_, h', -⟩ | ⟨h', -⟩
  · exact heq
  · exact absurd h h'.not_configures
  · exact absurd h h'.leaves

theorem search_of_stops (h : Stops c (look c.1) e) : (search (m := Id) look (c :: cs)).1 = .error e := by
  rcases search_cons_cases look c cs with ⟨h', -⟩ | ⟨_, h', heq⟩ | ⟨h', -⟩
  · exact absurd h' h.not_configures
  · rw [heq, h.unique h']
  · exact absurd h (h'.goesOn e)

theorem search_of_passed (h : Passed c (look c.1)) :
    (search (m := Id) look (c :: cs)).1 = (search (m := Id) look cs).1 := by
  rcases search_cons_cases look c cs with ⟨h', -⟩ | ⟨_, h', -⟩ | ⟨-, heq⟩
  · exact absurd h' h.leaves
  · exact absurd h' (h.goesOn _)
  · exact heq

theorem search_append_of_passed (h : ∀ b ∈ before, Passed b (look b.1)) :
    (search (m := Id) look (before ++ cs)).1 = (search (m := Id) look cs).1 := by
  induction before with
  | nil => rfl
  | cons b before ih =>
    rw [List.cons_append, search_of_passed (h b List.mem_cons_self),
      ih fun b' hb' => h b' (List.mem_cons_of_mem b hb')]

/-- How a search ends: with the first candidate that configures, or with an error at one that stops it; all
candidates before that one are passed over. -/
inductive Ends (look : Text → Except FileProblem FileEntry) (cs : List (Text × Bool)) :
    Except Error (Option Text) → Prop
  | found {before after : List (Text × Bool)} {c : Text × Bool} (hcs : cs = before ++ c :: after)
      (hbefore : ∀ b ∈ before, Passed b (look b.1)) (h : Configures c (look c.1)) :
      Ends look cs (.ok (some c.1))
  | stopped {before after : List (Text × Bool)} {c : Text × Bool} {e : Error} (hcs : cs = before ++ c :: after)
      (hbefore : ∀ b ∈ before, Passed b (look b.1)) (h : Stops c (look c.1) e) : Ends look cs (.error e)
  | none (h : ∀ c ∈ cs, Passed c (look c.1)) : Ends look cs (.ok none)

theorem Ends.cons {r : Except Error (Option Text)} (hc : Passed c (look c.1)) (h : Ends look cs r) :
    Ends look (c :: cs) r := by
  have hcons : ∀ {before : List (Text × Bool)}, (∀ b ∈ before, Passed b (look b.1)) →
      ∀ b ∈ c :: before, Passed b (look b.1) := fun hbefore b hb => by
    rcases List.mem_cons.1 hb with rfl | hb
    · exact hc
    · exact hbefore b hb
  cases h with
  | found hcs hbefore h => exact .found (congrArg (c :: ·) hcs) (hcons hbefore) h
  | stopped hcs hbefore h => exact .stopped (congrArg (c :: ·) hcs) (hcons hbefore) h
  | none h => exact .none (hcons h)

/-- A search ends as it says, and in no other way. -/
theorem search_eq_iff {r : Except Error (Option Text)} :
    (search (m := Id) look cs).1 = r ↔ Ends look cs r := by
  constructor
  · rintro rfl
    induction cs with
    | nil => exact .none nofun
    | cons c cs ih =>
      rcases search_cons_cases look c cs with ⟨h, heq⟩ | ⟨e, h, heq⟩ | ⟨h, heq⟩
      · rw [heq]
        exact .found (List.nil_append _).symm (List.forall_mem_nil _) h
      · rw [heq]
        exact .stopped (List.nil_append _).symm (List.forall_mem_nil _) h
      · rw [heq]
        exact ih.cons h
  · rintro (⟨rfl, hbefore, h⟩ | ⟨rfl, hbefore, h⟩ | h)
    · rw [search_append_of_passed hbefore, search_of_configures h]
    · rw [search_append_of_passed hbefore, search_of_stops h]
    · have hnil : (search (m := Id) look (cs ++ [])).1 = .ok none := search_append_of_passed h
      rwa [List.append_nil] at hnil

end Search

/-- The directory so many steps above another one. -/
def above (directory : Text) (k : Nat) : Text := Path.parent^[k] (Path.ofParts ['/'] (Path.parts directory))

/-- The root is above every directory. -/
theorem above_length (directory : Text) : above directory (Path.parts directory).length = ['/'] := by
  rw [above, Path.iterate_parent_ofParts (Path.forall_isPart directory), Nat.sub_self, List.take_zero]
  rfl

/-- The candidates stand in the directory itself, in the one above, and so on up to the root; in each of them
the configuration files come first, by priority, and then the project file. -/
theorem candidates_eq (directory : Text) :
    candidates directory = (List.range ((Path.parts directory).length + 1)).flatMap fun k =>
      fileNames.map (fun n => (Path.join (above directory k) n, false)) ++
        [(Path.join (above directory k) projectName, true)] := by
  rw [candidates, Path.ancestors_eq (Path.forall_isPart directory), List.flatMap_map]
  rfl

/-! ## Loading and searching -/

/-- Loading ends with a mapping or an argument error if and only if the configuration does not break; otherwise
it ends with an error that a session does not handle. A search ends with the first candidate that configures,
the nearest directory and the name of the highest priority first, and passes over the others; only where it
meets a candidate that breaks it ends with an error, which a session does not handle. -/
theorem broken_iff (hyaml : Settles readYaml) (path : Text) (seen : Except FileProblem FileEntry)
    (look : Text → Except FileProblem FileEntry) (directory : Text) :
    (((∃ es, ofFile readYaml path seen = .ok es) ∨
        ∃ message, ofFile readYaml path seen = .error (.badArgument message)) ↔ ∀ e, ¬ Breaks path seen e) ∧
    (∀ e, Breaks path seen e → ofFile readYaml path seen = .error e ∧ CommandLine.isHandled e = false) ∧
    (∀ r, (find (m := Id) look directory).1 = r ↔ Ends look (candidates directory) r) ∧
    (∀ e, (find (m := Id) look directory).1 = .error e → CommandLine.isHandled e = false) ∧
    above directory (Path.parts directory).length = ['/'] ∧
    candidates directory = (List.range ((Path.parts directory).length + 1)).flatMap fun k =>
      fileNames.map (fun n => (Path.join (above directory k) n, false)) ++
        [(Path.join (above directory k) projectName, true)] := by
  obtain ⟨hrefuses, hbreaks⟩ := ofFile_refuses_iff hyaml path seen
  refine ⟨hrefuses, fun e h => ⟨hbreaks e h, h.not_isHandled⟩, fun r => search_eq_iff, fun e h => ?_,
    above_length directory, candidates_eq directory⟩
  obtain ⟨-, -, hstops⟩ | ⟨-, -, hstops⟩ := search_eq_iff.1 h
  exact hstops.not_isHandled

/-- A project file that may not be read is passed over, and the file in the directory above is found. Its text
is one that its reader knows, so that it is loaded or refused. -/
theorem broken_iff_unreadable :
    let text := "indent_width: 4\n".toList
    let readYaml : YamlReader := fun t =>
      if t = text then .ok (.mapping [(.text "indent_width".toList, .integer 4)]) else .error .malformed
    let look : Text → Except FileProblem FileEntry := fun p =>
      if p = "/a/pyproject.toml".toList then .error .denied
      else if p = "/.mdtex.yaml".toList then .ok (.file (Text.toUtf8 text)) else .error .missing
    Settles readYaml ∧ (find (m := Id) look "/a".toList).1 = .ok (some "/.mdtex.yaml".toList) ∧
      ((∃ es, ofFile readYaml "/.mdtex.yaml".toList (look "/.mdtex.yaml".toList) = .ok es) ∨
        ∃ message, ofFile readYaml "/.mdtex.yaml".toList (look "/.mdtex.yaml".toList)
          = .error (.badArgument message)) := by
  intro text readYaml look
  have hyaml : Settles readYaml := fun t e => by
    unfold readYaml
    split <;> nofun
  have hcs : candidates "/a".toList =
      [("/a/.mdtex.toml".toList, false), ("/a/.mdtex.yaml".toList, false), ("/a/.mdtex.yml".toList, false),
        ("/a/.mdtex.json".toList, false), ("/a/pyproject.toml".toList, true), ("/.mdtex.toml".toList, false)] ++
      ("/.mdtex.yaml".toList, false) ::
      [("/.mdtex.yml".toList, false), ("/.mdtex.json".toList, false), ("/pyproject.toml".toList, true)] := by
    decide +kernel
  have hlook : ∀ b ∈ [("/a/.mdtex.toml".toList, false), ("/a/.mdtex.yaml".toList, false),
      ("/a/.mdtex.yml".toList, false), ("/a/.mdtex.json".toList, false), ("/a/pyproject.toml".toList, true),
      ("/.mdtex.toml".toList, false)],
      look b.1 = .error .missing ∨ b.2 = true ∧ look b.1 = .error .denied := by decide +kernel
  have hfound : look "/.mdtex.yaml".toList = .ok (.file (Text.toUtf8 text)) := by decide +kernel
  have hproject : ¬ IsProject "/.mdtex.yaml".toList := by
    rw [IsProject]
    decide +kernel
  have hclean : ∀ e, ¬ Breaks "/.mdtex.yaml".toList (look "/.mdtex.yaml".toList) e := by
    rw [hfound]
    rintro e (⟨⟨⟩⟩ | ⟨h, -⟩ | ⟨-, -, h⟩)
    · exact hproject h
    · rw [Text.ofUtf8?_toUtf8] at h
      cases h
  obtain ⟨hload, -, hfind, -⟩ := broken_iff hyaml "/.mdtex.yaml".toList (look "/.mdtex.yaml".toList) look "/a".toList
  refine ⟨hyaml, (hfind _).2 (.found hcs ?_ (hfound ▸ .file)), hload.2 hclean⟩
  rintro ⟨p, isProject⟩ hb
  rcases hlook _ hb with h | ⟨rfl, h⟩
  · exact h ▸ passed_missing _
  · exact h ▸ passed_unreadable p

/-- A number stands in place of the table of tools. -/
theorem spoilt_number :
    Spoilt (Text.toUtf8 "tool = 3\n".toList) (.unsupported "'int' object has no attribute 'get'".toList) := by
  have hread : ((Toml.read? "tool = 3\n".toList).bind (·.field? "tool".toList)).any
      (·.typeName == "int".toList) = true := by decide +kernel
  obtain ⟨tools, hfield, hname⟩ := (Option.any_eq_true _ _).1 hread
  obtain ⟨document, hdocument, htools⟩ := Option.bind_eq_some_iff.1 hfield
  have hopens : Opens (Text.toUtf8 "tool = 3\n".toList) document := by
    rw [Opens, Text.ofUtf8?_toUtf8, Option.bind_some, hdocument]
  have hmessage : noTools tools = .unsupported "'int' object has no attribute 'get'".toList := by
    rw [noTools, eq_of_beq hname]
    decide +kernel
  rw [← hmessage]
  refine .noTools hopens htools ?_
  rintro es rfl
  cases hname

/-- A project file with a number in place of the table of tools ends loading and searching with an error that
nothing handles. -/
theorem number_of_tools_unhandled :
    let data := Text.toUtf8 "tool = 3\n".toList
    let look : Text → Except FileProblem FileEntry := fun p =>
      if p = "/pyproject.toml".toList then .ok (.file data) else .error .missing
    let e : Error := .unsupported "'int' object has no attribute 'get'".toList
    (∀ readYaml, ofFile readYaml "/pyproject.toml".toList (.ok (.file data)) = .error e) ∧
      (find (m := Id) look "/".toList).1 = .error e ∧ CommandLine.isHandled e = false := by
  intro data look e
  have hcs : candidates "/".toList =
      [("/.mdtex.toml".toList, false), ("/.mdtex.yaml".toList, false), ("/.mdtex.yml".toList, false),
        ("/.mdtex.json".toList, false)] ++ ("/pyproject.toml".toList, true) :: [] := by
    decide +kernel
  have hname : IsProject "/pyproject.toml".toList := by
    rw [IsProject]
    decide +kernel
  have hlook : ∀ b ∈ [("/.mdtex.toml".toList, false), ("/.mdtex.yaml".toList, false),
      ("/.mdtex.yml".toList, false), ("/.mdtex.json".toList, false)], look b.1 = .error .missing := by
    decide +kernel
  have hproject : look "/pyproject.toml".toList = .ok (.file data) := by decide +kernel
  have hpassed : ∀ b ∈ _, Passed b (look b.1) := fun b hb => hlook b hb ▸ passed_missing b
  exact ⟨fun _ => (ofFile_of_isProject hname data).trans (ofProject_of_spoilt _ spoilt_number),
    search_eq_iff.2 (.stopped hcs hpassed (hproject ▸ .spoilt spoilt_number)), rfl⟩

end Config
end Texdown
