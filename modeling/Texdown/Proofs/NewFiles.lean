import Texdown.Proofs.Sessions
import Texdown.Proofs.Stems

/-!
# New files for documents

A run falls into three pieces: up to the LaTeX of the document, writing it, and a PDF behind it. The first changes
nothing but the archive and the log that the command line names. The LaTeX goes to a new file in the working
directory, under the first free name for the title, so it replaces nothing. The PDF goes beside that file, whatever
stood there: the only other file that a run may replace.

Results:
* `Session.convert_eq`: a session is its draft and what comes behind it.
* `Session.does_draft`: up to the LaTeX, only what the command line names changes.
* `Session.yields_writeLatex`: the LaTeX goes to a file that is new, with the least free number.
* `run_gains`: a run that comes to have LaTeX gains a file for it.
* `run_spares`: a run replaces nothing but what the command line names, and PDFs if one is asked for.
* `run_keeps`: a run that is asked for nothing but an archive leaves every other file alone.
-/
namespace Texdown.CommandLine

/-! ## Up to the LaTeX -/

/-- The working directory stands where its path leads. -/
structure Surroundings.Stands (a : Surroundings) (f : Files) : Prop where
  leads : f.locate a.directory a.host.directory = .ok a.directory
  directory : f.find? a.directory = some .directory

theorem Surroundings.Stands.spares {a : Surroundings} {f f' : Files} {T : Place → Prop} (h : a.Stands f)
    (hf : Files.Spares T f f') : a.Stands f' := ⟨hf.locate h.leads, hf.directories _ h.directory⟩

/-- The stem of the file for a document with a title. -/
def Document.stem (d : Document) (title : Option Text) : Text := titleStem (namingTitle title d.name)

namespace Session

section Drafts

variable {m : Type → Type} [Monad m]

/-- LaTeX that is ready to be written, with the document it was made of and the figures that were collected. -/
structure Draft where
  document : Document
  registry : Figure.Registry
  latex : Text

/-- What is read for a document, and its archive. -/
def gather (a : Arguments) : Session m (Task × Document × Figure.Registry) := do
  let t ← prepare a
  let d ← readDocument t
  let registry ← if t.needsFigures then collectFigures t d else pure {}
  if t.makesArchive then writeArchive t d registry (t.arguments.zip.getD [])
  return (t, d, registry)

/-- The LaTeX of a document, with paths of figures where they stand. -/
def compose (t : Task) (d : Document) : Session m Text := do
  let read := (← readThe (Context m)).reader t.options.reading
  let found ← imagesData d (fun _ _ => .outputWriteTo none) (({} : Job).convert read d.markdown).asked
  render t d (keepLocal found) fun _ => []

/-- A session up to its LaTeX, unless it ends with an archive. -/
def draft (a : Arguments) : Session m (Task × Option Draft) := do
  let (t, d, registry) ← gather a
  if t.isArchiveOnly then return (t, none)
  return (t, some ⟨d, registry, ← compose t d⟩)

/-- What is to be typeset behind the LaTeX, if it went to a path and a PDF is asked for. -/
def typeset (t : Task) (w : Draft) : Option Text → Session m (Task × Option Typesetting)
  | some path =>
    if t.arguments.pdf then return (t, some (← typesetting t w.document w.registry path)) else return (t, none)
  | none => return (t, none)

/-- A session behind its draft. -/
def conclude : Task × Option Draft → Session m (Task × Option Typesetting)
  | (t, none) => return (t, none)
  | (t, some w) => do typeset t w (← writeLatex t w.document w.latex)

/-- A session is its draft and what comes behind it. -/
theorem convert_eq [LawfulMonad m] (a : Arguments) : (convert a : Session m _) = draft a >>= conclude := by
  have hlatex : ∀ (t : Task) (d : Document) (registry : Figure.Registry),
      (if t.isArchiveOnly = true then (pure (t, none) : Session m (Task × Option Typesetting)) else do
        let read := (← readThe (Context m)).reader t.options.reading
        let found ← imagesData d (fun _ _ => .outputWriteTo none) (({} : Job).convert read d.markdown).asked
        let latex ← render t d (keepLocal found) fun _ => []
        conclude (t, some ⟨d, registry, latex⟩)) =
      (if t.isArchiveOnly = true then (pure (t, none) : Session m (Task × Option Draft))
        else do return (t, some ⟨d, registry, ← compose t d⟩)) >>= conclude := fun t d registry => by
    split
    · rw [pure_bind, conclude]
    · simp only [compose, bind_assoc, pure_bind]
  unfold convert draft gather
  simp only [bind_assoc]
  refine bind_congr fun t => bind_congr fun d => ?_
  split
  · split
    · simp only [bind_assoc, pure_bind]
      exact bind_congr fun registry => bind_congr fun _ => hlatex t d registry
    · simp only [bind_assoc, pure_bind]
      exact bind_congr fun registry => hlatex t d registry
  · split
    · simp only [bind_assoc, pure_bind]
      exact bind_congr fun _ => hlatex t d _
    · simp only [pure_bind]
      exact hlatex t d _

end Drafts

end Session

/-- A place that a command line names: that of an archive or of a log. -/
def Arguments.Names (arguments : Arguments) (base q : Place) : Prop :=
  ∃ path, path ≠ [] ∧ (arguments.zip = some path ∨ arguments.logFile = some path) ∧
    q = Files.destination base path

/-- Whether a path is given, as a path. -/
theorem exists_of_isGiven {path : Option Text} (h : isGiven path = true) : ∃ p, path = some p ∧ p ≠ [] := by
  cases path with
  | none => cases h
  | some p => exact ⟨p, rfl, by simpa [isGiven] using h⟩

namespace Session

section Parts

variable {R : Files → Files → Prop} [IsPreorder Files R] {a : Surroundings} {l : Log}
  {reader : ReadingOptions → Reader} {arguments : Arguments}

theorem does_gather (hl : l.Allowed a.directory R) (hR : Admits R a.directory (arguments.Names a.directory)) :
    Does R ⟨a.host, l, reader⟩ (gather arguments) fun r => r.1.arguments = arguments := by
  unfold gather
  refine does_bind (does_prepare hl arguments) fun t ht => does_bind (does_readDocument hl t) fun d _ => ?_
  extract_lets goOn
  have hgoOn : ∀ registry, Does R ⟨a.host, l, reader⟩ (goOn registry) fun r => r.1.arguments = arguments := by
    intro registry
    unfold goOn
    split
    · rename_i harchive
      rw [Task.makesArchive, ht] at harchive
      obtain ⟨path, hzip, hne⟩ := exists_of_isGiven harchive
      refine does_bind (does_writeArchive hl t d registry fun f f' data => hR _ ?_ f f' data) fun _ _ =>
        does_pure ht
      rw [ht, hzip, Option.getD_some]
      exact ⟨path, hne, .inl hzip, Files.destination_plain _ _⟩
    · exact does_pure ht
  split
  · exact does_bind (does_collectFigures hl t d) fun registry _ => hgoOn registry
  · exact hgoOn _

theorem does_compose (hl : l.Allowed a.directory R) (t : Task) (d : Document) :
    Does R ⟨a.host, l, reader⟩ (compose t d) fun _ => True :=
  does_bind does_reader fun _ _ => does_bind (does_imagesData d _ _) fun _ _ => does_render hl t d _ _

/-- Up to the LaTeX, only the places that the command line names may change. -/
theorem does_draft (hl : l.Allowed a.directory R) (hR : Admits R a.directory (arguments.Names a.directory)) :
    Does R ⟨a.host, l, reader⟩ (draft arguments) fun r =>
      r.1.arguments = arguments ∧ (r.1.isArchiveOnly = true → r.2 = none) := by
  refine does_bind (does_gather hl hR) fun r hr => ?_
  obtain ⟨t, d, registry⟩ := r
  simp only
  split
  · exact does_pure ⟨hr, fun _ => rfl⟩
  · rename_i hmore
    exact does_bind (does_compose hl t d) fun latex _ => does_pure ⟨hr, fun h => absurd h hmore⟩

end Parts

/-! ## Writing the LaTeX -/

section Writing

variable {α β : Type}

/-- A part of a session comes to its end on a machine, with a value and a machine behind it. -/
def Yields (c : Context (StateM Machine)) (x : Session (StateM Machine) α) (s : Machine)
    (Q : α → Machine → Prop) : Prop := ∃ r s', x.on c s = (.ok r, s') ∧ Q r s'

theorem Yields.bind {c : Context (StateM Machine)} {x : Session (StateM Machine) α}
    {f : α → Session (StateM Machine) β} {s : Machine} {Q : α → Machine → Prop} {Q' : β → Machine → Prop}
    (hx : Yields c x s Q) (hf : ∀ r s', Q r s' → Yields c (f r) s' Q') : Yields c (x >>= f) s Q' := by
  obtain ⟨r, s', hr, hQ⟩ := hx
  obtain ⟨r', s'', hr', hQ'⟩ := hf r s' hQ
  exact ⟨r', s'', by rw [on_bind, hr]; exact hr', hQ'⟩

theorem yields_pure {c : Context (StateM Machine)} {r : α} {s : Machine} {Q : α → Machine → Prop}
    (h : Q r s) : Yields c (pure r) s Q := ⟨r, s, rfl, h⟩

theorem yields_reader {c : Context (StateM Machine)} {s : Machine} :
    Yields c (readThe (Context (StateM Machine))) s fun c' s' => c' = c ∧ s' = s := ⟨c, s, rfl, rfl, rfl⟩

theorem yields_settled {c : Context (StateM Machine)} {result : Except Error α} {r : α} (h : result = .ok r)
    {s : Machine} : Yields c (settled result) s fun r' s' => r' = r ∧ s' = s := ⟨r, s, by rw [h]; rfl, rfl, rfl⟩

theorem yields_onHost {c : Context (StateM Machine)} (act : Host (StateM Machine) → StateM Machine α)
    {s : Machine} : Yields c (onHost act) s fun r s' => (act c.host).run s = (r, s') := ⟨_, _, rfl, rfl⟩

variable {R : Files → Files → Prop} [IsPreorder Files R] {a : Surroundings} {l : Log}
  {reader : ReadingOptions → Reader} {s : Machine}

theorem yields_say (hl : l.Allowed a.directory R) (ns : List Notice) :
    Yields ⟨a.host, l, reader⟩ (say ns) s fun _ s' => R s.files s'.files :=
  ⟨(), _, rfl, moves_reportAll hl [] ns s⟩

theorem yields_announce (t : Task) (path : Text) :
    Yields ⟨a.host, l, reader⟩ (announce t path) s fun _ s' => s'.files = s.files := by
  unfold announce
  split
  · exact yields_pure rfl
  · exact ⟨(), _, rfl, rfl⟩

variable {t : Task} {d : Document} {title : Option Text} {ns : List Notice}

theorem outputName_eq (title : Option Text) : outputName title none = titleStem title ++ '.' :: "tex".toList := by
  cases title <;> rfl

/-- The path that is preferred for a document whose title can be read. -/
theorem yields_preferredPath (hl : l.Allowed a.directory R)
    (htitle : documentTitle (reader t.options.reading) d.markdown = .ok (title, ns)) :
    Yields ⟨a.host, l, reader⟩ (preferredPath t d) s fun p s' => R s.files s'.files ∧
      Path.Below a.host.directory (d.stem title ++ '.' :: "tex".toList) p := by
  unfold preferredPath
  refine yields_reader.bind fun c s₀ hc => ?_
  obtain ⟨rfl, rfl⟩ := hc
  refine (yields_settled htitle).bind fun r s₀ hr => ?_
  obtain ⟨rfl, rfl⟩ := hr
  refine (yields_say hl _).bind fun _ s₁ hs₁ => ⟨_, s₁, rfl, hs₁, ?_⟩
  rw [outputName_eq]
  exact .join _ ((isStem_titleStem (namingTitle title d.name)).isPart_append isExtension_tex)

/-! ### The search on a machine -/

section Search

variable (a) (preferred : Text) (data : Bytes)

/-- A search sees the files of a machine, and leaves the machine alone. -/
theorem run_search (fuel : Nat) (candidate : Text) (counter : Nat) :
    (NewFile.search a.host.look preferred fuel candidate counter).run s =
      (NewFile.search (m := Id) (s.files.look a.directory) preferred fuel candidate counter, s) := by
  induction fuel generalizing candidate counter with
  | zero => rfl
  | succ fuel ih =>
    have hlook : (a.host.look candidate).run s = (s.files.look a.directory candidate, s) := rfl
    unfold NewFile.search
    rw [StateT.run_bind, hlook]
    simp only [bind, pure]
    split
    · rfl
    · rfl
    · split
      · rfl
      · exact ih _ _

theorem run_freePath :
    (NewFile.freePath a.host.look preferred).run s =
      (NewFile.freePath (m := Id) (s.files.look a.directory) preferred, s) := run_search a preferred _ _ _

/-- The search and what follows it, with so many tries. -/
abbrev making (tries : Nat) : StateM Machine (Except Error Text) :=
  NewFile.create a.host.look (a.host.create · data) preferred tries

variable {a preferred data} {p : Text} {f : Files} {e : Error} {problem : FileProblem} {tries : Nat}

theorem run_making_of_refused (hfree : NewFile.freePath (m := Id) (s.files.look a.directory) preferred = .error e) :
    (making a preferred data (tries + 1)).run s = (.error e, s) := by
  rw [making, NewFile.create, StateT.run_bind, run_freePath, hfree]
  rfl

section Tried

variable (hfree : NewFile.freePath (m := Id) (s.files.look a.directory) preferred = .ok p)
include hfree

/-- A try makes a file at the path that is free. -/
theorem run_making_of_ok (hmade : s.files.create a.directory p data = .ok f) :
    (making a preferred data (tries + 1)).run s = (.ok p, { s with files := f }) := by
  have hcreate : (a.host.create p data).run s = (.ok (), { s with files := f }) :=
    Machine.changeFiles_of_ok (·.create a.directory p data) hmade
  rw [making, NewFile.create, StateT.run_bind, run_freePath, hfree]
  change (a.host.create p data >>= _).run s = _
  rw [StateT.run_bind, hcreate]
  rfl

/-- A try that makes no file fails, or the next one follows; the machine is left alone. -/
theorem run_making_of_error (hmade : s.files.create a.directory p data = .error problem) :
    (making a preferred data (tries + 1)).run s = (.error (.system p problem), s) ∨
      (making a preferred data (tries + 1)).run s = (making a preferred data tries).run s := by
  have hcreate : (a.host.create p data).run s = (.error problem, s) :=
    Machine.changeFiles_of_error (·.create a.directory p data) hmade
  rw [making, NewFile.create, StateT.run_bind, run_freePath, hfree]
  change (a.host.create p data >>= _).run s = _ ∨ (a.host.create p data >>= _).run s = _
  rw [StateT.run_bind, hcreate]
  cases problem with
  | occupied => exact .inr rfl
  | _ => exact .inl rfl

end Tried

variable (a preferred data tries) in
/-- What a try does: it fails and leaves the machine alone, it makes a file at the path that is free, or the next
one follows. -/
theorem run_making_cases :
    (∃ e, (making a preferred data (tries + 1)).run s = (.error e, s)) ∨
      (∃ p f, NewFile.freePath (m := Id) (s.files.look a.directory) preferred = .ok p ∧
        s.files.create a.directory p data = .ok f ∧
        (making a preferred data (tries + 1)).run s = (.ok p, { s with files := f })) ∨
      (making a preferred data (tries + 1)).run s = (making a preferred data tries).run s := by
  cases hfree : NewFile.freePath (m := Id) (s.files.look a.directory) preferred with
  | error e => exact .inl ⟨e, run_making_of_refused hfree⟩
  | ok p =>
    cases hmade : s.files.create a.directory p data with
    | ok f => exact .inr (.inl ⟨p, f, rfl, hmade, run_making_of_ok hfree hmade⟩)
    | error problem => exact (run_making_of_error hfree hmade).imp (fun h => ⟨_, h⟩) .inr

end Search

/-- The file of the least free number is written new. -/
theorem yields_saveNew {stem preferred : Text} {data : Bytes} {k : Nat} (hstem : IsStem stem)
    (hpreferred : Path.Below a.host.directory (stem ++ '.' :: "tex".toList) preferred)
    (hs : a.Stands s.files) (hk : s.files.LeastFree a.directory stem ('.' :: "tex".toList) k)
    (haccepts : Files.Accepts (numbered stem ('.' :: "tex".toList) k)) :
    Yields ⟨a.host, l, reader⟩ (saveNew preferred data) s fun p s' =>
      Path.Below a.host.directory (numbered stem ('.' :: "tex".toList) k) p ∧
        s'.files = s.files.put (a.directory ++ [numbered stem ('.' :: "tex".toList) k]) (.file data) := by
  obtain ⟨p, hfree, hpath⟩ :=
    NewFile.freePath_of_leastFree hstem isExtension_tex hpreferred hs.leads hs.directory hk haccepts
  have hplace := Files.locate_of_below hpath hs.leads hs.directory haccepts (numbered_ne_dots hstem k _)
  have hcreate : s.files.create _ _ data = _ := Files.create_new hplace hs.directory hk.free
  unfold saveNew
  refine (yields_onHost _).bind fun created s' hcreated => ?_
  -- Nothing comes to stand at the path in between, so the first try succeeds.
  rw [run_making_of_ok hfree hcreate] at hcreated
  obtain ⟨rfl, rfl⟩ := Prod.mk.inj hcreated
  exact yields_pure ⟨hpath, rfl⟩

theorem writeLatex_eq (h : t.arguments.output = none) (latex : Text) :
    writeLatex (m := StateM Machine) t d latex = do
      let path ← saveNew (← preferredPath t d) (Text.toUtf8 latex)
      say [.latexWritten path]
      announce t path
      return some path := by
  unfold writeLatex
  rw [Task.printsLatex, h]
  rfl

variable (reader) in
/-- The LaTeX of a document goes to a new file, which has the first free name for its title. -/
theorem yields_writeLatex {T : Place → Prop} {k : Nat} (hl : l.Allowed a.directory (Files.Keeps T))
    (hT : ∀ q, T q → s.files.find? q ≠ none) (houtput : t.arguments.output = none)
    (htitle : documentTitle (reader t.options.reading) d.markdown = .ok (title, ns)) (hs : a.Stands s.files)
    (hk : s.files.LeastFree a.directory (d.stem title) ('.' :: "tex".toList) k)
    (haccepts : Files.Accepts (numbered (d.stem title) ('.' :: "tex".toList) k))
    (latex : Text) :
    Yields ⟨a.host, l, reader⟩ (writeLatex t d latex) s fun path s' =>
      (∃ p, path = some p ∧ Path.Below a.host.directory
        (numbered (d.stem title) ('.' :: "tex".toList) k) p) ∧
      Files.Gains T (a.directory ++ [numbered (d.stem title) ('.' :: "tex".toList) k])
        (Text.toUtf8 latex) s.files s'.files := by
  have hstem : IsStem (d.stem title) := isStem_titleStem _
  have hnew : ¬ T (a.directory ++ [numbered (d.stem title) ('.' :: "tex".toList) k]) := fun hplace =>
    hT _ hplace hk.free
  rw [writeLatex_eq houtput]
  refine (yields_preferredPath hl htitle).bind fun preferred s₁ hs₁ => ?_
  have hk₁ := hk.keeps hs₁.1 hT
  refine (yields_saveNew hstem hs₁.2 (hs.spares hs₁.1.toSpares) hk₁ haccepts).bind fun path s₂ hs₂ => ?_
  refine (yields_say hl _).bind fun _ s₃ hs₃ => ?_
  refine (yields_announce t path).bind fun _ s₄ hs₄ => yields_pure ⟨⟨path, rfl, hs₂.1⟩, ?_⟩
  have hgains : Files.Gains T _ (Text.toUtf8 latex) s₁.files s₂.files := hs₂.2 ▸ Files.gains_put hk₁.free
  rw [hs₄]
  exact .of_keeps hs₁.1 (hgains.keeps hs₃ (fun _ => id) hnew) fun _ => id

/-! ### Without overwriting -/

section Sparing

variable {T : Place → Prop}

theorem does_preferredPath (hl : l.Allowed a.directory R) (t : Task) (d : Document) :
    Does R ⟨a.host, l, reader⟩ (preferredPath t d) fun p => ∃ title,
      Path.Below a.host.directory (d.stem title ++ '.' :: "tex".toList) p := by
  unfold preferredPath
  refine does_bind does_reader fun c _ => does_bind (does_settled _) fun read _ => ?_
  obtain ⟨title, ns⟩ := read
  refine does_bind (does_say hl _) fun _ _ => ⟨fun s => refl_of R s.files, fun s p s' hp => ⟨title, ?_⟩⟩
  cases hp
  rw [outputName_eq]
  exact .join _ ((isStem_titleStem (namingTitle title d.name)).isPart_append isExtension_tex)

variable (a) in
theorem moves_making (preferred : Text) (data : Bytes) (tries : Nat) :
    Moves (Files.Spares T) (making a preferred data tries) := fun s => by
  induction tries with
  | zero => exact refl_of _ s.files
  | succ tries ih =>
    obtain ⟨e, hrun⟩ | ⟨p, f, -, hmade, hrun⟩ | hrun := run_making_cases a preferred data tries (s := s)
    · exact hrun ▸ refl_of _ s.files
    · exact hrun ▸ Files.spares_create hmade
    · exact hrun ▸ ih

/-- What is made has a number behind the stem. -/
theorem below_of_making {stem preferred p : Text} {data : Bytes} {tries : Nat} (hstem : IsStem stem)
    (hpreferred : Path.Below a.host.directory (stem ++ '.' :: "tex".toList) preferred)
    (h : ((making a preferred data tries).run s).1 = .ok p) :
    ∃ k, Path.Below a.host.directory (numbered stem ('.' :: "tex".toList) k) p := by
  induction tries with
  | zero => cases h
  | succ tries ih =>
    obtain ⟨e, hrun⟩ | ⟨p, f, hfree, -, hrun⟩ | hrun := run_making_cases a preferred data tries (s := s)
    · rw [hrun] at h
      cases h
    · rw [hrun] at h
      cases h
      refine NewFile.below_of_search hstem isExtension_tex hpreferred ?_ hfree (j := 0)
      rw [numbered_zero]
      exact hpreferred.plain
    · exact ih (hrun ▸ h)

/-- A new file replaces none. -/
theorem does_saveNew {stem preferred : Text} {data : Bytes} (hstem : IsStem stem)
    (hpreferred : Path.Below a.host.directory (stem ++ '.' :: "tex".toList) preferred) :
    Does (Files.Spares T) ⟨a.host, l, reader⟩ (saveNew preferred data) fun p => ∃ k,
      Path.Below a.host.directory (numbered stem ('.' :: "tex".toList) k) p := by
  have hcreate : Does (Files.Spares T) ⟨a.host, l, reader⟩
      (onHost fun h => NewFile.create h.look (h.create · data) preferred (h.retries + 1)) fun r => ∀ p, r = .ok p →
        ∃ k, Path.Below a.host.directory (numbered stem ('.' :: "tex".toList) k) p :=
    does_onHost_giving (moves_making a preferred data _) fun s p => below_of_making hstem hpreferred
  refine does_bind hcreate fun created hbelow => ?_
  split
  · exact does_pure (hbelow _ rfl)
  · exact does_throw _
  · exact does_throw _

theorem does_writeLatex (hl : l.Allowed a.directory (Files.Spares T)) (houtput : t.arguments.output = none)
    (latex : Text) :
    Does (Files.Spares T) ⟨a.host, l, reader⟩ (writeLatex t d latex) fun path => ∀ p, path = some p →
      ∃ stem k, IsStem stem ∧ Path.Below a.host.directory (numbered stem ('.' :: "tex".toList) k) p := by
  rw [writeLatex_eq houtput]
  refine does_bind (does_preferredPath hl t d) fun preferred hpreferred => ?_
  obtain ⟨title, hbelow⟩ := hpreferred
  refine does_bind (does_saveNew (isStem_titleStem _) hbelow) fun path hpath => ?_
  obtain ⟨k, hk⟩ := hpath
  refine does_bind (does_say hl _) fun _ _ => does_bind (does_announce t path) fun _ _ => does_pure ?_
  intro p hp
  cases hp
  exact ⟨_, k, isStem_titleStem _, hk⟩

end Sparing

/-! ## Behind the LaTeX -/

theorem does_typesetting (hl : l.Allowed a.directory R) (t : Task) (d : Document) (registry : Figure.Registry)
    (path : Text) : Does R ⟨a.host, l, reader⟩ (typesetting t d registry path) fun p =>
      p.path = Path.withSuffix path ('.' :: "pdf".toList) :=
  does_bind (does_render hl t d _ _) fun _ _ => does_pure rfl

variable (reader) in
/-- A PDF comes beside the LaTeX, and only if it is asked for. -/
theorem does_typeset (hl : l.Allowed a.directory R) (t : Task) (w : Draft) (path : Option Text) :
    Does R ⟨a.host, l, reader⟩ (typeset t w path) fun r => ∀ p, r.2 = some p → t.arguments.pdf = true ∧
      ∃ latexPath, path = some latexPath ∧ p.path = Path.withSuffix latexPath ('.' :: "pdf".toList) := by
  unfold typeset
  split
  · split
    · rename_i latexPath hpdf
      refine does_bind (does_typesetting hl t _ _ latexPath) fun p hp => does_pure fun p' hp' => ?_
      cases hp'
      exact ⟨hpdf, latexPath, rfl, hp⟩
    · exact does_pure fun _ hnone => by cases hnone
  · exact does_pure fun _ hnone => by cases hnone

theorem does_writePdf {t : Task} {p : Typesetting} {data : Bytes}
    (h : ∀ f f', f.write a.directory p.path data = .ok f' → R f f') :
    Does R ⟨a.host, l, reader⟩ (writePdf t p data) fun _ => True :=
  does_bind (does_save h) fun _ _ => does_announce t _

variable (reader) in
/-- Whatever comes behind a draft replaces no file but a PDF beside the LaTeX. -/
theorem does_conclude {T : Place → Prop} {arguments : Arguments}
    (hl : l.Allowed a.directory (Files.Spares T)) (ht : t.arguments = arguments) (w : Option Draft)
    (houtput : arguments.output = none) :
    Does (Files.Spares T) ⟨a.host, l, reader⟩ (conclude (t, w)) fun r => ∀ p, r.2 = some p →
      arguments.pdf = true ∧ ∃ stem k, IsStem stem ∧
        Path.Below a.host.directory (numbered stem ('.' :: "pdf".toList) k) p.path := by
  cases w with
  | none => exact does_pure nofun
  | some w =>
    refine does_bind (does_writeLatex hl (ht ▸ houtput) w.latex) fun path hpath => ?_
    obtain ⟨hmoves, hgives⟩ := does_typeset reader hl t w path
    refine ⟨hmoves, fun s r s' hr p hp => ?_⟩
    obtain ⟨hpdf, latexPath, hlatex, hpp⟩ := hgives s r s' hr p hp
    obtain ⟨stem, k, hstem, hk⟩ := hpath latexPath hlatex
    exact ⟨ht ▸ hpdf, stem, k, hstem, hpp ▸ withSuffix_numbered hstem k isExtension_tex hk isExtension_pdf⟩

end Writing
end Session

/-- The outcome of a session by how it went up to its PDF. -/
def ending {m : Type → Type} [Monad m] (c : Context m) :
    Except Error (Task × Option Session.Typesetting) → m Outcome
  | .error e => fail c [] e
  | .ok (_, none) => return ⟨.ok 0, []⟩
  | .ok (t, some p) => do
    let r := Engine.compile c.host.engine? p.latex t.engine p.figures Engine.defaultTimeout Engine.defaultPasses
    c.log.reportAll c.host (← c.host.elapsed) r.notices
    match r.result with
    | .error e => fail c r.calls e
    | .ok data =>
      match ← ((Session.writePdf t p data).run c).run with
      | .error e => fail c r.calls e
      | .ok () => return ⟨.ok 0, r.calls⟩

/-- The end of a session on a machine. -/
def ended (c : Context (StateM Machine)) (r : Except Error (Task × Option Session.Typesetting) × Machine) :
    Outcome × Machine := (ending c r.1).run r.2

theorem runSession_eq (c : Context (StateM Machine)) (arguments : Arguments) (s : Machine) :
    (runSession c arguments).run s = ended c ((Session.convert arguments).on c s) := by
  unfold runSession Session.on ended
  rw [StateT.run_bind]
  rcases ((Session.convert arguments).run c).run.run s with ⟨_ | ⟨t, _ | p⟩, s'⟩ <;> rfl

section Ending

variable {R : Files → Files → Prop} [IsPreorder Files R] {a : Surroundings} {l : Log}
  {reader : ReadingOptions → Reader} (hl : l.Allowed a.directory R)
include hl

theorem moves_fail (calls : List Engine.Call) (e : Error) : Moves R (fail ⟨a.host, l, reader⟩ calls e) := by
  unfold fail
  split
  · exact moves_bind (moves_reportAll hl _ _) fun _ => moves_pure _
  · exact moves_pure _

/-- At the end of a session, at most a PDF is written. -/
theorem moves_ending {r : Except Error (Task × Option Session.Typesetting)}
    (h : ∀ t p, r = .ok (t, some p) → ∀ f f' data, f.write a.directory p.path data = .ok f' → R f f') :
    Moves R (ending ⟨a.host, l, reader⟩ r) := by
  unfold ending
  split
  · exact moves_fail hl _ _
  · exact moves_pure _
  · rename_i t p
    refine moves_bind (moves_pure a.elapsed) fun elapsed => moves_bind (moves_reportAll hl _ _) fun _ => ?_
    split
    · exact moves_fail hl _ _
    · rename_i data _
      refine moves_bind (Session.does_writePdf fun f f' => h t p rfl f f' data).moves fun written => ?_
      split
      · exact moves_fail hl _ _
      · exact moves_pure _

end Ending

/-! ## Runs -/

section Runs

variable {a : Surroundings} {l : Log} {reader : ReadingOptions → Reader} {arguments : Arguments} {s s₁ : Machine}
  {t : Task} {w : Session.Draft} {title : Option Text} {ns : List Notice} {k : Nat}

def Log.At (l : Log) (base q : Place) : Prop := ∃ path, l.file = some path ∧ q = Files.destination base path

theorem Log.allowed {R : Files → Files → Prop} {base : Place} {T : Place → Prop} (hR : Admits R base T)
    (hT : ∀ q, l.At base q → T q) : l.Allowed base R :=
  fun path hfile _ _ _ h => hR.append (hT _ ⟨path, hfile, rfl⟩) h

/-- A place that a run may change besides that of its LaTeX: one that the command line names, or that of the PDF
with a number. -/
def Arguments.Touches (arguments : Arguments) (base : Place) (stem : Text) (k : Nat) (q : Place) : Prop :=
  arguments.Names base q ∨ (arguments.pdf = true ∧ q = base ++ [numbered stem ('.' :: "pdf".toList) k])

theorem numbered_ne_numbered {stem : Text} (k : Nat) :
    numbered stem ('.' :: "tex".toList) k ≠ numbered stem ('.' :: "pdf".toList) k := by
  rw [numbered_append stem ('.' :: "tex".toList), numbered_append stem ('.' :: "pdf".toList)]
  exact fun h => absurd (List.append_cancel_left h) (by decide)

variable (reader) in
/-- Behind a draft, a session gains the file of the LaTeX, and succeeds unless a PDF is asked for. -/
theorem conclude_gains (hlog : ∀ q, l.At a.directory q → arguments.Names a.directory q)
    (hopen : ∀ q, l.At a.directory q → s.files.find? q ≠ none) (harguments : t.arguments = arguments)
    (houtput : arguments.output = none)
    (htitle : documentTitle (reader t.options.reading) w.document.markdown = .ok (title, ns))
    (hs : a.Stands s.files)
    (hk : s.files.LeastFree a.directory (w.document.stem title) ('.' :: "tex".toList) k)
    (haccepts : Files.Accepts (numbered (w.document.stem title) ('.' :: "tex".toList) k)) :
    let c : Context (StateM Machine) := ⟨a.host, l, reader⟩
    let r := (Session.conclude (t, some w)).on c s
    (arguments.pdf = false → r.1 = .ok (t, none)) ∧
      Files.Gains (arguments.Touches a.directory (w.document.stem title) k)
        (a.directory ++ [numbered (w.document.stem title) ('.' :: "tex".toList) k]) (Text.toUtf8 w.latex)
        s.files (ended c r).2.files := by
  intro c r
  have hl : l.Allowed a.directory (Files.Keeps (l.At a.directory)) :=
    Log.allowed (admits_keeps _ _) fun _ => id
  obtain ⟨path, s₂, hwrite, ⟨latexPath, rfl, hbelow⟩, hgains⟩ := Session.yields_writeLatex reader hl hopen
    (harguments ▸ houtput) htitle hs hk haccepts w.latex
  have hr : r = (Session.typeset t w (some latexPath)).on c s₂ := by
    change (Session.writeLatex t w.document w.latex >>= Session.typeset t w).on c s = _
    rw [Session.on_bind, hwrite]
  -- Behind the LaTeX, the log and the PDF are written, and neither goes where the LaTeX is.
  let T : Place → Prop := fun q => l.At a.directory q ∨
    (arguments.pdf = true ∧ q = a.directory ++ [numbered (w.document.stem title) ('.' :: "pdf".toList) k])
  have hT : ∀ q, T q → arguments.Touches a.directory (w.document.stem title) k q := fun q hq =>
    hq.imp_left (hlog q)
  have hnew : ¬ T (a.directory ++ [numbered (w.document.stem title) ('.' :: "tex".toList) k]) := by
    rintro (hat | ⟨-, heq⟩)
    · exact hopen _ hat hk.free
    · exact numbered_ne_numbered k (List.append_cancel_left heq |> List.singleton_inj.1)
  have hlT : l.Allowed a.directory (Files.Keeps T) := Log.allowed (admits_keeps _ _) fun _ => .inl
  have htypeset := Session.does_typeset reader hlT t w (some latexPath)
  refine ⟨fun hpdf => ?_, ?_⟩
  · rw [hr, Session.typeset, harguments, hpdf]
    rfl
  · have hend : Moves (Files.Keeps T) (ending c r.1) := by
      refine moves_ending hlT fun t' p hp f f' data => admits_keeps _ T _ ?_ f f' data
      have hgives := htypeset.gives s₂ (t', some p) r.2 (by rw [← hr, ← hp])
      obtain ⟨hpdf, path', hpath', hpp⟩ := hgives p rfl
      cases hpath'
      have hstem : IsStem (w.document.stem title) := isStem_titleStem _
      have hpdfBelow := withSuffix_numbered hstem k isExtension_tex hbelow isExtension_pdf
      rw [hpp, Files.destination_of_below hpdfBelow hs.leads (numbered_ne_dots hstem k _)]
      exact .inr ⟨harguments ▸ hpdf, rfl⟩
    have hkeeps : Files.Keeps T s₂.files (ended c r).2.files :=
      (hr ▸ htypeset.moves s₂).trans (hend r.2)
    exact (hgains.keeps hkeeps (fun _ => .inl) hnew).mono hT

/-- The context of a run, with its log. -/
def Surroundings.context (a : Surroundings) (reader : ReadingOptions → Reader) (arguments : Arguments)
    (s : Machine) : Context (StateM Machine) := ⟨a.host, ((Log.start a.host arguments).run s).1, reader⟩

/-- The machine of a run behind the start of its log. -/
def Surroundings.begun (a : Surroundings) (arguments : Arguments) (s : Machine) : Machine :=
  ((Log.start a.host arguments).run s).2

/-- A run comes to have the LaTeX of a document whose title can be read, and writes it next. -/
structure Drafts (a : Surroundings) (reader : ReadingOptions → Reader) (arguments : Arguments) (s : Machine)
    (t : Task) (w : Session.Draft) (title : Option Text) (s₁ : Machine) : Prop where
  drafted : (Session.draft arguments).on (a.context reader arguments s) (a.begun arguments s)
    = (.ok (t, some w), s₁)
  titled : ∃ ns, documentTitle (reader t.options.reading) w.document.markdown = .ok (title, ns)

theorem run_eq {words : List Text} (h : Arguments.read words = .ok arguments) (s : Machine) :
    (run a.host reader words).run s = ended (a.context reader arguments s)
      ((Session.draft arguments >>= Session.conclude).on (a.context reader arguments s) (a.begun arguments s)) := by
  have hrun : (run a.host reader words).run s
      = (runSession (a.context reader arguments s) arguments).run (a.begun arguments s) := by
    unfold run
    rw [h]
    rfl
  rw [hrun, runSession_eq, Session.convert_eq]

section Begun

variable (reader s)

/-- The log of a run is at a place that the command line names, where something stands. -/
theorem at_begun {q : Place} (h : (a.context reader arguments s).log.At a.directory q) :
    arguments.Names a.directory q ∧ (a.begun arguments s).files.find? q ≠ none := by
  obtain ⟨path, hfile, rfl⟩ := h
  obtain ⟨hgiven, hne, hstands⟩ := file_start hfile
  exact ⟨⟨path, hne, .inr hgiven, rfl⟩, hstands⟩

variable {R : Files → Files → Prop} [IsPreorder Files R]
  (hR : Admits R a.directory (arguments.Names a.directory))
include hR

theorem moves_begun : R s.files (a.begun arguments s).files :=
  moves_start (fun _ hgiven hne _ _ _ h => hR.append ⟨_, hne, .inr hgiven, rfl⟩ h) s

omit [IsPreorder Files R] in
theorem allowed_begun : (a.context reader arguments s).log.Allowed a.directory R :=
  Log.allowed hR fun _ h => (at_begun reader s h).1

theorem does_draft_begun : Session.Does R (a.context reader arguments s) (Session.draft arguments) fun r =>
    r.1.arguments = arguments ∧ (r.1.isArchiveOnly = true → r.2 = none) :=
  Session.does_draft (allowed_begun reader s hR) hR

end Begun

/-- Up to the LaTeX, a run changes nothing but what the command line names. -/
theorem Drafts.keeps (h : Drafts a reader arguments s t w title s₁) :
    Files.Keeps (arguments.Names a.directory) s.files s₁.files := by
  have hR := admits_keeps a.directory (arguments.Names a.directory)
  have hmoves := (does_draft_begun reader s hR).moves (a.begun arguments s)
  rw [h.drafted] at hmoves
  exact (moves_begun s hR).trans hmoves

/-- A run that comes to have LaTeX gains a file for it, under the first free name for the title. -/
theorem run_gains {words : List Text} (hread : Arguments.read words = .ok arguments)
    (houtput : arguments.output = none) (hs : a.Stands s.files)
    (hdraft : Drafts a reader arguments s t w title s₁)
    (hk : s₁.files.LeastFree a.directory (w.document.stem title) ('.' :: "tex".toList) k)
    (haccepts : Files.Accepts (numbered (w.document.stem title) ('.' :: "tex".toList) k)) :
    (arguments.pdf = false → ((run a.host reader words).run s).1.exit = .ok 0) ∧
      Files.Gains (arguments.Touches a.directory (w.document.stem title) k)
        (a.directory ++ [numbered (w.document.stem title) ('.' :: "tex".toList) k]) (Text.toUtf8 w.latex)
        s.files ((run a.host reader words).run s).2.files := by
  have hbefore := hdraft.keeps
  obtain ⟨hdrafted, ns, htitle⟩ := hdraft
  have hR := admits_keeps a.directory (arguments.Names a.directory)
  have hdoes := does_draft_begun reader s hR
  have hmoves := hdoes.moves (a.begun arguments s)
  rw [hdrafted] at hmoves
  have hopen : ∀ q, (a.context reader arguments s).log.At a.directory q → s₁.files.find? q ≠ none :=
    fun q hq => hmoves.occupied q (at_begun reader s hq).2
  obtain ⟨hok, hgains⟩ := conclude_gains reader (fun q hq => (at_begun reader s hq).1) hopen
    (hdoes.gives _ _ _ hdrafted).1 houtput htitle (hs.spares hbefore.toSpares) hk haccepts
  rw [run_eq hread, Session.on_bind, hdrafted]
  refine ⟨fun hpdf => ?_, .of_keeps hbefore hgains fun _ => .inl⟩
  have hnone : ((Session.conclude (t, some w)).on (a.context reader arguments s) s₁).1 = .ok (t, none) := hok hpdf
  rw [ended, hnone]
  rfl

/-- A run without an output path replaces nothing but what the command line names, and PDFs if one is asked
for. -/
theorem run_spares {words : List Text} (hread : Arguments.read words = .ok arguments)
    (houtput : arguments.output = none) (hs : a.Stands s.files) :
    Files.Spares (fun q => ∃ stem k, arguments.Touches a.directory stem k q) s.files
      ((run a.host reader words).run s).2.files := by
  have hR : Admits (Files.Spares fun q => ∃ stem k, arguments.Touches a.directory stem k q) a.directory
      (arguments.Names a.directory) := fun path hpath => admits_spares _ _ path ⟨[], 0, .inl hpath⟩
  have hl := allowed_begun reader s hR
  have hdoes := Session.does_bind (does_draft_begun reader s hR) fun r hr =>
    Session.does_conclude reader hl hr.1 r.2 houtput
  rw [run_eq hread]
  refine ((moves_begun s hR).trans (hdoes.moves _)).trans (moves_ending hl ?_ _)
  intro t p hp f f' data
  obtain ⟨hpdf, stem, k, hstem, hbelow⟩ := hdoes.gives _ _ _ (Prod.ext hp rfl) p rfl
  refine admits_spares _ _ _ ⟨stem, k, .inr ⟨hpdf, ?_⟩⟩ f f' data
  exact Files.destination_of_below hbelow hs.leads (numbered_ne_dots hstem k _)

/-- A run that is asked for nothing but an archive changes nothing but what the command line names. -/
theorem run_keeps {words : List Text} (hread : Arguments.read words = .ok arguments)
    (houtput : arguments.output = none) (hzip : isGiven arguments.zip = true) (hpdf : arguments.pdf = false) :
    Files.Keeps (arguments.Names a.directory) s.files ((run a.host reader words).run s).2.files := by
  have hR := admits_keeps a.directory (arguments.Names a.directory)
  have hl := allowed_begun reader s hR
  have hdoes : Session.Does (Files.Keeps (arguments.Names a.directory)) (a.context reader arguments s)
      (Session.draft arguments >>= Session.conclude) fun r => r.2 = none := by
    refine Session.does_bind (does_draft_begun reader s hR) fun r hr => ?_
    have honly : r.1.isArchiveOnly = true := by
      rw [Task.isArchiveOnly, Task.makesArchive, hr.1, hzip, houtput, hpdf]
      rfl
    obtain ⟨t, w⟩ := r
    cases hr.2 honly
    exact Session.does_pure rfl
  rw [run_eq hread]
  refine ((moves_begun s hR).trans (hdoes.moves _)).trans (moves_ending hl ?_ _)
  intro t p hp
  cases hdoes.gives _ _ _ (Prod.ext hp rfl)

end Runs
end Texdown.CommandLine
