import Texdown.CommandLine.Session
import Texdown.Proofs.Places

/-!
# What a session does to files

A session is run on a machine that is a value. Reading, reporting and asking the web leave its files as they
are, so they change only where something is written: a log, an archive, a LaTeX file or a PDF. What a part of a
session may change is a relation between the files in front of it and behind it, and the parts of a session
together change what their relation allows.

Results:
* `Session.on_bind`: a part of a session goes on where another one ended.
* `moves_reportAll`: a report changes the file of the log.
* `file_start`: the file of a log stands where its path leads.
* `Session.does_prepare`, `Session.does_collectFigures`, `Session.does_render`: what comes in front of writing
  changes nothing but the log.
* `Session.does_writeArchive`: an archive changes what stands at its path.
-/
namespace Texdown.CommandLine

/-! ## Acts on a machine -/

namespace Machine

variable (change : Files → Except FileProblem Files) {s : Machine}

theorem changeFiles_of_ok {f : Files} (h : change s.files = .ok f) :
    (changeFiles change).run s = (.ok (), { s with files := f }) := by
  rw [StateT.run, changeFiles, h]

theorem changeFiles_of_error {problem : FileProblem} (h : change s.files = .error problem) :
    (changeFiles change).run s = (.error problem, s) := by
  rw [StateT.run, changeFiles, h]

end Machine

section Acts

variable {α β : Type} {R : Files → Files → Prop} [IsPreorder Files R]

/-- An act that changes the files of a machine as a relation allows. -/
def Moves (R : Files → Files → Prop) (x : StateM Machine α) : Prop := ∀ s : Machine, R s.files (x.run s).2.files

theorem moves_pure (a : α) : Moves R (pure a) := fun s => refl_of R s.files

theorem moves_bind {x : StateM Machine α} {f : α → StateM Machine β} (hx : Moves R x)
    (hf : ∀ a, Moves R (f a)) : Moves R (x >>= f) := fun s => trans_of R (hx s) (hf _ _)

omit [IsPreorder Files R] in
theorem moves_change [Std.Refl R] {change : Files → Except FileProblem Files}
    (h : ∀ f f', change f = .ok f' → R f f') : Moves R (Machine.changeFiles change) := fun s => by
  cases hchange : change s.files with
  | ok f => exact Machine.changeFiles_of_ok change hchange ▸ h _ _ hchange
  | error problem => exact Machine.changeFiles_of_error change hchange ▸ refl_of R s.files

theorem moves_complain (t : Text) : Moves R (Machine.complain t) := fun s => refl_of R s.files

variable (a : Surroundings)

theorem moves_look (path : Text) : Moves R (a.host.look path) := fun s => refl_of R s.files

/-! ### Reports -/

/-- Whatever a log writes is allowed. -/
def Log.Allowed (l : Log) (base : Place) (R : Files → Files → Prop) : Prop :=
  ∀ path, l.file = some path → ∀ f f' data, f.append base path data = .ok f' → R f f'

/-- Whatever is written at certain places is allowed. -/
def Admits (R : Files → Files → Prop) (base : Place) (T : Place → Prop) : Prop :=
  ∀ path, T (Files.destination base path) → ∀ f f' data, f.write base path data = .ok f' → R f f'

omit [IsPreorder Files R] in
theorem Admits.append {base : Place} {T : Place → Prop} (h : Admits R base T) {path : Text}
    (hT : T (Files.destination base path)) {f f' : Files} {data : Bytes}
    (happend : f.append base path data = .ok f') : R f f' := by
  unfold Files.append at happend
  split at happend
  · exact h path hT f f' _ happend
  · exact h path hT f f' _ happend
  · cases happend

theorem admits_keeps (base : Place) (T : Place → Prop) : Admits (Files.Keeps T) base T :=
  fun _ hT _ _ _ h => Files.keeps_write hT h

theorem admits_spares (base : Place) (T : Place → Prop) : Admits (Files.Spares T) base T :=
  fun _ hT _ _ _ h => (Files.keeps_write hT h).toSpares

variable {a} {l : Log} (hl : l.Allowed a.directory R)
include hl

theorem moves_report (elapsed : Text) (n : Notice) : Moves R (l.report a.host elapsed n) := by
  unfold Log.report
  split
  · refine moves_bind (moves_pure a.now) fun now => moves_bind (moves_complain _) fun _ => ?_
    split
    · rename_i path hfile
      exact moves_bind (moves_change fun f f' h => hl path hfile f f' _ h) fun _ => moves_pure _
    · exact moves_pure _
  · exact moves_pure _

theorem moves_reportAll (elapsed : Text) (ns : List Notice) : Moves R (l.reportAll a.host elapsed ns) := by
  induction ns with
  | nil => exact moves_pure _
  | cons n ns ih => exact moves_bind (moves_report hl elapsed n) fun _ => ih

omit hl in
theorem moves_start {arguments : Arguments}
    (h : ∀ path, arguments.logFile = some path → path ≠ [] →
      ∀ f f' data, f.append a.directory path data = .ok f' → R f f') :
    Moves R (Log.start a.host arguments) := by
  unfold Log.start
  split
  · rename_i path hpath
    obtain ⟨hgiven, hne⟩ := Option.filter_eq_some_iff.1 hpath
    have happend := h path hgiven (by simpa using hne)
    unfold Log.openFile
    refine moves_bind (moves_change fun f f' => happend f f' []) fun opened => ?_
    split
    · refine moves_bind (moves_report (fun path' hpath' => ?_) _ _) fun _ => moves_pure _
      cases hpath'
      exact happend
    · exact moves_bind (moves_report (fun _ hnone => by cases hnone) _ _) fun _ => moves_pure _
  · exact moves_pure _

end Acts

theorem openFile_run (a : Surroundings) (l : Log) (path : Text) (s : Machine) :
    (l.openFile a.host path).run s = match s.files.append a.directory path [] with
      | .ok f => ({ l with file := some path },
          ((Log.report { l with file := some path } a.host [] (.logFileOpened path)).run { s with files := f }).2)
      | .error e => (l, ((l.report a.host [] (.logFileFailed path (e.message
          (Path.resolved a.host.directory path)))).run s).2) := by
  have hopen : (a.host.append path []).run s = match s.files.append a.directory path [] with
    | .ok f => (.ok (), { s with files := f })
    | .error e => (.error e, s) := rfl
  rw [Log.openFile, StateT.run_bind, hopen]
  cases s.files.append a.directory path [] <;> rfl

/-- The file of a log that was opened is the one that was asked for, and stands where its path leads. -/
theorem file_start {a : Surroundings} {arguments : Arguments} {s : Machine} {path : Text}
    (h : ((Log.start a.host arguments).run s).1.file = some path) :
    arguments.logFile = some path ∧ path ≠ [] ∧
      ((Log.start a.host arguments).run s).2.files.find? (Files.destination a.directory path) ≠ none := by
  unfold Log.start at h ⊢
  split at h
  · rename_i path' hpath
    obtain ⟨hgiven, hne⟩ := Option.filter_eq_some_iff.1 hpath
    rw [openFile_run] at h ⊢
    cases happend : s.files.append a.directory path' [] with
    | ok f =>
      rw [happend] at h
      cases h
      refine ⟨hgiven, by simpa using hne, ?_⟩
      obtain ⟨written, hwritten⟩ := Files.find?_of_append happend
      have hreport : Moves (Files.Keeps (· = Files.destination a.directory path))
          (Log.report { Log.ofArguments arguments with file := some path } a.host [] (.logFileOpened path)) :=
        moves_report (fun path' hpath' f f' data => Files.keeps_append (by cases hpath'; rfl)) _ _
      exact (hreport { s with files := f }).occupied _ (by rw [hwritten]; exact Option.some_ne_none _)
    | error e =>
      rw [happend] at h
      cases h
  · cases h

/-! ### The web -/

section Web

/-- An act that leaves the machine alone and gives the same on every machine. -/
def Steady {α : Type} (x : StateM Machine α) : Prop := ∃ v, x = pure v

variable {α β : Type} {x : StateM Machine α}

theorem Steady.bind {f : α → StateM Machine β} (hx : Steady x) (hf : ∀ a, Steady (f a)) : Steady (x >>= f) := by
  obtain ⟨v, rfl⟩ := hx
  exact hf v

theorem Steady.moves {R : Files → Files → Prop} [IsPreorder Files R] (hx : Steady x) : Moves R x := by
  obtain ⟨v, rfl⟩ := hx
  exact moves_pure v

variable (a : Surroundings) (p : Web.Policy)

theorem steady_follow (client : Web.Client) (url : Text) (fuel : Nat) (current : Text) :
    Steady (Web.follow client a.host.get p url fuel current) := by
  induction fuel generalizing current with
  | zero => exact ⟨_, rfl⟩
  | succ fuel ih =>
    unfold Web.follow
    split
    · exact ⟨_, rfl⟩
    · refine .bind ⟨a.get current, rfl⟩ fun answer => ?_
      split
      · exact ⟨_, rfl⟩
      · split
        · exact ⟨_, rfl⟩
        · exact (ih _).bind fun _ => ⟨_, rfl⟩

theorem steady_fetchBy (client : Web.Client) (url : Text) : Steady (Web.fetchBy client a.host.get p url) := by
  unfold Web.fetchBy
  split
  · exact ⟨_, rfl⟩
  · split
    · exact ⟨_, rfl⟩
    · refine (steady_follow a p client url _ _).bind fun f => ?_
      split
      · exact ⟨_, rfl⟩
      · exact ⟨_, rfl⟩

theorem steady_fetchText (client : Web.Client) (url : Text) : Steady (Web.fetchText client a.host.get p url) :=
  (steady_fetchBy a p client url).bind fun _ => ⟨_, rfl⟩

theorem steady_downloadAll (client : Web.Client) (d : Web.Downloaded) (urls : List Text) :
    Steady (Web.downloadAll (Web.fetchImage client a.host.get p) d urls) := by
  induction urls generalizing d with
  | nil => exact ⟨_, rfl⟩
  | cons url urls ih =>
    refine .bind ?_ fun d' => ih d'
    unfold Web.downloadOne
    split
    · exact ⟨_, rfl⟩
    · split
      · exact ⟨_, rfl⟩
      · exact ⟨_, rfl⟩
      · refine (steady_fetchBy a _ client url).bind fun f => ?_
        split
        · exact ⟨_, rfl⟩
        · exact ⟨_, rfl⟩
        · exact ⟨_, rfl⟩

theorem steady_download (client : Web.Client) (registry : Figure.Registry) (urls : List Text) :
    Steady (Web.download client a.host.get p registry urls) := by
  refine (steady_downloadAll a p client _ _).bind fun d => ?_
  split
  · exact ⟨_, rfl⟩
  · exact ⟨_, rfl⟩

end Web

/-! ### Configurations -/

section Config

variable {R : Files → Files → Prop} [IsPreorder Files R] (a : Surroundings)

theorem moves_search (paths : List (Text × Bool)) : Moves R (Config.search a.host.look paths) := by
  induction paths with
  | nil => exact moves_pure _
  | cons entry paths ih =>
    obtain ⟨path, isProject⟩ := entry
    unfold Config.search
    refine moves_bind (moves_look a path) fun stands => ?_
    split
    · exact moves_pure _
    · exact moves_pure _
    · exact moves_bind ih fun _ => moves_pure _

theorem moves_load (directory : Text) (named environment : Option Text) :
    Moves R (Config.load a.host.readYaml a.host.look directory named environment) := by
  unfold Config.load
  extract_lets given reading
  have hreading : ∀ found, Moves R (reading found) := fun found => by
    unfold reading
    split
    split
    · exact moves_pure _
    · exact moves_pure _
    · exact moves_bind (moves_look a _) fun _ => moves_pure _
  split
  · exact moves_bind (moves_pure _) hreading
  · exact moves_bind (moves_search a _) hreading

end Config

/-! ## Parts of a session -/

namespace Session

section Rules

variable {α β : Type} {c : Context (StateM Machine)}

/-- What a part of a session gives on a machine, and the machine behind it. -/
def on (x : Session (StateM Machine) α) (c : Context (StateM Machine)) (s : Machine) : Except Error α × Machine :=
  (x.run c).run.run s

/-- A part of a session goes on where another one ended. -/
theorem on_bind (x : Session (StateM Machine) α) (f : α → Session (StateM Machine) β)
    (c : Context (StateM Machine)) (s : Machine) : (x >>= f).on c s = match x.on c s with
      | (.ok a, s') => (f a).on c s'
      | (.error e, s') => (.error e, s') := by
  simp only [on, ReaderT.run_bind, ExceptT.run_bind, StateT.run_bind]
  rcases (x.run c).run.run s with ⟨_ | _, s'⟩ <;> rfl

/-- A part of a session changes files as a relation allows, and gives what a property holds of. -/
structure Does (R : Files → Files → Prop) (c : Context (StateM Machine)) (x : Session (StateM Machine) α)
    (P : α → Prop) : Prop where
  moves : ∀ s, R s.files (x.on c s).2.files
  gives : ∀ s a s', x.on c s = (.ok a, s') → P a

variable {R : Files → Files → Prop} [IsPreorder Files R] {P : α → Prop}

theorem does_pure {a : α} (h : P a) : Does R c (pure a) P where
  moves s := refl_of R s.files
  gives s b s' hb := by
    cases hb
    exact h

theorem does_throw (e : Error) : Does R c (throw e) P where
  moves s := refl_of R s.files
  gives _ _ _ hb := by cases hb

theorem does_bind {x : Session (StateM Machine) α} {f : α → Session (StateM Machine) β} {Q : β → Prop}
    (hx : Does R c x P) (hf : ∀ a, P a → Does R c (f a) Q) : Does R c (x >>= f) Q where
  moves s := by
    rw [on_bind]
    have hmoves := hx.moves s
    split
    · rename_i a s' hon
      rw [hon] at hmoves
      exact trans_of R hmoves ((hf a (hx.gives s a s' hon)).moves s')
    · rename_i e s' hon
      rwa [hon] at hmoves
  gives s b s'' hb := by
    rw [on_bind] at hb
    split at hb
    · rename_i a s' hon
      exact (hf a (hx.gives s a s' hon)).gives s' b s'' hb
    · cases hb

theorem does_settled (r : Except Error α) : Does R c (settled r) fun a => r = .ok a where
  moves s := refl_of R s.files
  gives _ _ _ ha := (Prod.mk.inj ha).1

omit [IsPreorder Files R] in
theorem does_onHost_giving {act : Host (StateM Machine) → StateM Machine α} (h : Moves R (act c.host))
    (hgives : ∀ s, P ((act c.host).run s).1) : Does R c (onHost act) P where
  moves s := h s
  gives s _ _ ha := Except.ok.inj (Prod.mk.inj ha).1 ▸ hgives s

omit [IsPreorder Files R] in
theorem does_onHost {act : Host (StateM Machine) → StateM Machine α} (h : Moves R (act c.host)) :
    Does R c (onHost act) fun _ => True := does_onHost_giving h fun _ => trivial

theorem does_reader : Does R c (readThe (Context (StateM Machine))) fun c' => c' = c where
  moves s := refl_of R s.files
  gives s c' s' hc := by
    cases hc
    rfl

end Rules

/-! ### What changes the log at most -/

section Parts

variable {R : Files → Files → Prop} [IsPreorder Files R] {a : Surroundings} {l : Log}
  {reader : ReadingOptions → Reader} (hl : l.Allowed a.directory R)
include hl

theorem does_say (ns : List Notice) : Does R ⟨a.host, l, reader⟩ (say ns) fun _ => True :=
  ⟨moves_reportAll hl [] ns, fun _ _ _ _ => trivial⟩

theorem does_sayTimed (ns : List Notice) : Does R ⟨a.host, l, reader⟩ (sayTimed ns) fun _ => True :=
  ⟨moves_reportAll hl a.elapsed ns, fun _ _ _ _ => trivial⟩

omit hl in
theorem does_announce (t : Task) (path : Text) : Does R ⟨a.host, l, reader⟩ (announce t path) fun _ => True := by
  unfold announce
  split
  · exact does_pure trivial
  · exact does_onHost (moves_complain _)

omit hl in
theorem does_frame (o : RenderingOptions) : Does R ⟨a.host, l, reader⟩ (frame o) fun _ => True := by
  refine does_onHost ?_
  unfold RenderingOptions.frame
  split
  · exact moves_pure _
  · exact moves_pure _
  · refine moves_bind (moves_bind (moves_look a _) fun stands => ?_) fun _ => moves_pure _
    split <;> exact moves_pure _
  · exact moves_pure _

/-- What is settled is a task for the arguments. -/
theorem does_prepare (arguments : Arguments) :
    Does R ⟨a.host, l, reader⟩ (prepare arguments) fun t => t.arguments = arguments := by
  unfold prepare
  extract_lets goOn
  have hgoOn : ∀ fields, Does R ⟨a.host, l, reader⟩ (goOn fields) fun t => t.arguments = arguments := by
    intro fields
    refine does_bind (does_say hl _) fun _ _ => does_bind (does_settled _) fun o _ => ?_
    exact does_bind (does_settled _) fun _ _ => does_bind (does_say hl _) fun _ _ => does_pure rfl
  split
  · exact does_bind (does_pure (P := fun _ => True) trivial) fun fields _ => hgoOn fields
  · refine does_bind (does_onHost (moves_load a _ _ _)) fun found _ => ?_
    split
    refine does_bind (does_say hl _) fun _ _ => does_bind (does_settled _) fun fields _ => hgoOn fields

theorem does_readDocument (t : Task) : Does R ⟨a.host, l, reader⟩ (readDocument t) fun _ => True := by
  unfold readDocument
  extract_lets source
  split
  · exact does_bind (does_onHost (moves_pure _)) fun _ _ => does_pure trivial
  · refine does_bind (does_settled _) fun remote _ => ?_
    split
    · refine does_bind (does_say hl _) fun _ _ => does_bind (does_onHost ?_) fun f _ => ?_
      · exact (steady_fetchText a _ _ source).moves
      · refine does_bind (does_say hl _) fun _ _ => does_bind (does_settled _) fun markdown _ => ?_
        exact does_bind (does_settled _) fun name _ => does_pure trivial
    · refine does_bind (does_onHost (moves_look a source)) fun stands _ => ⟨?_, fun _ _ _ _ => trivial⟩
      exact (does_settled _).moves

omit hl in
theorem does_imageData (d : Document) (failed : Text → FileProblem → Error) (url : Text) :
    Does R ⟨a.host, l, reader⟩ (imageData d failed url) fun _ => True := by
  unfold imageData
  refine does_bind (does_settled _) fun isLocal _ => ?_
  split
  · exact does_pure trivial
  · refine does_bind (does_onHost (moves_look a _)) fun stands _ => ?_
    split
    · exact does_pure trivial
    · exact does_throw _
    · exact does_pure trivial

omit hl in
theorem does_imagesData (d : Document) (failed : Text → FileProblem → Error) (urls : List Text) :
    Does R ⟨a.host, l, reader⟩ (imagesData d failed urls) fun _ => True := by
  induction urls with
  | nil => exact does_pure trivial
  | cons url urls ih =>
    exact does_bind (does_imageData d failed url) fun _ _ => does_bind ih fun _ _ => does_pure trivial

theorem does_collectFigures (t : Task) (d : Document) :
    Does R ⟨a.host, l, reader⟩ (collectFigures t d) fun _ => True := by
  unfold collectFigures
  refine does_bind does_reader fun c _ => ?_
  extract_lets read
  rcases imageUrls read d.markdown with ⟨urls, ns⟩
  refine does_bind (does_sayTimed hl _) fun _ _ => does_bind (does_settled _) fun urls _ => ?_
  refine does_bind (does_imagesData d _ urls) fun found _ => does_bind (does_settled _) fun collected _ => ?_
  refine does_bind (does_say hl _) fun _ _ => ?_
  split
  · refine does_bind (does_onHost (steady_download a _ _ _ _).moves) fun w _ => ?_
    refine does_bind (does_say hl _) fun _ _ => ?_
    split
    · exact does_throw _
    · exact does_pure trivial
  · refine does_bind (does_settled _) fun remote _ => ?_
    split
    · exact does_bind (does_say hl _) fun _ _ => does_pure trivial
    · exact does_pure trivial

theorem does_render (t : Task) (d : Document) (resolve : Latex.Resolver) (report : Text → List Notice) :
    Does R ⟨a.host, l, reader⟩ (render t d resolve report) fun _ => True := by
  unfold render
  refine does_bind does_reader fun c _ => does_bind (does_frame _) fun preamble _ => ?_
  refine does_bind (does_sayTimed hl _) fun _ _ => ⟨?_, fun _ _ _ _ => trivial⟩
  exact (does_settled _).moves

omit hl in
theorem does_save {path : Text} {data : Bytes}
    (h : ∀ f f', f.write a.directory path data = .ok f' → R f f') :
    Does R ⟨a.host, l, reader⟩ (save path data) fun _ => True := by
  unfold save
  refine does_bind (does_onHost (moves_change h)) fun written _ => ?_
  split
  · exact does_pure trivial
  · exact does_throw _

theorem does_writeArchive (t : Task) (d : Document) (registry : Figure.Registry) {path : Text}
    (h : ∀ f f' data, f.write a.directory (Path.plain path) data = .ok f' → R f f') :
    Does R ⟨a.host, l, reader⟩ (writeArchive t d registry path) fun _ => True := by
  unfold writeArchive
  extract_lets o
  refine does_bind does_reader fun c _ => does_bind (does_frame _) fun preamble _ => ?_
  split
  refine does_bind (does_sayTimed hl _) fun _ _ => does_bind (does_settled _) fun archive _ => ?_
  refine does_bind (does_save fun f f' => h f f' _) fun _ _ => does_bind (does_say hl _) fun _ _ => ?_
  exact does_announce t _

end Parts
end Session
end Texdown.CommandLine
