import Texdown.Proofs.Figures
import Texdown.Proofs.NewFiles
import Mathlib.Data.Nat.Nth
import Mathlib.Data.Set.Finite.Lattice

/-!
# Runs one after another

A run leaves its LaTeX behind, and the next run on the same document meets it there. What stood before is still
seen, the new file is no configuration, and an image that is found in it changes the LaTeX but not whether there is
any; so the document comes to have LaTeX again, for the same title, and the next free name is given to a new file.

Results:
* `Files.Grows`: what stood anywhere stays, and what is new has a name of a kind.
* `Files.Fills.leastFree`: behind the first free names comes the next one.
* `RenderingOptions.convert_result`: whether a conversion succeeds does not depend on where paths come from.
* `Session.Follows`: what one part of a session gives, another one gives among more files.
* `Session.follows_draft`: the same document is drafted among more files.
* `runs_fill`: runs one after another give the first free names to files.
* `default_output`: where the LaTeX goes unless a path is given.
-/
namespace Texdown

/-! ## Files that grow -/

namespace Files

/-- What stands anywhere stays as it is, and what is new are files whose names have a property. -/
structure Grows (N : Text → Prop) (f f' : Files) : Prop where
  kept : ∀ q, f.find? q ≠ none → f'.find? q = f.find? q
  added : ∀ q, f.find? q = none → f'.find? q ≠ none →
    ∃ data name, f'.find? q = some (.file data) ∧ q.getLast? = some name ∧ N name

variable {N : Text → Prop} {f f' f'' : Files} {base start q : Place} {path name : Text} {names : List Text}

theorem Grows.spares (h : Grows N f f') (T : Place → Prop) : Spares T f f' where
  directories q hq := (h.kept q (hq ▸ nofun)).trans hq
  occupied q hq := h.kept q hq ▸ hq
  others q _ hq := h.kept q hq

section Grows

variable (h : Grows N f f')
include h

theorem Grows.directory_iff : f'.find? q = some .directory ↔ f.find? q = some .directory := by
  by_cases hq : f.find? q = none
  · rw [hq]
    refine iff_of_false (fun hdirectory => ?_) nofun
    obtain ⟨data, -, hfile, -⟩ := h.added q hq (hdirectory ▸ nofun)
    cases hdirectory.symm.trans hfile
  · rw [h.kept q hq]

theorem Grows.follow_eq_ok_iff : f'.follow start names = .ok q ↔ f.follow start names = .ok q := by
  induction names generalizing start with
  | nil => rfl
  | cons name names ih => rw [follow_cons_eq_ok_iff, follow_cons_eq_ok_iff, h.directory_iff, ih]

end Grows

theorem follow_cons_eq_tooLong_iff : f.follow start (name :: names) = .error .nameTooLong ↔
    f.find? start = some .directory ∧ ((name ≠ ['.', '.'] ∧ ¬ Accepts name) ∨
      (name ≠ ['.', '.'] → Accepts name) ∧ f.follow (Place.next start name) names = .error .nameTooLong) := by
  rw [Place.next, Accepts, ← Nat.not_lt, follow]
  split
  · simp_all
  · simp_all
  · split
    · simp_all
    · split <;> simp_all

theorem look_eq_tooLong_iff :
    f.look base path = .error .nameTooLong ↔ f.locate base path = .error .nameTooLong := by
  unfold look
  cases f.locate base path with
  | error e => simp [bind, Except.bind]
  | ok q =>
    simp only [bind, Except.bind]
    split <;> simp

/-- What a tree answers when it has nothing at a path: no file is kept from being read. -/
theorem look_error {e : FileProblem} (h : f.look base path = .error e) :
    e ∈ [FileProblem.missing, .notDirectory, .nameTooLong] := by
  have hfollow : ∀ names start, f.follow start names = .error e →
      e ∈ [FileProblem.missing, .notDirectory, .nameTooLong] := by
    intro names
    induction names with
    | nil => nofun
    | cons name names ih =>
      intro start h
      unfold follow at h
      split at h
      · cases h
        decide
      · cases h
        decide
      · split at h
        · exact ih _ h
        · split at h
          · cases h
            decide
          · exact ih _ h
  unfold look at h
  cases hlocate : f.locate base path with
  | error e' =>
    rw [hlocate] at h
    cases h
    exact hfollow _ _ hlocate
  | ok q =>
    simp only [hlocate, bind, Except.bind] at h
    split at h
    · cases h
    · cases h
      decide

section Grows

variable (h : Grows N f f')
include h

theorem Grows.follow_eq_tooLong_iff :
    f'.follow start names = .error .nameTooLong ↔ f.follow start names = .error .nameTooLong := by
  induction names generalizing start with
  | nil => simp [follow]
  | cons name names ih => rw [follow_cons_eq_tooLong_iff, follow_cons_eq_tooLong_iff, h.directory_iff, ih]

theorem Grows.look_eq_tooLong_iff :
    f'.look base path = .error .nameTooLong ↔ f.look base path = .error .nameTooLong := by
  rw [Files.look_eq_tooLong_iff, Files.look_eq_tooLong_iff]
  exact h.follow_eq_tooLong_iff

/-- What was seen at a path is still there. -/
theorem Grows.look_ok {entry : FileEntry} (hlook : f.look base path = .ok entry) :
    f'.look base path = .ok entry := by
  obtain ⟨q, hq, hstands⟩ := look_eq_ok_iff.1 hlook
  exact look_eq_ok_iff.2 ⟨q, h.follow_eq_ok_iff.2 hq, (h.kept q (hstands ▸ nofun)).trans hstands⟩

/-- Nothing is seen that was not there, where names of another kind lead. -/
theorem Grows.look_ok_iff (hN : ∀ name, (destination base path).getLast? = some name → ¬ N name)
    {entry : FileEntry} : f'.look base path = .ok entry ↔ f.look base path = .ok entry := by
  refine ⟨fun hlook => ?_, h.look_ok⟩
  obtain ⟨q, hq, hstands⟩ := look_eq_ok_iff.1 hlook
  have hq' : f.locate base path = .ok q := h.follow_eq_ok_iff.1 hq
  refine look_eq_ok_iff.2 ⟨q, hq', ?_⟩
  by_contra hne
  have hnone : f.find? q = none := by
    by_contra hsome
    exact hne ((h.kept q hsome).symm.trans hstands)
  obtain ⟨-, name, -, hlast, hname⟩ := h.added q hnone (hstands ▸ nofun)
  exact hN name (locate_destination hq' ▸ hlast) hname

end Grows

/-! ## One name after another -/

section Numbers

variable {f f' f'' : Files} {place q : Place} {stem suffix : Text} {n : Nat}

/-- Whether a number makes a name free in a directory. -/
def IsFree (f : Files) (place : Place) (stem suffix : Text) (k : Nat) : Prop :=
  f.find? (place ++ [numbered stem suffix k]) = none

/-- The numbers that make a name free in a directory, from the least one on. -/
noncomputable def freeNumber (f : Files) (place : Place) (stem suffix : Text) : Nat → Nat :=
  Nat.nth (f.IsFree place stem suffix)

/-- The places that the free numbers lead to. -/
noncomputable def freePlace (f : Files) (place : Place) (stem suffix : Text) (i : Nat) : Place :=
  place ++ [numbered stem suffix (f.freeNumber place stem suffix i)]

instance (f : Files) (place : Place) (stem suffix : Text) : DecidablePred (f.IsFree place stem suffix) :=
  fun k => decEq (f.find? (place ++ [numbered stem suffix k])) none

theorem append_numbered_injective (place : Place) (stem suffix : Text) :
    Function.Injective fun k => place ++ [numbered stem suffix k] := fun _ _ h =>
  numbered_injective stem suffix (List.singleton_inj.1 (List.append_cancel_left h))

/-- Only finitely many numbers are taken. -/
theorem infinite_free (f : Files) (place : Place) (stem suffix : Text) :
    (Set.ofPred (f.IsFree place stem suffix)).Infinite := by
  refine Set.infinite_of_finite_compl (Set.Finite.subset ((List.finite_toSet (f.entries.map (·.1))).preimage
    (append_numbered_injective place stem suffix).injOn) fun k hk => ?_)
  have hne : place ++ [numbered stem suffix k] ≠ [] := by simp
  have hstands : f.find? (place ++ [numbered stem suffix k]) ≠ none := hk
  rw [find?, if_neg hne, lookup_ne_none_iff] at hstands
  obtain ⟨e, he, hplace⟩ := hstands
  exact List.mem_map.2 ⟨e, he, hplace⟩

theorem isFree_freeNumber (f : Files) (place : Place) (stem suffix : Text) (i : Nat) :
    f.find? (f.freePlace place stem suffix i) = none :=
  Nat.nth_mem_of_infinite (infinite_free f place stem suffix) i

theorem freePlace_injective (f : Files) (place : Place) (stem suffix : Text) :
    Function.Injective (f.freePlace place stem suffix) :=
  (append_numbered_injective place stem suffix).comp (Nat.nth_injective (infinite_free f place stem suffix))

/-- The first free names for a stem have been given to files, and nothing else has changed. -/
structure Fills (place : Place) (stem suffix : Text) (n : Nat) (f f' : Files) : Prop where
  written : ∀ i < n, ∃ data, f'.find? (f.freePlace place stem suffix i) = some (.file data)
  others : ∀ q, (∀ i < n, q ≠ f.freePlace place stem suffix i) → f'.find? q = f.find? q

theorem fills_zero (place : Place) (stem suffix : Text) (f : Files) : Fills place stem suffix 0 f f :=
  ⟨nofun, fun _ _ => rfl⟩

/-- What is added has one of the names. -/
theorem Fills.grows (h : Fills place stem suffix n f f') :
    Grows (fun name => ∃ k, name = numbered stem suffix k) f f' where
  kept q hq := h.others q fun i _ heq => hq (heq ▸ isFree_freeNumber f place stem suffix i)
  added q hq hq' := by
    by_cases hplace : ∃ i < n, q = f.freePlace place stem suffix i
    · obtain ⟨i, hi, rfl⟩ := hplace
      obtain ⟨data, hdata⟩ := h.written i hi
      exact ⟨data, _, hdata, List.getLast?_concat, _, rfl⟩
    · exact absurd ((h.others q fun i hi heq => hplace ⟨i, hi, heq⟩).trans hq) hq'

/-- The next free number is the least one behind those. -/
theorem Fills.leastFree (h : Fills place stem suffix n f f') :
    f'.LeastFree place stem suffix (f.freeNumber place stem suffix n) where
  free := by
    refine (h.others _ fun i hi heq => ?_).trans (isFree_freeNumber f place stem suffix n)
    exact Nat.ne_of_lt hi (freePlace_injective f place stem suffix heq).symm
  least j hj := by
    by_cases hfree : f.IsFree place stem suffix j
    · obtain ⟨i, -, rfl⟩ := Nat.exists_lt_card_nth_eq hfree
      obtain ⟨data, hdata⟩ := h.written i ((Nat.nth_lt_nth (infinite_free f place stem suffix)).1 hj)
      exact fun hnone => by cases hdata.symm.trans hnone
    · exact h.grows.kept _ hfree ▸ hfree

/-- A file with the next free name goes with those before. -/
theorem Fills.gains {data : Bytes} (h : Fills place stem suffix n f f')
    (hnext : Gains (fun _ => False) (f.freePlace place stem suffix n) data f' f'') :
    Fills place stem suffix (n + 1) f f'' where
  written i hi := by
    rcases Nat.lt_succ_iff_lt_or_eq.1 hi with hi | rfl
    · obtain ⟨data', hdata⟩ := h.written i hi
      have hne : f.freePlace place stem suffix i ≠ f.freePlace place stem suffix n := fun heq =>
        Nat.ne_of_lt hi (freePlace_injective f place stem suffix heq)
      exact ⟨data', (hnext.find?_eq (by simpa using hne)).trans hdata⟩
    · exact ⟨data, hnext.written⟩
  others q hq := by
    have hne : q ≠ f.freePlace place stem suffix n := hq n (Nat.lt_succ_self n)
    refine (hnext.find?_eq (by simpa using hne)).trans (h.others q fun i hi => hq i (Nat.lt_succ_of_lt hi))

end Numbers
end Files

/-! ## Other figures -/

namespace Latex.Rendering

/-- Marks in place of figures leave no less behind than there was. -/
theorem textOf_masked_eq_nil_iff {mark : Text} (hmark : mark ≠ []) {out : List Piece}
    (h : ∀ p ∈ out, p.origin = .figure → p.text ≠ []) : textOf (masked mark out) = [] ↔ textOf out = [] := by
  simp only [textOf, masked, List.flatMap_eq_nil_iff, List.forall_mem_map]
  refine forall₂_congr fun p hp => ?_
  split
  · rename_i hfigure
    exact iff_of_false hmark (h p hp hfigure)
  · rfl

theorem figure_ne_nil (width url : Text) (path : Option Text) : figure width url path ≠ [] := by
  cases path with
  | none => exact List.cons_ne_nil _ _
  | some path => exact fun h => by cases h

/-- Whether anything is written does not depend on where paths come from. -/
theorem document_eq_nil_iff (settings : Settings) (f g : Resolver) (frame : Option Text) (xs : List Located)
    (ts : List Notice) (table : Math.Table) :
    (document settings g frame xs ts table).1.latex = [] ↔ (document settings f frame xs ts table).1.latex = [] := by
  have hmasked : ∀ resolve, textOf (masked ['%'] (document settings resolve frame xs ts table).1.formatter.out) = []
      ↔ (document settings resolve frame xs ts table).1.latex = [] := fun resolve => by
    refine textOf_masked_eq_nil_iff (List.cons_ne_nil _ _) fun p hp hfigure => ?_
    have hdrawn := drawn_document settings resolve frame xs ts table
    have hmem : p.text ∈ (document settings resolve frame xs ts table).1.formatter.figures :=
      List.mem_map_of_mem (List.mem_filter.2 ⟨hp, decide_eq_true hfigure⟩)
    rw [Drawn] at hdrawn
    rw [hdrawn] at hmem
    obtain ⟨url, -, heq⟩ := List.mem_map.1 hmem
    exact heq ▸ figure_ne_nil _ _ _
  rw [← hmasked g, ← hmasked f, (document_alike settings f g frame xs ts table ['%']).2.2.out]

end Latex.Rendering

/-- A conversion that succeeds has its preamble, and succeeds wherever paths come from. -/
theorem RenderingOptions.convert_result {o : RenderingOptions} {frame : Option (Except Error Text)}
    {f : Latex.Resolver} {read : Reader} {markdown latex : Text}
    (h : (o.convert frame f read markdown).result = .ok latex) (g : Latex.Resolver) :
    (∀ e, frame ≠ some (.error e)) ∧ ∃ latex', (o.convert frame g read markdown).result = .ok latex' := by
  unfold convert at h ⊢
  simp only at h ⊢
  by_cases hwidth : (o.wholeIndent?.isNone &&
      !(Job.convert ⟨o.settings, frame, f⟩ read markdown).latex.isEmpty) = true
  · rw [if_pos hwidth] at h
    cases h
  · rw [if_neg hwidth] at h
    have herror : (Job.convert ⟨o.settings, frame, f⟩ read markdown).error = none := by
      unfold Converted.result at h
      split at h
      · cases h
      · assumption
    obtain ⟨tokens, preamble, hread, hframe⟩ := Latex.Rendering.exists_of_convert herror
    simp only at hframe
    subst hframe
    obtain ⟨hf, -, hferror⟩ := Latex.Rendering.convert_eq o.settings f preamble hread
    obtain ⟨hg, -, hgerror⟩ := Latex.Rendering.convert_eq o.settings g preamble hread
    -- The only thing about the LaTeX that a conversion can fail for is whether there is any.
    have hempty := Latex.Rendering.document_eq_nil_iff o.settings f g preamble
      (streamOf (Math.prepare (Text.normalizeNewlines markdown)).1 tokens).1
      (streamOf (Math.prepare (Text.normalizeNewlines markdown)).1 tokens).2
      (Math.prepare (Text.normalizeNewlines markdown)).2
    have hsame : (Job.convert ⟨o.settings, preamble.map .ok, g⟩ read markdown).latex.isEmpty
        = (Job.convert ⟨o.settings, preamble.map .ok, f⟩ read markdown).latex.isEmpty := by
      rw [Bool.eq_iff_iff, List.isEmpty_iff, List.isEmpty_iff, hf, hg]
      exact hempty
    have hnone : (Job.convert ⟨o.settings, preamble.map .ok, g⟩ read markdown).error = none := by
      rw [hgerror, ← herror, hferror]
      exact (Latex.Rendering.document_alike o.settings f g preamble _ _ _ []).1
    refine ⟨fun e => by cases preamble <;> nofun, ?_⟩
    rw [hsame, if_neg hwidth, Converted.result, hnone]
    exact ⟨_, rfl⟩

namespace CommandLine

/-! ## Reading among more files -/

section Agrees

variable {α α' β β' : Type} {s s' : Machine}

/-- Two acts that leave two machines alone and give related values on them. -/
structure Agrees (s s' : Machine) (x : StateM Machine α) (x' : StateM Machine β) (Q : α → β → Prop) : Prop where
  left : (x.run s).2 = s
  right : (x'.run s').2 = s'
  values : Q (x.run s).1 (x'.run s').1

theorem agrees_pure {Q : α → β → Prop} {v : α} {v' : β} (h : Q v v') : Agrees s s' (pure v) (pure v') Q :=
  ⟨rfl, rfl, h⟩

theorem agrees_bind {x : StateM Machine α} {x' : StateM Machine α'} {f : α → StateM Machine β}
    {f' : α' → StateM Machine β'} {Q : α → α' → Prop} {Q' : β → β' → Prop} (hx : Agrees s s' x x' Q)
    (hf : ∀ v v', Q v v' → Agrees s s' (f v) (f' v') Q') : Agrees s s' (x >>= f) (x' >>= f') Q' := by
  have hnext := hf _ _ hx.values
  have hleft : (x >>= f).run s = (f (x.run s).1).run s := by
    rw [StateT.run_bind]
    exact congrArg (f (x.run s).1).run hx.left
  have hright : (x' >>= f').run s' = (f' (x'.run s').1).run s' := by
    rw [StateT.run_bind]
    exact congrArg (f' (x'.run s').1).run hx.right
  exact ⟨by rw [hleft]; exact hnext.left, by rw [hright]; exact hnext.right,
    by rw [hleft, hright]; exact hnext.values⟩

end Agrees

/-- What is seen at a path among more files: what was there, and names that are too long are still so. -/
structure StillSeen (seen seen' : Except FileProblem FileEntry) : Prop where
  ok : ∀ entry, seen = .ok entry → seen' = .ok entry
  tooLong : seen' = .error .nameTooLong ↔ seen = .error .nameTooLong

theorem agrees_look {N : Text → Prop} {s s' : Machine} (h : Files.Grows N s.files s'.files) (a : Surroundings)
    (path : Text) : Agrees s s' (a.host.look path) (a.host.look path) StillSeen where
  left := rfl
  right := rfl
  values := ⟨fun _ => h.look_ok, h.look_eq_tooLong_iff⟩

/-! ### Configurations -/

section Config

variable {N : Text → Prop} {a : Surroundings} {s s' : Machine}

theorem accepts_congr {path : Text} {isProject : Bool} {seen seen' : Except FileProblem FileEntry}
    (h : ∀ entry, seen' = .ok entry ↔ seen = .ok entry)
    (hlong : seen' = .error .nameTooLong ↔ seen = .error .nameTooLong)
    (herror : ∀ e, seen = .error e → e ∈ [FileProblem.missing, .notDirectory, .nameTooLong])
    (herror' : ∀ e, seen' = .error e → e ∈ [FileProblem.missing, .notDirectory, .nameTooLong]) :
    Config.accepts path isProject seen' = Config.accepts path isProject seen := by
  cases seen with
  | ok entry => rw [(h entry).2 rfl]
  | error e =>
    cases seen' with
    | ok entry => cases (h entry).1 rfl
    | error e' =>
      have he := herror e rfl
      have he' := herror' e' rfl
      simp only [List.mem_cons, List.not_mem_nil, or_false] at he he'
      rcases he with rfl | rfl | rfl <;> rcases he' with rfl | rfl | rfl <;> simp [Config.accepts] at hlong ⊢

theorem ofFile_ok {readYaml : Config.YamlReader} {path : Text} {seen : Except FileProblem FileEntry}
    {es : Config.Entries} (h : Config.ofFile readYaml path seen = .ok es) : ∃ data, seen = .ok (.file data) := by
  unfold Config.ofFile at h
  split at h
  · cases h
  · cases h
  · have hnone : ∀ es, Config.ofHeld readYaml path none ≠ .ok es := fun es => by
      unfold Config.ofHeld
      split
      · nofun
      · split <;> nofun
    exact absurd h (hnone es)
  · cases h
  · cases h
  · exact ⟨_, rfl⟩

/-- A search among names of another kind finds what it found. -/
theorem agrees_search (h : Files.Grows N s.files s'.files) {paths : List (Text × Bool)}
    (hN : ∀ p ∈ paths, ∀ name, (Files.destination a.directory p.1).getLast? = some name → ¬ N name) :
    Agrees s s' (Config.search a.host.look paths) (Config.search a.host.look paths) (fun r r' => r' = r) := by
  induction paths with
  | nil => exact agrees_pure rfl
  | cons p paths ih =>
    obtain ⟨path, isProject⟩ := p
    have hlook : Agrees s s' (a.host.look path) (a.host.look path)
        fun seen seen' => Config.accepts path isProject seen' = Config.accepts path isProject seen :=
      ⟨rfl, rfl, accepts_congr (fun entry => h.look_ok_iff (hN _ List.mem_cons_self)) h.look_eq_tooLong_iff
        (fun _ => Files.look_error) (fun _ => Files.look_error)⟩
    unfold Config.search
    refine agrees_bind hlook fun seen seen' hseen => ?_
    rw [hseen]
    split
    · exact agrees_pure rfl
    · exact agrees_pure rfl
    · refine agrees_bind (ih fun p hp => hN p (List.mem_cons_of_mem _ hp)) fun r r' hr => ?_
      rw [hr]
      exact agrees_pure rfl

/-- A name of a configuration file or of a project file. -/
def IsConfigName (name : Text) : Prop := name ∈ Config.projectName :: Config.fileNames

theorem IsConfigName.isPart {name : Text} (h : IsConfigName name) : Path.IsPart name ∧ name ≠ ['.', '.'] := by
  have hall : ∀ n ∈ Config.projectName :: Config.fileNames,
      n ≠ [] ∧ n ≠ ['.'] ∧ '/' ∉ n ∧ n ≠ ['.', '.'] := by decide
  obtain ⟨hnil, hdot, hslash, hdots⟩ := hall name h
  exact ⟨⟨hnil, hdot, hslash⟩, hdots⟩

/-- The paths of configurations lead to names of their own. -/
theorem isConfigName_of_mem_candidates {directory : Text} {base : Place} {p : Text × Bool}
    (hp : p ∈ Config.candidates directory) {name : Text}
    (hname : (Files.destination base p.1).getLast? = some name) : IsConfigName name := by
  obtain ⟨d, -, hp⟩ := List.mem_flatMap.1 hp
  obtain ⟨n, hn, hpath⟩ : ∃ n, IsConfigName n ∧ p.1 = Path.join d n := by
    rcases List.mem_append.1 hp with hp | hp
    · obtain ⟨n, hn, rfl⟩ := List.mem_map.1 hp
      exact ⟨n, List.mem_cons_of_mem _ hn, rfl⟩
    · rw [List.mem_singleton.1 hp]
      exact ⟨_, List.mem_cons_self, rfl⟩
  rw [hpath, Files.getLast?_destination (.join d hn.isPart.1) base hn.isPart.2] at hname
  cases hname
  exact hn

/-- A configuration that can be read is read again. -/
theorem agrees_load (h : Files.Grows N s.files s'.files) (hN : ∀ name, IsConfigName name → ¬ N name)
    (directory : Text) (named environment : Option Text) :
    Agrees s s' (Config.load a.host.readYaml a.host.look directory named environment)
      (Config.load a.host.readYaml a.host.look directory named environment)
      fun r r' => ∀ fields, r.1 = .ok fields → r'.1 = .ok fields := by
  unfold Config.load
  extract_lets given reading
  have hreading : ∀ found found', found' = found → Agrees s s' (reading found) (reading found')
      fun r r' => ∀ fields, r.1 = .ok fields → r'.1 = .ok fields := by
    rintro ⟨path, ns⟩ - rfl
    unfold reading
    simp only
    split
    · exact agrees_pure fun _ => id
    · exact agrees_pure fun _ => id
    · rename_i p
      refine agrees_bind (agrees_look h a p) fun seen seen' hseen => agrees_pure fun fields hfields => ?_
      cases hfile : Config.ofFile a.host.readYaml p seen with
      | error e =>
        rw [hfile] at hfields
        cases hfields
      | ok es =>
        obtain ⟨data, rfl⟩ := ofFile_ok hfile
        rw [hseen.ok _ rfl]
        exact hfields
  split
  · exact agrees_bind (agrees_pure (Q := fun r r' => r' = r) rfl) hreading
  · refine agrees_bind (agrees_search h fun p hp name hname => ?_) hreading
    exact hN name (isConfigName_of_mem_candidates hp hname)

end Config

/-- A document that was read stands in a file. -/
theorem Document.ofFile_ok {path : Text} {seen : Except FileProblem FileEntry} {d : Document}
    (h : Document.ofFile path seen = .ok d) : ∃ data, seen = .ok (.file data) := by
  unfold Document.ofFile at h
  split at h
  · exact ⟨_, rfl⟩
  · cases h
  · cases h
  · cases h
  · cases h
  · cases h

/-! ## Parts of a session among more files -/

namespace Session

section Rules

variable {α α' β β' : Type} {N : Text → Prop} {c : Context (StateM Machine)}

/-- Where one part of a session gives a value, another one gives a related value among more files. -/
def Follows (N : Text → Prop) (c : Context (StateM Machine)) (x : Session (StateM Machine) α)
    (x' : Session (StateM Machine) β) (Q : α → β → Prop) : Prop :=
  ∀ s s' r t, Files.Grows N s.files s'.files → x.on c s = (.ok r, t) →
    ∃ r' t', x'.on c s' = (.ok r', t') ∧ Q r r' ∧ Files.Grows N t.files t'.files

theorem follows_pure {Q : α → β → Prop} {r : α} {r' : β} (h : Q r r') : Follows N c (pure r) (pure r') Q := by
  intro s s' r₁ t hs hr
  cases hr
  exact ⟨r', s', rfl, h, hs⟩

theorem follows_throw {Q : α → β → Prop} (e : Error) {x' : Session (StateM Machine) β} :
    Follows N c (throw e) x' Q := by
  intro s s' r t _ hr
  cases hr

theorem follows_bind {x : Session (StateM Machine) α} {x' : Session (StateM Machine) α'}
    {f : α → Session (StateM Machine) β} {f' : α' → Session (StateM Machine) β'} {Q : α → α' → Prop}
    {Q' : β → β' → Prop} (hx : Follows N c x x' Q) (hf : ∀ r r', Q r r' → Follows N c (f r) (f' r') Q') :
    Follows N c (x >>= f) (x' >>= f') Q' := by
  intro s s' r t hs hr
  rw [on_bind] at hr
  split at hr
  · rename_i r₁ s₁ hr₁
    obtain ⟨r₁', s₁', hr₁', hQ, hs₁⟩ := hx s s' r₁ s₁ hs hr₁
    obtain ⟨r', t', hr', hQ', ht⟩ := hf r₁ r₁' hQ s₁ s₁' r t hs₁ hr
    exact ⟨r', t', by rw [on_bind, hr₁']; exact hr', hQ', ht⟩
  · cases hr

theorem Follows.and_does {x x' : Session (StateM Machine) α} {Q : α → α → Prop} {R : Files → Files → Prop}
    {P : α → Prop} (h : Follows N c x x' Q) (hx : Does R c x P) : Follows N c x x' fun r r' => Q r r' ∧ P r := by
  intro s s' r t hs hr
  obtain ⟨r', t', hr', hQ, ht⟩ := h s s' r t hs hr
  exact ⟨r', t', hr', ⟨hQ, hx.gives s r t hr⟩, ht⟩

theorem follows_settled {Q : α → β → Prop} {r : Except Error α} {r' : Except Error β}
    (h : ∀ v, r = .ok v → ∃ v', r' = .ok v' ∧ Q v v') : Follows N c (settled r) (settled r') Q := by
  intro s s' v t hs hv
  obtain ⟨hr, rfl⟩ := Prod.mk.inj hv
  obtain ⟨v', hv', hQ⟩ := h v hr
  exact ⟨v', s', by rw [hv']; rfl, hQ, hs⟩

theorem follows_same (r : Except Error α) : Follows N c (settled r) (settled r) (· = ·) :=
  follows_settled fun v hv => ⟨v, hv, rfl⟩

theorem follows_onHost {Q : α → β → Prop} {act : Host (StateM Machine) → StateM Machine α}
    {act' : Host (StateM Machine) → StateM Machine β}
    (h : ∀ s s', Files.Grows N s.files s'.files → Agrees s s' (act c.host) (act' c.host) Q) :
    Follows N c (onHost act) (onHost act') Q := by
  intro s s' r t hs hr
  obtain ⟨hleft, hright, hvalues⟩ := h s s' hs
  obtain ⟨rfl, rfl⟩ : ((act c.host).run s).1 = r ∧ ((act c.host).run s).2 = t :=
    ⟨by cases hr; rfl, by cases hr; rfl⟩
  exact ⟨_, _, rfl, hvalues, hleft.symm ▸ hright.symm ▸ hs⟩

theorem follows_reader : Follows N c (readThe (Context (StateM Machine))) (readThe (Context (StateM Machine)))
    fun c₁ c₂ => c₁ = c ∧ c₂ = c := by
  intro s s' r t hs hr
  cases hr
  exact ⟨c, s', rfl, ⟨rfl, rfl⟩, hs⟩

end Rules

section Parts

variable {N : Text → Prop} {a : Surroundings} {l : Log} {reader : ReadingOptions → Reader}

theorem follows_frame (o : RenderingOptions) : Follows N ⟨a.host, l, reader⟩ (frame o) (frame o)
    fun fr fr' => (∀ e, fr ≠ some (.error e)) → fr' = fr := by
  refine follows_onHost fun s s' hs => ?_
  unfold RenderingOptions.frame
  split
  · exact agrees_pure fun _ => rfl
  · exact agrees_pure fun _ => rfl
  · rename_i path _
    refine agrees_bind (Q := fun read read' => ∀ data, read = .ok data → read' = .ok data)
      (agrees_bind (agrees_look hs a path) fun seen seen' hseen => ?_)
      fun read read' hread => agrees_pure fun hfine => ?_
    · cases seen with
      | ok entry =>
        rw [hseen.ok entry rfl]
        cases entry <;> exact agrees_pure fun _ => id
      | error e =>
        simp only
        split <;> exact agrees_pure nofun
    · cases read with
      | ok data => rw [hread data rfl]
      | error e => exact absurd rfl (hfine _)
  · exact agrees_pure fun _ => rfl

theorem follows_imageData (d : Document) (failed : Text → FileProblem → Error) (url : Text) :
    Follows N ⟨a.host, l, reader⟩ (imageData d failed url) (imageData d failed url) fun _ _ => True := by
  unfold imageData
  refine follows_bind (follows_same _) fun isLocal isLocal' heq => ?_
  subst heq
  split
  · exact follows_pure trivial
  · refine follows_bind (follows_onHost fun s s' hs => agrees_look hs a _) fun seen seen' hseen => ?_
    split
    · rw [hseen.ok _ rfl]
      exact follows_pure trivial
    · exact follows_throw _
    · rename_i hlong
      have hlong' : seen' ≠ .error .nameTooLong := fun h => hlong (hseen.tooLong.1 h)
      split
      · exact follows_pure trivial
      · exact absurd rfl hlong'
      · exact follows_pure trivial

theorem follows_imagesData (d : Document) (failed : Text → FileProblem → Error) (urls : List Text) :
    Follows N ⟨a.host, l, reader⟩ (imagesData d failed urls) (imagesData d failed urls) fun _ _ => True := by
  induction urls with
  | nil => exact follows_pure trivial
  | cons url urls ih =>
    refine follows_bind (follows_imageData d failed url) fun _ _ _ => follows_bind ih fun _ _ _ => ?_
    exact follows_pure trivial

end Parts

section Quiet

variable {N : Text → Prop} {a : Surroundings} {l : Log} {reader : ReadingOptions → Reader} (hl : l.file = none)
include hl

theorem allowed_eq : l.Allowed a.directory (· = ·) := fun path hpath => by
  rw [hl] at hpath
  cases hpath

theorem follows_say (ns ns' : List Notice) :
    Follows N ⟨a.host, l, reader⟩ (say ns) (say ns') fun _ _ => True := by
  have hmoves : ∀ ns, Moves (· = ·) (l.reportAll a.host [] ns) := moves_reportAll (allowed_eq hl) []
  intro s s' r t hs hr
  cases hr
  exact ⟨(), _, rfl, trivial, hmoves ns s ▸ hmoves ns' s' ▸ hs⟩

theorem follows_sayTimed (ns ns' : List Notice) :
    Follows N ⟨a.host, l, reader⟩ (sayTimed ns) (sayTimed ns') fun _ _ => True := by
  have hmoves : ∀ ns, Moves (· = ·) (l.reportAll a.host a.elapsed ns) := moves_reportAll (allowed_eq hl) _
  intro s s' r t hs hr
  cases hr
  exact ⟨(), _, rfl, trivial, hmoves ns s ▸ hmoves ns' s' ▸ hs⟩

theorem follows_prepare (hN : ∀ name, IsConfigName name → ¬ N name) (arguments : Arguments) :
    Follows N ⟨a.host, l, reader⟩ (prepare arguments) (prepare arguments) (· = ·) := by
  unfold prepare
  extract_lets goOn
  have hgoOn : ∀ fields, Follows N ⟨a.host, l, reader⟩ (goOn fields) (goOn fields) (· = ·) := by
    intro fields
    refine follows_bind (follows_say hl _ _) fun _ _ _ => follows_bind (follows_same _) fun o o' heq => ?_
    subst heq
    refine follows_bind (follows_same _) fun _ _ _ => follows_bind (follows_say hl _ _) fun _ _ _ => ?_
    exact follows_pure rfl
  split
  · exact follows_bind (follows_pure rfl) fun fields fields' (heq : fields = fields') => heq ▸ hgoOn fields
  · refine follows_bind (follows_onHost fun s s' hs => agrees_load hs hN _ _ _) fun found found' hfound => ?_
    obtain ⟨r, ns⟩ := found
    obtain ⟨r', ns'⟩ := found'
    refine follows_bind (follows_say hl _ _) fun _ _ _ => ?_
    refine follows_bind (follows_settled fun fields hfields => ⟨fields, hfound fields hfields, rfl⟩) ?_
    exact fun fields fields' (heq : fields = fields') => heq ▸ hgoOn fields

theorem follows_readDocument (t : Task) :
    Follows N ⟨a.host, l, reader⟩ (readDocument t) (readDocument t) (· = ·) := by
  unfold readDocument
  extract_lets source
  split
  · refine follows_bind (follows_onHost (Q := (· = ·)) fun s s' _ => agrees_pure rfl) fun text text' heq => ?_
    exact follows_pure (heq ▸ rfl)
  · refine follows_bind (follows_same _) fun remote remote' heq => ?_
    subst heq
    split
    · refine follows_bind (follows_say hl _ _) fun _ _ _ => ?_
      refine follows_bind (follows_onHost (Q := (· = ·)) fun s s' _ => ?_) fun f f' heq => ?_
      · obtain ⟨v, hv⟩ := steady_fetchText a (t.policy (isOffline a.host)) a.host.client source
        rw [hv]
        exact agrees_pure rfl
      · subst heq
        refine follows_bind (follows_say hl _ _) fun _ _ _ => follows_bind (follows_same _) fun x x' heq => ?_
        subst heq
        refine follows_bind (follows_same _) fun name name' heq => follows_pure (heq ▸ rfl)
    · refine follows_bind (follows_onHost fun s s' hs => agrees_look hs a source) fun seen seen' hseen => ?_
      refine follows_settled fun d hd => ⟨d, ?_, rfl⟩
      obtain ⟨data, hdata⟩ := Document.ofFile_ok hd
      rw [hseen.ok _ hdata, ← hdata]
      exact hd

theorem follows_render (t : Task) (d : Document) (resolve resolve' : Latex.Resolver)
    (report report' : Text → List Notice) :
    Follows N ⟨a.host, l, reader⟩ (render t d resolve report) (render t d resolve' report') fun _ _ => True := by
  unfold render
  refine follows_bind follows_reader fun c c' hc => ?_
  obtain ⟨rfl, rfl⟩ := hc
  refine follows_bind (follows_frame _) fun fr fr' hfr => follows_bind (follows_sayTimed hl _ _) fun _ _ _ => ?_
  refine follows_settled fun latex hlatex => ?_
  obtain ⟨hfine, latex', hlatex'⟩ := RenderingOptions.convert_result hlatex resolve'
  rw [hfr hfine]
  exact ⟨latex', hlatex', trivial⟩

theorem follows_compose (t : Task) (d : Document) :
    Follows N ⟨a.host, l, reader⟩ (compose t d) (compose t d) fun _ _ => True := by
  refine follows_bind follows_reader fun c c' hc => ?_
  obtain ⟨rfl, rfl⟩ := hc
  exact follows_bind (follows_imagesData d _ _) fun _ _ _ => follows_render hl t d _ _ _ _

variable {arguments : Arguments}

/-- Where neither an archive nor a PDF is asked for, the same document is read for the same task. -/
theorem follows_gather (hN : ∀ name, IsConfigName name → ¬ N name) (hzip : isGiven arguments.zip = false)
    (hpdf : arguments.pdf = false) :
    Follows N ⟨a.host, l, reader⟩ (gather arguments) (gather arguments) (· = ·) := by
  unfold gather
  refine follows_bind ((follows_prepare hl hN arguments).and_does (does_prepare (allowed_eq hl) arguments))
    fun t t' ht => ?_
  obtain ⟨rfl, harguments⟩ := ht
  have harchive : t.makesArchive = false := by rw [Task.makesArchive, harguments, hzip]
  have hfigures : t.needsFigures = false := by rw [Task.needsFigures, harchive, harguments, hpdf]; rfl
  refine follows_bind (follows_readDocument hl t) fun d d' heq => ?_
  subst heq
  simp only [hfigures, harchive, Bool.false_eq_true, if_false, pure_bind]
  exact follows_pure rfl

/-- So a draft is followed by one of the same document. -/
theorem follows_draft (hN : ∀ name, IsConfigName name → ¬ N name) (hzip : isGiven arguments.zip = false)
    (hpdf : arguments.pdf = false) :
    Follows N ⟨a.host, l, reader⟩ (draft arguments) (draft arguments) fun r r' =>
      r'.1 = r.1 ∧ ∀ w, r.2 = some w → ∃ w', r'.2 = some w' ∧ w'.document = w.document := by
  unfold draft
  refine follows_bind (follows_gather hl hN hzip hpdf) fun r r' heq => ?_
  subst heq
  obtain ⟨t, d, registry⟩ := r
  simp only
  split
  · exact follows_pure ⟨rfl, nofun⟩
  · refine follows_bind (follows_compose hl t d) fun latex latex' _ => follows_pure ⟨rfl, fun w hw => ?_⟩
    cases hw
    exact ⟨_, rfl, rfl⟩

end Quiet
end Session

/-! ## Runs on the same document -/

/-- Nothing is asked for but LaTeX in a file of its own. -/
structure Arguments.IsPlain (arguments : Arguments) : Prop where
  output : arguments.output = none
  zip : isGiven arguments.zip = false
  pdf : arguments.pdf = false
  logFile : isGiven arguments.logFile = false

namespace Arguments.IsPlain

variable {arguments : Arguments} (h : arguments.IsPlain)
include h

theorem not_names (base q : Place) : ¬ arguments.Names base q := by
  rintro ⟨path, hne, hpath | hpath, -⟩
  · have hzip := h.zip
    simp [hpath, isGiven, hne] at hzip
  · have hlog := h.logFile
    simp [hpath, isGiven, hne] at hlog

theorem not_touches (base : Place) (stem : Text) (k : Nat) (q : Place) : ¬ arguments.Touches base stem k q := by
  rintro (hnames | ⟨hpdf, -⟩)
  · exact h.not_names base q hnames
  · exact absurd hpdf (Bool.eq_false_iff.1 h.pdf)

theorem start_eq (a : Surroundings) (s : Machine) :
    (Log.start a.host arguments).run s = (Log.ofArguments arguments, s) := by
  have hnone : arguments.logFile.filter (!·.isEmpty) = none := by
    have hlog := h.logFile
    rw [isGiven] at hlog
    rw [Option.filter_eq_none_iff]
    intro path hpath
    rw [hpath] at hlog
    simpa using hlog
  rw [Log.start, hnone]
  rfl

end Arguments.IsPlain

/-- The machine behind a run. -/
def Surroundings.after (a : Surroundings) (reader : ReadingOptions → Reader) (words : List Text) (s : Machine) :
    Machine := ((run a.host reader words).run s).2

section Runs

variable {a : Surroundings} {reader : ReadingOptions → Reader} {arguments : Arguments} {words : List Text}
  {s s' s₁ : Machine} {t : Task} {w : Session.Draft} {title : Option Text}

theorem not_isConfigName_numbered {stem name : Text}
    (h : ∃ k, name = numbered stem ('.' :: "tex".toList) k) : ¬ IsConfigName name := by
  have hall : ∀ n ∈ Config.projectName :: Config.fileNames, ¬ '.' :: "tex".toList <:+ n := by decide
  obtain ⟨k, rfl⟩ := h
  intro hname
  refine hall _ hname ?_
  rw [numbered_append]
  exact List.suffix_append _ _

/-- With more LaTeX beside it, a document comes to have LaTeX again, and for the same title. -/
theorem Drafts.again (h : Drafts a reader arguments s t w title s₁) (hplain : arguments.IsPlain) {stem : Text}
    (hs : Files.Grows (fun name => ∃ k, name = numbered stem ('.' :: "tex".toList) k) s.files s'.files) :
    ∃ w' s₁', Drafts a reader arguments s' t w' title s₁' ∧ w'.document = w.document := by
  obtain ⟨hdrafted, htitled⟩ := h
  rw [Surroundings.context, Surroundings.begun, hplain.start_eq] at hdrafted
  have hfile : (Log.ofArguments arguments).file = none := rfl
  have hN : ∀ name, IsConfigName name → ¬ ∃ k, name = numbered stem ('.' :: "tex".toList) k :=
    fun _ hname hnumbered => not_isConfigName_numbered hnumbered hname
  obtain ⟨r', s₁', hr', ⟨ht, hw⟩, -⟩ :=
    Session.follows_draft hfile hN hplain.zip hplain.pdf s s' _ _ hs hdrafted
  obtain ⟨w', hw', hdocument⟩ := hw w rfl
  refine ⟨w', s₁', ⟨?_, hdocument ▸ htitled⟩, hdocument⟩
  rw [Surroundings.context, Surroundings.begun, hplain.start_eq, hr']
  exact congrArg (fun r => (Except.ok r, s₁')) (Prod.ext ht hw')

/-- Runs one after another give the first free names for a title to files, one each. -/
theorem runs_fill (hread : Arguments.read words = .ok arguments) (hplain : arguments.IsPlain)
    (hs : a.Stands s.files) (hdraft : Drafts a reader arguments s t w title s₁) (n : Nat)
    (haccepts : ∀ i < n, Files.Accepts (numbered (w.document.stem title) ('.' :: "tex".toList)
      (s.files.freeNumber a.directory (w.document.stem title) ('.' :: "tex".toList) i))) :
    (∀ i < n, ((run a.host reader words).run ((a.after reader words)^[i] s)).1.exit = .ok 0) ∧
      Files.Fills a.directory (w.document.stem title) ('.' :: "tex".toList) n s.files
        ((a.after reader words)^[n] s).files := by
  induction n with
  | zero => exact ⟨nofun, Files.fills_zero _ _ _ _⟩
  | succ n ih =>
    obtain ⟨hexits, hfills⟩ := ih fun i hi => haccepts i (Nat.lt_succ_of_lt hi)
    obtain ⟨w', s₁', hdraft', hdocument⟩ := hdraft.again hplain hfills.grows
    -- Nothing is named that the draft could have changed, so the number is still the least one behind it.
    have hleast := hfills.leastFree.keeps hdraft'.keeps fun q hq => absurd hq (hplain.not_names _ q)
    rw [← hdocument] at hleast haccepts
    obtain ⟨hexit, hgains⟩ := run_gains hread hplain.output (hs.spares (hfills.grows.spares fun _ => False))
      hdraft' hleast (haccepts n (Nat.lt_succ_self n))
    rw [hdocument] at hgains
    refine ⟨fun i hi => ?_, ?_⟩
    · rcases Nat.lt_succ_iff_lt_or_eq.1 hi with hi | rfl
      · exact hexits i hi
      · exact hexit hplain.pdf
    · rw [Function.iterate_succ_apply']
      exact hfills.gains (hgains.mono fun q => hplain.not_touches _ _ _ q)

variable (reader) in
/-- Without a path for its LaTeX, a run replaces nothing but what the command line names and, if a PDF is asked for,
a PDF; and it writes the LaTeX of a document to a new file, which has the first free name for the document's title. So
runs on the same document write as many files. -/
theorem default_output (hread : Arguments.read words = .ok arguments) (houtput : arguments.output = none)
    (hs : a.Stands s.files) :
    (∀ title input, outputName title input = titleStem (namingTitle title input) ++ '.' :: "tex".toList ∧
      IsStem (titleStem (namingTitle title input))) ∧
    Files.Spares (fun q => ∃ stem k, arguments.Touches a.directory stem k q) s.files
      (a.after reader words s).files ∧
    (isGiven arguments.zip = true → arguments.pdf = false →
      Files.Keeps (arguments.Names a.directory) s.files (a.after reader words s).files) ∧
    ∀ t w title s₁, Drafts a reader arguments s t w title s₁ →
      (Files.Keeps (arguments.Names a.directory) s.files s₁.files ∧
        ∃ k, s₁.files.LeastFree a.directory (w.document.stem title) ('.' :: "tex".toList) k ∧
          (Files.Accepts (numbered (w.document.stem title) ('.' :: "tex".toList) k) →
            (arguments.pdf = false → ((run a.host reader words).run s).1.exit = .ok 0) ∧
            Files.Gains (arguments.Touches a.directory (w.document.stem title) k)
              (a.directory ++ [numbered (w.document.stem title) ('.' :: "tex".toList) k])
              (Text.toUtf8 w.latex) s.files (a.after reader words s).files)) ∧
      (arguments.IsPlain → ∀ n, (∀ i < n, Files.Accepts (numbered (w.document.stem title) ('.' :: "tex".toList)
          (s.files.freeNumber a.directory (w.document.stem title) ('.' :: "tex".toList) i))) →
        Function.Injective (s.files.freePlace a.directory (w.document.stem title) ('.' :: "tex".toList)) ∧
        (∀ i < n, ((run a.host reader words).run ((a.after reader words)^[i] s)).1.exit = .ok 0) ∧
        Files.Fills a.directory (w.document.stem title) ('.' :: "tex".toList) n s.files
          ((a.after reader words)^[n] s).files) := by
  refine ⟨fun title input => ⟨rfl, isStem_titleStem _⟩, run_spares hread houtput hs,
    fun hzip hpdf => run_keeps hread houtput hzip hpdf, fun t w title s₁ hdraft => ⟨⟨hdraft.keeps, ?_⟩, ?_⟩⟩
  · obtain ⟨k, hk⟩ := s₁.files.exists_leastFree a.directory (w.document.stem title) ('.' :: "tex".toList)
    exact ⟨k, hk, run_gains hread houtput hs hdraft hk⟩
  · exact fun hplain n haccepts => ⟨Files.freePlace_injective _ _ _ _, runs_fill hread hplain hs hdraft n haccepts⟩

/-! ### A directory with a file in it -/

/-- A directory with an empty file in it. -/
def holding (name : Text) : Machine where
  files := ⟨[(["w".toList], .directory), (["w".toList, name], .file [])]⟩

/-- A rule stands on the input stream, and an engine makes a PDF of one byte. Neither a configuration nor the web
is needed. -/
def ruled : Surroundings where
  directory := ["w".toList]
  input := "---\n".toList
  get _ := .unreachable
  client := ⟨id, fun _ _ => none⟩
  readYaml _ := .error .malformed
  engine? _ := some ⟨"/usr/bin/pdflatex".toList,
    fun _ f => ⟨.finished 0, [], f.put [Engine.outputName] (.file [1])⟩⟩

/-- What a reader makes of a rule. -/
def readRule : ReadingOptions → Reader := fun _ _ => .ok [.rule]

theorem stands_holding (name : Text) : ruled.Stands (holding name).files := ⟨rfl, rfl⟩

/-- The document of the rule comes to have LaTeX, and has no title. -/
theorem drafts_ruled : ∃ t w s₁,
    Drafts ruled readRule { input := some ['-'], noConfig := true } (holding "mdtex.tex".toList) t w none s₁ ∧
      w.document = { markdown := "---\n".toList } := by
  let c := ruled.context readRule { input := some ['-'], noConfig := true } (holding "mdtex.tex".toList)
  have hdocument : (((Session.draft { input := some ['-'], noConfig := true }).on c
      (holding "mdtex.tex".toList)).1.toOption.bind (·.2)).map (·.document)
      = some { markdown := "---\n".toList } := by decide +kernel
  rcases hon : (Session.draft { input := some ['-'], noConfig := true }).on c (holding "mdtex.tex".toList)
    with ⟨_ | ⟨t, _ | w⟩, s₁⟩
  · rw [hon] at hdocument
    cases hdocument
  · rw [hon] at hdocument
    cases hdocument
  · rw [hon] at hdocument
    have hw : w.document = { markdown := "---\n".toList } := Option.some.inj hdocument
    exact ⟨t, w, s₁, ⟨hon, [], by rw [hw]; rfl⟩, hw⟩

/-- Where the plain name is taken, two runs write the two next ones. -/
theorem default_output_twice :
    let s := holding "mdtex.tex".toList
    let twice := (ruled.after readRule [['-'], "--no-config".toList])^[2] s
    Arguments.read [['-'], "--no-config".toList] = .ok { input := some ['-'], noConfig := true } ∧
      ruled.Stands s.files ∧
      twice.files.find? ["w".toList, "mdtex.tex".toList] = some (.file []) ∧
      (∃ data, twice.files.find? ["w".toList, "mdtex-1.tex".toList] = some (.file data)) ∧
      ∃ data, twice.files.find? ["w".toList, "mdtex-2.tex".toList] = some (.file data) := by
  intro s twice
  obtain ⟨t, w, s₁, hdraft, hdocument⟩ := drafts_ruled
  have hstem : w.document.stem none = "mdtex".toList := by
    rw [hdocument]
    decide +kernel
  have hcount : ∀ i < 2,
      Nat.count (s.files.IsFree ["w".toList] "mdtex".toList ('.' :: "tex".toList)) (i + 1) = i := by decide +kernel
  have hnext : ∀ i < 2, s.files.IsFree ["w".toList] "mdtex".toList ('.' :: "tex".toList) (i + 1) := by
    decide +kernel
  have hfree : ∀ i < 2, s.files.freeNumber ["w".toList] "mdtex".toList ('.' :: "tex".toList) i = i + 1 :=
    fun i hi => (congrArg (Nat.nth _) (hcount i hi)).symm.trans (Nat.nth_count (hnext i hi))
  have hlength : ∀ i < 2, (Text.toUtf8 (numbered "mdtex".toList ('.' :: "tex".toList) (i + 1))).length
      ≤ Files.longestName := by decide +kernel
  have hread : Arguments.read [['-'], "--no-config".toList] = .ok { input := some ['-'], noConfig := true } := rfl
  obtain ⟨-, -, -, hdrafts⟩ := default_output readRule hread rfl (stands_holding "mdtex.tex".toList)
  have hfills := ((hdrafts _ _ _ _ hdraft).2 ⟨rfl, rfl, rfl, rfl⟩ 2 fun i hi => by
    rw [hstem]
    exact (hfree i hi).symm ▸ hlength i hi).2.2
  rw [hstem] at hfills
  have hplace : ∀ i < 2, s.files.freePlace ["w".toList] "mdtex".toList ('.' :: "tex".toList) i
      = ["w".toList, numbered "mdtex".toList ('.' :: "tex".toList) (i + 1)] := fun i hi => by
    rw [Files.freePlace, hfree i hi]
    rfl
  have hothers : ∀ i < 2, ["w".toList, "mdtex.tex".toList]
      ≠ ["w".toList, numbered "mdtex".toList ('.' :: "tex".toList) (i + 1)] := by decide +kernel
  refine ⟨hread, stands_holding _, ?_, hplace 0 (by decide) ▸ hfills.written 0 (by decide),
    hplace 1 (by decide) ▸ hfills.written 1 (by decide)⟩
  exact (hfills.others _ fun i hi heq => hothers i hi (heq.trans (hplace i hi))).trans rfl

/-- With a PDF asked for, two files are new where neither stood, and a PDF that stands beside the new LaTeX is
written over. -/
theorem default_output_beside_pdf :
    let tex := ["w".toList, "mdtex.tex".toList]
    let pdf := ["w".toList, "mdtex.pdf".toList]
    let words := [['-'], "--no-config".toList, "--pdf".toList]
    let after := fun s => (ruled.after readRule words s).files
    Arguments.read words = .ok { input := some ['-'], noConfig := true, pdf := true } ∧
      (∀ name ∈ ["notes.md".toList, "mdtex.pdf".toList],
        ((run ruled.host readRule words).run (holding name)).1.exit = .ok 0) ∧
      ((holding "notes.md".toList).files.find? tex = none ∧ (after (holding "notes.md".toList)).find? tex ≠ none) ∧
      ((holding "notes.md".toList).files.find? pdf = none ∧ (after (holding "notes.md".toList)).find? pdf ≠ none) ∧
      (holding "mdtex.pdf".toList).files.find? pdf = some (.file []) ∧
      (after (holding "mdtex.pdf".toList)).find? pdf = some (.file [1]) := by
  intro tex pdf words after
  refine ⟨rfl, by decide +kernel, ⟨by decide +kernel, by decide +kernel⟩, ⟨by decide +kernel, by decide +kernel⟩,
    by decide +kernel, by decide +kernel⟩

end Runs
end CommandLine
end Texdown
