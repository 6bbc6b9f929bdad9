import Texdown.Engine
import Texdown.Proofs.Places

/-!
# Working directories

The files that go with a document are written into its working directory under names that come from outside.
A name is cut at separators of both kinds, and is refused if it starts at the root or leads upwards. What is
left leads strictly into the directory. So it does not matter what tree the directory is part of: writing there
does what it does in a tree that has nothing else in it (`Mirrors`), and nothing else changes.

Results:
* `Files.Mirrors.follow`, `Files.Mirrors.write`: names without two dots lead to the same place in both trees.
* `Engine.together_writeDocument`: a document is written into a directory as into a tree of its own, and
  everything outside stays.
* `Engine.holds_workingFiles`: the files in a working directory hold what was written last under their names.
-/
namespace Texdown

namespace Place

/-- A place strictly below a directory. -/
def IsBelow (directory q : Place) : Prop := ∃ p, p ≠ [] ∧ q = directory ++ p

/-- Names that do not lead upwards lead below. -/
theorem along_of_no_dots {place : Place} {names : List Text} (h : ['.', '.'] ∉ names) :
    along place names = place ++ names := by
  induction names generalizing place with
  | nil => exact (List.append_nil place).symm
  | cons name names ih =>
    rw [List.mem_cons, not_or] at h
    have hnext : next place name = place ++ [name] := if_neg (Ne.symm h.1)
    rw [along, List.foldl_cons, hnext]
    exact (ih h.2).trans (List.append_assoc place [name] names)

end Place

namespace Files

variable {f f' host host' : Files} {directory q : Place} {names : List Text} {data : Bytes}

theorem locate_intercalate (hparts : ∀ n ∈ names, Path.IsPart n) (f : Files) (base : Place) :
    f.locate base (List.intercalate ['/'] names) = f.follow base names := by
  cases names with
  | nil => rfl
  | cons name names =>
    have hne : (List.intercalate ['/'] (name :: names)).isEmpty = false := by
      obtain ⟨c, rest, rfl⟩ := List.exists_cons_of_ne_nil (hparts name List.mem_cons_self).ne_nil
      cases names with
      | nil => rfl
      | cons next names => rw [List.intercalate_cons_cons]; rfl
    have hpath : Path.ofParts [] (name :: names) = List.intercalate ['/'] (name :: names) := by
      rw [Path.ofParts, List.nil_append, if_neg (by simp [hne])]
    rw [← hpath, locate, Path.isAbsolute_ofParts (by simp) hparts, Path.parts_ofParts (by simp) hparts]
    rfl

/-! ## A directory as a tree of its own -/

/-- A directory of a host looks like a tree of its own. -/
structure Mirrors (directory : Place) (host f : Files) : Prop where
  parent : host.find? directory.dropLast = some .directory
  same : ∀ q, host.find? (directory ++ q) = f.find? q

/-- Two outcomes of writing: both failed for the same reason, or the directory looks like the tree again, and
nothing but what is below it has changed. -/
inductive Together {ε : Type} (directory : Place) (host : Files) : Except ε Files → Except ε Files → Prop where
  | failed (e : ε) : Together directory host (.error e) (.error e)
  | done {host' f' : Files} (mirrors : Mirrors directory host' f')
      (keeps : Keeps directory.IsBelow host host') : Together directory host (.ok host') (.ok f')

theorem Together.after {ε : Type} {x y : Except ε Files} (hkeeps : Keeps directory.IsBelow host host')
    (h : Together directory host' x y) : Together directory host x y := by
  cases h with
  | failed e => exact .failed e
  | done hmirrors hkeeps' => exact .done hmirrors (hkeeps.trans hkeeps')

theorem Together.bind {ε : Type} {x y : Except ε Files} {act act' : Files → Except ε Files}
    (h : Together directory host x y)
    (hact : ∀ host' f', Mirrors directory host' f' → Together directory host' (act host') (act' f')) :
    Together directory host (x >>= act) (y >>= act') := by
  cases h with
  | failed e => exact .failed e
  | done hmirrors hkeeps => exact (hact _ _ hmirrors).after hkeeps

theorem Together.mapError {ε ε' : Type} {x y : Except ε Files} (h : Together directory host x y)
    (wording : ε → ε') : Together directory host (x.mapError wording) (y.mapError wording) := by
  cases h with
  | failed e => exact .failed _
  | done hmirrors hkeeps => exact .done hmirrors hkeeps

theorem keeps_put_new {T : Place → Prop} (entry : FileEntry) (h : f.find? q = none) (hT : T q) :
    Keeps T f (f.put q entry) := by
  have hne : ∀ p, f.find? p ≠ none → p ≠ q := fun p hp he => hp (he ▸ h)
  refine ⟨⟨fun p hp => ?_, fun p hp => ?_, fun p _ hp => ?_⟩, fun p hp hnone => ?_⟩
  · rw [find?_put_of_ne f _ (hne p (hp ▸ nofun)), hp]
  · rwa [find?_put_of_ne f _ (hne p hp)]
  · exact find?_put_of_ne f _ (hne p hp)
  · have hpq : p ≠ q := fun he => hp (he.symm ▸ hT)
    rw [find?_put_of_ne f _ hpq, hnone]

namespace Mirrors

variable (h : Mirrors directory host f)
include h

theorem put (hq : q ≠ []) (entry : FileEntry) :
    Mirrors directory (host.put (directory ++ q) entry) (f.put q entry) where
  parent := by
    refine (find?_put_of_ne host _ fun he => hq ?_).trans h.parent
    have hlen := congrArg List.length he
    rw [List.length_dropLast, List.length_append] at hlen
    exact List.length_eq_zero_iff.1 (by omega)
  same p := by
    by_cases hp : p = q
    · rw [hp, find?_put f q entry hq, find?_put host _ entry (by simp [hq])]
    · rw [find?_put_of_ne f _ hp, find?_put_of_ne host _ (by simpa using hp), h.same]

theorem makeDirectories (q : Place) (names : List Text) :
    Together directory host (host.makeDirectories (directory ++ q) names) (f.makeDirectories q names) := by
  induction names generalizing host f q with
  | nil => exact .done h (.refl _ _)
  | cons name names ih =>
    have hsame : host.find? (directory ++ q ++ [name]) = f.find? (q ++ [name]) := by
      rw [List.append_assoc, h.same]
    simp only [Files.makeDirectories, hsame]
    cases hstands : f.find? (q ++ [name]) with
    | none =>
      have hplace : directory ++ q ++ [name] = directory ++ (q ++ [name]) := List.append_assoc _ _ _
      have hkeeps : Keeps directory.IsBelow host (host.put (directory ++ (q ++ [name])) .directory) :=
        keeps_put_new _ (by rw [h.same, hstands]) ⟨q ++ [name], by simp, rfl⟩
      simp only [hplace]
      exact (ih (h.put (by simp) .directory) (q ++ [name])).after hkeeps
    | some entry =>
      cases entry with
      | directory =>
        simp only [List.append_assoc]
        exact ih h (q ++ [name])
      | file data => exact .failed _

theorem follow (hdots : ['.', '.'] ∉ names) (q : Place) :
    host.follow (directory ++ q) names = (f.follow q names).map (directory ++ ·) := by
  induction names generalizing q with
  | nil => rfl
  | cons name names ih =>
    rw [List.mem_cons, not_or] at hdots
    rw [Files.follow, Files.follow, h.same]
    cases f.find? q with
    | none => rfl
    | some entry =>
      cases entry with
      | file data => rfl
      | directory =>
        simp only [if_neg (Ne.symm hdots.1)]
        split
        · rfl
        · rw [List.append_assoc, ih hdots.2]

theorem checkParent (q : Place) : host.checkParent (directory ++ q) = f.checkParent q := by
  have hsame : host.find? (directory ++ q).dropLast = f.find? q.dropLast := by
    by_cases hq : q = []
    · rw [hq, List.append_nil, h.parent]
      rfl
    · rw [List.dropLast_append_of_ne_nil hq, h.same]
  rw [Files.checkParent, Files.checkParent, hsame]

theorem write (hparts : ∀ n ∈ names, Path.IsPart n) (hdots : ['.', '.'] ∉ names) (data : Bytes) :
    Together directory host (host.write directory (List.intercalate ['/'] names) data)
      (f.write [] (List.intercalate ['/'] names) data) := by
  have hfollow := h.follow hdots []
  rw [List.append_nil] at hfollow
  rw [Files.write, Files.write, locate_intercalate hparts, locate_intercalate hparts, hfollow]
  cases f.follow [] names with
  | error e => exact .failed e
  | ok q =>
    simp only [Except.map, bind, Except.bind]
    rw [h.checkParent, h.same]
    cases f.checkParent q with
    | error e => exact .failed e
    | ok =>
      simp only
      split
      · exact .failed _
      · rename_i hstands
        have hq : q ≠ [] := fun he => hstands (by rw [he]; rfl)
        have hkeeps : Keeps directory.IsBelow host (host.put (directory ++ q) (.file data)) :=
          keeps_put (by rw [h.same]; exact hstands) ⟨q, hq, rfl⟩
        exact .done (h.put hq _) hkeeps

end Mirrors

/-- Making directories leaves all files as they are, and makes none. -/
theorem find?_makeDirectories (h : f.makeDirectories q names = .ok f') (p : Place) (data : Bytes) :
    f'.find? p = some (.file data) ↔ f.find? p = some (.file data) := by
  induction names generalizing f q with
  | nil => rw [Except.ok.inj h]
  | cons name names ih =>
    simp only [makeDirectories] at h
    cases hstands : f.find? (q ++ [name]) with
    | none =>
      rw [hstands] at h
      rw [ih h]
      by_cases hp : p = q ++ [name]
      · rw [hp, find?_put f _ _ (by simp), hstands]
        exact iff_of_false nofun nofun
      · rw [find?_put_of_ne f _ hp]
    | some entry =>
      rw [hstands] at h
      cases entry with
      | directory => exact ih h
      | file data => cases h

end Files

namespace Engine

open Files (Mirrors Together Keeps)

variable {f f' host : Files} {directory : Place} {name : Text} {data : Bytes} {extra : List (Text × Bytes)}

/-! ## Writing a document -/

theorem isPart_nameParts (name : Text) : ∀ n ∈ nameParts name, Path.IsPart n := Path.forall_isPart _

theorem together_addFile (h : Mirrors directory host f) (name : Text) (data : Bytes) :
    Together directory host (addFile directory host name data) (addFile [] f name data) := by
  unfold addFile
  cases hname : checkName name with
  | error e => exact .failed e
  | ok =>
    have hmade := h.makeDirectories [] (nameParts name).dropLast
    rw [List.append_nil] at hmade
    have hwritten : Together directory host (writeBelow directory host (nameParts name) data)
        (writeBelow [] f (nameParts name) data) :=
      hmade.bind fun _ _ hmirrors => hmirrors.write (isPart_nameParts name) (checkName_ok hname) data
    exact hwritten.mapError (Error.system name)

theorem together_addFiles (h : Mirrors directory host f) (extra : List (Text × Bytes)) :
    Together directory host (addFiles directory host extra) (addFiles [] f extra) := by
  induction extra generalizing host f with
  | nil => exact .done h (.refl _ _)
  | cons a extra ih => exact (together_addFile h a.1 a.2).bind fun _ _ hmirrors => ih hmirrors

/-- A document is written into a directory as into a tree of its own. -/
theorem together_writeDocument (h : Mirrors directory host f) (latex : Text) (extra : List (Text × Bytes))
    (hnew : host.find? (directory ++ [sourceName]) = none) :
    Together directory host (writeDocument directory host latex extra) (writeDocument [] f latex extra) := by
  have hkeeps : Files.Keeps directory.IsBelow host
      (host.put (directory ++ [sourceName]) (.file (Text.toUtf8 latex))) :=
    Files.keeps_put_new _ hnew ⟨[sourceName], by simp, rfl⟩
  exact (together_addFiles (h.put (by simp) _) extra).after hkeeps

/-! ## What is written -/

/-- What is written into a working directory, and where; the last comes first. -/
def writings (latex : Text) (extra : List (Text × Bytes)) : List (Place × Bytes) :=
  (extra.map fun a => (nameParts a.1, a.2)).reverse ++ [([sourceName], Text.toUtf8 latex)]

/-- A file that is written below the root stands there, and no other file has changed. -/
theorem find?_writeBelow {names : List Text} (hparts : ∀ n ∈ names, Path.IsPart n) (hdots : ['.', '.'] ∉ names)
    (h : writeBelow [] f names data = .ok f') :
    names ≠ [] ∧ ∀ p held, f'.find? p = some (.file held) ↔
      if p = names then data = held else f.find? p = some (.file held) := by
  unfold writeBelow at h
  cases hmade : f.makeDirectories [] names.dropLast with
  | error e =>
    rw [hmade] at h
    cases h
  | ok made =>
    rw [hmade] at h
    obtain ⟨place, hplace, -, hfile, rfl⟩ := Files.write_eq_ok_iff.1 h
    rw [Files.locate_intercalate hparts] at hplace
    obtain rfl : place = names := (Files.follow_along hplace).trans (Place.along_of_no_dots hdots)
    have hne : place ≠ [] := fun he => hfile (by rw [he]; rfl)
    refine ⟨hne, fun p held => ?_⟩
    by_cases hp : p = place
    · rw [if_pos hp, hp, Files.find?_put made place _ hne]
      simp
    · rw [if_neg hp, Files.find?_put_of_ne made _ hp, Files.find?_makeDirectories hmade]

theorem addFile_eq_ok_iff : addFile directory f name data = .ok f' ↔
    checkName name = .ok () ∧ writeBelow directory f (nameParts name) data = .ok f' := by
  unfold addFile
  cases checkName name with
  | error e => simp [bind, Except.bind]
  | ok =>
    cases writeBelow directory f (nameParts name) data with
    | error e => simp [bind, Except.bind, Except.mapError]
    | ok written => simp [bind, Except.bind, Except.mapError]

/-- The files of a tree hold what a list of writings says. -/
def Holds (f : Files) (written : List (Place × Bytes)) : Prop :=
  ∀ p held, f.find? p = some (.file held) ↔ written.lookup p = some held

theorem Holds.addFile {written : List (Place × Bytes)} (hf : Holds f written)
    (h : addFile [] f name data = .ok f') :
    nameParts name ≠ [] ∧ Holds f' ((nameParts name, data) :: written) := by
  obtain ⟨hname, hwritten⟩ := addFile_eq_ok_iff.1 h
  obtain ⟨hne, hfind⟩ := find?_writeBelow (isPart_nameParts name) (checkName_ok hname) hwritten
  refine ⟨hne, fun p held => ?_⟩
  rw [hfind, List.lookup_cons, hf]
  by_cases hp : p = nameParts name
  · simp [hp]
  · have hp' : (p == nameParts name) = false := by simpa using hp
    simp [hp, hp']

theorem Holds.addFiles {written : List (Place × Bytes)} (hf : Holds f written)
    (h : addFiles [] f extra = .ok f') : (∀ a ∈ extra, nameParts a.1 ≠ []) ∧
      Holds f' ((extra.map fun a => (nameParts a.1, a.2)).reverse ++ written) := by
  induction extra generalizing f written with
  | nil =>
    cases h
    exact ⟨List.forall_mem_nil _, hf⟩
  | cons a extra ih =>
    unfold Engine.addFiles at h
    cases hadded : Engine.addFile [] f a.1 a.2 with
    | error e =>
      rw [hadded] at h
      cases h
    | ok added =>
      rw [hadded] at h
      obtain ⟨hne, hholds⟩ := hf.addFile hadded
      obtain ⟨hall, hholds⟩ := ih hholds h
      refine ⟨List.forall_mem_cons.2 ⟨hne, hall⟩, ?_⟩
      rwa [List.map_cons, List.reverse_cons, List.append_assoc]

/-- The files in a working directory hold what was written last under their names. -/
theorem holds_workingFiles {latex : Text} (h : workingFiles latex extra = .ok f) :
    (∀ a ∈ extra, nameParts a.1 ≠ []) ∧ Holds f (writings latex extra) := by
  refine Holds.addFiles (fun p held => ?_) h
  rw [List.nil_append, List.lookup_cons, List.lookup_nil]
  by_cases hp : p = [sourceName]
  · rw [hp, Files.find?_put _ _ _ (by simp)]
    simp
  · have hp' : (p == [sourceName]) = false := by simpa using hp
    rw [Files.find?_put_of_ne _ _ hp, hp']
    unfold Files.find?
    split <;> simp

/-- An auxiliary file is written to a place. -/
def Spelled (extra : List (Text × Bytes)) (p : Place) : Prop := ∃ a ∈ extra, nameParts a.1 = p

theorem lookup_writings (latex : Text) {p : Place} (h : ¬ Spelled extra p) :
    (writings latex extra).lookup p = if p = [sourceName] then some (Text.toUtf8 latex) else none := by
  have hextra : ((extra.map fun a => (nameParts a.1, a.2)).reverse).lookup p = none := by
    refine List.lookup_eq_none_iff.2 fun w hw => ?_
    obtain ⟨a, ha, rfl⟩ := List.mem_map.1 (List.mem_reverse.1 hw)
    simpa using fun he => h ⟨a, ha, he.symm⟩
  rw [writings, List.lookup_append, hextra, Option.none_or, List.lookup_cons, List.lookup_nil]
  by_cases hp : p = [sourceName]
  · simp [hp]
  · have hp' : (p == [sourceName]) = false := by simpa using hp
    simp [hp, hp']

/-- Something is written to the place of every auxiliary file. -/
theorem exists_lookup_writings (latex : Text) {a : Text × Bytes} (ha : a ∈ extra) :
    ∃ held, (writings latex extra).lookup (nameParts a.1) = some held := by
  refine Option.ne_none_iff_exists'.1 fun hnone => ?_
  have hmem : (nameParts a.1, a.2) ∈ writings latex extra :=
    List.mem_append_left _ (List.mem_reverse.2 (List.mem_map_of_mem ha))
  simpa using List.lookup_eq_none_iff.1 hnone _ hmem

end Engine
end Texdown
