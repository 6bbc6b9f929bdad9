import Texdown.Files
import Texdown.Proofs.FreeNames
import Mathlib.Order.Defs.Unbundled

/-!
# Where paths lead

A path leads to a place that its parts name, whatever stands on the way, if it leads anywhere. What is
written at a path changes the files at that place and nowhere else; a file is never written over a directory,
so paths go on leading to where they led.

Results:
* `Path.parts_ofParts`: a path has the parts that it is made of.
* `Files.locate_destination`: where a path leads, if it leads anywhere.
* `Files.keeps_write`, `Files.keeps_append`: what is written changes its own place.
* `Files.create_new`, `Files.spares_create`: a new file is written where nothing stands, and nothing that
  stands anywhere is changed by it.
-/
namespace Texdown

/-! ## Parts of paths -/

namespace Text

theorem splitOn_append_cons {sep : Char} {t : Text} (h : sep ∉ t) (rest : Text) :
    splitOn sep (t ++ sep :: rest) = t :: splitOn sep rest := by
  induction t with
  | nil => simp [splitOn]
  | cons c t ih =>
    rw [List.mem_cons, not_or] at h
    rw [List.cons_append, splitOn, if_neg (Ne.symm h.1), ih h.2]

theorem not_mem_of_mem_splitOn {sep : Char} {t piece : Text} (h : piece ∈ splitOn sep t) : sep ∉ piece := by
  induction t generalizing piece with
  | nil =>
    rw [splitOn, List.mem_singleton] at h
    rw [h]
    exact List.not_mem_nil
  | cons c t ih =>
    rw [splitOn] at h
    split at h
    · rcases List.mem_cons.1 h with rfl | h
      · exact List.not_mem_nil
      · exact ih h
    · rename_i hc
      split at h
      · rename_i hnil
        exact absurd hnil (splitOn_ne_nil sep t)
      · rename_i first rest hsplit
        rcases List.mem_cons.1 h with rfl | h
        · rw [List.mem_cons, not_or]
          exact ⟨Ne.symm hc, ih (hsplit ▸ List.mem_cons_self)⟩
        · exact ih (hsplit ▸ List.mem_cons_of_mem _ h)

/-- A text is split at its last separator. -/
theorem splitLast?_append {sep : Char} {ext : Text} (h : sep ∉ ext) (stem : Text) :
    splitLast? sep (stem ++ sep :: ext) = some (stem, ext) := by
  have hafter : ((stem ++ sep :: ext).reverse.takeWhile (· ≠ sep)).reverse = ext := by
    have hall : ∀ c ∈ ext.reverse, decide (c ≠ sep) = true := fun c hc =>
      decide_eq_true fun he => h (he ▸ List.mem_reverse.1 hc)
    rw [List.reverse_append, List.reverse_cons, List.append_assoc, List.takeWhile_append_of_pos hall]
    simp
  have hlen : (stem ++ sep :: ext).length - ext.length - 1 = stem.length := by
    simp only [List.length_append, List.length_cons]
    omega
  rw [splitLast?, if_pos (List.mem_append_right _ List.mem_cons_self)]
  simp only
  rw [hafter, hlen, List.take_left]

end Text

namespace Path

/-- A name that means something as a part of a path. -/
structure IsPart (name : Text) : Prop where
  ne_nil : name ≠ []
  ne_dot : name ≠ ['.']
  undivided : '/' ∉ name

theorem isPart_of_mem_parts {p name : Text} (h : name ∈ parts p) : IsPart name := by
  obtain ⟨hpiece, hmeans⟩ := List.mem_filter.1 h
  simp only [Bool.and_eq_true, Bool.not_eq_true', List.isEmpty_eq_false_iff, bne_iff_ne] at hmeans
  exact ⟨hmeans.1, hmeans.2, Text.not_mem_of_mem_splitOn hpiece⟩

theorem splitOn_intercalate {name : Text} {names : List Text} (h : ∀ n ∈ name :: names, '/' ∉ n) :
    Text.splitOn '/' (List.intercalate ['/'] (name :: names)) = name :: names := by
  induction names generalizing name with
  | nil =>
    rw [List.intercalate_singleton]
    exact Text.splitOn_of_not_mem (h name List.mem_cons_self)
  | cons next names ih =>
    rw [List.intercalate_cons_cons, List.append_assoc, List.singleton_append,
      Text.splitOn_append_cons (h name List.mem_cons_self), ih fun n hn => h n (List.mem_cons_of_mem _ hn)]

/-- What a path can begin with. -/
theorem root_mem (p : Text) : root p ∈ [[], ['/'], ['/', '/']] := by
  unfold root
  split <;> simp

theorem isAbsolute_eq (p : Text) : isAbsolute p = !(root p).isEmpty := by
  unfold isAbsolute root
  split
  · rfl
  · rfl
  · rfl
  · rename_i hslash
    cases p with
    | nil => rfl
    | cons c rest => simpa [isAbsolute] using fun hc : c = '/' => hslash rest (hc ▸ rfl)

section ofParts

variable {start : Text} {ps : List Text}

/-- A path has the parts that it is made of. -/
theorem parts_ofParts (hstart : start ∈ [[], ['/'], ['/', '/']]) (hps : ∀ n ∈ ps, IsPart n) :
    parts (ofParts start ps) = ps := by
  have hkeep : ps.filter (fun s => !s.isEmpty && s != ['.']) = ps :=
    List.filter_eq_self.2 fun n hn => by simp [(hps n hn).ne_nil, (hps n hn).ne_dot]
  have hpieces : (Text.splitOn '/' (List.intercalate ['/'] ps)).filter (fun s => !s.isEmpty && s != ['.'])
      = ps := by
    cases ps with
    | nil => rfl
    | cons name names => rw [splitOn_intercalate fun n hn => (hps n hn).undivided, hkeep]
  have hroot : ∀ t : Text, parts ('/' :: t) = parts t := fun t => by simp [parts, Text.splitOn]
  have hwhole : parts (start ++ List.intercalate ['/'] ps) = ps := by
    simp only [List.mem_cons, List.not_mem_nil, or_false] at hstart
    rcases hstart with rfl | rfl | rfl
    · exact hpieces
    · exact (hroot _).trans hpieces
    · exact (hroot _).trans ((hroot _).trans hpieces)
  unfold ofParts
  simp only
  split
  · rename_i hempty
    rw [List.isEmpty_iff.1 hempty] at hwhole
    exact hwhole
  · exact hwhole

theorem isAbsolute_ofParts (hstart : start ∈ [[], ['/'], ['/', '/']]) (hps : ∀ n ∈ ps, IsPart n) :
    isAbsolute (ofParts start ps) = !start.isEmpty := by
  simp only [List.mem_cons, List.not_mem_nil, or_false] at hstart
  rcases hstart with rfl | rfl | rfl
  · cases ps with
    | nil => rfl
    | cons name names =>
      obtain ⟨hne, -, hslash⟩ := hps name List.mem_cons_self
      obtain ⟨c, rest, rfl⟩ := List.exists_cons_of_ne_nil hne
      have hc : c ≠ '/' := fun he => hslash (he ▸ List.mem_cons_self)
      cases names with
      | nil => simp [ofParts, isAbsolute, hc]
      | cons next names => simp [ofParts, isAbsolute, hc, List.intercalate_cons_cons]
  · rfl
  · rfl

end ofParts

theorem forall_isPart (p : Text) : ∀ n ∈ parts p, IsPart n := fun _ => isPart_of_mem_parts

theorem parts_plain (p : Text) : parts (plain p) = parts p := parts_ofParts (root_mem p) (forall_isPart p)

theorem isAbsolute_plain (p : Text) : isAbsolute (plain p) = isAbsolute p :=
  (isAbsolute_ofParts (root_mem p) (forall_isPart p)).trans (isAbsolute_eq p).symm

section name

variable {new : Text}

theorem forall_isPart_append {ps : List Text} (hps : ∀ n ∈ ps, IsPart n) (hnew : IsPart new) :
    ∀ n ∈ ps ++ [new], IsPart n := fun n hn =>
  (List.mem_append.1 hn).elim (hps n) fun h => List.mem_singleton.1 h ▸ hnew

theorem forall_isPart_withName (p : Text) (hnew : IsPart new) :
    ∀ n ∈ (parts p).dropLast ++ [new], IsPart n :=
  forall_isPart_append (fun n hn => forall_isPart p n (List.dropLast_subset _ hn)) hnew

theorem parts_withName (p : Text) (hnew : IsPart new) :
    parts (withName p new) = (parts p).dropLast ++ [new] :=
  parts_ofParts (root_mem p) (forall_isPart_withName p hnew)

theorem isAbsolute_withName (p : Text) (hnew : IsPart new) : isAbsolute (withName p new) = isAbsolute p :=
  (isAbsolute_ofParts (root_mem p) (forall_isPart_withName p hnew)).trans (isAbsolute_eq p).symm

theorem isAbsolute_of_isPart (hnew : IsPart new) : isAbsolute new = false := by
  obtain ⟨c, rest, rfl⟩ := List.exists_cons_of_ne_nil hnew.ne_nil
  have hc : c ≠ '/' := fun he => hnew.undivided (he ▸ List.mem_cons_self)
  simp [isAbsolute, hc]

theorem parts_of_isPart (hnew : IsPart new) : parts new = [new] := by
  rw [parts, Text.splitOn_of_not_mem hnew.undivided]
  simp [hnew.ne_nil, hnew.ne_dot]

theorem join_of_isPart (base : Text) (hnew : IsPart new) :
    join base new = ofParts (root base) (parts base ++ [new]) := by
  rw [join, isAbsolute_of_isPart hnew, parts_of_isPart hnew]
  rfl

theorem parts_join (base : Text) (hnew : IsPart new) : parts (join base new) = parts base ++ [new] := by
  rw [join_of_isPart base hnew]
  exact parts_ofParts (root_mem base) (forall_isPart_append (forall_isPart base) hnew)

theorem isAbsolute_join (base : Text) (hnew : IsPart new) : isAbsolute (join base new) = isAbsolute base := by
  rw [join_of_isPart base hnew, isAbsolute_eq base]
  exact isAbsolute_ofParts (root_mem base) (forall_isPart_append (forall_isPart base) hnew)

end name

/-- A path that leads to a name in a directory. -/
structure Below (directory name p : Text) : Prop where
  absolute : isAbsolute p = isAbsolute directory
  parts : parts p = parts directory ++ [name]

namespace Below

variable {directory name new p : Text}

theorem join (directory : Text) (hname : IsPart name) : Below directory name (join directory name) :=
  ⟨isAbsolute_join directory hname, parts_join directory hname⟩

theorem withName (h : Below directory name p) (hnew : IsPart new) : Below directory new (withName p new) := by
  refine ⟨(isAbsolute_withName p hnew).trans h.absolute, ?_⟩
  rw [parts_withName p hnew, h.parts, List.dropLast_concat]

theorem plain (h : Below directory name p) : Below directory name (plain p) :=
  ⟨(isAbsolute_plain p).trans h.absolute, (parts_plain p).trans h.parts⟩

theorem name_eq (h : Below directory name p) : Path.name p = name := by
  rw [Path.name, h.parts, List.getLast?_concat]
  rfl

end Below

/-- A name is cut at its only dot. -/
theorem splitName_append {stem ext : Text} (hstem : stem ≠ []) (hext : ext ≠ []) (hdot : '.' ∉ ext) :
    splitName (stem ++ '.' :: ext) = (stem, '.' :: ext) := by
  rw [splitName, Text.splitLast?_append hdot]
  simp [hstem, hext]

end Path

/-! ## Following paths -/

namespace Place

/-- The place that a name leads to from another one. -/
def next (place : Place) (name : Text) : Place := if name = ['.', '.'] then place.dropLast else place ++ [name]

/-- The place that names lead to from another one, if they lead anywhere. -/
def along (place : Place) (names : List Text) : Place := names.foldl next place

end Place

namespace Files

variable {f f' f'' : Files} {base place start q : Place} {path name : Text} {names : List Text}

/-- The place that a path leads to, if it leads anywhere. -/
def destination (base : Place) (path : Text) : Place :=
  Place.along (if Path.isAbsolute path then [] else base) (Path.parts path)

/-- Whether a directory takes a name. -/
def Accepts (name : Text) : Prop := (Text.toUtf8 name).length ≤ longestName

theorem follow_cons_eq_ok_iff : f.follow start (name :: names) = .ok q ↔
    f.find? start = some .directory ∧ (name ≠ ['.', '.'] → Accepts name) ∧
      f.follow (Place.next start name) names = .ok q := by
  rw [Place.next, Accepts, ← Nat.not_lt, follow]
  split
  · simp_all
  · simp_all
  · split
    · simp_all
    · split <;> simp_all

theorem follow_along (h : f.follow start names = .ok q) : q = Place.along start names := by
  induction names generalizing start with
  | nil => exact (Except.ok.inj h).symm
  | cons name names ih => exact ih (follow_cons_eq_ok_iff.1 h).2.2

theorem locate_destination (h : f.locate base path = .ok q) : q = destination base path := follow_along h

theorem destination_plain (base : Place) (path : Text) :
    destination base (Path.plain path) = destination base path := by
  rw [destination, Path.parts_plain, Path.isAbsolute_plain]
  rfl

theorem follow_append {more : List Text} (h : f.follow start names = .ok place)
    (hmore : f.follow place more = .ok q) : f.follow start (names ++ more) = .ok q := by
  induction names generalizing start with
  | nil =>
    rw [Except.ok.inj h]
    exact hmore
  | cons name names ih =>
    obtain ⟨hdirectory, haccepts, hnext⟩ := follow_cons_eq_ok_iff.1 h
    exact follow_cons_eq_ok_iff.2 ⟨hdirectory, haccepts, ih hnext⟩

theorem follow_singleton (hstart : f.find? start = some .directory) (hname : Accepts name)
    (hdots : name ≠ ['.', '.']) : f.follow start [name] = .ok (start ++ [name]) := by
  refine follow_cons_eq_ok_iff.2 ⟨hstart, fun _ => hname, ?_⟩
  rw [Place.next, if_neg hdots]
  rfl

section Below

variable {directory : Text} (h : Path.Below directory name path)
include h

theorem destination_of_below (hdirectory : f.locate base directory = .ok place) (hdots : name ≠ ['.', '.']) :
    destination base path = place ++ [name] := by
  rw [locate_destination hdirectory, destination, h.absolute, h.parts, Place.along, List.foldl_concat,
    Place.next, if_neg hdots]
  rfl

theorem getLast?_destination (base : Place) (hdots : name ≠ ['.', '.']) :
    (destination base path).getLast? = some name := by
  rw [destination, h.parts, Place.along, List.foldl_concat, Place.next, if_neg hdots, List.getLast?_concat]

theorem locate_of_below (hdirectory : f.locate base directory = .ok place)
    (hplace : f.find? place = some .directory) (hname : Accepts name) (hdots : name ≠ ['.', '.']) :
    f.locate base path = .ok (place ++ [name]) := by
  rw [locate, h.absolute, h.parts]
  exact follow_append hdirectory (follow_singleton hplace hname hdots)

end Below

theorem look_eq_ok_iff {entry : FileEntry} :
    f.look base path = .ok entry ↔ ∃ q, f.locate base path = .ok q ∧ f.find? q = some entry := by
  unfold look
  cases f.locate base path with
  | error e => simp [bind, Except.bind]
  | ok q =>
    simp only [bind, Except.bind, Except.ok.injEq, exists_eq_left']
    split <;> simp_all

theorem look_of_none (hplace : f.locate base path = .ok q) (h : f.find? q = none) :
    f.look base path = .error .missing := by
  simp only [look, hplace, bind, Except.bind, h]

/-! ## What changes -/

/-- Whatever stands somewhere goes on standing there, and changes only at the places that may be touched. -/
structure Spares (T : Place → Prop) (f f' : Files) : Prop where
  directories : ∀ q, f.find? q = some .directory → f'.find? q = some .directory
  occupied : ∀ q, f.find? q ≠ none → f'.find? q ≠ none
  others : ∀ q, ¬ T q → f.find? q ≠ none → f'.find? q = f.find? q

/-- Nothing changes but at the places that may be touched. -/
structure Keeps (T : Place → Prop) (f f' : Files) : Prop extends Spares T f f' where
  absent : ∀ q, ¬ T q → f.find? q = none → f'.find? q = none

variable {T : Place → Prop} {data : Bytes}

theorem Spares.refl (T : Place → Prop) (f : Files) : Spares T f f :=
  ⟨fun _ => id, fun _ => id, fun _ _ _ => rfl⟩

theorem Spares.trans (h : Spares T f f') (h' : Spares T f' f'') : Spares T f f'' where
  directories q hq := h'.directories q (h.directories q hq)
  occupied q hq := h'.occupied q (h.occupied q hq)
  others q hT hq := (h'.others q hT (h.occupied q hq)).trans (h.others q hT hq)

theorem Keeps.refl (T : Place → Prop) (f : Files) : Keeps T f f := ⟨.refl T f, fun _ _ => id⟩

theorem Keeps.trans (h : Keeps T f f') (h' : Keeps T f' f'') : Keeps T f f'' :=
  ⟨h.toSpares.trans h'.toSpares, fun q hT hq => h'.absent q hT (h.absent q hT hq)⟩

theorem Keeps.find?_eq (h : Keeps T f f') (hq : ¬ T q) : f'.find? q = f.find? q := by
  by_cases hnone : f.find? q = none
  · rw [hnone, h.absent q hq hnone]
  · exact h.others q hq hnone

/-- A new file stands at a place, and nothing else changes but at the places that may be touched. -/
structure Gains (T : Place → Prop) (place : Place) (data : Bytes) (f f' : Files) : Prop
    extends Keeps (fun q => T q ∨ q = place) f f' where
  new : f.find? place = none
  written : f'.find? place = some (.file data)

theorem Keeps.mono {T' : Place → Prop} (h : Keeps T f f') (hT : ∀ q, T q → T' q) : Keeps T' f f' where
  directories := h.directories
  occupied := h.occupied
  others q hq := h.others q fun hq' => hq (hT q hq')
  absent q hq := h.absent q fun hq' => hq (hT q hq')

theorem Gains.of_keeps {T' : Place → Prop} {place : Place} {data : Bytes} (h : Keeps T f f')
    (h' : Gains T' place data f' f'') (hT : ∀ q, T q → T' q) : Gains T' place data f f'' where
  toKeeps := (h.mono fun q hq => .inl (hT q hq)).trans h'.toKeeps
  new := by
    by_contra hstands
    exact h.occupied place hstands h'.new
  written := h'.written

theorem Gains.keeps {T' : Place → Prop} {place : Place} {data : Bytes} (h : Gains T place data f f')
    (h' : Keeps T' f' f'') (hT : ∀ q, T q → T' q) (hplace : ¬ T' place) : Gains T' place data f f'' where
  toKeeps := (h.toKeeps.mono fun q hq => hq.imp_left (hT q)).trans (h'.mono fun _ => .inl)
  new := h.new
  written := (h'.find?_eq hplace).trans h.written

theorem Gains.mono {T' : Place → Prop} {place : Place} {data : Bytes} (h : Gains T place data f f')
    (hT : ∀ q, T q → T' q) : Gains T' place data f f' where
  toKeeps := h.toKeeps.mono fun q hq => hq.imp_left (hT q)
  new := h.new
  written := h.written

/-- Nothing new stands anywhere, if something stands wherever may be touched. -/
theorem Keeps.eq_none_iff (h : Keeps T f f') (hT : T q → f.find? q ≠ none) :
    f'.find? q = none ↔ f.find? q = none := by
  by_cases hq : T q
  · exact iff_of_false (h.occupied q (hT hq)) (hT hq)
  · rw [h.find?_eq hq]

/-- Paths go on leading to where they led. -/
theorem Spares.follow (h : Spares T f f') (hf : f.follow start names = .ok q) :
    f'.follow start names = .ok q := by
  induction names generalizing start with
  | nil => exact hf
  | cons name names ih =>
    obtain ⟨hdirectory, haccepts, hnext⟩ := follow_cons_eq_ok_iff.1 hf
    exact follow_cons_eq_ok_iff.2 ⟨h.directories start hdirectory, haccepts, ih hnext⟩

theorem Spares.locate (h : Spares T f f') (hf : f.locate base path = .ok q) : f'.locate base path = .ok q :=
  h.follow hf

theorem find?_put_self (h : f.find? place ≠ some .directory) (data : Bytes) :
    (f.put place (.file data)).find? place = some (.file data) :=
  find?_put f place _ fun hroot => h (hroot ▸ rfl)

theorem spares_put (h : f.find? place ≠ some .directory) (hT : f.find? place ≠ none → T place) :
    Spares T f (f.put place (.file data)) where
  directories q hq := by
    have hne : q ≠ place := fun he => h (he ▸ hq)
    rw [find?_put_of_ne f _ hne, hq]
  occupied q hq := by
    by_cases he : q = place
    · rw [he, find?_put_self h]
      nofun
    · rwa [find?_put_of_ne f _ he]
  others q hq hstands := find?_put_of_ne f _ fun he => hq (he ▸ hT (he ▸ hstands))

theorem keeps_put (h : f.find? place ≠ some .directory) (hT : T place) :
    Keeps T f (f.put place (.file data)) where
  toSpares := spares_put h fun _ => hT
  absent q hq hnone := by
    have hne : q ≠ place := fun he => hq (he ▸ hT)
    rwa [find?_put_of_ne f _ hne]

instance : IsPreorder Files (Spares T) where
  refl := .refl T
  trans _ _ _ := .trans

instance : IsPreorder Files (Keeps T) where
  refl := .refl T
  trans _ _ _ := .trans

theorem checkParent_eq_ok_iff :
    f.checkParent place = .ok () ↔ f.find? place.dropLast = some .directory := by
  unfold checkParent
  split <;> simp_all

theorem write_eq_ok_iff {data : Bytes} : f.write base path data = .ok f' ↔
    ∃ place, f.locate base path = .ok place ∧ f.find? place.dropLast = some .directory ∧
      f.find? place ≠ some .directory ∧ f' = f.put place (.file data) := by
  unfold write
  cases hplace : f.locate base path with
  | error e => simp [bind, Except.bind]
  | ok place =>
    simp only [bind, Except.bind, Except.ok.injEq, exists_eq_left', ← checkParent_eq_ok_iff]
    cases hparent : f.checkParent place with
    | error e => simp
    | ok =>
      simp only
      split <;> simp_all [eq_comm]

/-- What is written at a path changes the place that it leads to. -/
theorem keeps_write (hT : T (destination base path)) (h : f.write base path data = .ok f') :
    Keeps T f f' := by
  obtain ⟨place, hplace, -, hfile, rfl⟩ := write_eq_ok_iff.1 h
  exact keeps_put hfile (locate_destination hplace ▸ hT)

theorem keeps_append (hT : T (destination base path)) (h : f.append base path data = .ok f') :
    Keeps T f f' := by
  unfold append at h
  split at h
  · exact keeps_write hT h
  · exact keeps_write hT h
  · cases h

/-- What was written stands where the path leads to. -/
theorem find?_of_write (h : f.write base path data = .ok f') :
    f'.find? (destination base path) = some (.file data) := by
  obtain ⟨place, hplace, -, hfile, rfl⟩ := write_eq_ok_iff.1 h
  rw [← locate_destination hplace]
  exact find?_put_self hfile data

theorem find?_of_append (h : f.append base path data = .ok f') :
    ∃ written, f'.find? (destination base path) = some (.file written) := by
  unfold append at h
  split at h
  · exact ⟨_, find?_of_write h⟩
  · exact ⟨_, find?_of_write h⟩
  · cases h

theorem create_eq_ok_iff : f.create base path data = .ok f' ↔
    ∃ place, f.locate base path = .ok place ∧ f.find? place.dropLast = some .directory ∧
      f.find? place = none ∧ f' = f.put place (.file data) := by
  unfold create
  cases hplace : f.locate base path with
  | error e => simp [bind, Except.bind]
  | ok place =>
    simp only [bind, Except.bind, Except.ok.injEq, exists_eq_left', ← checkParent_eq_ok_iff]
    cases hparent : f.checkParent place with
    | error e => simp
    | ok =>
      simp only
      split
      · rename_i entry hstands
        simp [hstands]
      · rename_i hnone
        simp [hnone, eq_comm]

theorem gains_put (h : f.find? place = none) : Gains T place data f (f.put place (.file data)) where
  toKeeps := keeps_put (h ▸ nofun) (.inr rfl)
  new := h
  written := find?_put_self (h ▸ nofun) data

theorem create_new (hplace : f.locate base path = .ok (place ++ [name]))
    (hdirectory : f.find? place = some .directory) (hnone : f.find? (place ++ [name]) = none) :
    f.create base path data = .ok (f.put (place ++ [name]) (.file data)) :=
  create_eq_ok_iff.2 ⟨_, hplace, by rwa [List.dropLast_concat], hnone, rfl⟩

/-- A new file changes nothing that stands anywhere. -/
theorem spares_create (h : f.create base path data = .ok f') : Spares T f f' := by
  obtain ⟨place, -, -, hnone, rfl⟩ := create_eq_ok_iff.1 h
  exact spares_put (hnone ▸ nofun) fun hstands => absurd hnone hstands

end Files
end Texdown
