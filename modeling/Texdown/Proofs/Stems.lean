import Texdown.NewFile
import Texdown.OutputName
import Texdown.Proofs.Places

/-!
# Names of new files

The stem of a title has letters, digits and separators in it, in whatever script, and no character in front
of a suffix can be taken for the dot of one: lower-casing makes neither a dot nor a slash. So a document's
name is cut where its suffix was put, whatever number stands between them. A search that looks at one number
after the other finds the least one that is free, before names get too long for a directory.

Results:
* `mem_lower`: neither a dot nor a slash comes of lower-casing.
* `isStem_titleStem`: the stem of a title is one.
* `Files.exists_leastFree`: one number behind a stem is the least that is free in a directory.
* `Files.Accepts.lt_candidates`: a directory takes no name with a number that is beyond the candidates.
* `NewFile.freePath_of_leastFree`: the path that is free has the least number.
-/
namespace Texdown

/-! ## Lower case -/

namespace Text

/-- A character that means something in a path: a dot or a slash. -/
def dividesPath (c : Char) : Prop := c = '.' ∨ c = '/'

theorem not_dividesPath_ofNat {n : Nat} (h : '/'.toNat < n) : ¬ dividesPath (Char.ofNat n) := by
  have hchar : (Char.ofNat n).toNat = n ∨ (Char.ofNat n).toNat = 0 := by
    by_cases hvalid : n.isValidChar
    · exact .inl (congrArg Char.toNat (dif_pos hvalid))
    · exact .inr (congrArg Char.toNat (dif_neg hvalid))
  have hslash : '/'.toNat = 47 := rfl
  rintro (heq | heq)
  · have hdot : '.'.toNat = 46 := rfl
    rw [heq] at hchar
    omega
  · rw [heq] at hchar
    omega

theorem lowerRuns_target : ∀ r ∈ lowerRuns, '/'.toNat < r.target := by decide +kernel

theorem lowerExpansions_image : ∀ e ∈ lowerExpansions, ∀ n ∈ e.2, '/'.toNat < n := by decide

theorem mem_mapCase {c d : Char} (h : d ∈ mapCase lowerRuns lowerExpansions c) (hd : dividesPath d) :
    d = c := by
  unfold mapCase at h
  split at h
  · rename_i ns hns
    obtain ⟨n, hn, rfl⟩ := List.mem_map.1 h
    obtain ⟨l, r, heq, -⟩ := List.lookup_eq_some_iff.1 hns
    have hmem : (c.toNat, ns) ∈ lowerExpansions := by simp [heq]
    exact absurd hd (not_dividesPath_ofNat (lowerExpansions_image _ hmem n hn))
  · rw [List.mem_singleton] at h
    cases hrun : lowerRuns.findSome? (·.map? c.toNat) with
    | none =>
      rw [hrun, Option.getD_none, Char.ofNat_toNat] at h
      exact h
    | some n =>
      rw [hrun, Option.getD_some] at h
      obtain ⟨r, hr, hmap⟩ := List.exists_of_findSome?_eq_some hrun
      have hn : r.target ≤ n := by
        unfold CaseRun.map? at hmap
        split at hmap
        · cases hmap
          exact Nat.le_add_right _ _
        · cases hmap
      exact absurd (h ▸ hd) (not_dividesPath_ofNat (Nat.lt_of_lt_of_le (lowerRuns_target r hr) hn))

theorem mem_lowerGo {before t : Text} {d : Char} (h : d ∈ lower.go before t) (hd : dividesPath d) : d ∈ t := by
  induction t generalizing before with
  | nil => exact absurd h List.not_mem_nil
  | cons c t ih =>
    rw [lower.go] at h
    rcases List.mem_append.1 h with h | h
    · split at h
      · split at h
        · rw [List.mem_singleton] at h
          rw [h] at hd
          rcases hd with hd | hd <;> cases hd
        · rw [List.mem_singleton] at h
          rw [h] at hd
          rcases hd with hd | hd <;> cases hd
      · exact mem_mapCase h hd ▸ List.mem_cons_self
    · exact List.mem_cons_of_mem _ (ih h)

/-- Neither a dot nor a slash comes of lower-casing. -/
theorem mem_lower {t : Text} {d : Char} (h : d ∈ lower t) (hd : dividesPath d) : d ∈ t := mem_lowerGo h hd

end Text

/-! ## Stems -/

/-- What can stand in front of a suffix, and is cut off it again. -/
structure IsStem (t : Text) : Prop where
  ne_nil : t ≠ []
  undotted : '.' ∉ t
  undivided : '/' ∉ t

theorem not_dividesPath_of_mem_stemWord {word : Text} {c : Char} (h : c ∈ stemWord word) :
    ¬ Text.dividesPath c := fun hc => by
  have halphanumeric := (List.mem_filter.1 (Text.mem_lower h hc)).2
  rcases hc with rfl | rfl <;> exact absurd halphanumeric (by decide +kernel)

/-- The stem of a title is one. -/
theorem isStem_titleStem (title : Option Text) : IsStem (titleStem title) := by
  have hchars : ∀ words : List Text, ∀ c ∈ (words.flatMap fun w => stemWord w ++ ['_']).dropLast,
      ¬ Text.dividesPath c := fun words c hc => by
    obtain ⟨word, -, hc⟩ := List.mem_flatMap.1 (List.dropLast_subset _ hc)
    rcases List.mem_append.1 hc with hc | hc
    · exact not_dividesPath_of_mem_stemWord hc
    · rw [List.mem_singleton.1 hc]
      rintro (h | h) <;> cases h
  unfold titleStem
  simp only
  split
  · exact ⟨by decide, by decide, by decide⟩
  · rename_i hlong
    refine ⟨fun hnil => hlong ?_, fun h => hchars _ _ h (.inl rfl), fun h => hchars _ _ h (.inr rfl)⟩
    have hlen := congrArg List.length hnil
    rw [List.length_dropLast, List.length_nil] at hlen
    exact Nat.le_trans (Nat.le_of_sub_eq_zero hlen) (by decide)

/-- A number behind a stem makes a stem. -/
theorem isStem_numbered {stem : Text} (h : IsStem stem) (k : Nat) : IsStem (numbered stem [] k) := by
  cases k with
  | zero => rwa [numbered_zero, List.append_nil]
  | succ k =>
    rw [numbered_succ, List.append_nil]
    refine ⟨by simp, ?_, ?_⟩
    · simp only [List.mem_append, List.mem_cons, not_or]
      exact ⟨h.undotted, by decide, fun hc => absurd (Text.isDigit_of_mem_ofNat hc) (by decide)⟩
    · simp only [List.mem_append, List.mem_cons, not_or]
      exact ⟨h.undivided, by decide, fun hc => absurd (Text.isDigit_of_mem_ofNat hc) (by decide)⟩

theorem numbered_append (stem suffix : Text) (k : Nat) :
    numbered stem suffix k = numbered stem [] k ++ suffix := by
  cases k with
  | zero => rw [numbered_zero, numbered_zero, List.append_nil]
  | succ k => rw [numbered_succ, numbered_succ, List.append_nil]

/-! ## Names -/

/-- An extension: a name part without a dot of its own. -/
structure IsExtension (ext : Text) : Prop where
  ne_nil : ext ≠ []
  undotted : '.' ∉ ext
  undivided : '/' ∉ ext

theorem isExtension_tex : IsExtension "tex".toList := ⟨by decide, by decide, by decide⟩

theorem isExtension_pdf : IsExtension "pdf".toList := ⟨by decide, by decide, by decide⟩

namespace IsStem

variable {stem ext : Text}

theorem isPart_append (h : IsStem stem) (he : IsExtension ext) : Path.IsPart (stem ++ '.' :: ext) where
  ne_nil := by simp
  ne_dot heq := by
    obtain ⟨c, rest, rfl⟩ := List.exists_cons_of_ne_nil h.ne_nil
    simp at heq
  undivided hmem := by
    rcases List.mem_append.1 hmem with hmem | hmem
    · exact h.undivided hmem
    · exact he.undivided (List.mem_of_ne_of_mem (by decide) hmem)

theorem append_ne_dots (h : IsStem stem) (ext : Text) : stem ++ '.' :: ext ≠ ['.', '.'] := fun heq => by
  obtain ⟨c, rest, rfl⟩ := List.exists_cons_of_ne_nil h.ne_nil
  exact h.undotted ((List.cons.inj heq).1 ▸ List.mem_cons_self)

theorem splitName_append (h : IsStem stem) (he : IsExtension ext) :
    Path.splitName (stem ++ '.' :: ext) = (stem, '.' :: ext) :=
  Path.splitName_append h.ne_nil he.ne_nil he.undotted

end IsStem

section Numbered

variable {stem ext : Text} (h : IsStem stem) (k : Nat)
include h

theorem isPart_numbered (he : IsExtension ext) : Path.IsPart (numbered stem ('.' :: ext) k) := by
  rw [numbered_append]
  exact (isStem_numbered h k).isPart_append he

theorem numbered_ne_dots (ext : Text) : numbered stem ('.' :: ext) k ≠ ['.', '.'] := by
  rw [numbered_append]
  exact (isStem_numbered h k).append_ne_dots ext

/-- Another suffix takes the place of the one behind a number. -/
theorem withSuffix_numbered (he : IsExtension ext) {directory p other : Text}
    (hp : Path.Below directory (numbered stem ('.' :: ext) k) p) (ho : IsExtension other) :
    Path.Below directory (numbered stem ('.' :: other) k) (Path.withSuffix p ('.' :: other)) := by
  have hk := isStem_numbered h k
  rw [numbered_append] at hp ⊢
  rw [Path.withSuffix, Path.stem, hp.name_eq, hk.splitName_append he]
  exact hp.withName (hk.isPart_append ho)

end Numbered

/-! ## Numbers in a directory -/

namespace Files

def names (f : Files) (place : Place) : List Text :=
  f.entries.filterMap fun e => if e.1.dropLast = place then e.1.getLast? else none

theorem lookup_ne_none_iff {es : List (Place × FileEntry)} {q : Place} :
    es.lookup q ≠ none ↔ ∃ e ∈ es, e.1 = q := by
  rw [ne_eq, List.lookup_eq_none_iff, not_forall]
  simp only [bne_iff_ne, ne_eq, Classical.not_imp, not_not]
  exact exists_congr fun _ => and_congr_right fun _ => eq_comm

theorem mem_names_iff {f : Files} {place : Place} {name : Text} :
    name ∈ f.names place ↔ f.find? (place ++ [name]) ≠ none := by
  have hne : place ++ [name] ≠ [] := by simp
  rw [names, find?, if_neg hne, lookup_ne_none_iff]
  simp only [List.mem_filterMap]
  refine exists_congr fun e => and_congr_right fun _ => ?_
  constructor
  · intro he
    split at he
    · rename_i hplace
      rw [← hplace]
      exact (List.dropLast_append_getLast? name he).symm
    · cases he
  · intro he
    rw [he]
    simp

end Files

/-- The least number that makes a name free in a directory. -/
structure Files.LeastFree (f : Files) (directory : Place) (stem suffix : Text) (k : Nat) : Prop where
  free : f.find? (directory ++ [numbered stem suffix k]) = none
  least : ∀ j < k, f.find? (directory ++ [numbered stem suffix j]) ≠ none

namespace Files

/-- A directory holds finitely many names, so some number is free, and one of them is the least. -/
theorem exists_leastFree (f : Files) (place : Place) (stem suffix : Text) :
    ∃ k, f.LeastFree place stem suffix k := by
  have hfirst := firstFree_freeName (f.names place) stem suffix
  obtain ⟨k, hname, hbefore⟩ := hfirst.least
  exact ⟨k, by_contra fun h => hfirst.free (hname ▸ mem_names_iff.2 h), fun j hj => mem_names_iff.1 (hbefore j hj)⟩

/-- The number stays the least one while nothing new stands anywhere. -/
theorem LeastFree.keeps {f f' : Files} {place : Place} {T : Place → Prop} {stem suffix : Text} {k : Nat}
    (h : f.LeastFree place stem suffix k) (hf : Keeps T f f') (hT : ∀ q, T q → f.find? q ≠ none) :
    f'.LeastFree place stem suffix k where
  free := (hf.eq_none_iff (hT _)).2 h.free
  least j hj := hf.occupied _ (h.least j hj)

end Files

/-! ## How long numbered names are -/

theorem length_ofNat_mono {j k : Nat} (h : j ≤ k) : (Text.ofNat j).length ≤ (Text.ofNat k).length := by
  have hk : k < 10 ^ (Text.ofNat k).length :=
    (Nat.length_toDigits_le_iff (by decide) Nat.length_toDigits_pos).1 (Nat.le_refl _)
  exact (Nat.length_toDigits_le_iff (by decide) Nat.length_toDigits_pos).2 (Nat.lt_of_le_of_lt h hk)

theorem length_toUtf8_ofNat (n : Nat) : (Text.toUtf8 (Text.ofNat n)).length = (Text.ofNat n).length := by
  have hone : ∀ c ∈ Text.ofNat n, (Text.utf8Char c).length = 1 := fun c hc => by
    have hnine : c.toNat ≤ '9'.toNat :=
      of_decide_eq_true (Bool.and_eq_true_iff.1 (Text.isDigit_of_mem_ofNat hc)).2
    have hascii : c.toNat < 0x80 := Nat.lt_of_le_of_lt hnine (by decide)
    simp only [Text.utf8Char, if_pos hascii, List.length_singleton]
  rw [Text.toUtf8, List.length_flatMap, List.map_congr_left hone, List.map_const', List.sum_replicate_nat, Nat.mul_one]

namespace Files.Accepts

variable {stem suffix : Text} {j k : Nat}

theorem iff_numbered_succ : Accepts (numbered stem suffix (k + 1)) ↔
    (Text.toUtf8 stem).length + 1 + (Text.ofNat (k + 1)).length + (Text.toUtf8 suffix).length ≤ longestName := by
  have hdash : (Text.utf8Char '-').length = 1 := rfl
  rw [Accepts, numbered_succ, ← length_toUtf8_ofNat]
  simp only [Text.toUtf8, List.flatMap_append, List.flatMap_cons, List.length_append, hdash]
  omega

/-- A smaller number makes no longer name. -/
theorem numbered_of_le (h : Accepts (numbered stem suffix k)) (hj : j ≤ k) : Accepts (numbered stem suffix j) := by
  cases k with
  | zero => rwa [Nat.le_zero.1 hj]
  | succ k =>
    rw [iff_numbered_succ] at h
    cases j with
    | zero =>
      rw [Accepts, numbered_zero, Text.toUtf8, List.flatMap_append, List.length_append]
      simp only [Text.toUtf8] at h
      omega
    | succ j =>
      have hlength := length_ofNat_mono hj
      rw [iff_numbered_succ]
      omega

/-- A number beyond the candidates has more digits than a name has room for. -/
theorem lt_candidates (h : Accepts (numbered stem suffix k)) : k < NewFile.candidates := by
  cases k with
  | zero => exact Nat.pow_pos (by decide)
  | succ k =>
    rw [iff_numbered_succ] at h
    have hdigits : (Text.ofNat (k + 1)).length ≤ longestName := by omega
    exact (Nat.length_toDigits_le_iff (by decide) (by decide)).1 hdigits

end Files.Accepts

/-! ## The search for a free path -/

namespace NewFile

variable {seen : Text → Except FileProblem FileEntry} {stem ext directory path candidate p : Text} {j k : Nat}
  (hstem : IsStem stem) (hext : IsExtension ext) (hpath : Path.Below directory (stem ++ '.' :: ext) path)
include hstem hext hpath

variable (seen) in
/-- Where something stands at a candidate, the next one has the next number. -/
theorem search_succ (hcandidate : Path.Below directory (numbered stem ('.' :: ext) j) candidate) (fuel : Nat) :
    ∃ next, Path.Below directory (numbered stem ('.' :: ext) (j + 1)) next ∧
      search (m := Id) seen path (fuel + 1) candidate (j + 1) = match stands candidate (seen candidate) with
        | .error e => .error e
        | .ok false => .ok candidate
        | .ok true => search (m := Id) seen path fuel next (j + 2) := by
  have hname : (Path.name candidate).isEmpty = false := by
    rw [hcandidate.name_eq, List.isEmpty_eq_false_iff]
    exact (isPart_numbered hstem j hext).ne_nil
  have hsplit : Path.stem path = stem ∧ Path.suffix path = '.' :: ext := by
    rw [Path.stem, Path.suffix, hpath.name_eq, hstem.splitName_append hext]
    exact ⟨rfl, rfl⟩
  refine ⟨_, hcandidate.withName (isPart_numbered hstem (j + 1) hext), ?_⟩
  rw [search, rename, hname, hsplit.1, hsplit.2]
  rfl

/-- What a search finds has a number behind the stem. -/
theorem below_of_search {fuel : Nat} (hcandidate : Path.Below directory (numbered stem ('.' :: ext) j) candidate)
    (h : search (m := Id) seen path fuel candidate (j + 1) = .ok p) :
    ∃ k, Path.Below directory (numbered stem ('.' :: ext) k) p := by
  induction fuel generalizing j candidate with
  | zero => cases h
  | succ fuel ih =>
    obtain ⟨next, hnext, hsearch⟩ := search_succ seen hstem hext hpath hcandidate fuel
    rw [hsearch] at h
    split at h
    · cases h
    · cases h
      exact ⟨j, hcandidate⟩
    · exact ih hnext h

section Files

variable {f : Files} {base place : Place} (hplace : f.locate base directory = .ok place)
  (hdirectory : f.find? place = some .directory) (hk : f.LeastFree place stem ('.' :: ext) k)
  (haccepts : Files.Accepts (numbered stem ('.' :: ext) k))
include hplace hdirectory hk haccepts

/-- From a number that is not beyond it, a search comes to the least one that is free. -/
theorem search_of_leastFree {fuel : Nat} (hj : j ≤ k) (hfuel : k < j + fuel)
    (hcandidate : Path.Below directory (numbered stem ('.' :: ext) j) candidate) :
    ∃ p, search (m := Id) (f.look base) path fuel candidate (j + 1) = .ok p ∧
      Path.Below directory (numbered stem ('.' :: ext) k) p := by
  induction fuel generalizing j candidate with
  | zero => omega
  | succ fuel ih =>
    obtain ⟨next, hnext, hsearch⟩ := search_succ (f.look base) hstem hext hpath hcandidate fuel
    have hlocate := Files.locate_of_below hcandidate hplace hdirectory (haccepts.numbered_of_le hj)
      (numbered_ne_dots hstem j ext)
    rw [hsearch]
    rcases Nat.lt_or_eq_of_le hj with hlt | rfl
    · obtain ⟨entry, hentry⟩ := Option.ne_none_iff_exists'.1 (hk.least j hlt)
      rw [Files.look_eq_ok_iff.2 ⟨_, hlocate, hentry⟩]
      exact ih hlt (by omega) hnext
    · rw [Files.look_of_none hlocate hk.free]
      exact ⟨candidate, rfl, hcandidate⟩

/-- The path that is free has the least number. -/
theorem freePath_of_leastFree : ∃ p, freePath (m := Id) (f.look base) path = .ok p ∧
    Path.Below directory (numbered stem ('.' :: ext) k) p := by
  refine search_of_leastFree hstem hext hpath hplace hdirectory hk haccepts (Nat.zero_le k) ?_ ?_
  · rw [Nat.zero_add]
    exact haccepts.lt_candidates
  · rw [numbered_zero]
    exact hpath.plain

end Files
end NewFile
end Texdown
