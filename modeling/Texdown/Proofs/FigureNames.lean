import Texdown.Figure.Name
import Texdown.Figure.Registry
import Texdown.Proofs.FreeNames

/-!
# Names of figures

The name of a figure is the last part of its URL, cleaned, and what is cleaned is not changed by cleaning it
again. A name without an extension gets the one of the image's format. If the outcome is taken, the name has
the least number behind its stem that makes it free.

Results:
* `Clean.safeName_eq`, `clean_safeName`: what is cleaned stays as it is.
* `safeName_safeName_iff`: when cleaning twice is cleaning once.
* `nameFor_eq`, `stem_append_extension`: which stem and which extension the name of a figure has.
* `exists_nameFor`: a URL that can be read has a name that a figure can be stored under.
* `nameFor_firstFree`: the name is the first free one, of few characters, and is never refused.
* `extension_added`: the name of an image without an extension does not stay as it is.
-/
namespace Texdown

/-! ## Trimming -/

namespace Text

variable {p : Char → Bool} {t : Text} {c : Char}

theorem trimWhile_prefix_dropWhile (p : Char → Bool) (t : Text) : trimWhile p t <+: t.dropWhile p := by
  rw [trimWhile, dropEndWhile, ← List.reverse_suffix, List.reverse_reverse]
  exact List.dropWhile_suffix p

theorem mem_of_mem_trimWhile (h : c ∈ trimWhile p t) : c ∈ t :=
  (List.dropWhile_suffix p).subset ((trimWhile_prefix_dropWhile p t).subset h)

theorem head?_trimWhile (h : (trimWhile p t).head? = some c) : p c = false := by
  obtain ⟨rest, hrest⟩ := trimWhile_prefix_dropWhile p t
  have hhead : (t.dropWhile p).head? = some c := by
    rw [← hrest, List.head?_append, h]
    rfl
  have hnot := List.head?_dropWhile_not p t
  rw [hhead] at hnot
  exact hnot

theorem getLast?_trimWhile (h : (trimWhile p t).getLast? = some c) : p c = false := by
  rw [trimWhile, dropEndWhile, List.getLast?_reverse] at h
  have hnot := List.head?_dropWhile_not p (t.dropWhile p).reverse
  rw [h] at hnot
  exact hnot

end Text

namespace Figure

/-! ## Characters of names -/

def isNameChar (c : Char) : Bool := ('a' ≤ c && c ≤ 'z') || Text.isDigit c || c ∈ ['.', '_', '-']

/-- The characters that are trimmed off names. -/
def isTrimmed (c : Char) : Bool := c == '.' || c == '_'

theorem isAscii_of_isSafe {c : Char} (h : isSafe c = true) : Text.isAscii c = true := by
  simp only [isSafe, Text.isLetterOrDigit, Text.isLetter, Text.isDigit, Bool.or_eq_true, Bool.and_eq_true,
    decide_eq_true_eq, List.mem_cons, List.not_mem_nil, or_false, Char.le_def, UInt32.le_iff_toNat_le] at h
  rw [Text.isAscii, decide_eq_true_eq]
  rcases h with ((⟨-, h⟩ | ⟨-, h⟩) | ⟨-, h⟩) | rfl | rfl | rfl
  · exact Nat.lt_of_le_of_lt h (by decide)
  · exact Nat.lt_of_le_of_lt h (by decide)
  · exact Nat.lt_of_le_of_lt h (by decide)
  · decide
  · decide
  · decide

/-- An upper-case letter is one of twenty-six; every other character is its own lower-case form. -/
theorem lowerAscii_induction {p : Char → Prop} (hupper : ∀ n : Fin 26, p (Char.ofNat (65 + n.val)))
    (hother : ∀ c, lowerAscii c = c → ('A' ≤ c && c ≤ 'Z') = false → p c) (c : Char) : p c := by
  cases h : 'A' ≤ c && c ≤ 'Z' with
  | true =>
    simp only [Bool.and_eq_true, decide_eq_true_eq, Char.le_def, UInt32.le_iff_toNat_le] at h
    have hbounds : 65 ≤ c.toNat ∧ c.toNat ≤ 90 := h
    have hc := hupper ⟨c.toNat - 65, by omega⟩
    rwa [show 65 + (c.toNat - 65) = c.toNat by omega, Char.ofNat_toNat] at hc
  | false => exact hother c (by rw [lowerAscii, h]; rfl) h

theorem isNameChar_lowerAscii {c : Char} (h : isSafe c = true) : isNameChar (lowerAscii c) = true := by
  induction c using lowerAscii_induction with
  | hupper n => revert n; decide
  | hother c hlower hletter =>
    rw [hlower]
    simpa [isSafe, Text.isLetterOrDigit, Text.isLetter, isNameChar, hletter] using h

theorem isTrimmed_lowerAscii (c : Char) : isTrimmed (lowerAscii c) = isTrimmed c := by
  induction c using lowerAscii_induction with
  | hupper n => revert n; decide
  | hother c hlower hletter => rw [hlower]

theorem isSafe_of_isNameChar {c : Char} (h : isNameChar c = true) : isSafe c = true ∧ lowerAscii c = c := by
  induction c using lowerAscii_induction with
  | hupper n =>
    have hnone : ∀ n : Fin 26, isNameChar (Char.ofNat (65 + n.val)) = false := by decide
    rw [hnone n] at h
    cases h
  | hother c hlower hletter =>
    refine ⟨?_, hlower⟩
    simpa [isSafe, Text.isLetterOrDigit, Text.isLetter, isNameChar, hletter] using h

theorem isSafe_of_mem_replaceUnsafe {t : Text} {c : Char} (h : c ∈ replaceUnsafe t) :
    isSafe c = true := by
  induction t with
  | nil => cases h
  | cons d r ih =>
    simp only [replaceUnsafe] at h
    split at h
    · rename_i hd
      rcases List.mem_cons.1 h with rfl | h
      · exact hd
      · exact ih h
    · split at h
      · split at h
        · rcases List.mem_cons.1 h with rfl | h
          · rfl
          · exact ih h
        · exact ih h
      · rcases List.mem_cons.1 h with rfl | h
        · rfl
        · exact ih h

theorem replaceUnsafe_eq_self {t : Text} (h : ∀ c ∈ t, isSafe c = true) : replaceUnsafe t = t := by
  induction t with
  | nil => rfl
  | cons c t ih =>
    rw [List.forall_mem_cons] at h
    simp [replaceUnsafe, h.1, ih h.2]

/-! ## Plain names -/

/-- A text that a figure can be stored under: of characters of names, and not beginning with a dot. -/
structure Storable (t : Text) : Prop where
  chars : ∀ c ∈ t, isNameChar c = true
  undotted : ∀ c, t.head? = some c → c ≠ '.'
  ne_nil : t ≠ []

theorem stem_ne_nil {t : Text} (h : Path.name t ≠ []) : Path.stem t ≠ [] := by
  unfold Path.stem Path.splitName
  split
  · split
    · exact h
    · rename_i hcut
      simpa using fun he => hcut (by simp [he])
  · exact h

namespace Storable

variable {t : Text}

theorem ne_dots (h : Storable t) : t ∉ [[], ['.'], ['.', '.']] := by
  simp only [List.mem_cons, List.not_mem_nil, or_false, not_or]
  exact ⟨h.ne_nil, fun heq => h.undotted '.' (by rw [heq]; rfl) rfl,
    fun heq => h.undotted '.' (by rw [heq]; rfl) rfl⟩

theorem isPlainName (h : Storable t) : Path.isPlainName t = true := by
  have hslash : '/' ∉ t := fun hc => absurd (h.chars _ hc) (by decide)
  have hbackslash : '\\' ∉ t := fun hc => absurd (h.chars _ hc) (by decide)
  have hdots := h.ne_dots
  simp only [List.mem_cons, List.not_mem_nil, or_false, not_or] at hdots
  simp [Path.isPlainName, hdots, hslash, hbackslash]

/-- It is its own last part. -/
theorem name_eq (h : Storable t) : Path.name t = t := by
  have hslash : '/' ∉ t := fun hc => absurd (h.chars _ hc) (by decide)
  have hdot : t ≠ ['.'] := by rintro rfl; exact h.undotted '.' rfl rfl
  rw [Path.name, Path.parts, Text.splitOn_of_not_mem hslash]
  simp [h.ne_nil, hdot]

theorem stem_append_suffix (h : Storable t) : Path.stem t ++ Path.suffix t = t :=
  (Path.stem_append_suffix t).trans h.name_eq

theorem stem (h : Storable t) : Storable (Path.stem t) where
  chars c hc := h.chars c (h.stem_append_suffix ▸ List.mem_append_left _ hc)
  undotted c hc := h.undotted c <| by
    rw [← h.stem_append_suffix, List.head?_append, hc]
    rfl
  ne_nil := stem_ne_nil (h.name_eq.symm ▸ h.ne_nil)

/-- A number and another suffix can be put behind a stem. -/
theorem numbered {stem suffix : Text} (hstem : Storable stem) (hsuffix : ∀ c ∈ suffix, isNameChar c = true)
    (n : Nat) : Storable (numbered stem suffix n) := by
  obtain ⟨middle, heq, hmiddle⟩ : ∃ middle, Texdown.numbered stem suffix n = stem ++ (middle ++ suffix) ∧
      ∀ c ∈ middle, isNameChar c = true := by
    cases n with
    | zero => exact ⟨[], numbered_zero stem suffix, by simp⟩
    | succ n =>
      refine ⟨'-' :: Text.ofNat (n + 1), by rw [numbered_succ, List.append_assoc], fun c hc => ?_⟩
      rcases List.mem_cons.1 hc with rfl | hc
      · rfl
      · simp [isNameChar, Text.isDigit_of_mem_ofNat hc]
  obtain ⟨first, rest, rfl⟩ := List.exists_cons_of_ne_nil hstem.ne_nil
  rw [heq]
  refine ⟨fun c hc => ?_, fun c hc => hstem.undotted c (by simpa using hc), by simp⟩
  rcases List.mem_append.1 hc with hc | hc
  · exact hstem.chars c hc
  · exact (List.mem_append.1 hc).elim (hmiddle c) (hsuffix c)

end Storable

/-! ## Cleaned names -/

/-- A name that is clean: of characters of names, and neither of its ends would be trimmed off. -/
structure Clean (t : Text) : Prop where
  chars : ∀ c ∈ t, isNameChar c = true
  first : ∀ c, t.head? = some c → isTrimmed c = false
  last : ∀ c, t.getLast? = some c → isTrimmed c = false
  ne_nil : t ≠ []

namespace Clean

variable {t : Text}

theorem storable (h : Clean t) : Storable t where
  chars := h.chars
  undotted c hc := by rintro rfl; cases h.first _ hc
  ne_nil := h.ne_nil

theorem trimWhile_eq (h : Clean t) : Text.trimWhile isTrimmed t = t := by
  obtain ⟨first, rest, rfl⟩ := List.exists_cons_of_ne_nil h.ne_nil
  have hfirst := h.first first rfl
  rw [Text.trimWhile, List.dropWhile_cons_of_neg (by simp [hfirst]), Text.dropEndWhile]
  have hlast : ((first :: rest).reverse.head?.map isTrimmed) ≠ some true := by
    rw [List.head?_reverse]
    intro hc
    obtain ⟨c, hc, htrimmed⟩ := Option.map_eq_some_iff.1 hc
    rw [h.last c hc] at htrimmed
    cases htrimmed
  cases hreverse : (first :: rest).reverse with
  | nil => simp at hreverse
  | cons c cs =>
    rw [hreverse] at hlast
    rw [List.dropWhile_cons_of_neg (by simpa using hlast), ← hreverse, List.reverse_reverse]

/-- What is clean stays as it is. -/
theorem safeName_eq (h : Clean t) (fallback : Text) : safeName t fallback = t := by
  have hsafe : ∀ c ∈ t, isSafe c = true := fun c hc => (isSafe_of_isNameChar (h.chars c hc)).1
  have hbackslash : Text.substitute '\\' '/' t = t := by
    refine (List.map_congr_left fun c hc => if_neg ?_).trans (List.map_id t)
    rintro rfl
    cases hsafe _ hc
  have hascii : Text.toAscii t = t :=
    Text.toAscii_eq_self (List.all_eq_true.2 fun c hc => isAscii_of_isSafe (hsafe c hc))
  have hlower : t.map lowerAscii = t :=
    (List.map_congr_left fun c hc => (isSafe_of_isNameChar (h.chars c hc)).2).trans (List.map_id t)
  have htrim : Text.trimWhile (fun c => c == '.' || c == '_') t = t := h.trimWhile_eq
  simp only [safeName, hbackslash, h.storable.name_eq, hascii, replaceUnsafe_eq_self hsafe,
    htrim, hlower]
  rw [if_neg (by simpa using h.ne_nil)]

end Clean

/-- What is left of a name is clean, unless nothing is left of it. -/
theorem clean_safeName (name fallback : Text) :
    safeName name fallback = fallback ∨ Clean (safeName name fallback) := by
  unfold safeName
  simp only
  split
  · exact .inl rfl
  · rename_i hne
    refine .inr ⟨fun c hc => ?_, fun c hc => ?_, fun c hc => ?_, by simpa using hne⟩
    · obtain ⟨d, hd, rfl⟩ := List.mem_map.1 hc
      exact isNameChar_lowerAscii (isSafe_of_mem_replaceUnsafe (Text.mem_of_mem_trimWhile hd))
    · rw [List.head?_map] at hc
      obtain ⟨d, hd, rfl⟩ := Option.map_eq_some_iff.1 hc
      rw [isTrimmed_lowerAscii]
      exact Text.head?_trimWhile hd
    · rw [List.getLast?_map] at hc
      obtain ⟨d, hd, rfl⟩ := Option.map_eq_some_iff.1 hc
      rw [isTrimmed_lowerAscii]
      exact Text.getLast?_trimWhile hd

theorem clean_defaultName : Clean defaultName where
  chars := List.all_eq_true.1 (by decide)
  first := by rintro c ⟨⟩; rfl
  last := by rintro c ⟨⟩; rfl
  ne_nil := by decide

/-- Cleaning changes no name that was cleaned, provided what stands in for nothing is clean or at least
stays as it is. -/
theorem safeName_safeName_iff (fallback : Text) :
    (∀ name, safeName (safeName name fallback) fallback = safeName name fallback) ↔
      safeName fallback fallback = fallback := by
  constructor
  · intro h
    have hnothing : safeName [] fallback = fallback := rfl
    have hempty := h []
    rwa [hnothing] at hempty
  · intro h name
    rcases clean_safeName name fallback with heq | hclean
    · rw [heq, h]
    · exact hclean.safeName_eq fallback

/-! ## Extensions -/

/-- The extension of a name: its own, or else that of the image's format, if it is known. -/
def extension (name : Text) (data : Option Bytes) : Text :=
  if (Path.suffix name).isEmpty then ((data.bind format?).map ('.' :: ·)).getD [] else Path.suffix name

/-- The formats of images. -/
theorem format?_mem {data : Bytes} {f : Text} (h : format? data = some f) :
    f ∈ signatures.map (·.2) ++ ["webp".toList, "svg".toList] := by
  unfold format? at h
  split at h
  · cases h
  · split at h
    · rename_i hs
      cases h
      obtain ⟨e, he, rfl⟩ := Option.map_eq_some_iff.1 hs
      exact List.mem_append_left _ (List.mem_map_of_mem (List.mem_of_find?_eq_some he))
    · split at h
      · cases h; decide
      · split at h
        · cases h; decide
        · cases h

theorem isNameChar_extension {name : Text} (h : Clean name) (data : Option Bytes) :
    ∀ c ∈ extension name data, isNameChar c = true := by
  unfold extension
  split
  · cases hformat : data.bind format? with
    | none => simp
    | some f =>
      obtain ⟨d, -, hd⟩ := Option.bind_eq_some_iff.1 hformat
      have hall : ∀ f ∈ signatures.map (·.2) ++ ["webp".toList, "svg".toList], f.all isNameChar = true := by
        decide
      exact List.forall_mem_cons.2 ⟨rfl, List.all_eq_true.1 (hall f (format?_mem hd))⟩
  · exact fun c hc => h.chars c (h.storable.stem_append_suffix ▸ List.mem_append_right _ hc)

/-! ## Names -/

/-- The last part of the path of a URL, cleaned. -/
def baseName (u : Web.Url) : Text := safeName (Path.name (Text.percentDecode u.barePath)) defaultName

theorem clean_baseName (u : Web.Url) : Clean (baseName u) := by
  rcases clean_safeName (Path.name (Text.percentDecode u.barePath)) defaultName with h | h
  · rw [baseName, h]
    exact clean_defaultName
  · exact h

theorem nameFor_eq {url : Text} {u : Web.Url} (h : Web.Url.read url = .ok u) (data : Option Bytes)
    (taken : List Text) :
    nameFor url data taken =
      .ok (freeName taken (Path.stem (baseName u)) (extension (baseName u) data)) := by
  have hpath : Web.decodedPath url = .ok (Text.percentDecode u.barePath) := by
    rw [Web.decodedPath, h]
    rfl
  simp only [nameFor, hpath, bind, Except.bind]
  rfl

/-- A name without a number is the base name, with the extension of the image's format if it has none. -/
theorem stem_append_extension (u : Web.Url) (data : Option Bytes) :
    Path.stem (baseName u) ++ extension (baseName u) data =
      if (Path.suffix (baseName u)).isEmpty then
        baseName u ++ ((data.bind format?).map ('.' :: ·)).getD []
      else baseName u := by
  have hwhole := (clean_baseName u).storable.stem_append_suffix
  rw [extension]
  split
  · rename_i hnone
    rw [List.isEmpty_iff.1 hnone, List.append_nil] at hwhole
    rw [hwhole]
  · exact hwhole

/-- A URL that can be read has a name to store its figure under, the first free one. -/
theorem exists_nameFor {url : Text} {u : Web.Url} (h : Web.Url.read url = .ok u) (data : Option Bytes)
    (taken : List Text) :
    ∃ name, nameFor url data taken = .ok name ∧
      FirstFree taken (Path.stem (baseName u)) (extension (baseName u) data) name ∧ Storable name := by
  have hfirst := firstFree_freeName taken (Path.stem (baseName u)) (extension (baseName u) data)
  obtain ⟨k, hname, -⟩ := hfirst.least
  refine ⟨_, nameFor_eq h data taken, hfirst, hname ▸ ?_⟩
  exact (clean_baseName u).storable.stem.numbered (isNameChar_extension (clean_baseName u) data) k

/-- The figure of a URL that can be read gets the first free name with the stem and the extension of its base
name: that name itself, with the extension of the image's format if it has none of its own, unless it is
taken. The name is made of lower-case letters, digits, dots, underscores and dashes, and is never refused.
Cleaning a name twice is cleaning it once, exactly if that holds of what stands in for an empty name. -/
theorem nameFor_firstFree :
    (∀ (url : Text) (u : Web.Url) (data : Option Bytes) (taken : List Text), Web.Url.read url = .ok u →
      ∃ name, nameFor url data taken = .ok name ∧
        FirstFree taken (Path.stem (baseName u)) (extension (baseName u) data) name ∧
        (∀ c ∈ name, isNameChar c = true) ∧ name ∉ [[], ['.'], ['.', '.']] ∧
        ∀ (r : Registry) (image : Bytes), ∃ r', r.register url name image = .ok r') ∧
    (∀ u data, Path.stem (baseName u) ++ extension (baseName u) data =
      if (Path.suffix (baseName u)).isEmpty then baseName u ++ ((data.bind format?).map ('.' :: ·)).getD []
      else baseName u) ∧
    (∀ fallback, (∀ name, safeName (safeName name fallback) fallback = safeName name fallback) ↔
      safeName fallback fallback = fallback) ∧
    safeName defaultName defaultName = defaultName := by
  refine ⟨fun url u data taken hread => ?_, stem_append_extension, safeName_safeName_iff,
    clean_defaultName.safeName_eq _⟩
  obtain ⟨name, hname, hfirst, hstorable⟩ := exists_nameFor hread data taken
  exact ⟨name, hname, hfirst, hstorable.chars, hstorable.ne_dots,
    fun r image => ⟨_, if_pos hstorable.isPlainName⟩⟩

/-- The signature of a format. -/
def pngSignature : Bytes := [0x89, 0x50, 0x4e, 0x47, 0x0d, 0x0a, 0x1a, 0x0a]

/-- Behind an encoded slash, with characters that do not stay, without an extension, and taken. -/
theorem nameFor_firstFree_taken :
    let url := "https://e.x/a%2FPlot%20(1)".toList
    ∃ u name, Web.Url.read url = .ok u ∧ nameFor url (some pngSignature) ["plot_1.png".toList] = .ok name ∧
      FirstFree ["plot_1.png".toList] "plot_1".toList ".png".toList name := by
  intro url
  obtain ⟨u, hu⟩ : ∃ u, Web.Url.read url = .ok u := ⟨_, rfl⟩
  have hbase : baseName u = "plot_1".toList := by
    have hpath : Text.percentDecode u.barePath = "/a/Plot (1)".toList := by
      have hascii : ∀ b ∈ Text.percentBytes "/a%2FPlot%20(1)".toList, b.toNat < 0x80 := by decide +kernel
      cases hu
      exact Text.ofUtf8Lossy_ascii hascii
    rw [baseName, hpath]
    decide +kernel
  obtain ⟨name, hname, hfirst, -⟩ :=
    nameFor_firstFree.1 url u (some pngSignature) ["plot_1.png".toList] hu
  rw [hbase] at hfirst
  exact ⟨u, name, hu, hname, hfirst⟩

/-- The base name of an image without an extension is free, and another name is taken; and cleaning keeps
what stands in for an empty name, but would not leave it as it is. -/
theorem extension_added :
    (∃ u, Web.Url.read "https://e.x/plot".toList = .ok u ∧ baseName u = "plot".toList) ∧
    nameFor "https://e.x/plot".toList (some pngSignature) [] = .ok "plot.png".toList ∧
    safeName [] ['A'] = ['A'] ∧ safeName (safeName [] ['A']) ['A'] = ['a'] := by
  obtain ⟨u, hu⟩ : ∃ u, Web.Url.read "https://e.x/plot".toList = .ok u := ⟨_, rfl⟩
  have hbase : baseName u = "plot".toList := by
    have hpath : Text.percentDecode u.barePath = "/plot".toList := by
      have hascii : ∀ b ∈ Text.percentBytes "/plot".toList, b.toNat < 0x80 := by decide +kernel
      cases hu
      exact Text.ofUtf8Lossy_ascii hascii
    rw [baseName, hpath]
    decide +kernel
  refine ⟨⟨u, hu, hbase⟩, ?_, by decide +kernel, by decide +kernel⟩
  rw [nameFor_eq hu, hbase]
  rfl

end Figure
end Texdown
