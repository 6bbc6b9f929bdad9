import Texdown.Proofs.Archives
import Texdown.Proofs.Reports
import Texdown.Proofs.Searching

/-!
# What is in a package

The registered images that a document asks for make up its package, together with their directory and
the document. Of images that share a file name the one that is used first is kept, so every path in the
document leads to an entry, and every figure in the archive has such a path. For this an archive must
have room for the names, and none of them may have a character with code point zero in it: the name of
an entry ends in front of it. File names are registered, and names accepted as options, that have one.

Results:
* `Made.plain`: the file names of registered images are plain.
* `package_matches_document`: a package of a document has the entries that the document needs.
* `package_names_cut`: with a zero in names it need not.
-/
namespace Texdown

/-! ## Firsts -/

section Firsts

variable {α β : Type} [BEq β] {key : α → β}

/-- The elements of a list whose key does not occur in front of them. -/
def firsts (key : α → β) (xs : List α) : List α := xs.eraseDupsBy fun a b => key a == key b

theorem firsts_cons (key : α → β) (a : α) (xs : List α) :
    firsts key (a :: xs) = a :: firsts key (xs.filter fun b => !(key b == key a)) := by
  rw [firsts, List.eraseDupsBy_cons, firsts]
  congr 3
  funext b
  cases key b == key a <;> rfl

/-- Induction on what is left behind the head of a list without all that has its key. -/
theorem firsts_induction (key : α → β) {motive : List α → Prop} (nil : motive [])
    (cons : ∀ a xs, motive (xs.filter fun b => !(key b == key a)) → motive (a :: xs)) :
    ∀ xs, motive xs
  | [] => nil
  | a :: xs => cons a xs (firsts_induction key nil cons _)
termination_by xs => xs.length
decreasing_by exact Nat.lt_succ_of_le (List.length_filter_le _ _)

theorem mem_of_mem_firsts {xs : List α} {a : α} (h : a ∈ firsts key xs) : a ∈ xs := by
  induction xs using firsts_induction key with
  | nil => exact h
  | cons b xs ih =>
    rw [firsts_cons] at h
    rcases List.mem_cons.1 h with rfl | h
    · exact List.mem_cons_self
    · exact List.mem_cons_of_mem _ (List.mem_filter.1 (ih h)).1

variable [LawfulBEq β]

/-- Going through a list, they are the elements to keep. -/
theorem foldl_firsts (xs kept : List α) :
    xs.foldl (fun kept a => if kept.any (key · == key a) then kept else kept ++ [a]) kept
      = kept ++ firsts key (xs.filter fun a => !kept.any (key · == key a)) := by
  induction xs generalizing kept with
  | nil => exact (List.append_nil kept).symm
  | cons a xs ih =>
    rw [List.foldl_cons, ih]
    cases h : kept.any (key · == key a) with
    | true => simp only [if_true, List.filter_cons, h, Bool.not_true, Bool.false_eq_true, if_false]
    | false =>
      simp only [Bool.false_eq_true, if_false, List.filter_cons, h, Bool.not_false, if_true,
        firsts_cons, List.filter_filter, List.append_assoc, List.singleton_append]
      congr 4
      funext b
      simp only [List.any_append, List.any_cons, List.any_nil, Bool.or_false, Bool.not_or,
        Bool.and_comm, BEq.comm]

theorem firsts_eq_foldl (xs : List α) : firsts key xs
    = xs.foldl (fun kept a => if kept.any (key · == key a) then kept else kept ++ [a]) [] := by
  have hall : (xs.filter fun a => !([] : List α).any (key · == key a)) = xs :=
    List.filter_eq_self.2 fun _ _ => rfl
  rw [foldl_firsts, List.nil_append, hall]

/-- Each of them is the first element with its key. -/
theorem find?_of_mem_firsts {xs : List α} {a : α} (h : a ∈ firsts key xs) :
    xs.find? (fun b => key b == key a) = some a := by
  induction xs using firsts_induction key with
  | nil => cases h
  | cons b xs ih =>
    rw [firsts_cons] at h
    rcases List.mem_cons.1 h with rfl | h
    · exact List.find?_cons_of_pos (BEq.refl _)
    · have hne : key a ≠ key b := by simpa using (List.mem_filter.1 (mem_of_mem_firsts h)).2
      have hlike : (fun c => decide ((!(key c == key b)) = true ∧ (key c == key a) = true))
          = fun c => key c == key a := by
        funext c
        by_cases hc : key c = key a <;> simp [hc, hne]
      have hfound := ih h
      rw [List.find?_filter, hlike] at hfound
      rwa [List.find?_cons_of_neg (by simpa using hne.symm)]

/-- Every key of the list is one of theirs. -/
theorem exists_mem_firsts (key : α → β) {xs : List α} {a : α} (h : a ∈ xs) :
    ∃ b ∈ firsts key xs, key b = key a := by
  induction xs using firsts_induction key with
  | nil => cases h
  | cons b xs ih =>
    rw [firsts_cons]
    by_cases hkey : key a = key b
    · exact ⟨b, List.mem_cons_self, hkey.symm⟩
    · have ha : a ∈ xs := (List.mem_cons.1 h).resolve_left fun hab => hkey (hab ▸ rfl)
      obtain ⟨c, hc, hca⟩ := ih (List.mem_filter.2 ⟨ha, by simpa using hkey⟩)
      exact ⟨c, List.mem_cons_of_mem _ hc, hca⟩

theorem nodup_firsts (xs : List α) : ((firsts key xs).map key).Nodup := by
  induction xs using firsts_induction key with
  | nil => exact List.nodup_nil
  | cons a xs ih =>
    rw [firsts_cons, List.map_cons]
    refine List.nodup_cons.2 ⟨fun hk => ?_, ih⟩
    obtain ⟨b, hb, heq⟩ := List.mem_map.1 hk
    have hne := (List.mem_filter.1 (mem_of_mem_firsts hb)).2
    simp [heq] at hne

theorem firsts_of_nodup {xs : List α} (h : (xs.map key).Nodup) : firsts key xs = xs := by
  induction xs with
  | nil => rfl
  | cons a xs ih =>
    rw [List.map_cons, List.nodup_cons] at h
    rw [firsts_cons, List.filter_eq_self.2 fun b hb => ?_, ih h.2]
    have hne : key b ≠ key a := fun hba => h.1 (hba ▸ List.mem_map_of_mem hb)
    simpa using hne

/-- It is enough to look at the first occurrence of what elements are found for. -/
theorem firsts_filterMap_firsts {γ : Type} [BEq γ] [LawfulBEq γ] (us : List γ)
    (g : γ → Option α) :
    firsts key ((firsts id us).filterMap g) = firsts key (us.filterMap g) := by
  induction us using firsts_induction (id : γ → γ) generalizing g with
  | nil => rfl
  | cons u us ih =>
    have hdrop : ∀ g : γ → Option α, g u = none →
        (us.filter fun v => !(id v == id u)).filterMap g = us.filterMap g := fun g hg => by
      rw [List.filterMap_filter]
      congr 1
      funext v
      by_cases hv : v = u
      · simp [hv, hg]
      · simp [hv]
    rw [firsts_cons]
    cases hu : g u with
    | none => rw [List.filterMap_cons_none hu, List.filterMap_cons_none hu, ih, hdrop g hu]
    | some a =>
      rw [List.filterMap_cons_some hu, List.filterMap_cons_some hu, firsts_cons, firsts_cons,
        List.filter_filterMap, List.filter_filterMap, ih, hdrop _ (by simp [hu])]

end Firsts

/-! ## Names -/

/-- A text in which a character does not occur does not have it. -/
theorem Text.not_mem_of_not_occursIn {c : Char} {t : Text} (h : Text.occursIn [c] t = false) : c ∉ t :=
  Text.not_mem_of_indexOf? (by simpa [Text.occursIn] using h)

namespace Figure.Registry

/-- The registries that images can be registered in. -/
inductive Made : Registry → Prop where
  | empty : Made {}
  | register {r r' : Registry} {url filename : Text} {data : Bytes} (h : Made r)
    (hr : r.register url filename data = .ok r') : Made r'

theorem filename_of_mem_put {url : Text} {image : Image} {es : List (Text × Image)} {name : Text}
    (h : name ∈ (put url image es).map (·.2.filename)) :
    name = image.filename ∨ name ∈ es.map (·.2.filename) := by
  induction es with
  | nil => exact .inl (List.mem_singleton.1 h)
  | cons e es ih =>
    rw [put] at h
    split at h
    · rw [List.map_cons, List.mem_cons] at h
      exact h.imp_right (List.mem_cons_of_mem _)
    · rw [List.map_cons, List.mem_cons] at h
      rcases h with rfl | h
      · exact .inr List.mem_cons_self
      · exact (ih h).imp_right (List.mem_cons_of_mem _)

/-- Images are registered under plain names only. -/
theorem Made.plain {r : Registry} (h : r.Made) : ∀ name ∈ r.filenames, Path.isPlainName name = true := by
  induction h with
  | empty => exact List.forall_mem_nil _
  | @register r r' url filename data _ hr ih =>
    unfold Registry.register at hr
    split at hr
    · next hplain =>
      cases hr
      intro name hname
      rcases filename_of_mem_put hname with rfl | hname
      · exact hplain
      · exact ih name hname
    · cases hr

theorem mem_of_lookup {es : List (Text × Image)} {url : Text} {image : Image}
    (h : es.lookup url = some image) : (url, image) ∈ es := by
  induction es with
  | nil => cases h
  | cons e es ih =>
    rw [List.lookup_cons] at h
    split at h
    · next heq =>
      cases h
      rw [eq_of_beq heq]
      exact List.mem_cons_self
    · exact List.mem_cons_of_mem _ (ih h)

theorem filename_mem_of_find? {r : Registry} {url : Text} {image : Image}
    (h : r.find? url = some image) : image.filename ∈ r.filenames :=
  List.mem_map.2 ⟨(url, image), mem_of_lookup h, rfl⟩

/-- Where no two file names are the same, each belongs to one registration. -/
theorem eq_of_nodup_filenames {es : List (Text × Image)} (h : (es.map (·.2.filename)).Nodup)
    {e e' : Text × Image} (he : e ∈ es) (he' : e' ∈ es) (hname : e.2.filename = e'.2.filename) :
    e = e' := by
  induction es with
  | nil => cases he
  | cons a es ih =>
    obtain ⟨hfirst, hrest⟩ := List.nodup_cons.1 h
    rcases List.mem_cons.1 he with rfl | hmem <;> rcases List.mem_cons.1 he' with rfl | hmem'
    · rfl
    · exact absurd (List.mem_map.2 ⟨e', hmem', hname.symm⟩) hfirst
    · exact absurd (List.mem_map.2 ⟨e, hmem, hname⟩) hfirst
    · exact ih hrest hmem hmem'

theorem eq_of_filename_eq {r : Registry} (hr : r.filenames.Nodup) {url url' : Text} {image image' : Image}
    (h : r.find? url = some image) (h' : r.find? url' = some image')
    (hname : image.filename = image'.filename) : url = url' ∧ image = image' :=
  Prod.mk.inj (eq_of_nodup_filenames hr (mem_of_lookup h) (mem_of_lookup h') hname)

end Figure.Registry

/-! ## Packages -/

namespace Archive

open Figure (Registry Image)
open Latex.Rendering (converted convert_eq drawn_document exists_of_convert)

variable {o : PackagingOptions} {registry : Registry} {urls : List Text} {url : Text} {image : Image}

/-- The registered images behind URLs in the order of their first use, but for those whose file name
is that of one in front. -/
def firstFigures (registry : Registry) (urls : List Text) : List Image :=
  firsts (·.filename) (urls.filterMap registry.find?)

theorem distinctFigures_eq (images : List Image) :
    distinctFigures images = firsts (·.filename) images := (firsts_eq_foldl images).symm

theorem distinct_eq (ts : List Text) : distinct ts = firsts id ts := by
  have hcontains : ∀ (seen : List Text) (t : Text), seen.contains t = seen.any (id · == id t) :=
    fun seen t => by simp only [List.contains_eq_any_beq, id_eq, BEq.comm]
  simp only [distinct, hcontains]
  exact (firsts_eq_foldl ts).symm

theorem distinctFigures_usedFigures (registry : Registry) (urls : List Text) :
    distinctFigures (usedFigures registry urls) = firstFigures registry urls := by
  rw [distinctFigures_eq, usedFigures, distinct_eq, firsts_filterMap_firsts, firstFigures]

/-- Each of them has been used. -/
theorem exists_of_mem_firstFigures (h : image ∈ firstFigures registry urls) :
    ∃ url ∈ urls, registry.find? url = some image :=
  List.mem_filterMap.1 (mem_of_mem_firsts h)

/-- Each path that is found leads to one of them. -/
theorem mem_paths_iff (registry : Registry) (directory : Text) (urls : List Text) (path : Text) :
    path ∈ (firstFigures registry urls).map (fun i => directory ++ '/' :: i.filename) ↔
      ∃ url ∈ urls, registry.resolve directory url = some path := by
  constructor
  · intro h
    obtain ⟨i, hi, rfl⟩ := List.mem_map.1 h
    obtain ⟨url, hurl, hfind⟩ := exists_of_mem_firstFigures hi
    exact ⟨url, hurl, by rw [Registry.resolve, hfind]; rfl⟩
  · rintro ⟨url, hurl, hpath⟩
    obtain ⟨i, hfind, rfl⟩ := Option.map_eq_some_iff.1 hpath
    obtain ⟨j, hj, hname⟩ := exists_mem_firsts Image.filename
      (List.mem_filterMap.2 ⟨url, hurl, hfind⟩)
    exact List.mem_map.2 ⟨j, hj, by rw [hname]⟩

/-- If no two file names are the same, each URL that is used has its image among them. -/
theorem firstFigures_of_nodup (h : registry.filenames.Nodup) (urls : List Text) :
    firstFigures registry urls = (firsts id urls).filterMap registry.find? := by
  rw [firstFigures, ← firsts_filterMap_firsts]
  refine firsts_of_nodup ?_
  have hurls : (firsts id urls).Pairwise (· ≠ ·) := List.map_id (firsts id urls) ▸ nodup_firsts urls
  rw [List.Nodup, List.pairwise_map, List.pairwise_filterMap]
  exact hurls.imp fun hne i hi j hj hname => hne (Registry.eq_of_filename_eq h hi hj hname).1

/-- Then none of them hides another one. -/
theorem shadowedFigures_of_nodup (h : registry.filenames.Nodup) (urls : List Text) :
    shadowedFigures (usedFigures registry urls) = [] := by
  rw [shadowedFigures, distinctFigures_usedFigures]
  refine List.filter_eq_nil_iff.2 fun i hi => ?_
  obtain ⟨url, -, hfind⟩ := List.mem_filterMap.1 hi
  cases hk : (firstFigures registry urls).find? (·.filename == i.filename) with
  | none => simp
  | some k =>
    obtain ⟨url', -, hfind'⟩ := exists_of_mem_firstFigures (List.mem_of_find?_eq_some hk)
    have hname : k.filename = i.filename := by simpa using List.find?_some hk
    simp [(Registry.eq_of_filename_eq h hfind' hfind hname).2]

theorem entryName_eq_self {name : Text} (h : '\x00' ∉ name) : entryName name = name := by
  have hall : ∀ c ∈ name, decide (c ≠ '\x00') = true := fun c hc =>
    decide_eq_true fun heq => h (heq ▸ hc)
  rw [entryName, ← List.append_nil name, List.takeWhile_append_of_pos hall]
  rfl

/-- The entries of a package, where no name is cut. -/
def entriesOf (o : PackagingOptions) (registry : Registry) (c : Converted) : List Entry :=
  ⟨o.figures ++ ['/'], [], directoryAttributes, .stored⟩ ::
    (firstFigures registry c.asked).map
      (fun i => ⟨o.figures ++ '/' :: i.filename, i.data, fileAttributes, o.method⟩)
    ++ [⟨o.mainEntry, Text.toUtf8 c.latex, fileAttributes, o.method⟩]

theorem mem_entriesOf {c : Converted} {e : Entry} : e ∈ entriesOf o registry c ↔
    e = ⟨o.figures ++ ['/'], [], directoryAttributes, .stored⟩ ∨
      (∃ i ∈ firstFigures registry c.asked,
        e = ⟨o.figures ++ '/' :: i.filename, i.data, fileAttributes, o.method⟩) ∨
      e = ⟨o.mainEntry, Text.toUtf8 c.latex, fileAttributes, o.method⟩ := by
  simp [entriesOf, eq_comm]

/-- Options and images that were accepted, with names that an archive has room for and that are not
cut in it. -/
structure Named (o : PackagingOptions) (registry : Registry) (c : Converted) : Prop where
  accepted : o.check = .ok ()
  texts : ∃ main directory, o.mainFilename = .text main ∧ o.figuresDir = .text directory
  made : registry.Made
  fit : ∀ e ∈ entriesOf o registry c, '\x00' ∉ e.name ∧ (Text.toUtf8 e.name).length < 0x10000

section Names

variable {c : Converted}

/-- No name of a package is cut. -/
theorem package_eq (h : Named o registry c) :
    package o c.latex (usedFigures registry c.asked) = entriesOf o registry c := by
  have hname : ∀ e ∈ entriesOf o registry c, entryName e.name = e.name := fun e he =>
    entryName_eq_self (h.fit e he).1
  have hdirectory : entryName (o.figures ++ ['/']) = o.figures ++ ['/'] :=
    hname _ (mem_entriesOf.2 (.inl rfl))
  have hmain : entryName o.mainEntry = o.mainEntry := hname _ (mem_entriesOf.2 (.inr (.inr rfl)))
  have hfigures : ∀ i ∈ firstFigures registry c.asked,
      fileEntry o.method (o.figures ++ '/' :: i.filename) i.data
        = ⟨o.figures ++ '/' :: i.filename, i.data, fileAttributes, o.method⟩ := fun i hi => by
    have hpath := hname _ (mem_entriesOf.2 (.inr (.inl ⟨i, hi, rfl⟩)))
    rw [fileEntry, hpath]
  rw [package, directoryEntry, fileEntry, hdirectory, hmain, distinctFigures_usedFigures,
    List.map_congr_left hfigures, entriesOf]

theorem slash_not_mem_of_checkPlainName {field t : Text}
    (h : Options.checkPlainName field (.text t) = .ok ()) : '/' ∉ t := by
  cases hslash : Text.occursIn ['/'] t with
  | false => exact Text.not_mem_of_not_occursIn hslash
  | true =>
    simp only [Options.checkPlainName, Options.occursIn?, hslash, Bool.true_or, if_true] at h
    split at h <;> cases h

theorem slash_not_mem_mainEntry (h : Named o registry c) : '/' ∉ o.mainEntry := by
  obtain ⟨main, directory, hmain, hdirectory⟩ := h.texts
  have haccepted := h.accepted
  obtain ⟨⟨⟩, hcheck, -⟩ := Latex.Rendering.exists_of_bind haccepted
  rw [hmain] at hcheck
  have hslash := slash_not_mem_of_checkPlainName hcheck
  rw [PackagingOptions.mainEntry, hmain]
  simp [Value.spoken, hslash]

/-- Every entry has a name of its own. -/
theorem nodup_names (h : Named o registry c) :
    ((entriesOf o registry c).map (·.name)).Nodup := by
  have hslash := slash_not_mem_mainEntry h
  have hplain : ∀ i ∈ firstFigures registry c.asked, i.filename ≠ [] := fun i hi heq => by
    obtain ⟨url, -, hfind⟩ := exists_of_mem_firstFigures hi
    have hname := h.made.plain _ (Registry.filename_mem_of_find? hfind)
    rw [heq] at hname
    cases hname
  have hfigures : ((firstFigures registry c.asked).map
      fun i => o.figures ++ '/' :: i.filename).Nodup := by
    have hnames : ((firstFigures registry c.asked).map Image.filename).Nodup := nodup_firsts _
    rw [List.Nodup, List.pairwise_map] at hnames ⊢
    exact hnames.imp fun hne heq => hne (List.cons.inj (List.append_cancel_left heq)).2
  simp only [entriesOf, List.map_cons, List.map_append, List.map_map, List.map_nil,
    Function.comp_def, List.cons_append]
  refine List.nodup_cons.2 ⟨fun hmem => ?_, List.nodup_append.2 ⟨hfigures, by simp, ?_⟩⟩
  · rcases List.mem_append.1 hmem with hmem | hmem
    · obtain ⟨i, hi, heq⟩ := List.mem_map.1 hmem
      exact hplain i hi (List.cons.inj (List.append_cancel_left heq)).2
    · exact hslash (List.mem_singleton.1 hmem ▸ by simp)
  · intro name hname other hother heq
    obtain ⟨i, -, rfl⟩ := List.mem_map.1 hname
    exact hslash (List.mem_singleton.1 hother ▸ heq ▸ by simp)

/-- A package of stored entries can be read back. -/
theorem unzip?_entriesOf (h : Named o registry c) (hstored : o.method = .stored)
    (hroom : ∀ e ∈ entriesOf o registry c, e.data.length < 0x100000000) :
    unzip? (zip (entriesOf o registry c)) = some (entriesOf o registry c) := by
  refine unzip?_zip fun e he => ?_
  have hname := (h.fit e he).2
  have hdata := hroom e he
  have hdirectory : directoryAttributes < 0x100000000 := by decide
  have hfile : fileAttributes < 0x100000000 := by decide
  rcases mem_entriesOf.1 he with rfl | ⟨i, -, rfl⟩ | rfl
  · exact ⟨rfl, hname, hdata, hdirectory⟩
  · exact ⟨hstored, hname, hdata, hfile⟩
  · exact ⟨hstored, hname, hdata, hfile⟩

end Names

section Documents

variable {rendering : RenderingOptions} {frame : Option (Except Error Text)} {read : Reader}
  {markdown : Text}

/-- A conversion without an error is that of its job. -/
theorem convert_eq_job {resolve : Latex.Resolver}
    (hok : (rendering.convert frame resolve read markdown).error = none) :
    rendering.convert frame resolve read markdown
      = Job.convert ⟨rendering.settings, frame, resolve⟩ read markdown := by
  unfold RenderingOptions.convert at hok ⊢
  simp only at hok ⊢
  split at hok
  · cases hok
  · next hwidth => rw [if_neg hwidth]

/-- Its document has the figures of the URLs that it asks for. -/
theorem exists_drawn {resolve : Latex.Resolver}
    (hok : (rendering.convert frame resolve read markdown).error = none) :
    let c := rendering.convert frame resolve read markdown
    ∃ tokens preamble, read (Math.prepare (Text.normalizeNewlines markdown)).1 = .ok tokens ∧
      frame = preamble.map .ok ∧
      let d := converted rendering.settings resolve preamble markdown tokens
      d.1.latex = c.latex ∧ d.1.formatter.figures = c.asked.map fun url =>
        Latex.figure rendering.settings.imageWidth url (resolve url) := by
  intro c
  have hc : c = Job.convert ⟨rendering.settings, frame, resolve⟩ read markdown := convert_eq_job hok
  have hjob : (Job.convert ⟨rendering.settings, frame, resolve⟩ read markdown).error = none := hc ▸ hok
  obtain ⟨tokens, preamble, hread, hframe⟩ := exists_of_convert hjob
  obtain rfl : frame = preamble.map .ok := hframe
  obtain ⟨hlatex, hasked, -⟩ := convert_eq rendering.settings resolve preamble hread
  refine ⟨tokens, preamble, hread, rfl, ?_, ?_⟩
  · rw [hc, hlatex]
  · rw [hc, hasked]
    exact drawn_document _ _ _ _ _ _

/-- A conversion without an error is packaged. -/
theorem packageMarkdown_eq (o : PackagingOptions) (registry : Registry) :
    let c := rendering.convert frame (registry.resolve o.figures) read markdown
    let p := Packaged.ofLatex o c.latex (usedFigures registry c.asked)
    c.error = none → packageMarkdown o rendering frame read registry markdown
      = (.ok p, (c.announceUnresolved .imageLeftOut).notices ++ p.notices) := by
  intro c p hok
  have hresult : (c.announceUnresolved .imageLeftOut).result = .ok c.latex := by
    simp only [Converted.result, Converted.announceUnresolved, hok]
  unfold packageMarkdown
  simp only
  rw [hresult]
  rfl

/-- Only what is packaged can share a file name. -/
theorem not_shared_of_convert (name : Text) : Notice.filenameShared name ∉
    ((rendering.convert frame (registry.resolve o.figures) read markdown).announceUnresolved
      .imageLeftOut).notices := by
  have hreports : FromConversion
      (rendering.convert frame (registry.resolve o.figures) read markdown).notices := by
    unfold RenderingOptions.convert
    simp only
    split <;> exact reports_convert _ read markdown
  intro hmem
  obtain ⟨n, hn, hmem⟩ := List.mem_flatMap.1 hmem
  split at hmem
  · simp at hmem
  · have hname := hreports n hn
    rw [← List.mem_singleton.1 hmem] at hname
    cases hname

/-- What a package of a converted document holds: the directory of figures, the images that are used
first under their file names, and the document. -/
structure Matches (o : PackagingOptions) (registry : Registry) (c : Converted) (p : Packaged) :
    Prop where
  entries : p.entries = entriesOf o registry c
  names : (p.entries.map (·.name)).Nodup
  /-- The paths of the figures are those that the document is given. -/
  paths : ∀ path, path ∈ (firstFigures registry c.asked).map (fun i => o.figures ++ '/' :: i.filename) ↔
    ∃ url ∈ c.asked, registry.resolve o.figures url = some path
  first : ∀ i ∈ firstFigures registry c.asked,
    (c.asked.filterMap registry.find?).find? (fun j => j.filename == i.filename) = some i
  /-- Every image that is used is among them, if the file names differ. -/
  own : registry.filenames.Nodup →
    firstFigures registry c.asked = (firsts id c.asked).filterMap registry.find?
  data : p.data = zip p.entries
  readable : o.method = .stored → (∀ e ∈ p.entries, e.data.length < 0x100000000) →
    unzip? p.data = some p.entries

theorem matches_ofLatex {c : Converted} (h : Named o registry c) :
    Matches o registry c (.ofLatex o c.latex (usedFigures registry c.asked)) := by
  have hentries := package_eq h
  refine ⟨hentries, ?_, mem_paths_iff _ _ _, fun i hi => find?_of_mem_firsts hi,
    fun hnames => firstFigures_of_nodup hnames _, rfl, fun hstored hroom => ?_⟩
  · simp only [Packaged.ofLatex, hentries]
    exact nodup_names h
  · simp only [Packaged.ofLatex, hentries] at hroom ⊢
    exact unzip?_entriesOf h hstored hroom

/-- If a document is converted without an error, it is packaged with the images that it asks for, one
entry for each of their file names, and with the LaTeX of this conversion. The figures in it are those
of the URLs that it asks for. Where no two images are registered under one name, none is left out. -/
theorem package_matches_document
    (h : Named o registry (rendering.convert frame (registry.resolve o.figures) read markdown))
    (hok : (rendering.convert frame (registry.resolve o.figures) read markdown).error = none) :
    let c := rendering.convert frame (registry.resolve o.figures) read markdown
    ∃ p ns, packageMarkdown o rendering frame read registry markdown = (.ok p, ns) ∧
      Matches o registry c p ∧
      (registry.filenames.Nodup → ∀ name, Notice.filenameShared name ∉ ns) ∧
      ∃ tokens preamble, read (Math.prepare (Text.normalizeNewlines markdown)).1 = .ok tokens ∧
        frame = preamble.map .ok ∧
        let d := converted rendering.settings (registry.resolve o.figures) preamble markdown tokens
        d.1.latex = c.latex ∧ d.1.formatter.figures = c.asked.map fun url =>
          Latex.figure rendering.settings.imageWidth url (registry.resolve o.figures url) := by
  intro c
  refine ⟨_, _, packageMarkdown_eq o registry hok, matches_ofLatex h, fun hnames name hmem => ?_, ?_⟩
  · rcases List.mem_append.1 hmem with hmem | hmem
    · exact not_shared_of_convert name hmem
    · simp [Packaged.ofLatex, packageNotices, shadowedFigures_of_nodup hnames] at hmem
  · exact exists_drawn hok

end Documents

/-- Two URLs in a document that has one of them twice, and an image that is not registered. -/
theorem package_matches_document_repeated :
    let registry : Registry :=
      ⟨[("1".toList, ⟨"a.png".toList, [1]⟩), ("2".toList, ⟨"b.png".toList, [2]⟩)]⟩
    let read : Reader := fun _ => .ok [.container .paragraph [.image "2".toList none none,
      .image "9".toList none none, .image "1".toList none none, .image "2".toList none none]]
    let markdown := "![](2)![](9)![](1)![](2)".toList
    let o : PackagingOptions := {}
    let c := ({} : RenderingOptions).convert none (registry.resolve o.figures) read markdown
    Named o registry c ∧ c.error = none ∧ registry.filenames.Nodup ∧ o.method = .stored ∧
      ∃ p ns, packageMarkdown o {} none read registry markdown = (.ok p, ns) ∧
        Matches o registry c p ∧
        p.entries.map (·.name) = ["figures/".toList, "figures/b.png".toList, "figures/a.png".toList,
          "main.tex".toList] ∧
        p.entries.map (·.data) = [[], [2], [1], Text.toUtf8 c.latex] ∧
        unzip? p.data = some p.entries ∧ ∀ name, Notice.filenameShared name ∉ ns := by
  intro registry read markdown o c
  have hfirst : Registry.register {} "1".toList "a.png".toList [1]
      = .ok ⟨[("1".toList, ⟨"a.png".toList, [1]⟩)]⟩ := rfl
  have hsecond : Registry.register ⟨[("1".toList, ⟨"a.png".toList, [1]⟩)]⟩ "2".toList "b.png".toList
      [2] = .ok registry := rfl
  have hnamed : Named o registry c :=
    ⟨rfl, ⟨_, _, rfl, rfl⟩, .register (.register .empty hfirst) hsecond, by decide +kernel⟩
  have hok : c.error = none := by decide +kernel
  have hnames : registry.filenames.Nodup := by decide
  obtain ⟨p, ns, hp, hmatches, hquiet, -⟩ := package_matches_document hnamed hok
  have hentries : p.entries = entriesOf o registry c := hmatches.entries
  have hroom : ∀ e ∈ entriesOf o registry c, e.data.length < 0x100000000 := by decide +kernel
  refine ⟨hnamed, hok, hnames, rfl, p, ns, hp, hmatches, ?_, ?_,
    hmatches.readable rfl (hentries ▸ hroom), hquiet hnames⟩
  · rw [hentries]
    decide +kernel
  · rw [hentries]
    decide +kernel

/-- The name of an entry is cut at a character with code point zero. So two images can have entries of
one name, and a path none. -/
theorem package_names_cut :
    let registry : Registry :=
      ⟨[("1".toList, ⟨"a\x00b".toList, [1]⟩), ("2".toList, ⟨"a\x00c".toList, [2]⟩)]⟩
    let read : Reader := fun _ => .ok [.container .paragraph [.image "1".toList none none,
      .image "2".toList none none]]
    let markdown := "![](1)![](2)".toList
    let o : PackagingOptions := {}
    let c := ({} : RenderingOptions).convert none (registry.resolve o.figures) read markdown
    registry.Made ∧ registry.filenames.Nodup ∧ c.error = none ∧
      ∃ p, (packageMarkdown o {} none read registry markdown).1 = .ok p ∧
        ¬ (p.entries.map (·.name)).Nodup ∧
        "1".toList ∈ c.asked ∧ ∃ path, registry.resolve o.figures "1".toList = some path ∧
          path ∉ p.entries.map (·.name) := by
  intro registry read markdown o c
  have hfirst : Registry.register {} "1".toList "a\x00b".toList [1]
      = .ok ⟨[("1".toList, ⟨"a\x00b".toList, [1]⟩)]⟩ := rfl
  have hsecond : Registry.register ⟨[("1".toList, ⟨"a\x00b".toList, [1]⟩)]⟩ "2".toList
      "a\x00c".toList [2] = .ok registry := rfl
  have hok : c.error = none := by decide +kernel
  refine ⟨.register (.register .empty hfirst) hsecond, by decide, hok, _,
    congrArg Prod.fst (packageMarkdown_eq o registry hok), ?_, ?_, _, rfl, ?_⟩
  · decide +kernel
  · decide +kernel
  · decide +kernel

end Archive
end Texdown
