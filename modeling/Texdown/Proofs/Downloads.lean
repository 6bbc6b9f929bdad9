import Texdown.CommandLine.Session
import Texdown.Proofs.FigureNames
import Texdown.Proofs.Packages

/-!
# Registries that grow

Figures are registered one after another, each under a name that is free by then. A registry only grows
by that: what was in it stays as it is, what is new comes behind it, and no two figures share a name.

Results:
* `Grown.exists_add`: one more figure finds a name, which is not refused.
* `downloadAll_underway`, `exists_collect`: so do all figures of a list, from the web or from files.
* `names_apart`: what a download and what a session registers.
-/
namespace Texdown

open Figure (Registry Image)

/-! ## Registering -/

theorem filterMap_cons_toList {α β : Type} (f : α → Option β) (a : α) (as : List α) :
    (a :: as).filterMap f = (f a).toList ++ as.filterMap f := by
  rw [List.filterMap_cons]
  cases f a <;> rfl

namespace Figure.Registry

theorem put_of_not_mem {url : Text} {image : Image} {es : List (Text × Image)} (h : url ∉ es.map (·.1)) :
    put url image es = es ++ [(url, image)] := by
  induction es with
  | nil => rfl
  | cons e es ih =>
    rw [List.map_cons, List.mem_cons, not_or] at h
    rw [put, if_neg (Ne.symm h.1), ih h.2, List.cons_append]

theorem contains_iff (r : Registry) (url : Text) : r.contains url = true ↔ url ∈ r.urls := by
  rw [contains, find?, urls]
  induction r.entries with
  | nil => simp
  | cons e es ih =>
    rw [List.lookup_cons, List.map_cons, List.mem_cons]
    by_cases h : url = e.1
    · simp [h]
    · have hne : (url == e.1) = false := by simpa using h
      simp [hne, h, ih]

end Figure.Registry

/-- A registry that grew out of another one by images: the old figures are unchanged in front, and the
new ones come behind them in order, under plain names. All names are different. -/
structure Grown (old : Registry) (images : List (Text × Bytes)) (new : Registry) : Prop where
  entries : ∃ added, new.entries = old.entries ++ added ∧ added.map (fun e => (e.1, e.2.data)) = images ∧
    ∀ e ∈ added, Path.isPlainName e.2.filename = true
  apart : new.filenames.Nodup

namespace Grown

variable {old new : Registry} {images : List (Text × Bytes)}

theorem refl (h : old.filenames.Nodup) : Grown old [] old := ⟨⟨[], by simp⟩, h⟩

theorem urls_eq (h : Grown old images new) : new.urls = old.urls ++ images.map (·.1) := by
  obtain ⟨added, hentries, rfl, -⟩ := h.entries
  simp [Registry.urls, hentries]

/-- One more figure finds a name that is not refused. -/
theorem exists_add (h : Grown old images new) {url : Text} (hnew : url ∉ new.urls) {u : Web.Url}
    (hread : Web.Url.read url = .ok u) (data : Bytes) :
    ∃ name new', Figure.nameFor url (some data) new.filenames = .ok name ∧
      new.register url name data = .ok new' ∧ Grown old (images ++ [(url, data)]) new' := by
  obtain ⟨name, hname, hfirst, hstorable⟩ := Figure.exists_nameFor hread (some data) new.filenames
  have hplain := hstorable.isPlainName
  obtain ⟨added, hentries, himages, hall⟩ := h.entries
  refine ⟨name, ⟨Registry.put url ⟨name, data⟩ new.entries⟩, hname, if_pos hplain, ⟨?_, ?_⟩⟩
  · refine ⟨added ++ [(url, ⟨name, data⟩)], ?_, by simp [himages], ?_⟩
    · rw [Registry.put_of_not_mem hnew, hentries, List.append_assoc]
    · simpa [or_imp, forall_and, hplain] using hall
  · have hnames : Registry.filenames ⟨Registry.put url ⟨name, data⟩ new.entries⟩
        = new.filenames ++ [name] := by
      simp [Registry.filenames, Registry.put_of_not_mem hnew]
    rw [hnames]
    exact h.apart.append (List.nodup_singleton name) (by simpa using hfirst.free)

end Grown

/-! ## Downloads -/

namespace Web

/-- A fetch gives data or a failure that a download goes on behind. -/
def Settles (f : Fetched Bytes) : Prop :=
  (∃ data, f.result = .ok data) ∨ ∃ message, f.result = .error (.networkSecurity message)

/-- What a download registers for a URL: what was fetched, if it is remote and was not registered. -/
def downloaded? (fetchOne : Text → Fetched Bytes) (registry : Registry) (url : Text) :
    Option (Text × Bytes) :=
  if registry.contains url = false ∧ isRemote url = .ok true then
    (fetchOne url).result.toOption.map (url, ·)
  else none

theorem fst_of_downloaded? {fetchOne : Text → Fetched Bytes} {registry : Registry} {url : Text}
    {image : Text × Bytes} (h : downloaded? fetchOne registry url = some image) : image.1 = url := by
  unfold downloaded? at h
  split at h
  · obtain ⟨data, -, rfl⟩ := Option.map_eq_some_iff.1 h
    rfl
  · cases h

/-- A download behind some images: nothing failed, and the URLs that were added are those of the images. -/
structure Underway (registry : Registry) (images : List (Text × Bytes)) (d : Downloaded) : Prop where
  grown : Grown registry images d.registry
  going : d.error = none
  added : d.added = images.map (·.1)

variable {registry : Registry} {images : List (Text × Bytes)} {fetchOne : Text → Fetched Bytes}

theorem Underway.note {d : Downloaded} (h : Underway registry images d) (ns : List Notice) :
    Underway registry images (d.note ns) := ⟨h.grown, h.going, h.added⟩

/-- An image that was fetched is registered. -/
theorem Underway.add {d : Downloaded} (h : Underway registry images d) {url : Text}
    (hnew : url ∉ d.registry.urls) {u : Url} (hread : Url.read url = .ok u) (data : Bytes) :
    Underway registry (images ++ [(url, data)]) (d.add url data) := by
  obtain ⟨name, new, hname, hregister, hgrown⟩ := h.grown.exists_add hnew hread data
  simp only [Downloaded.add, hname, hregister]
  exact ⟨hgrown, h.going, by simp [h.added]⟩

theorem downloadOne_known {d : Downloaded} {url : Text} (h : d.registry.contains url = true) :
    Id.run (downloadOne (m := Id) fetchOne d url) = d := by
  rw [downloadOne, h, Bool.or_true]
  rfl

theorem downloadOne_local {d : Downloaded} (hgoing : d.error = none) {url : Text}
    (h : d.registry.contains url = false) (hremote : isRemote url = .ok false) :
    Id.run (downloadOne (m := Id) fetchOne d url) = d.note [.imageNotRemote url] := by
  rw [downloadOne, h, hgoing, hremote]
  rfl

theorem downloadOne_remote {d : Downloaded} (hgoing : d.error = none) {url : Text}
    (h : d.registry.contains url = false) (hremote : isRemote url = .ok true) :
    Id.run (downloadOne (m := Id) fetchOne d url) =
      match (fetchOne url).result with
      | .ok data => (d.note (fetchOne url).notices).add url data
      | .error (.networkSecurity message) =>
        (d.note (fetchOne url).notices).note [.downloadFailed url message]
      | .error e => (d.note (fetchOne url).notices).fail e := by
  rw [downloadOne, h, hgoing, hremote]
  simp only [Option.isSome_none, Bool.or_self, Bool.false_eq_true, if_false, Id.run, bind, pure]
  rfl

/-- A URL that did not come up yet adds what is downloaded for it. -/
theorem downloadOne_underway (hfetch : ∀ url, Settles (fetchOne url)) {d : Downloaded}
    (h : Underway registry images d) {url : Text} (hnew : url ∉ images.map (·.1)) {u : Url}
    (hread : Url.read url = .ok u) :
    Underway registry (images ++ (downloaded? fetchOne registry url).toList)
      (Id.run (downloadOne (m := Id) fetchOne d url)) := by
  have hurls : url ∈ d.registry.urls ↔ url ∈ registry.urls := by
    rw [h.grown.urls_eq, List.mem_append, or_iff_left hnew]
  have hcontains : d.registry.contains url = registry.contains url := by
    rw [Bool.eq_iff_iff, Registry.contains_iff, Registry.contains_iff, hurls]
  cases hknown : registry.contains url with
  | true =>
    rw [downloadOne_known (hcontains.trans hknown)]
    simpa [downloaded?, hknown] using h
  | false =>
    have hunknown := hcontains.trans hknown
    obtain ⟨remote, hremote⟩ : ∃ b, isRemote url = .ok b := ⟨u.isRemote, by rw [isRemote, hread]; rfl⟩
    cases remote with
    | false =>
      rw [downloadOne_local h.going hunknown hremote]
      simpa [downloaded?, hremote] using h.note _
    | true =>
      rw [downloadOne_remote h.going hunknown hremote]
      simp only [downloaded?, hknown, hremote, and_self, if_true]
      rcases hfetch url with ⟨data, hdata⟩ | ⟨message, hfails⟩
      · have hnot : url ∉ (d.note (fetchOne url).notices).registry.urls := fun hmem =>
          Bool.eq_false_iff.1 hunknown ((Registry.contains_iff _ _).2 hmem)
        rw [hdata]
        exact (h.note _).add hnot hread data
      · rw [hfails]
        simpa [Except.toOption] using (h.note _).note _

/-- URLs that did not come up yet add what is downloaded for them, in order. -/
theorem downloadAll_underway (hfetch : ∀ url, Settles (fetchOne url)) {urls : List Text}
    (hurls : urls.Nodup) (hread : ∀ url ∈ urls, ∃ u, Url.read url = .ok u) {d : Downloaded}
    (h : Underway registry images d) (hnew : ∀ url ∈ urls, url ∉ images.map (·.1)) :
    Underway registry (images ++ urls.filterMap (downloaded? fetchOne registry))
      (Id.run (downloadAll (m := Id) fetchOne d urls)) := by
  -- A URL only ever adds an image of its own, so the later ones are as new as they were.
  induction urls generalizing images d with
  | nil => simpa [downloadAll] using h
  | cons url urls ih =>
    rw [List.nodup_cons] at hurls
    obtain ⟨u, hu⟩ := hread url List.mem_cons_self
    have hone := downloadOne_underway hfetch h (hnew url List.mem_cons_self) hu
    have hfresh : ∀ other ∈ urls,
        other ∉ (images ++ (downloaded? fetchOne registry url).toList).map (·.1) := by
      intro other hother hmem
      rw [List.map_append, List.mem_append] at hmem
      rcases hmem with hmem | hmem
      · exact hnew other (List.mem_cons_of_mem _ hother) hmem
      · obtain ⟨image, himage, rfl⟩ := List.mem_map.1 hmem
        rw [fst_of_downloaded? (Option.mem_toList.1 himage)] at hother
        exact hurls.1 hother
    have hall := ih hurls.2 (fun other hother => hread other (List.mem_cons_of_mem _ hother)) hone hfresh
    rw [List.append_assoc] at hall
    rw [filterMap_cons_toList]
    exact hall

/-- Nothing changes behind the last image but what is reported. -/
theorem downloadWith_underway {urls : List Text}
    (h : Underway registry images
      (Id.run (downloadAll (m := Id) fetchOne { registry := registry } (distinct urls)))) :
    Underway registry images (Id.run (downloadWith (m := Id) fetchOne registry urls)) := by
  have hgoing := h.going
  simp only [downloadWith, Id.run, bind, pure] at hgoing h ⊢
  rw [hgoing]
  exact h.note _

end Web

/-! ## Files -/

namespace CommandLine

/-- What a session registers for an image: what stands at its path, if it is within the limit. -/
def collected? (limit : Value) (image : Text × Option Bytes) : Option (Text × Bytes) :=
  (image.2.filter fun data => !limit.isExceededBy data.length).map (image.1, ·)

theorem fst_of_collected? {limit : Value} {file : Text × Option Bytes} {image : Text × Bytes}
    (h : collected? limit file = some image) : image.1 = file.1 := by
  obtain ⟨data, -, rfl⟩ := Option.map_eq_some_iff.1 h
  rfl

/-- An image whose URL did not come up yet adds what is collected for it. -/
theorem Collected.exists_add {old : Registry} {images : List (Text × Bytes)} (limit : Value)
    {c : Collected} (h : Grown old images c.registry) {file : Text × Option Bytes}
    (hnew : file.1 ∉ c.registry.urls) {u : Web.Url} (hread : Web.Url.read file.1 = .ok u) :
    ∃ c', c.add limit file.1 file.2 = .ok c' ∧
      Grown old (images ++ (collected? limit file).toList) c'.registry := by
  obtain ⟨url, data⟩ := file
  cases data with
  | none =>
    have hremote : Web.isRemote url = .ok u.isRemote := by rw [Web.isRemote, hread]; rfl
    simp only [Collected.add, hremote, bind, Except.bind, collected?, Option.filter_none,
      Option.map_none, Option.toList_none, List.append_nil]
    split
    · exact ⟨c, rfl, h⟩
    · exact ⟨_, rfl, h⟩
  | some data =>
    simp only [Collected.add, collected?, Option.filter_some]
    split
    · rename_i hlarge
      exact ⟨_, rfl, by simpa [hlarge, Collected.note] using h⟩
    · rename_i hwithin
      obtain ⟨name, new, hname, hregister, hgrown⟩ := h.exists_add hnew hread data
      refine ⟨⟨new, c.notices ++ [.imageRegistered url name data.length]⟩, ?_,
        by simpa [hwithin] using hgrown⟩
      simp only [hname, hregister, bind, Except.bind]
      rfl

/-- Images whose URLs did not come up yet add what is collected for them, in order. -/
theorem exists_collect {old : Registry} {images : List (Text × Bytes)} (limit : Value)
    {files : List (Text × Option Bytes)} (hfiles : (files.map (·.1)).Nodup)
    (hread : ∀ file ∈ files, ∃ u, Web.Url.read file.1 = .ok u) {c : Collected}
    (h : Grown old images c.registry) (hnew : ∀ file ∈ files, file.1 ∉ c.registry.urls) :
    ∃ c', collect limit c files = .ok c' ∧
      Grown old (images ++ files.filterMap (collected? limit)) c'.registry := by
  induction files generalizing images c with
  | nil => exact ⟨c, rfl, by simpa using h⟩
  | cons file files ih =>
    rw [List.map_cons, List.nodup_cons] at hfiles
    obtain ⟨u, hu⟩ := hread file List.mem_cons_self
    obtain ⟨c1, hadd, hone⟩ := Collected.exists_add limit h (hnew file List.mem_cons_self) hu
    have hfresh : ∀ other ∈ files, other.1 ∉ c1.registry.urls := by
      intro other hother hmem
      rw [hone.urls_eq, List.map_append, ← List.append_assoc, ← h.urls_eq, List.mem_append] at hmem
      rcases hmem with hmem | hmem
      · exact hnew other (List.mem_cons_of_mem _ hother) hmem
      · obtain ⟨image, himage, heq⟩ := List.mem_map.1 hmem
        rw [fst_of_collected? (Option.mem_toList.1 himage)] at heq
        exact hfiles.1 (heq ▸ List.mem_map_of_mem hother)
    obtain ⟨c', hrest, hall⟩ :=
      ih hfiles.2 (fun other hother => hread other (List.mem_cons_of_mem _ hother)) hone hfresh
    refine ⟨c', ?_, ?_⟩
    · rw [collect, hadd]
      exact hrest
    · rw [List.append_assoc] at hall
      rw [filterMap_cons_toList]
      exact hall

end CommandLine

/-! ## Both -/

theorem nodup_distinct (ts : List Text) : (distinct ts).Nodup := by
  have h : ((firsts id ts).map id).Nodup := nodup_firsts ts
  rw [Archive.distinct_eq]
  simpa using h

/-- A download into a registry whose names are different adds what was fetched for the different remote
URLs without a figure, and a session adds what it finds at the paths of images within the limit. No name is
refused, and all names stay different. -/
theorem names_apart {fetchOne : Text → Web.Fetched Bytes} (hfetch : ∀ url, Web.Settles (fetchOne url))
    {registry : Registry} (hnames : registry.filenames.Nodup) {urls : List Text}
    (hread : ∀ url ∈ urls, ∃ u, Web.Url.read url = .ok u) (limit : Value)
    (stored : Text → Option Bytes) :
    (let d := Id.run (Web.downloadWith (m := Id) fetchOne registry urls)
      let images := (distinct urls).filterMap (Web.downloaded? fetchOne registry)
      d.error = none ∧ d.added = images.map (·.1) ∧ Grown registry images d.registry) ∧
    ∃ c, CommandLine.collect limit {} ((distinct urls).map fun url => (url, stored url)) = .ok c ∧
      Grown {} ((distinct urls).filterMap fun url => CommandLine.collected? limit (url, stored url))
        c.registry := by
  have hread' : ∀ url ∈ distinct urls, ∃ u, Web.Url.read url = .ok u := fun url hurl =>
    hread url ((Latex.Rendering.mem_distinct _ _).1 hurl)
  constructor
  · obtain ⟨hgrown, hgoing, hadded⟩ := Web.downloadWith_underway (Web.downloadAll_underway hfetch
      (nodup_distinct urls) hread' (d := { registry := registry }) ⟨.refl hnames, rfl, rfl⟩ (by simp))
    exact ⟨hgoing, hadded, hgrown⟩
  · have hfiles : ((distinct urls).map fun url => (url, stored url)).map (·.1) = distinct urls := by
      rw [List.map_map]
      exact List.map_id _
    obtain ⟨c, hc, hgrown⟩ := CommandLine.exists_collect limit (hfiles ▸ nodup_distinct urls)
      (by simpa using hread') (c := {}) (.refl List.nodup_nil) (by simp [Registry.urls])
    refine ⟨c, hc, ?_⟩
    simpa [List.filterMap_map] using hgrown

/-- Two plots of one name, one of which cannot be fetched, come beside a third one that was there. -/
theorem plots_apart :
    let d := Id.run (Web.downloadWith (m := Id)
      (fun url =>
        ⟨if url = "https://a.b/plot.png".toList then .ok [7] else .error (.networkSecurity []), [], []⟩)
      ⟨[("plot.png".toList, ⟨"plot.png".toList, [1]⟩)]⟩
      ["https://c.d/plot.png".toList, "plot.png".toList, "https://a.b/plot.png".toList])
    d.added = ["https://a.b/plot.png".toList] ∧ d.registry.filenames.Nodup := by
  have hread : ∀ url ∈ ["https://c.d/plot.png".toList, "plot.png".toList, "https://a.b/plot.png".toList],
      ∃ u, Web.Url.read url = .ok u := by
    simp only [List.forall_mem_cons]
    exact ⟨⟨_, rfl⟩, ⟨_, rfl⟩, ⟨_, rfl⟩, nofun⟩
  have hfetch : ∀ url : Text, Web.Settles ⟨if url = "https://a.b/plot.png".toList then .ok [7] else
      .error (.networkSecurity []), [], []⟩ := by
    intro url
    by_cases h : url = "https://a.b/plot.png".toList
    · exact .inl ⟨[7], if_pos h⟩
    · exact .inr ⟨[], if_neg h⟩
  have hnames : (Registry.filenames ⟨[("plot.png".toList, ⟨"plot.png".toList, [1]⟩)]⟩).Nodup :=
    List.nodup_singleton _
  have h := (names_apart hfetch hnames hread (.integer 10) fun _ => none).1
  refine ⟨h.2.1.trans ?_, h.2.2.apart⟩
  decide +kernel

end Texdown
