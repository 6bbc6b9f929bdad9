import Texdown.Proofs.Faithful
import Texdown.Proofs.Places
import Texdown.Saving

/-!
# Deliveries that fail

A document that cannot be read leaves the files alone, and so does a path that cannot be opened. Behind
that, the only thing that can go wrong is the preamble: then the file at the path is empty already. A byte
stream gets nothing unless all goes well.

Results:
* `write_again`: a file that was written can be written once more.
* `Job.convert_of_check`: a document that can be read is converted unless its preamble is missing.
* `delivery_keeps_files`: what a failed delivery leaves behind.
-/
namespace Texdown

/-! ## Writing twice -/

namespace Files

variable {f f' : Files} {base : Place} {path : Text}

theorem put_put (f : Files) (place : Place) (a b : FileEntry) :
    (f.put place a).put place b = f.put place b := by
  have h : ∀ es, insert place b (insert place a es) = insert place b es := fun es => by
    induction es with
    | nil => simp [insert]
    | cons e es ih =>
      by_cases he : e.1 = place
      · simp [insert, he]
      · simp [insert, he, ih]
  exact congrArg Files.mk (h f.entries)

/-- A file that was written can be written once more. -/
theorem write_again {old : Bytes} (h : f.write base path old = .ok f') :
    ∃ place, f.locate base path = .ok place ∧ f' = f.put place (.file old) ∧
      ∀ data, f'.write base path data = .ok (f.put place (.file data)) := by
  obtain ⟨place, hplace, hparent, hfile, rfl⟩ := write_eq_ok_iff.1 h
  have hspares : Spares (fun _ => True) f (f.put place (.file old)) := spares_put hfile fun _ => trivial
  refine ⟨place, hplace, rfl, fun data => write_eq_ok_iff.2 ⟨place, hspares.locate hplace,
    hspares.directories _ hparent, ?_, ?_⟩⟩
  · rw [find?_put_self hfile]
    nofun
  · rw [put_put]

end Files

/-! ## Conversions that fail -/

/-- Whether an error is one of the conversion itself, and not of what it was given. -/
def Error.isOwn : Error → Bool
  | .conversion _ | .validation .. | .invalidOptions .. | .file .. | .fileNotFound .. | .fileAccess ..
  | .parsing .. | .rendering .. | .outputWrite .. | .malformedStream _ | .inconsistentTable ..
  | .compilation .. | .security _ | .networkSecurity _ | .dependency .. => true
  | _ => false

theorem exists_tokens_of_check {read : Reader} {markdown : Text} (h : read.check markdown = .ok ()) :
    ∃ tokens, read.tokens (Math.prepare (Text.normalizeNewlines markdown)).1 = .ok tokens := by
  unfold Reader.check at h
  cases htokens : read.tokens (Math.prepare (Text.normalizeNewlines markdown)).1 with
  | error e => rw [htokens] at h; cases h
  | ok tokens => exact ⟨tokens, rfl⟩

/-- A document that can be read is converted, unless its preamble could not be loaded. -/
theorem Job.convert_of_check {read : Reader} {markdown : Text} (h : read.check markdown = .ok ())
    (settings : Latex.Settings) (frame : Option (Except Error Text)) (resolve : Latex.Resolver) :
    let c := Job.convert ⟨settings, frame, resolve⟩ read markdown
    c.error = none ∨ ∃ e, frame = some (.error e) ∧ c.error = some e ∧ c.latex = [] := by
  obtain ⟨tokens, htokens⟩ := exists_tokens_of_check h
  have hread : Job.convert ⟨settings, frame, resolve⟩ read markdown
      = Job.convert ⟨settings, frame, resolve⟩ (fun _ => .ok tokens) markdown := by
    simp only [Job.convert, Reader.events, htokens]
    rfl
  rw [hread]
  have hcompletes : ∀ preamble : Option Text,
      (Job.convert ⟨settings, preamble.map .ok, resolve⟩ (fun _ => .ok tokens) markdown).error = none :=
    fun preamble => by
      obtain ⟨r, hruns⟩ := Latex.Rendering.exists_runs_streamOf (Text.normalizeNewlines markdown) tokens
        settings resolve preamble
      exact Latex.Rendering.convert_error settings preamble resolve markdown tokens hruns.run_eq
  cases frame with
  | none => exact .inl (hcompletes none)
  | some loaded =>
    cases loaded with
    | ok preamble => exact .inl (hcompletes (some preamble))
    | error e => exact .inr ⟨e, rfl, rfl, rfl⟩

namespace RenderingOptions

variable {o : RenderingOptions} {f : Files} {base : Place} {e : Error}

/-- A preamble that could not be loaded was to come from a file, unless the error is none of the
conversion. -/
theorem preambleSource_of_frameIn (h : o.frameIn f base = some (.error e)) (he : e.isOwn = true) :
    ∃ file, o.preambleSource = some (.file file) ∧ e = .fileNotFoundAt (Path.plain file) := by
  unfold frameIn frame at h
  split at h
  · cases h
  · cases h
  · rename_i file hsource
    refine ⟨file, hsource, ?_⟩
    have hfile : preambleOfFile file (f.read base file) = .error e := Option.some.inj h
    unfold preambleOfFile at hfile
    split at hfile
    · exact (Except.error.inj hfile).symm
    · split at hfile
      · cases hfile
      · cases hfile
        cases he
  · cases h
    cases he

/-- If a document that can be read fails with an error of the conversion, its preamble could not be
loaded. -/
theorem convert_of_check {read : Reader} {markdown : Text} (h : read.check markdown = .ok ())
    {frame : Option (Except Error Text)} {resolve : Latex.Resolver} (he : e.isOwn = true)
    (hc : (o.convert frame resolve read markdown).error = some e) :
    frame = some (.error e) ∧ (o.convert frame resolve read markdown).latex = [] := by
  unfold convert at hc ⊢
  simp only at hc ⊢
  split at hc
  · cases hc
    cases he
  · rename_i hindent
    rw [if_neg hindent]
    rcases Job.convert_of_check h o.settings frame resolve with hnone | ⟨e', hframe, herror, hlatex⟩
    · cases hnone.symm.trans hc
    · cases herror.symm.trans hc
      exact ⟨hframe, hlatex⟩

theorem deliver_of_check {read : Reader} {markdown : Text} (h : read.check markdown = .ok ())
    (o : RenderingOptions) (resolve : Latex.Resolver) (f : Files) (base : Place) (outlet : Outlet) :
    o.deliver resolve read markdown f base outlet = match outlet.openIn f base with
      | .error e =>
        ⟨.error e, Math.prepareNotices (Math.prepare (Text.normalizeNewlines markdown)).2, f, none⟩
      | .ok f' => outlet.take f' base (o.convert (o.frameIn f' base) resolve read markdown) := by
  rw [deliver, h]
  rfl

/-- The file at a path that can be opened is empty when the preamble is loaded, and then holds what was
written. -/
theorem take_path {f' : Files} {path : Text} (h : f.write base path [] = .ok f') (c : Converted) :
    ∃ place, f.locate base path = .ok place ∧
      ((Outlet.path path).take f' base c).files = f.put place (.file (Text.toUtf8 c.latex)) ∧
      ((Outlet.path path).take f' base c).result = c.result.map fun _ => () := by
  obtain ⟨place, hplace, -, hagain⟩ := Files.write_again h
  refine ⟨place, hplace, ?_⟩
  simp only [Outlet.take, hagain]
  exact ⟨trivial, trivial⟩

theorem error_of_result {c : Converted} (h : c.result = .error e) : c.error = some e := by
  unfold Converted.result at h
  split at h
  · rename_i herror
    exact herror.trans (congrArg some (Except.error.inj h))
  · cases h

/-- A delivery to a path that fails with an error of the conversion leaves all files as they were, unless
the preamble was to come from a file that could not be read: then the file at the path is empty. -/
theorem deliver_path_failed {resolve : Latex.Resolver} {read : Reader} {markdown path : Text}
    (h : (o.deliver resolve read markdown f base (.path path)).result = .error e) (he : e.isOwn = true) :
    (o.deliver resolve read markdown f base (.path path)).files = f ∨
      ∃ file place, o.preambleSource = some (.file file) ∧ e = .fileNotFoundAt (Path.plain file) ∧
        f.locate base path = .ok place ∧
        (o.deliver resolve read markdown f base (.path path)).files = f.put place (.file []) := by
  cases hcheck : read.check markdown with
  | error e' => exact .inl (deliver_unread hcheck f base (.path path)).2.1
  | ok =>
    rw [deliver_of_check hcheck] at h ⊢
    cases hopen : (Outlet.path path).openIn f base with
    | error e' => exact .inl rfl
    | ok f' =>
      rw [hopen] at h
      have hwrite : f.write base path [] = .ok f' := by
        simp only [Outlet.openIn] at hopen
        split at hopen
        · rename_i hok
          rw [hok, Except.ok.inj hopen]
        · cases hopen
      obtain ⟨place, hplace, hfiles, hresult⟩ :=
        take_path hwrite (o.convert (o.frameIn f' base) resolve read markdown)
      -- The file is empty by now, and a conversion without a preamble writes nothing into it.
      have herror : (o.convert (o.frameIn f' base) resolve read markdown).error = some e := by
        refine error_of_result ?_
        rw [hresult] at h
        cases hc : (o.convert (o.frameIn f' base) resolve read markdown).result with
        | error e' => rw [hc] at h; exact congrArg Except.error (Except.error.inj h)
        | ok latex => rw [hc] at h; cases h
      obtain ⟨hframe, hlatex⟩ := convert_of_check hcheck he herror
      obtain ⟨file, hsource, hmissing⟩ := preambleSource_of_frameIn hframe he
      refine .inr ⟨file, place, hsource, hmissing, hplace, hfiles.trans ?_⟩
      rw [hlatex]
      rfl

/-- A byte stream receives nothing if a delivery fails, and no file changes. -/
theorem deliver_byteStream_failed {resolve : Latex.Resolver} {read : Reader} {markdown : Text}
    (h : (o.deliver resolve read markdown f base .byteStream).result = .error e) :
    (o.deliver resolve read markdown f base .byteStream).received = none ∧
      (o.deliver resolve read markdown f base .byteStream).files = f := by
  cases hcheck : read.check markdown with
  | error e' =>
    obtain ⟨-, hfiles, hreceived⟩ := deliver_unread hcheck f base .byteStream
    exact ⟨hreceived, hfiles⟩
  | ok =>
    rw [deliver_of_check hcheck] at h ⊢
    simp only [Outlet.openIn, Outlet.take] at h ⊢
    cases hresult : (o.convert (o.frameIn f base) resolve read markdown).result with
    | error e' => exact ⟨rfl, rfl⟩
    | ok latex =>
      simp only [hresult] at h
      cases h

/-- A delivery to a path that fails with an error of the conversion leaves all files as they were, unless
the preamble was to come from a file that could not be read: then the file at the path is empty. A delivery
to a byte stream that fails gives it nothing. -/
theorem delivery_keeps_files (o : RenderingOptions) (resolve : Latex.Resolver) (read : Reader)
    (markdown : Text) (f : Files) (base : Place) :
    (∀ path e, (o.deliver resolve read markdown f base (.path path)).result = .error e → e.isOwn = true →
      (o.deliver resolve read markdown f base (.path path)).files = f ∨
      ∃ file place, o.preambleSource = some (.file file) ∧ e = .fileNotFoundAt (Path.plain file) ∧
        f.locate base path = .ok place ∧
        (o.deliver resolve read markdown f base (.path path)).files = f.put place (.file [])) ∧
    ∀ e, (o.deliver resolve read markdown f base .byteStream).result = .error e →
      (o.deliver resolve read markdown f base .byteStream).received = none ∧
        (o.deliver resolve read markdown f base .byteStream).files = f :=
  ⟨fun _ _ => deliver_path_failed, fun _ => deliver_byteStream_failed⟩

/-- A file is kept where a document cannot be read, and a byte stream gets nothing without a preamble. -/
theorem delivery_keeps_files_unread :
    let f : Files := ⟨[(["x.tex".toList], .file (Text.toUtf8 "old".toList))]⟩
    (({} : RenderingOptions).deliver (fun _ => none) (fun _ => .error []) [] f []
        (.path "x.tex".toList)).files = f ∧
      (({ preamblePath := .text "nope.tex".toList } : RenderingOptions).deliver (fun _ => none)
        (fun _ => .ok []) [] f [] .byteStream).received = none := by
  intro f
  refine ⟨?_, ?_⟩
  · have hpath := (delivery_keeps_files {} (fun _ => none) (fun _ => .error []) [] f []).1
    rcases hpath "x.tex".toList _ rfl rfl with h | ⟨file, place, hsource, -⟩
    · exact h
    · cases hsource
  · exact ((delivery_keeps_files { preamblePath := .text "nope.tex".toList } (fun _ => none)
      (fun _ => .ok []) [] f []).2 (.fileNotFoundAt "nope.tex".toList) (by rfl)).1

/-- Without its preamble, a document leaves an empty file behind where another one was. -/
theorem missing_preamble_empties_file :
    let f : Files := ⟨[(["x.tex".toList], .file (Text.toUtf8 "old".toList))]⟩
    let d := ({ preamblePath := .text "nope.tex".toList } : RenderingOptions).deliver (fun _ => none)
      (fun _ => .ok []) "x".toList f [] (.path "x.tex".toList)
    d.result = .error (.fileNotFoundAt "nope.tex".toList) ∧
      d.files.find? ["x.tex".toList] = some (.file []) ∧
      d.files.find? ["x.tex".toList] ≠ f.find? ["x.tex".toList] :=
  ⟨by rfl, by rfl, by decide +kernel⟩

end RenderingOptions

end Texdown
