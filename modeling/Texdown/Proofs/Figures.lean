import Texdown.Archive.Package
import Texdown.Proofs.Framing
import Texdown.Proofs.OutsideMath

/-!
# Figures

What a path is asked for decides the text of the figures and nothing else. Two runs over the same events
whose paths come from different places ask for the same URLs, meet the same error, and write the same but
for their figures (`run_alike`). So a pass that only discovers the URLs asks for those that are asked for
when a package is made.

Results:
* `run_alike`: runs with different paths differ in their figures only.
* `Runs.asked`, `exists_of_run_error`: a run asks for the images that the events up to its end request.
* `drawn_run`: its figures are those of the URLs it has asked for.
* `resolver_draws_figures`: so it is for documents, and in a package no figure of a registered image is
  commented out.
-/
namespace Texdown

/-- How many left-out containers are open behind an event. -/
def Event.depthBehind (depth : Nat) : Event → Nat
  | start t => if t.isSkipped then depth + 1 else depth
  | stop t => if t.isSkipped then depth - 1 else depth
  | _ => depth

namespace Latex

/-- The pieces with a mark in place of each figure. -/
def masked (mark : Text) (pieces : List Piece) : List Piece :=
  pieces.map fun p => if p.origin = .figure then { p with text := mark } else p

namespace Rendering

variable {settings : Settings} {resolve f g : Resolver} {r r' : Rendering}

/-! ## The URLs that are asked for -/

/-- The URL that an event requests inside of so many left-out containers. -/
def requestAt (depth : Nat) : Event → List Text
  | .start (.image target) => if 0 < depth then [] else urlsAsked target
  | _ => []

/-- The URLs of the images that stand in the text, but for what is left out. -/
def requested : Nat → List Event → List Text
  | _, [] => []
  | depth, e :: es => requestAt depth e ++ requested (e.depthBehind depth) es

theorem skipDepth_step {e : Event} {span : Span} (h : r.step settings e span = .ok r') :
    r'.skipDepth = e.depthBehind r.skipDepth := by
  rcases Nat.eq_zero_or_pos r.skipDepth with h0 | hpos
  · have hleaf : e.isLeaf = true → r'.skipDepth = r.skipDepth := fun he => by
      obtain ⟨-, b, -, hb⟩ := beside_leaf he h0 h
      exact (congrArg Rendering.skipDepth hb :)
    unfold step at h
    rw [if_neg (by omega)] at h
    cases e with
    | start t =>
      cases h
      obtain ⟨links, -, hb⟩ := beside_openTag r t
      refine (congrArg Rendering.skipDepth hb :).trans ?_
      simp only [beside, Event.depthBehind, h0]
    | stop t =>
      obtain ⟨links, -, hb⟩ := beside_closeTag h
      refine (congrArg Rendering.skipDepth hb :).trans ?_
      simp [beside, Event.depthBehind, h0]
    | _ => exact hleaf rfl
  · unfold step at h
    rw [if_pos hpos] at h
    cases h
    cases e with
    | start t | stop t =>
      simp only [skip, Event.depthBehind]
      split <;> rfl
    | _ => rfl

theorem requestAt_of_startsImage? {e : Event} (h : r.startsImage? e = none) :
    requestAt r.skipDepth e = [] := by
  cases e with
  | start t =>
    cases t with
    | image target =>
      simp only [startsImage?] at h
      split at h
      · next hpos => exact if_pos hpos
      · cases h
    | _ => rfl
  | _ => rfl

@[simp] theorem asked_hear (r : Rendering) (ns : List Notice) : (r.hear ns).asked = r.asked := by
  rw [hear_eq]
  rfl

/-- An image asks for what its start requests. -/
theorem asked_startsImage (settings : Settings) (resolve : Resolver) {e : Event} {ns : List Notice}
    {target : Target} (hi : (r.hear ns).startsImage? e = some target) :
    (image settings resolve (r.hear ns) target).asked = r.asked ++ requestAt r.skipDepth e := by
  obtain ⟨rfl, h0⟩ := eq_of_startsImage? hi
  rw [skipDepth_hear] at h0
  rw [asked_image, asked_hear, requestAt, if_neg (by omega)]

/-- Behind an image, the same containers are left out. -/
theorem requested_image {x y : Event} {target : Target} (hi : r.startsImage? x = some target)
    (hy : endsImage y = true) (es : List Event) :
    requested r.skipDepth (x :: y :: es) = requestAt r.skipDepth x ++ requested r.skipDepth es := by
  obtain ⟨rfl, h0⟩ := eq_of_startsImage? hi
  cases y with
  | stop t =>
    cases t with
    | image target' => simp [requested, requestAt, Event.depthBehind, Tag.isSkipped]
    | _ => cases hy
  | _ => cases hy

/-- A run without an error has asked for the images that its events request, and what is requested
behind it is still to come. -/
theorem Runs.asked {xs : List Located} (h : Runs settings resolve xs r r') (es : List Event) :
    r'.asked ++ requested r'.skipDepth es = r.asked ++ requested r.skipDepth (eventsOf xs ++ es) := by
  induction h with
  | nil r => rfl
  | @event e rest r r1 r2 hi hs _ ih =>
    have hdepth := skipDepth_step hs
    rw [skipDepth_hear] at hdepth
    rw [ih, asked_step hs, asked_hear, hdepth, eventsOf_cons, List.cons_append, requested,
      requestAt_of_startsImage? hi, List.nil_append]
  | @image x y rest r r2 target hi hy _ ih =>
    have hasked := asked_startsImage settings resolve ((startsImage?_hear r x.notices _).trans hi)
    rw [ih, asked_hear, hasked, skipDepth_hear, skipDepth_image, skipDepth_hear, eventsOf_cons,
      eventsOf_cons, List.cons_append, List.cons_append, requested_image hi hy, List.append_assoc]

/-- A run that meets an error does so at one event, and has asked for the images up to it. -/
theorem exists_of_run_error {xs : List Located} {err : Error}
    (h : run settings resolve xs r = (r', some err)) : ∃ pre x rest r1, xs = pre ++ x :: rest ∧
      Runs settings resolve pre r r1 ∧ r'.asked = r1.asked ++ requestAt r1.skipDepth x.event := by
  fun_induction run settings resolve xs r with
  | case1 => cases (Prod.mk.inj h).2
  | case2 e r rh target hi ri =>
    exact ⟨[], e, [], r, rfl, .nil r, (Prod.mk.inj h).1 ▸ asked_startsImage _ _ hi⟩
  | case3 e r rh target hi ri next rest rn hy ih =>
    obtain ⟨pre, x, rest', r1, rfl, hruns, hasked⟩ := ih h
    exact ⟨e :: next :: pre, x, rest', r1, rfl, .image (startsImage?_hear r _ _ ▸ hi) hy hruns, hasked⟩
  | case4 e r rh target hi ri next rest rn hy =>
    refine ⟨[], e, next :: rest, r, rfl, .nil r, ?_⟩
    rw [← (Prod.mk.inj h).1, asked_hear]
    exact asked_startsImage _ _ hi
  | case5 e rest r rh hi rs hs ih =>
    obtain ⟨pre, x, rest', r1, rfl, hruns, hasked⟩ := ih h
    exact ⟨e :: pre, x, rest', r1, rfl, .event (startsImage?_hear r _ _ ▸ hi) hs hruns, hasked⟩
  | case6 e rest r rh hi err' hs =>
    refine ⟨[], e, rest, r, rfl, .nil r, ?_⟩
    rw [← (Prod.mk.inj h).1, requestAt_of_startsImage? (startsImage?_hear r _ _ ▸ hi), List.append_nil]
    exact asked_hear r _

/-! ## Runs with different paths -/

/-- Two formatters that have written the same but for figures. -/
abbrev Alike (mark : Text) : Formatter → Formatter → Prop :=
  Formatter.InStep fun ps qs => masked mark ps = masked mark qs

theorem extends_masked (mark : Text) :
    Formatter.Extends fun ps qs => masked mark ps = masked mark qs := by
  intro ps qs more h
  simp only [masked, List.map_append] at h ⊢
  rw [h]

variable {mark : Text} {a b : Formatter}

theorem Alike.perform (h : Alike mark a b) (acts : List Act) :
    Alike mark (a.perform acts) (b.perform acts) :=
  Formatter.InStep.perform (extends_masked mark) h acts

/-- Figures may have any text. -/
theorem Alike.put_figure (h : Alike mark a b) (t u : Text) :
    Alike mark (a.put .figure t) (b.put .figure u) where
  spacing := h.spacing
  mathAware := h.mathAware
  mathOpen := h.mathOpen
  out := by
    have hout : masked mark a.out = masked mark b.out := h.out
    simp only [Formatter.put, masked, List.map_append, h.mathOpen] at hout ⊢
    rw [hout]
    rfl

/-- An image leaves them alike, wherever its path comes from. -/
theorem Alike.imageActs (h : Alike mark a b) (settings : Settings) (f g : Resolver) (target : Target) :
    Alike mark (a.perform (imageActs settings f target)) (b.perform (imageActs settings g target)) := by
  have hnotes : ∀ {a b : Formatter}, Alike mark a b → ∀ n : Notice, Alike mark (a.note n) b ∧
      Alike mark a (b.note n) := fun h n => ⟨h.note_left n, h.note_right n⟩
  have hline : ∀ {a b : Formatter}, Alike mark a b → ∀ t u,
      Alike mark (a.perform (Act.line .figure t)) (b.perform (Act.line .figure u)) := fun h t u =>
    (Alike.put_figure ((h.add 1).flush (extends_masked mark)) t u).add 1
  unfold Rendering.imageActs
  split
  · simp only [Formatter.perform_append]
    refine hline ?_ _ _
    cases f (target.url.getD []) <;> cases g (target.url.getD [])
    · exact h.note _
    · exact (hnotes h _).1
    · exact (hnotes h _).2
    · exact h
  · exact h.note _

theorem on_of_beside {r s : Rendering} (h : r.beside = s.beside) (f : Formatter) (q : List Text) :
    r.on f q = s.on f q := (congrArg (Rendering.on · f q) h :)

/-- With other paths, an image starts as it does. -/
theorem image_alike (settings : Settings) (h : Alike mark r.formatter b) (f g : Resolver)
    (target : Target) : ∃ b', image settings g (r.on b r.asked) target
        = (image settings f r target).on b' (image settings f r target).asked ∧
      Alike mark (image settings f r target).formatter b' := by
  refine ⟨b.perform (imageActs settings g target), ?_, ?_⟩
  · rw [image_on, asked_image]
    exact on_of_beside (by simp) _ _
  · rw [formatter_image]
    exact h.imageActs settings f g target

theorem hear_alike (h : Alike mark r.formatter b) (ns : List Notice) :
    ∃ b', (r.on b r.asked).hear ns = (r.hear ns).on b' (r.hear ns).asked ∧
      Alike mark (r.hear ns).formatter b' := by
  refine ⟨b.perform (ns.map .note), ?_, ?_⟩
  · rw [hear_on, asked_hear]
  · rw [formatter_hear]
    exact h.perform _

/-- Runs with different paths ask for the same URLs, end the same way, and differ in their figures
only. -/
theorem run_alike (settings : Settings) (f g : Resolver) :
    ∀ (xs : List Located) {r : Rendering} {b : Formatter},
    Alike mark r.formatter b → ∃ b', run settings g xs (r.on b r.asked)
        = ((run settings f xs r).1.on b' (run settings f xs r).1.asked, (run settings f xs r).2) ∧
      Alike mark (run settings f xs r).1.formatter b'
  | [], r, b, h => ⟨b, rfl, h⟩
  | e :: rest, r, b, h => by
    obtain ⟨b1, h1, hb1⟩ := hear_alike h e.notices
    rw [run, run, h1]
    cases hi : (r.hear e.notices).startsImage? e.event with
    | none =>
      have hi' : ((r.hear e.notices).on b1 (r.hear e.notices).asked).startsImage? e.event = none := hi
      cases hs : (r.hear e.notices).step settings e.event e.span with
      | ok r1 =>
        have hb2 := hb1.perform ((r.hear e.notices).acts settings e.event e.span)
        rw [← formatter_step hs] at hb2
        obtain ⟨b3, h3, hb3⟩ := run_alike settings f g rest hb2
        refine ⟨b3, ?_, hb3⟩
        simp only [hi', step_on hs]
        exact asked_step hs ▸ h3
      | error err =>
        simp only [hi', step_on_error hs]
        exact ⟨b1, rfl, hb1⟩
    | some target =>
      have hi' : ((r.hear e.notices).on b1 (r.hear e.notices).asked).startsImage? e.event
          = some target := hi
      obtain ⟨b2, h2, hb2⟩ := image_alike settings hb1 f g target
      simp only [hi', h2]
      cases rest with
      | nil => exact ⟨b2, rfl, hb2⟩
      | cons next rest =>
        obtain ⟨b3, h3, hb3⟩ := hear_alike hb2 next.notices
        simp only [h3]
        split
        · exact run_alike settings f g rest hb3
        · exact ⟨b3, rfl, hb3⟩

/-! ## The text of figures -/

/-- What each event keeps, with notices like those that come with it, a run keeps, whether or not it
meets an error. -/
theorem run_keeps {P : Rendering → Prop} {Q : List Notice → Prop}
    (hhear : ∀ {r ns}, Q ns → P r → P (r.hear ns))
    (hstep : ∀ {r r' e span}, r.step settings e span = .ok r' → P r → P r')
    (himage : ∀ {r} target, P r → P (image settings resolve r target)) :
    ∀ (xs : List Located), (∀ x ∈ xs, Q x.notices) → ∀ {r : Rendering}, P r →
      P (run settings resolve xs r).1
  | [], _, r, h => h
  | e :: rest, hxs, r, h => by
    obtain ⟨he, hrest⟩ := List.forall_mem_cons.1 hxs
    rw [run]
    cases (r.hear e.notices).startsImage? e.event with
    | none =>
      cases hs : (r.hear e.notices).step settings e.event e.span with
      | ok r1 => exact run_keeps hhear hstep himage rest hrest (hstep hs (hhear he h))
      | error err => exact hhear he h
    | some target =>
      cases rest with
      | nil => exact himage target (hhear he h)
      | cons next rest =>
        obtain ⟨hnext, hrest⟩ := List.forall_mem_cons.1 hrest
        simp only
        split
        · exact run_keeps hhear hstep himage rest hrest (hhear hnext (himage target (hhear he h)))
        · exact hhear hnext (himage target (hhear he h))

end Rendering

def Act.figures : Act → List Text
  | write .figure t => [t]
  | _ => []

namespace Formatter

def figures (f : Formatter) : List Text := (f.out.filter (·.origin = .figure)).map (·.text)

theorem isKind_figure : IsKind (·.origin = .figure) where
  plain := fun p hp => by
    obtain ⟨origin, t, m⟩ := p
    cases origin with
    | figure => cases hp
    | _ => rfl
  mode := fun _ _ _ => rfl

theorem act_figures_eq : Act.figures = Act.picked (·.origin = .figure) := by
  funext a
  cases a with
  | write origin t => cases origin <;> rfl
  | _ => rfl

theorem figures_perform (f : Formatter) (acts : List Act) :
    (f.perform acts).figures = f.figures ++ acts.flatMap Act.figures := by
  rw [act_figures_eq]
  exact picked_perform isKind_figure f acts

end Formatter

namespace Rendering

/-- Only images write figures. -/
theorem figures_acts (r : Rendering) (e : Event) (span : Span) :
    (r.acts settings e span).flatMap Act.figures = [] := by
  unfold acts
  split
  · rfl
  · cases e with
    | start t =>
      cases t with
      | list start =>
        cases start with
        | none => rfl
        | some n => simp only [openActs]; cases setCounter? r.enumDepth n <;> rfl
      | link target => simp only [openActs]; split <;> rfl
      | _ => rfl
    | stop t =>
      cases t with
      | list start => cases start <;> rfl
      | codeBlock language => simp only [closeActs]; split <;> rfl
      | link target => simp only [closeActs]; split <;> rfl
      | _ => rfl
    | _ =>
      rw [Formatter.act_figures_eq]
      exact picked_leafActs Formatter.isKind_figure settings r span _

/-- Each URL that is asked for has its figure. -/
theorem figures_imageActs (settings : Settings) (resolve : Resolver) (target : Target) :
    (imageActs settings resolve target).flatMap Act.figures
      = (urlsAsked target).map fun url => figure settings.imageWidth url (resolve url) := by
  unfold imageActs urlsAsked
  split
  · simp only [List.flatMap_append]
    split <;> rfl
  · rfl

/-- The figures that a rendering has written are those of the URLs that it has asked for. -/
def Drawn (settings : Settings) (resolve : Resolver) (r : Rendering) : Prop :=
  r.formatter.figures = r.asked.map fun url => figure settings.imageWidth url (resolve url)

theorem Drawn.hear (h : Drawn settings resolve r) (ns : List Notice) :
    Drawn settings resolve (r.hear ns) := by
  rw [Drawn, formatter_hear, Formatter.figures_perform, Formatter.act_figures_eq, Formatter.picked_notes,
    List.append_nil, asked_hear]
  exact h

theorem Drawn.step {e : Event} {span : Span} (hs : r.step settings e span = .ok r')
    (h : Drawn settings resolve r) : Drawn settings resolve r' := by
  rw [Drawn, formatter_step hs, Formatter.figures_perform, figures_acts, List.append_nil, asked_step hs]
  exact h

theorem Drawn.image (target : Target) (h : Drawn settings resolve r) :
    Drawn settings resolve (image settings resolve r target) := by
  rw [Drawn, formatter_image, Formatter.figures_perform, figures_imageActs, asked_image, List.map_append]
  exact congrArg (· ++ _) h

theorem drawn_run (xs : List Located) (h : Drawn settings resolve r) :
    Drawn settings resolve (run settings resolve xs r).1 :=
  have hhear : ∀ {r : Rendering} {ns : List Notice}, True → Drawn settings resolve r →
      Drawn settings resolve (r.hear ns) := fun _ h => h.hear _
  run_keeps hhear Drawn.step Drawn.image xs (fun _ _ => trivial) h

/-! ## Documents and packages -/

theorem alike_refl (f : Formatter) : Alike mark f f := ⟨rfl, rfl, rfl, rfl⟩

/-- What keeps in step two formatters does so at the end of a document. -/
theorem ended_inStep {R : List Piece → List Piece → Prop} (hR : Formatter.Extends R) {r : Rendering}
    (h : Formatter.InStep R r.formatter b) (frame : Option Text) (q : List Text) :
    ∃ b', ended frame (r.on b q) = (ended frame r).on b' q ∧
      Formatter.InStep R (ended frame r).formatter b' := by
  have hcap : ∀ n : Int, Formatter.InStep R ((r.formatter.cap n).add n) ((b.cap n).add n) := fun n =>
    h.perform hR [.cap n, .add n]
  cases frame with
  | none => exact ⟨_, rfl, (hcap 1).flush hR⟩
  | some preamble => exact ⟨_, rfl, (hcap 3).perform hR [.write .command endsDocument]⟩

/-- Documents with different paths differ as their runs do. -/
theorem document_alike (settings : Settings) (f g : Resolver) (frame : Option Text)
    (xs : List Located) (ts : List Notice) (table : Math.Table) (mark : Text) :
    let a := document settings f frame xs ts table
    let b := document settings g frame xs ts table
    b.2 = a.2 ∧ b.1.asked = a.1.asked ∧ Alike mark a.1.formatter b.1.formatter := by
  intro a b
  have ha := document_run settings f frame xs ts table
  have hb := document_run settings g frame xs ts table
  have hrefl : Alike mark (initial settings frame table).formatter _ := alike_refl _
  obtain ⟨b1, h1, hb1⟩ := run_alike settings f g xs hrefl
  rw [on_self] at h1
  rw [h1] at hb
  rcases hrun : run settings f xs (initial settings frame table) with ⟨r, err⟩
  rw [hrun] at ha hb hb1
  cases err with
  | some e =>
    have ha : a = (r, some e) := ha
    have hb : b = (r.on b1 r.asked, some e) := hb
    rw [ha, hb]
    exact ⟨rfl, rfl, hb1⟩
  | none =>
    obtain ⟨b2, h2, hb2⟩ := hear_alike hb1 ts
    obtain ⟨b3, h3, hb3⟩ := ended_inStep (extends_masked mark) hb2 frame (r.hear ts).asked
    have ha : a = ((ended frame (r.hear ts)).note .renderingTimed, none) := ha
    have hb : b = ((ended frame ((r.on b1 r.asked).hear ts)).note .renderingTimed, none) := hb
    have hasked : (ended frame (r.hear ts)).asked = (r.hear ts).asked := by cases frame <;> rfl
    rw [ha, hb, h2, h3]
    exact ⟨rfl, hasked.symm, hb3.note _⟩

theorem asked_ended (frame : Option Text) (r : Rendering) : (ended frame r).asked = r.asked := by
  cases frame <;> rfl

/-- The paths that a document asks for are those of the images in front of its end. -/
theorem asked_document (settings : Settings) (resolve : Resolver) (frame : Option Text)
    (xs : List Located) (ts : List Notice) (table : Math.Table) :
    let a := document settings resolve frame xs ts table
    (a.2 = none → a.1.asked = requested 0 (eventsOf xs)) ∧
      (a.2 ≠ none → ∃ pre x rest, xs = pre ++ x :: rest ∧
        (document settings resolve frame pre [] table).2 = none ∧
        a.1.asked = requested 0 (eventsOf (pre ++ [x]))) := by
  intro a
  have hfresh : (initial settings frame table).asked = [] ∧
      (initial settings frame table).skipDepth = 0 := by cases frame <;> exact ⟨rfl, rfl⟩
  have hasked : ∀ {pre : List Located} {r : Rendering} (es : List Event),
      Runs settings resolve pre (initial settings frame table) r →
      r.asked ++ requested r.skipDepth es = requested 0 (eventsOf pre ++ es) := fun es h => by
    rw [h.asked es, hfresh.1, hfresh.2, List.nil_append]
  constructor
  · intro h
    obtain ⟨r, hruns⟩ := runs_of_document h
    have ha : a = ((ended frame (r.hear ts)).note .renderingTimed, none) := document_of_runs _ hruns ts
    have hend : a.1.asked = r.asked := by
      rw [ha]
      exact (asked_ended frame (r.hear ts)).trans (asked_hear r ts)
    rw [hend]
    simpa [requested] using hasked [] hruns
  · intro h
    have ha := document_run settings resolve frame xs ts table
    rcases hrun : run settings resolve xs (initial settings frame table) with ⟨r, err⟩
    rw [hrun] at ha
    cases err with
    | none => exact absurd (congrArg Prod.snd ha) h
    | some e =>
      have ha : a = (r, some e) := ha
      obtain ⟨pre, x, rest, r1, hxs, hruns, hlast⟩ := exists_of_run_error hrun
      refine ⟨pre, x, rest, hxs, congrArg Prod.snd (document_of_runs _ hruns []), ?_⟩
      rw [ha, hlast]
      simpa [requested] using hasked [x.event] hruns

theorem Drawn.ended (h : Drawn settings resolve r) (frame : Option Text) :
    Drawn settings resolve (ended frame r) := by
  have hfigures : (Rendering.ended frame r).formatter.figures = r.formatter.figures := by
    cases frame with
    | none => exact Formatter.picked_flush Formatter.isKind_figure ((r.formatter.cap 1).add 1)
    | some preamble =>
      refine (Formatter.figures_perform _ [.cap 3, .add 3, .write .command endsDocument]).trans ?_
      exact List.append_nil _
  rw [Drawn, hfigures, asked_ended]
  exact h

/-- The figures of a document are those of the URLs that it asks for. -/
theorem drawn_document (settings : Settings) (resolve : Resolver) (frame : Option Text)
    (xs : List Located) (ts : List Notice) (table : Math.Table) :
    Drawn settings resolve (document settings resolve frame xs ts table).1 := by
  have hrun : Drawn settings resolve (run settings resolve xs (initial settings frame table)).1 :=
    drawn_run xs (by cases frame <;> rfl)
  rw [document_run]
  generalize run settings resolve xs (initial settings frame table) = result at hrun
  obtain ⟨r, err⟩ := result
  cases err with
  | some e => exact hrun
  | none => exact (Drawn.hear hrun ts).ended frame

/-! ## Packages -/

open Archive (packageMarkdown Packaged fileEntry)

theorem mem_distinct (ts : List Text) (t : Text) : t ∈ distinct ts ↔ t ∈ ts := by
  have hfold : ∀ seen : List Text,
      t ∈ ts.foldl (fun seen t => if seen.contains t then seen else seen ++ [t]) seen
        ↔ t ∈ seen ∨ t ∈ ts := by
    induction ts with
    | nil => simp
    | cons u us ih =>
      intro seen
      rw [List.foldl_cons, ih, List.mem_cons]
      split
      · next hseen =>
        have hu : u ∈ seen := by simpa using hseen
        constructor
        · rintro (h | h)
          · exact .inl h
          · exact .inr (.inr h)
        · rintro (h | rfl | h)
          · exact .inl h
          · exact .inl hu
          · exact .inr h
      · simp only [List.mem_append, List.mem_singleton, or_assoc]
  exact (hfold []).trans (by simp)

/-- A conversion without an error has read tokens, and found its preamble. -/
theorem exists_of_convert {job : Job} {read : Reader} {markdown : Text}
    (h : (job.convert read markdown).error = none) :
    ∃ (tokens : List Token) (preamble : Option Text),
      read (Math.prepare (Text.normalizeNewlines markdown)).1 = .ok tokens ∧
        job.frame = preamble.map .ok := by
  unfold Job.convert Reader.events Reader.tokens at h
  cases hread : read (Math.prepare (Text.normalizeNewlines markdown)).1 with
  | error why =>
    simp only [hread] at h
    cases h
  | ok tokens =>
    simp only [hread] at h
    cases hframe : job.frame with
    | none => exact ⟨tokens, none, rfl, rfl⟩
    | some frame =>
      cases frame with
      | ok preamble => exact ⟨tokens, some preamble, rfl, rfl⟩
      | error e =>
        simp only [Job.render, hframe] at h
        cases h

/-- The document that a conversion renders. -/
def converted (settings : Settings) (resolve : Resolver) (preamble : Option Text) (markdown : Text)
    (tokens : List Token) : Rendering × Option Error :=
  let (source, table) := Math.prepare (Text.normalizeNewlines markdown)
  let (events, trailing) := streamOf source tokens
  document settings resolve preamble events trailing table

theorem convert_eq (settings : Settings) (resolve : Resolver) (preamble : Option Text)
    {read : Reader} {markdown : Text} {tokens : List Token}
    (hread : read (Math.prepare (Text.normalizeNewlines markdown)).1 = .ok tokens) :
    let c := Job.convert ⟨settings, preamble.map .ok, resolve⟩ read markdown
    let d := converted settings resolve preamble markdown tokens
    c.latex = d.1.latex ∧ c.asked = d.1.asked ∧ c.error = d.2 := by
  unfold Job.convert Reader.events Reader.tokens
  simp only [hread]
  cases preamble <;> exact ⟨rfl, rfl, rfl⟩

/-- What is packaged is a conversion without an error, with the registered images that it asked for. -/
theorem eq_of_packageMarkdown {o : PackagingOptions} {rendering : RenderingOptions}
    {frame : Option (Except Error Text)} {read : Reader} {registry : Figure.Registry} {markdown : Text}
    {p : Packaged} (h : (packageMarkdown o rendering frame read registry markdown).1 = .ok p) :
    let c := Job.convert ⟨rendering.settings, frame, registry.resolve o.figures⟩ read markdown
    c.error = none ∧ p = .ofLatex o c.latex (Archive.usedFigures registry c.asked) := by
  unfold packageMarkdown RenderingOptions.convert at h
  simp only at h
  generalize Job.convert ⟨rendering.settings, frame, registry.resolve o.figures⟩ read markdown = c at h ⊢
  by_cases hwidth : (rendering.wholeIndent?.isNone && !c.latex.isEmpty) = true
  · rw [if_pos hwidth] at h
    cases h
  · rw [if_neg hwidth] at h
    obtain ⟨latex, asked, ns, err⟩ := c
    cases err with
    | some e => cases h
    | none => exact ⟨rfl, (Except.ok.inj h).symm⟩

/-- Discovery finds the URLs of the images that are asked for, whatever else is done with the text. -/
theorem imageUrls_eq {read : Reader} {markdown : Text} {tokens : List Token}
    (hread : read (Math.prepare (Text.normalizeNewlines markdown)).1 = .ok tokens)
    (settings : Settings) (resolve : Resolver) (preamble : Option Text) :
    (imageUrls read markdown).1
      = .ok (distinct (converted settings resolve preamble markdown tokens).1.asked) := by
  have hasked : ∀ settings resolve preamble,
      (converted settings resolve preamble markdown tokens).2 = none ∧
        (converted settings resolve preamble markdown tokens).1.asked = requested 0 (eventsOf
          (streamOf (Math.prepare (Text.normalizeNewlines markdown)).1 tokens).1) := fun _ _ _ => by
    obtain ⟨r, hruns⟩ := exists_runs_streamOf (Text.normalizeNewlines markdown) tokens _ _ _
    have hnone := congrArg Prod.snd (document_of_runs _ hruns
      (streamOf (Math.prepare (Text.normalizeNewlines markdown)).1 tokens).2)
    exact ⟨hnone, (asked_document _ _ _ _ _ _).1 hnone⟩
  obtain ⟨-, hc, herror⟩ := convert_eq {} (fun _ => none) none hread
  rw [(hasked _ _ _).1] at herror
  rw [(hasked _ _ _).2] at hc
  unfold imageUrls
  simp only [(hasked settings resolve preamble).2]
  split
  · next he => cases he.symm.trans herror
  · exact congrArg (fun q => Except.ok (distinct q)) hc

/-- Where paths come from decides nothing but the text of figures: not the URLs that are asked for, which
are those of the images in the text, nor whether there is an error, nor what else is written. So if each
URL that discovery finds is registered, a package has a figure for each image. -/
theorem resolver_draws_figures :
    (∀ (settings : Settings) (f g : Resolver) (frame : Option Text) (xs : List Located)
        (ts : List Notice) (table : Math.Table),
      let a := document settings f frame xs ts table
      let b := document settings g frame xs ts table
      b.2 = a.2 ∧ b.1.asked = a.1.asked ∧
        (a.2 = none → a.1.asked = requested 0 (eventsOf xs)) ∧
        (a.2 ≠ none → ∃ pre x rest, xs = pre ++ x :: rest ∧
          (document settings f frame pre [] table).2 = none ∧
          a.1.asked = requested 0 (eventsOf (pre ++ [x]))) ∧
        (∀ mark, masked mark b.1.formatter.out = masked mark a.1.formatter.out) ∧
        a.1.formatter.figures
          = a.1.asked.map fun url => figure settings.imageWidth url (f url)) ∧
    (∀ (o : PackagingOptions) (rendering : RenderingOptions) (frame : Option (Except Error Text))
        (read : Reader) (registry : Figure.Registry) (markdown : Text) (p : Packaged),
      (packageMarkdown o rendering frame read registry markdown).1 = .ok p →
      ∃ (urls : List Text) (tokens : List Token) (preamble : Option Text),
        (imageUrls read markdown).1 = .ok urls ∧
        read (Math.prepare (Text.normalizeNewlines markdown)).1 = .ok tokens ∧
        frame = preamble.map .ok ∧
        let d := converted rendering.settings (registry.resolve o.figures) preamble markdown tokens
        p.entries.getLast? = some (fileEntry o.method o.mainEntry (Text.toUtf8 d.1.latex)) ∧
        ((∀ url ∈ urls, registry.contains url = true) →
          ∀ t ∈ d.1.formatter.figures, ∃ url image, registry.find? url = some image ∧
            t = commandWith "includegraphics".toList
              ("width=".toList ++ rendering.settings.imageWidth)
              (o.figures ++ '/' :: image.filename))) := by
  constructor
  · intro settings f g frame xs ts table a b
    obtain ⟨hnone, hsome⟩ := asked_document settings f frame xs ts table
    obtain ⟨herror, hasked, -⟩ := document_alike settings f g frame xs ts table []
    refine ⟨herror, hasked, hnone, hsome, fun mark => ?_, drawn_document settings f frame xs ts table⟩
    exact (document_alike settings f g frame xs ts table mark).2.2.out.symm
  · intro o rendering frame read registry markdown p h
    obtain ⟨herror, rfl⟩ := eq_of_packageMarkdown h
    obtain ⟨tokens, preamble, hread, hframe⟩ := exists_of_convert herror
    obtain rfl : frame = preamble.map .ok := hframe
    have hlatex := (convert_eq rendering.settings (registry.resolve o.figures) preamble hread).1
    refine ⟨_, tokens, preamble, imageUrls_eq hread rendering.settings (registry.resolve o.figures)
      preamble, hread, rfl, ?_, fun hall t ht => ?_⟩
    · rw [← hlatex]
      simp only [Packaged.ofLatex, Archive.package]
      exact List.getLast?_concat
    · have hdrawn : Drawn rendering.settings (registry.resolve o.figures)
          (converted rendering.settings (registry.resolve o.figures) preamble markdown tokens).1 :=
        drawn_document _ _ _ _ _ _
      rw [hdrawn] at ht
      obtain ⟨url, hurl, rfl⟩ := List.mem_map.1 ht
      have hregistered := hall url ((mem_distinct _ _).2 hurl)
      obtain ⟨image, himage⟩ := Option.isSome_iff_exists.1 hregistered
      refine ⟨url, image, himage, ?_⟩
      simp only [Figure.Registry.resolve, himage, Option.map_some, figure]

/-- An image in an item has its figure in a package. -/
theorem resolver_draws_figures_item :
    let read : Reader := fun _ => .ok [.list none [.item none
      [.container .paragraph [.image "a.png".toList none none]]]]
    let registry : Figure.Registry := ⟨[("a.png".toList, ⟨"b.png".toList, []⟩)]⟩
    let markdown := "- ![](a.png)".toList
    let o : PackagingOptions := {}
    let rendering : RenderingOptions := {}
    ∃ p tokens preamble, (packageMarkdown o rendering none read registry markdown).1 = .ok p ∧
      (imageUrls read markdown).1 = .ok ["a.png".toList] ∧
      (∀ url ∈ ["a.png".toList], registry.contains url = true) ∧
      let d := converted rendering.settings (registry.resolve o.figures) preamble markdown tokens
      p.entries.getLast? = some (fileEntry o.method o.mainEntry (Text.toUtf8 d.1.latex)) ∧
      ∀ t ∈ d.1.formatter.figures, ∃ url image, registry.find? url = some image ∧
        t = commandWith "includegraphics".toList ("width=".toList ++ rendering.settings.imageWidth)
          (o.figures ++ '/' :: image.filename) := by
  intro read registry markdown o rendering
  have hsome : (packageMarkdown o rendering none read registry markdown).1.toOption.isSome = true := by
    decide +kernel
  have hfound : (imageUrls read markdown).1.toOption = some ["a.png".toList] := by decide +kernel
  have hall : ∀ url ∈ ["a.png".toList], registry.contains url = true := by decide +kernel
  cases hp : (packageMarkdown o rendering none read registry markdown).1 with
  | error e => rw [hp] at hsome; cases hsome
  | ok p =>
    obtain ⟨urls, tokens, preamble, hurls, -, -, hentry, hfigures⟩ :=
      resolver_draws_figures.2 o rendering none read registry markdown p hp
    rw [hurls] at hfound
    obtain rfl : urls = ["a.png".toList] := Option.some.inj hfound
    exact ⟨p, tokens, preamble, rfl, hurls, hall, hentry, hfigures hall⟩

end Rendering
end Latex
end Texdown
