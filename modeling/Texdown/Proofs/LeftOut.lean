import Texdown.Proofs.Figures

/-!
# What is left out

A table or a footnote definition leaves no trace in a document. `Pruned` takes each outermost one out of
a stream, with everything in it, as the tree of containers says. A rendering knows nothing of that tree
but how many left-out containers are open, and yet it ends as the rendering of the pruned stream does.

Results:
* `eq_remaining`, `pruned_remaining`: a balanced stream can be pruned, and in one way only.
* `run_remaining`: a run and the run over what remains go on alike.
* `render_pruned`: so the documents have the same text, ask for the same figures and end the same way.
-/
namespace Texdown

/-- A stream, and the same without its outermost left-out containers and all that they hold. -/
inductive Pruned : List Located → List Located → Prop where
  | nil : Pruned [] []
  | plain {x : Located} (h : x.event.isPlain = true) : Pruned [x] [x]
  | kept {a z : Located} {t : Tag} {inner rest : List Located} (ha : a.event = .start t)
    (hz : z.event = .stop t) (ht : t.isSkipped = false) (h : Pruned inner rest) :
    Pruned (a :: inner ++ [z]) (a :: rest ++ [z])
  | removed {a z : Located} {t : Tag} {inner : List Located} (ha : a.event = .start t)
    (hz : z.event = .stop t) (ht : t.isSkipped = true) (h : Balanced (eventsOf inner)) :
    Pruned (a :: inner ++ [z]) []
  | append {xs ys us vs : List Located} (h1 : Pruned xs ys) (h2 : Pruned us vs) :
    Pruned (xs ++ us) (ys ++ vs)

/-- The located events that remain inside of so many left-out containers: those with nothing left out
in front of them and nothing behind them. -/
def remaining : Nat → List Located → List Located
  | _, [] => []
  | depth, x :: xs =>
    let behind := x.event.depthBehind depth
    if depth + behind = 0 then x :: remaining behind xs else remaining behind xs

variable {x : Located} {xs ys : List Located}

theorem remaining_of_pos {depth : Nat} (h : 0 < depth) (x : Located) (xs : List Located) :
    remaining depth (x :: xs) = remaining (x.event.depthBehind depth) xs := by
  rw [remaining, if_neg (by omega)]

theorem remaining_of_opens (h : 0 < x.event.depthBehind 0) (xs : List Located) :
    remaining 0 (x :: xs) = remaining (x.event.depthBehind 0) xs := by
  rw [remaining, if_neg (by omega)]

theorem remaining_of_shown (h : x.event.depthBehind 0 = 0) (xs : List Located) :
    remaining 0 (x :: xs) = x :: remaining 0 xs := by
  rw [remaining, h, if_pos rfl]

/-- A balanced word inside of a left-out container leaves nothing. -/
theorem remaining_balanced {es : List Event} (h : Balanced es) {depth : Nat} (hd : 0 < depth)
    (hxs : eventsOf xs = es) (rest : List Located) :
    remaining depth (xs ++ rest) = remaining depth rest := by
  induction h generalizing depth xs rest with
  | nil => rw [List.map_eq_nil_iff.1 hxs, List.nil_append]
  | @plain e he =>
    obtain ⟨x, rfl, hx⟩ := List.map_eq_singleton_iff.1 hxs
    rw [List.singleton_append, remaining_of_pos hd, hx]
    cases e with
    | start | stop | anonymous => cases he
    | _ => rfl
  | @container t inner _ ih =>
    obtain ⟨a, ys, rfl, ha, hys⟩ := List.map_eq_cons_iff.1 hxs
    obtain ⟨mid, zs, rfl, hmid, hzs⟩ := List.map_eq_append_iff.1 hys
    obtain ⟨z, rfl, hz⟩ := List.map_eq_singleton_iff.1 hzs
    rw [List.cons_append, remaining_of_pos hd, ha, List.append_assoc]
    -- The start may be that of a left-out container, and its end takes back what it counts.
    cases ht : t.isSkipped with
    | true =>
      have hopen : (Event.start t).depthBehind depth = depth + 1 := by simp [Event.depthBehind, ht]
      have hclose : (Event.stop t).depthBehind (depth + 1) = depth := by simp [Event.depthBehind, ht]
      rw [hopen, ih (Nat.succ_pos depth) hmid, List.singleton_append,
        remaining_of_pos (Nat.succ_pos depth), hz, hclose]
    | false =>
      have hopen : (Event.start t).depthBehind depth = depth := by simp [Event.depthBehind, ht]
      have hclose : (Event.stop t).depthBehind depth = depth := by simp [Event.depthBehind, ht]
      rw [hopen, ih hd hmid, List.singleton_append, remaining_of_pos hd, hz, hclose]
  | append _ _ ih1 ih2 =>
    obtain ⟨us, vs, rfl, hus, hvs⟩ := List.map_eq_append_iff.1 hxs
    rw [List.append_assoc, ih1 hd hus, ih2 hd hvs]

theorem remaining_of_pruned (h : Pruned xs ys) (rest : List Located) :
    remaining 0 (xs ++ rest) = ys ++ remaining 0 rest := by
  induction h generalizing rest with
  | nil => rfl
  | @plain x hx =>
    refine remaining_of_shown ?_ rest
    cases he : x.event with
    | start | stop | anonymous => rw [he] at hx; cases hx
    | _ => rfl
  | @kept a z t inner left ha hz ht _ ih =>
    have hopen : a.event.depthBehind 0 = 0 := by simp [ha, Event.depthBehind, ht]
    have hclose : z.event.depthBehind 0 = 0 := by simp [hz, Event.depthBehind]
    rw [List.cons_append, List.cons_append, remaining_of_shown hopen, List.append_assoc, ih,
      List.singleton_append, remaining_of_shown hclose]
    simp
  | @removed a z t inner ha hz ht hinner =>
    have hopen : a.event.depthBehind 0 = 1 := by simp [ha, Event.depthBehind, ht]
    have hclose : z.event.depthBehind 1 = 0 := by simp [hz, Event.depthBehind, ht]
    rw [List.cons_append, List.cons_append, remaining_of_opens (by omega), hopen, List.append_assoc,
      remaining_balanced hinner Nat.one_pos rfl, List.singleton_append,
      remaining_of_pos Nat.one_pos, hclose, List.nil_append]
  | append _ _ ih1 ih2 => rw [List.append_assoc, ih1, ih2, List.append_assoc]

/-- There is one way to prune a stream. -/
theorem eq_remaining (h : Pruned xs ys) : ys = remaining 0 xs := by
  have hall := remaining_of_pruned h []
  simpa [remaining] using hall.symm

theorem exists_pruned {es : List Event} (h : Balanced es) (hxs : eventsOf xs = es) :
    ∃ ys, Pruned xs ys := by
  induction h generalizing xs with
  | nil => exact ⟨[], List.map_eq_nil_iff.1 hxs ▸ .nil⟩
  | plain he =>
    obtain ⟨x, rfl, rfl⟩ := List.map_eq_singleton_iff.1 hxs
    exact ⟨[x], .plain he⟩
  | @container t inner hinner ih =>
    obtain ⟨a, ys, rfl, ha, hys⟩ := List.map_eq_cons_iff.1 hxs
    obtain ⟨mid, zs, rfl, hmid, hzs⟩ := List.map_eq_append_iff.1 hys
    obtain ⟨z, rfl, hz⟩ := List.map_eq_singleton_iff.1 hzs
    cases ht : t.isSkipped with
    | true => exact ⟨[], .removed ha hz ht (by rwa [eventsOf, hmid])⟩
    | false =>
      obtain ⟨rest, hrest⟩ := ih hmid
      exact ⟨a :: rest ++ [z], .kept ha hz ht hrest⟩
  | append _ _ ih1 ih2 =>
    obtain ⟨us, vs, rfl, hus, hvs⟩ := List.map_eq_append_iff.1 hxs
    obtain ⟨ys, hys⟩ := ih1 hus
    obtain ⟨ws, hws⟩ := ih2 hvs
    exact ⟨ys ++ ws, hys.append hws⟩

theorem pruned_remaining (h : Balanced (eventsOf xs)) : Pruned xs (remaining 0 xs) := by
  obtain ⟨ys, hys⟩ := exists_pruned h rfl
  exact eq_remaining hys ▸ hys

/-- Each image ends as soon as it has started. -/
def ImagesEnd (es : List Event) : Prop :=
  ∀ pre target post, es = pre ++ .start (.image target) :: post →
    post.head? = some (.stop (.image target))

theorem ImagesEnd.tail {e : Event} {es : List Event} (h : ImagesEnd (e :: es)) : ImagesEnd es :=
  fun pre target post hes => h (e :: pre) target post (by rw [hes, List.cons_append])

/-- The end is the next event. -/
theorem ImagesEnd.exists_next {target : Target} {es : List Event}
    (h : ImagesEnd (.start (.image target) :: es)) : ∃ rest, es = .stop (.image target) :: rest :=
  List.head?_eq_some_iff.1 (h [] target es rfl)

theorem imagesEnd_of_wellNested (h : WellNested .imageEmpty xs) : ImagesEnd (eventsOf xs) := by
  intro pre target post hes
  obtain ⟨-, hp, ho⟩ := h.split hes
  exact head?_eq_stop (fun e he => by simpa [Placement.imageEmpty, Tag.isImage] using he) hp ho

namespace Latex

/-- Nothing that is written tells a piece from the same piece. -/
theorem extends_eq : Formatter.Extends Eq := fun _ h => h ▸ rfl

namespace Rendering

variable {settings : Settings} {resolve : Resolver} {r r' s : Rendering}

/-- The second rendering has written and knows what the first one does, but nothing is left out in it at
the moment, and it has notices of its own. -/
structure Agrees (r s : Rendering) : Prop where
  written : Formatter.InStep Eq r.formatter s.formatter
  known : s = ({ r with skipDepth := 0 } : Rendering).on s.formatter r.asked

theorem agrees_self (h : r.skipDepth = 0) : Agrees r r := by
  refine ⟨⟨rfl, rfl, rfl, rfl⟩, ?_⟩
  rw [← h]
  rfl

namespace Agrees

/-- Where nothing is left out, the two differ in their formatters only. -/
theorem eq_on (h : Agrees r s) (h0 : r.skipDepth = 0) : s = r.on s.formatter r.asked := by
  have hknown := h.known
  rwa [← h0] at hknown

theorem of_on {f : Formatter} (h0 : r.skipDepth = 0) (hf : Formatter.InStep Eq r.formatter f) :
    Agrees r (r.on f r.asked) := by
  refine ⟨hf, ?_⟩
  rw [← h0]
  rfl

theorem note_left (h : Agrees r s) (n : Notice) : Agrees (r.note n) s :=
  ⟨h.written.note_left n, h.known⟩

/-- What only the first rendering hears does not matter. -/
theorem hear_left (h : Agrees r s) (ns : List Notice) : Agrees (r.hear ns) s := by
  induction ns generalizing r with
  | nil => exact h
  | cons n ns ih => exact ih (h.note_left n)

theorem hear_right (h : Agrees r s) (ns : List Notice) : Agrees r (s.hear ns) := by
  rw [hear_eq]
  refine ⟨⟨h.written.spacing, h.written.mathAware, h.written.mathOpen, h.written.out⟩, ?_⟩
  rw [h.known]
  rfl

theorem hear (h : Agrees r s) (ns ms : List Notice) : Agrees (r.hear ns) (s.hear ms) :=
  (h.hear_left ns).hear_right ms

/-- Inside of what is left out, the first rendering only counts. -/
theorem skip (h : Agrees r s) (e : Event) : Agrees (r.skip e) s := by
  have hskip : ∃ depth, r.skip e = { r with skipDepth := depth } := by
    unfold Rendering.skip
    split
    · split <;> exact ⟨_, rfl⟩
    · split <;> exact ⟨_, rfl⟩
    · exact ⟨_, rfl⟩
  obtain ⟨depth, hdepth⟩ := hskip
  rw [hdepth]
  exact ⟨h.written, h.known⟩

/-- The start of a left-out container is only reported. -/
theorem openSkipped (h : Agrees r s) {t : Tag} (ht : t.isSkipped = true) : Agrees (r.openTag t) s := by
  have hopen : ∃ n, r.openTag t = { r.note n with skipDepth := 1 } := by
    cases t with
    | table | footnoteDefinition => exact ⟨_, rfl⟩
    | _ => cases ht
  obtain ⟨n, hn⟩ := hopen
  rw [hn]
  exact ⟨(h.note_left n).written, h.known⟩

/-- An event that does not remain changes nothing that the two have in common. -/
theorem exists_hidden (h : Agrees r s) {e : Event} (he : r.skipDepth + e.depthBehind r.skipDepth ≠ 0)
    (settings : Settings) (span : Span) :
    r.startsImage? e = none ∧ ∃ r', r.step settings e span = .ok r' ∧ Agrees r' s := by
  rcases Nat.eq_zero_or_pos r.skipDepth with h0 | hpos
  · rw [h0, Nat.zero_add] at he
    cases e with
    | start t =>
      have ht : t.isSkipped = true := by
        cases ht : t.isSkipped with
        | true => rfl
        | false => simp [Event.depthBehind, ht] at he
      have hi : r.startsImage? (.start t) = none := by
        cases t with
        | image => cases ht
        | _ => rfl
      exact ⟨hi, r.openTag t, if_neg (by omega), h.openSkipped ht⟩
    | stop t => simp [Event.depthBehind] at he
    | _ => exact absurd rfl he
  · have hi : r.startsImage? e = none := by
      unfold startsImage?
      split
      · exact if_pos hpos
      · rfl
    exact ⟨hi, r.skip e, if_pos hpos, h.skip e⟩

theorem startsImage?_eq (h : Agrees r s) (h0 : r.skipDepth = 0) (e : Event) :
    s.startsImage? e = r.startsImage? e :=
  startsImage?_congr (by rw [h.known, h0]; rfl) e

/-- An event with nothing left out around it does the same to both. -/
theorem step (h : Agrees r s) (h0 : r.skipDepth = 0) {e : Event} (he : e.depthBehind 0 = 0)
    {span : Span} (hs : r.step settings e span = .ok r') :
    ∃ s', s.step settings e span = .ok s' ∧ Agrees r' s' := by
  have h0' : r'.skipDepth = 0 := by rw [skipDepth_step hs, h0, he]
  rw [h.eq_on h0, step_on hs, ← asked_step hs]
  refine ⟨_, rfl, of_on h0' ?_⟩
  rw [formatter_step hs]
  exact h.written.perform extends_eq _

/-- An event that is an error in one of them is so in both. -/
theorem step_error (h : Agrees r s) (h0 : r.skipDepth = 0) {e : Event} {span : Span} {err : Error}
    (hs : r.step settings e span = .error err) : s.step settings e span = .error err := by
  rw [h.eq_on h0]
  exact step_on_error hs _ _

theorem image (h : Agrees r s) (h0 : r.skipDepth = 0) (settings : Settings) (resolve : Resolver)
    (target : Target) :
    Agrees (image settings resolve r target) (image settings resolve s target) := by
  have h0' := (skipDepth_image settings resolve r target).trans h0
  rw [h.eq_on h0, image_on, ← asked_image]
  refine of_on h0' ?_
  rw [formatter_image]
  exact h.written.perform extends_eq _

theorem ended (h : Agrees r s) (frame : Option Text) : Agrees (ended frame r) (ended frame s) := by
  obtain ⟨f, hf, hwritten⟩ :=
    ended_inStep (r := { r with skipDepth := 0 }) extends_eq h.written frame r.asked
  have hdepth : Rendering.ended frame { r with skipDepth := 0 }
      = { Rendering.ended frame r with skipDepth := 0 } := by cases frame <;> rfl
  rw [hdepth] at hf hwritten
  rw [h.known, hf, ← asked_ended frame r]
  exact ⟨hwritten, rfl⟩

theorem latex_eq (h : Agrees r s) : s.latex = r.latex := congrArg textOf h.written.out.symm

theorem asked_eq (h : Agrees r s) : s.asked = r.asked := (congrArg Rendering.asked h.known :)

end Agrees

theorem run_cons_error {err : Error} (hi : r.startsImage? x.event = none)
    (hs : (r.hear x.notices).step settings x.event x.span = .error err) (xs : List Located) :
    run settings resolve (x :: xs) r = (r.hear x.notices, some err) := by
  rw [run]
  simp only [startsImage?_hear, hi, hs]

theorem run_cons_image {y : Located} {target : Target} (hi : r.startsImage? x.event = some target)
    (hy : endsImage y.event = true) (xs : List Located) :
    run settings resolve (x :: y :: xs) r = run settings resolve xs
      (((r.hear x.notices).image settings resolve target).hear y.notices) :=
  (Runs.image hi hy (.nil _)).run_append

/-- Both take an event with nothing left out around it, or both meet the same error at it. -/
theorem Agrees.run_next (h : Agrees r s) (h0 : r.skipDepth = 0) {x : Located}
    (he : x.event.depthBehind 0 = 0) (hi : r.startsImage? x.event = none) (settings : Settings)
    (resolve : Resolver) :
    (∃ r1 s1, r1.skipDepth = 0 ∧ Agrees r1 s1 ∧ ∀ xs,
      run settings resolve (x :: xs) r = run settings resolve xs r1 ∧
        run settings resolve (x :: xs) s = run settings resolve xs s1) ∨
    ∃ r1 s1 err, Agrees r1 s1 ∧ ∀ xs ys,
      run settings resolve (x :: xs) r = (r1, some err) ∧
        run settings resolve (x :: ys) s = (s1, some err) := by
  have hheard := h.hear x.notices x.notices
  have h0' : (r.hear x.notices).skipDepth = 0 := by rw [skipDepth_hear, h0]
  have hi' := (h.startsImage?_eq h0 x.event).trans hi
  cases hs : (r.hear x.notices).step settings x.event x.span with
  | ok r1 =>
    obtain ⟨s1, hs1, h1⟩ := hheard.step h0' he hs
    have hr1 : r1.skipDepth = 0 := by rw [skipDepth_step hs, h0', he]
    exact .inl ⟨r1, s1, hr1, h1, fun _ => ⟨run_cons hi hs, run_cons hi' hs1⟩⟩
  | error err =>
    have hs1 := hheard.step_error h0' hs
    exact .inr ⟨_, _, err, hheard, fun xs ys => ⟨run_cons_error hi hs xs, run_cons_error hi' hs1 ys⟩⟩

/-- Both take an image with its end. -/
theorem Agrees.run_image (h : Agrees r s) (h0 : r.skipDepth = 0) {x y : Located} {target : Target}
    (hi : r.startsImage? x.event = some target) (hy : endsImage y.event = true) (settings : Settings)
    (resolve : Resolver) :
    ∃ r1 s1, r1.skipDepth = 0 ∧ Agrees r1 s1 ∧ ∀ xs,
      run settings resolve (x :: y :: xs) r = run settings resolve xs r1 ∧
        run settings resolve (x :: y :: xs) s = run settings resolve xs s1 := by
  have hi' := (h.startsImage?_eq h0 x.event).trans hi
  have h0' : (r.hear x.notices).skipDepth = 0 := by rw [skipDepth_hear, h0]
  have h1 := ((h.hear x.notices x.notices).image h0' settings resolve target).hear y.notices y.notices
  exact ⟨_, _, by rw [skipDepth_hear, skipDepth_image, h0'], h1, fun xs =>
    ⟨run_cons_image hi hy xs, run_cons_image hi' hy xs⟩⟩

/-- The first takes an event that does not remain. -/
theorem Agrees.run_hidden (h : Agrees r s) {x : Located}
    (he : r.skipDepth + x.event.depthBehind r.skipDepth ≠ 0) (settings : Settings)
    (resolve : Resolver) :
    ∃ r1, r1.skipDepth = x.event.depthBehind r.skipDepth ∧ Agrees r1 s ∧ ∀ xs,
      run settings resolve (x :: xs) r = run settings resolve xs r1 := by
  rw [← skipDepth_hear r x.notices] at he ⊢
  obtain ⟨hi, r1, hs, h1⟩ := (h.hear_left x.notices).exists_hidden he settings x.span
  rw [startsImage?_hear] at hi
  exact ⟨r1, skipDepth_step hs, h1, fun xs => run_cons hi hs⟩

/-- A run and the run over what remains of its events go on alike and end alike. -/
theorem run_remaining (settings : Settings) (resolve : Resolver) :
    ∀ (xs : List Located) {r s : Rendering}, ImagesEnd (eventsOf xs) → Agrees r s →
      (run settings resolve (remaining r.skipDepth xs) s).2 = (run settings resolve xs r).2 ∧
        Agrees (run settings resolve xs r).1 (run settings resolve (remaining r.skipDepth xs) s).1
  | [], r, s, _, h => ⟨rfl, h⟩
  | x :: xs, r, s, himages, h => by
    by_cases hshown : r.skipDepth + x.event.depthBehind r.skipDepth = 0
    · obtain ⟨h0, hbehind⟩ := Nat.add_eq_zero_iff.1 hshown
      rw [h0] at hbehind
      rw [h0, remaining_of_shown hbehind]
      cases hi : r.startsImage? x.event with
      | none =>
        obtain ⟨r1, s1, hr1, h1, hrun⟩ | ⟨r1, s1, err, h1, hrun⟩ :=
          h.run_next h0 hbehind hi settings resolve
        · rw [(hrun xs).1, (hrun _).2, ← hr1]
          exact run_remaining settings resolve xs himages.tail h1
        · rw [(hrun xs (remaining 0 xs)).1, (hrun xs _).2]
          exact ⟨rfl, h1⟩
      | some target =>
        -- The end of the image comes next, and both runs take it with its start.
        rw [eventsOf_cons, (eq_of_startsImage? hi).1] at himages
        obtain ⟨rest, hrest⟩ := himages.exists_next
        cases xs with
        | nil => cases hrest
        | cons y ys =>
          have hy : y.event = .stop (.image target) := (List.cons.inj hrest).1
          obtain ⟨r1, s1, hr1, h1, hrun⟩ := h.run_image h0 hi (by rw [hy]; rfl) settings resolve
          rw [remaining_of_shown (by rw [hy]; rfl), (hrun ys).1, (hrun _).2, ← hr1]
          exact run_remaining settings resolve ys himages.tail.tail h1
    · obtain ⟨r1, hr1, h1, hrun⟩ := h.run_hidden hshown settings resolve
      rw [remaining, if_neg hshown, hrun, ← hr1]
      exact run_remaining settings resolve xs himages.tail h1

/-- Documents agree as the runs over their events do. -/
theorem document_remaining (settings : Settings) (resolve : Resolver) (frame : Option Text)
    {xs : List Located} (himages : ImagesEnd (eventsOf xs)) (ts us : List Notice)
    (table : Math.Table) :
    let a := document settings resolve frame xs ts table
    let b := document settings resolve frame (remaining 0 xs) us table
    b.2 = a.2 ∧ Agrees a.1 b.1 := by
  intro a b
  have hfresh : (initial settings frame table).skipDepth = 0 := by cases frame <;> rfl
  have hrun := run_remaining settings resolve xs himages (agrees_self hfresh)
  rw [hfresh] at hrun
  have ha : a = _ := document_run settings resolve frame xs ts table
  have hb : b = _ := document_run settings resolve frame (remaining 0 xs) us table
  rw [ha, hb]
  generalize run settings resolve xs (initial settings frame table) = p at hrun
  generalize run settings resolve (remaining 0 xs) (initial settings frame table) = q at hrun
  obtain ⟨r, err⟩ := p
  obtain ⟨s, err'⟩ := q
  obtain ⟨rfl, hagrees⟩ := hrun
  cases err' with
  | some e => exact ⟨rfl, hagrees⟩
  | none => exact ⟨rfl, ((hagrees.hear ts us).ended frame).hear [.renderingTimed] [.renderingTimed]⟩

end Rendering

open Rendering (document_remaining)

/-- A stream that nests, and whose images are empty, can be pruned in exactly one way. However a job is
set up, it renders the pruned stream as it does the whole one: to the same text, asking for the same
figures in the same order, and without an error or with the same one. -/
theorem render_pruned {xs : List Located} (h : WellNested .imageEmpty xs) :
    ∃ ys, (∀ zs, Pruned xs zs ↔ zs = ys) ∧
      ∀ (job : Job) (ts us : List Notice) (table : Math.Table),
        let whole := job.render xs ts table
        let pruned := job.render ys us table
        pruned.latex = whole.latex ∧ pruned.asked = whole.asked ∧ pruned.error = whole.error := by
  have hpruned := pruned_remaining (balanced_of_placed _ h.1 h.2)
  refine ⟨remaining 0 xs, fun zs => ⟨eq_remaining, fun hzs => hzs ▸ hpruned⟩,
    fun job ts us table => ?_⟩
  have himages := imagesEnd_of_wellNested h
  have hdocument : ∀ frame : Option Text,
      let whole := Converted.ofRendering []
        (Rendering.document job.settings job.resolve frame xs ts table)
      let pruned := Converted.ofRendering []
        (Rendering.document job.settings job.resolve frame (remaining 0 xs) us table)
      pruned.latex = whole.latex ∧ pruned.asked = whole.asked ∧ pruned.error = whole.error :=
    fun frame => by
      obtain ⟨herror, hagrees⟩ :=
        document_remaining job.settings job.resolve frame himages ts us table
      exact ⟨hagrees.latex_eq, hagrees.asked_eq, herror⟩
  unfold Job.render
  cases job.frame with
  | none => exact hdocument none
  | some frame =>
    cases frame with
    | ok preamble => exact hdocument (some preamble)
    | error e => exact ⟨rfl, rfl, rfl⟩

/-- A footnote definition in a table in a link, with an image in it, is taken out with the table. -/
theorem render_pruned_link :
    let link : Tag := .link ⟨some "u".toList, none, some .inline, none⟩
    let image : Tag := .image ⟨some "i".toList, none, some .inline, none⟩
    let note : Tag := .footnoteDefinition none
    let here (e : Event) : Located := ⟨e, ⟨0, 0⟩, []⟩
    let cell : List Located :=
      [here (.start note), here (.start image), here (.stop image), here (.stop note)]
    let table : List Located := here (.start .table) :: cell ++ [here (.stop .table)]
    let xs : List Located := here (.start .blockQuote) ::
      (here (.start link) :: (table ++ [here (.text "a".toList)]) ++ [here (.stop link)])
        ++ [here (.stop .blockQuote)]
    let ys : List Located := here (.start .blockQuote) ::
      (here (.start link) :: [here (.text "a".toList)] ++ [here (.stop link)])
        ++ [here (.stop .blockQuote)]
    let job : Job := { frame := some (.ok []), resolve := some }
    let whole := job.render xs [] (.ofOffsets [] 1)
    let pruned := job.render ys [] (.ofOffsets [] 1)
    WellNested .imageEmpty xs ∧ Pruned xs ys ∧
      pruned.latex = whole.latex ∧ pruned.asked = whole.asked ∧ pruned.error = whole.error := by
  intro link image note here cell table xs ys job whole pruned
  have hnested : WellNested .imageEmpty xs := by decide
  have hcell : Balanced (eventsOf cell) := .container note (.container image .nil)
  have htable : Pruned table [] := .removed rfl rfl rfl hcell
  have hpruned : Pruned xs ys := .kept rfl rfl rfl (.kept rfl rfl rfl (htable.append (.plain rfl)))
  obtain ⟨left, hunique, hrender⟩ := render_pruned hnested
  obtain rfl := (hunique ys).1 hpruned
  exact ⟨hnested, hpruned, hrender job [] [] (.ofOffsets [] 1)⟩

end Latex
end Texdown
