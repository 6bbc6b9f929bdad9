import Texdown.Proofs.Figures

/-!
# What conversions report

The parts of a conversion report each on what they do: the preparation, the walk, the rendering and the
formatter. No other notice comes out of a conversion, so what else is reported when its outcome is used
comes from there.

Results:
* `reports_streamOf`: the notices of a stream are those of its walk.
* `reports_document`: a document adds those of its rendering.
* `reports_convert`: a conversion reports nothing else.
-/
namespace Texdown

/-- Whether a part of a conversion reports this. -/
def Notice.ofConversion : Notice → Bool
  | delimitersDisguised _ | fragmentAmbiguous | spanClosedAtDollar | spanClosedAtLineBreak
  | spanClosedAtBlock | fragmentNotFound _ _ | codeSpanNotFound _ _ | tokenIgnored _ | tableIgnored
  | footnoteIgnored _ | footnoteReferenceIgnored _ | linkIgnored _ _ | imageIgnored _ _
  | imageUnresolved _ | htmlFound | renderingTimed => true
  | _ => false

/-- Notices of a conversion. -/
def FromConversion (ns : List Notice) : Prop := ∀ n ∈ ns, n.ofConversion = true

namespace FromConversion

theorem nil : FromConversion [] := fun n h => by cases h

theorem append {ns ms : List Notice} (h : FromConversion ns) (h' : FromConversion ms) :
    FromConversion (ns ++ ms) := fun n hn => (List.mem_append.1 hn).elim (h n) (h' n)

theorem single {n : Notice} (h : n.ofConversion = true) : FromConversion [n] := fun m hm => by
  rw [List.mem_singleton.1 hm]
  exact h

end FromConversion

/-! ## Streams -/

/-- A walk that reports on the channels of a conversion. -/
def Reports (k : Walker) : Prop :=
  ∀ w : Walk, FromConversion w.notices →
    (∀ x ∈ (k w).1, FromConversion x.notices) ∧ FromConversion (k w).2.notices

theorem reports_skip : Reports .skip := fun _ hw => ⟨List.forall_mem_nil _, hw⟩

theorem reports_leaf (e : Event) : Reports (.leaf e) := fun w hw =>
  ⟨fun x hx => by rw [List.mem_singleton.1 hx]; exact hw, FromConversion.nil⟩

/-- A walk that gives one event, with the notices made so far and perhaps one more. -/
theorem reports_single {k : Walker} (hk : ∀ w, ∃ e s l ns,
    k w = ([⟨e, s, w.notices ++ ns⟩], ⟨l, []⟩) ∧ FromConversion ns) : Reports k := fun w hw => by
  obtain ⟨e, s, l, ns, hkw, hns⟩ := hk w
  rw [hkw]
  exact ⟨fun x hx => by rw [List.mem_singleton.1 hx]; exact hw.append hns, .nil⟩

theorem Reports.andThen {a b : Walker} (ha : Reports a) (hb : Reports b) : Reports (.andThen a b) := by
  intro w hw
  obtain ⟨hxs, hw1⟩ := ha w hw
  obtain ⟨hys, hw2⟩ := hb (a w).2 hw1
  exact ⟨fun x hx => (List.mem_append.1 hx).elim (hxs x) (hys x), hw2⟩

theorem Reports.enclose (t : Tag) {k : Walker} (hk : Reports k) : Reports (.enclose t k) :=
  (reports_leaf _).andThen (hk.andThen (reports_leaf _))

theorem reports_fragment (event : Text → Event) (content : Text) : Reports (.fragment event content) :=
  reports_single fun w => by
    unfold Walker.fragment
    simp only [Walk.emit, Walk.move]
    split
    · exact ⟨_, _, _, [_], rfl, .single rfl⟩
    · exact ⟨_, _, _, [], by rw [List.append_nil], .nil⟩

theorem reports_codeSpan (content : Text) : Reports (.codeSpan content) :=
  reports_single fun w => by
    unfold Walker.codeSpan
    simp only [Walk.emit, Walk.move]
    split
    · exact ⟨_, _, _, [_], rfl, .single rfl⟩
    · exact ⟨_, _, _, [], by rw [List.append_nil], .nil⟩

theorem reports_nonempty (event : Text → Event) (content : Text) : Reports (.nonempty event content) := by
  unfold Walker.nonempty
  split
  · exact reports_skip
  · exact reports_fragment event content

theorem reports_codeLines (ls : List Text) : Reports (.codeLines ls) := by
  induction ls with
  | nil => exact reports_skip
  | cons l ls ih => exact (reports_fragment .text l).andThen ih

theorem reports_bracketed (opener : Text) (e : Event) : Reports (.bracketed opener e) :=
  reports_single fun w => ⟨_, _, _, [], by rw [List.append_nil]; rfl, .nil⟩

theorem reports_image (url : Text) (title label : Option Text) : Reports (.image url title label) := by
  intro w hw
  obtain ⟨x, y, hxs, hx, hy, hnone⟩ : ∃ x y, (Walker.image url title label w).1 = [x, y] ∧
      x.notices = w.notices ∧ y.notices = [] ∧ (Walker.image url title label w).2.notices = [] :=
    ⟨_, _, rfl, rfl, rfl, rfl⟩
  rw [hxs, hnone]
  refine ⟨fun z hz => ?_, FromConversion.nil⟩
  rw [List.mem_cons, List.mem_singleton] at hz
  rcases hz with rfl | rfl
  · rw [hx]; exact hw
  · rw [hy]; exact FromConversion.nil

/-- The start of a link takes over what the walk inside has reported. -/
theorem Reports.link (url : Text) (title label : Option Text) {inner : Walker} (h : Reports inner) :
    Reports (.link url title label inner) := by
  intro w hw
  obtain ⟨hinner, hbehind⟩ := h (linkStart w) hw
  obtain ⟨a, z, hxs, ha, hz, hnone⟩ : ∃ a z, (Walker.link url title label inner w).1
        = a :: ((inner (linkStart w)).1.map fun x => { x with notices := [] }) ++ [z] ∧
      a.notices = (inner (linkStart w)).1.flatMap (·.notices) ++ (inner (linkStart w)).2.notices ∧
      z.notices = [] ∧ (Walker.link url title label inner w).2.notices = [] :=
    ⟨_, _, rfl, rfl, rfl, rfl⟩
  rw [hxs, hnone]
  refine ⟨fun x hx => ?_, FromConversion.nil⟩
  rw [List.cons_append, List.mem_cons, List.mem_append, List.mem_singleton, List.mem_map] at hx
  rcases hx with rfl | ⟨y, -, rfl⟩ | rfl
  · rw [ha]
    refine .append (fun n hn => ?_) hbehind
    obtain ⟨y, hy, hn⟩ := List.mem_flatMap.1 hn
    exact hinner y hy n hn
  · exact FromConversion.nil
  · rw [hz]; exact FromConversion.nil

theorem reports_of_built {k : Walker} (h : Built k) : Reports k := by
  induction h with
  | skip => exact reports_skip
  | ignored name =>
    have hname : FromConversion [.tokenIgnored name] := .single rfl
    exact fun w hw => ⟨List.forall_mem_nil _, hw.append hname⟩
  | rule | softBreak | hardBreak => exact reports_leaf _
  | text raw | html raw => exact reports_nonempty _ raw
  | codeSpan raw => exact reports_codeSpan raw
  | image url title label => exact reports_image url title label
  | footnoteReference label => exact reports_bracketed _ _
  | footnote label => exact reports_skip.enclose _
  | codeBlock language raw => exact (reports_codeLines _).enclose _
  | task done _ ih => exact ((reports_bracketed _ _).andThen ih).enclose _
  | enclose _ _ ih => exact ih.enclose _
  | link url title label _ ih => exact ih.link url title label
  | andThen _ _ iha ihb => exact iha.andThen ihb

theorem reports_streamOf (source : Text) (tokens : List Token) :
    (∀ x ∈ (streamOf source tokens).1, FromConversion x.notices) ∧
      FromConversion (streamOf source tokens).2 :=
  reports_of_built (built_walkAll tokens) _ FromConversion.nil

/-! ## Formatters -/

namespace Latex

namespace Act

/-- Acts that make no other notices. -/
def FromConversion (acts : List Act) : Prop := ∀ n, Act.note n ∈ acts → n.ofConversion = true

theorem fromConversion_nil : FromConversion [] := fun _ hn => by cases hn

theorem FromConversion.append {as bs : List Act} (h : FromConversion as) (h' : FromConversion bs) :
    FromConversion (as ++ bs) := fun n hn => (List.mem_append.1 hn).elim (h n) (h' n)

theorem fromConversion_notes {ns : List Notice} (h : Texdown.FromConversion ns) :
    FromConversion (ns.map .note) := fun n hn => by
  obtain ⟨m, hm, heq⟩ := List.mem_map.1 hn
  exact Act.note.inj heq ▸ h m hm

theorem fromConversion_note {n : Notice} (h : n.ofConversion = true) : FromConversion [.note n] :=
  fun _ hm => Act.note.inj (List.mem_singleton.1 hm) ▸ h

theorem fromConversion_write (origin : Origin) (t : Text) : FromConversion [.write origin t] := by
  simp [FromConversion]

theorem fromConversion_line (origin : Origin) (t : Text) : FromConversion (Act.line origin t) := by
  simp [FromConversion, Act.line]

end Act

namespace Formatter

variable {f : Formatter}

theorem fromConversion_note (h : FromConversion f.notices) {n : Notice}
    (hn : n.ofConversion = true) : FromConversion (f.note n).notices := h.append (.single hn)

theorem fromConversion_flush (h : FromConversion f.notices) : FromConversion f.flush.notices := by
  change FromConversion f.closeMath.notices
  unfold closeMath
  split
  · exact fromConversion_note h rfl
  · exact h

theorem fromConversion_spans (t : Text) (h : FromConversion f.notices) :
    FromConversion (f.spans t).notices := by
  fun_induction spans f t with
  | case1 => exact h
  | case2 f t ho f' r hr ih => exact ih h
  | case3 f t ho f' r hr ih =>
    exact ih (fromConversion_note h rfl)
  | case4 => exact h
  | case5 f t ho a b hr ih => exact ih h

theorem fromConversion_writeEscaped (t : Text) (h : FromConversion f.notices) :
    FromConversion (f.writeEscaped t).notices := by
  have hflush := fromConversion_flush h
  have hdollar : FromConversion (f.flush.note .spanClosedAtDollar).notices :=
    fromConversion_note hflush rfl
  unfold writeEscaped
  simp only
  split
  · exact hflush
  · split
    · split
      · exact fromConversion_spans _ hdollar
      · exact fromConversion_spans _ hdollar
      · exact fromConversion_spans _ hflush
    · exact fromConversion_spans _ hflush

/-- Beside the notices among the acts, there are those of the formatter itself. -/
theorem fromConversion_perform {acts : List Act} (hacts : Act.FromConversion acts)
    (h : FromConversion f.notices) : FromConversion (f.perform acts).notices := by
  induction acts generalizing f with
  | nil => exact h
  | cons a acts ih =>
    refine ih (fun n hn => hacts n (List.mem_cons_of_mem _ hn)) ?_
    cases a with
    | note n => exact fromConversion_note h (hacts n List.mem_cons_self)
    | write origin t => exact fromConversion_flush h
    | escaped t => exact fromConversion_writeEscaped t h
    | add | cap | indent | dedent => exact h

end Formatter

/-! ## Documents -/

namespace Rendering

variable {settings : Settings} {resolve : Resolver} {r r' : Rendering}

/-- A fragment is reported if it does not fit its span. -/
theorem fromConversion_restored (table : Math.Table) (t : Text) (span : Span) :
    FromConversion (restored table t span).2 := by
  unfold restored
  split
  · next ns table' h =>
    unfold Math.Table.restore at h
    split at h
    · cases h
      exact .single rfl
    · simp only at h
      split at h
      · cases h
      · split at h
        all_goals
          obtain ⟨rfl, -⟩ := Prod.mk.inj (Prod.mk.inj h).2
          exact .nil
  · exact .nil

theorem fromConversion_openActs (depth : Nat) (t : Tag) : Act.FromConversion (openActs depth t) := by
  cases t with
  | list start =>
    cases start with
    | none => exact (Act.fromConversion_line _ _).append (by simp [Act.FromConversion])
    | some start =>
      refine (Act.fromConversion_line _ _).append ?_
      cases setCounter? depth start <;> simp [Act.FromConversion, Act.line]
  | link target =>
    simp only [openActs]
    split
    · exact Act.fromConversion_write _ _
    · exact Act.fromConversion_note rfl
  | footnoteDefinition | table => exact Act.fromConversion_note rfl
  | _ => simp [Act.FromConversion, openActs, Act.line]

theorem fromConversion_closeActs (lineOpen : Bool) (links : List Bool) (t : Tag) :
    Act.FromConversion (closeActs lineOpen links t) := by
  cases t with
  | list start => cases start <;> simp [Act.FromConversion, closeActs, Act.line]
  | codeBlock language => cases lineOpen <;> simp [Act.FromConversion, closeActs]
  | link target =>
    simp only [closeActs]
    split
    · exact Act.fromConversion_write _ _
    · exact Act.fromConversion_nil
  | _ => simp [Act.FromConversion, closeActs, Act.line]

theorem fromConversion_leafActs (settings : Settings) (r : Rendering) (span : Span) (e : Event) :
    Act.FromConversion (leafActs settings r span e) := by
  cases e with
  | text t =>
    refine (Act.fromConversion_notes (fromConversion_restored r.table t span)).append ?_
    cases r.inCode <;> simp [Act.FromConversion]
  | code t =>
    exact (Act.fromConversion_notes (fromConversion_restored _ t _)).append
      (Act.fromConversion_write _ _)
  | html t =>
    have hfound : FromConversion [.htmlFound] := .single rfl
    exact (Act.fromConversion_notes (hfound.append (fromConversion_restored r.table t span))).append
      (Act.fromConversion_write _ _)
  | softBreak =>
    simp only [leafActs]
    split <;> simp [Act.FromConversion]
  | footnoteReference label => exact Act.fromConversion_note rfl
  | _ => simp [Act.FromConversion, leafActs]

theorem fromConversion_acts (settings : Settings) (r : Rendering) (e : Event) (span : Span) :
    Act.FromConversion (r.acts settings e span) := by
  unfold acts
  split
  · exact Act.fromConversion_nil
  · cases e with
    | start t => exact fromConversion_openActs _ t
    | stop t => exact fromConversion_closeActs _ _ t
    | _ => exact fromConversion_leafActs settings r span _

theorem fromConversion_imageActs (settings : Settings) (resolve : Resolver) (target : Target) :
    Act.FromConversion (imageActs settings resolve target) := by
  unfold imageActs
  split
  · refine .append ?_ (Act.fromConversion_line _ _)
    split
    · exact Act.fromConversion_note rfl
    · exact Act.fromConversion_nil
  · exact Act.fromConversion_note rfl

theorem fromConversion_hear (h : FromConversion r.notices) {ns : List Notice} (hns : FromConversion ns) :
    FromConversion (r.hear ns).notices := by
  rw [hear_eq]
  exact h.append hns

theorem fromConversion_run {xs : List Located} (hxs : ∀ x ∈ xs, FromConversion x.notices)
    (h : FromConversion r.notices) : FromConversion (run settings resolve xs r).1.notices := by
  refine run_keeps (P := fun r => FromConversion r.notices) (fun hns h => fromConversion_hear h hns)
    (fun {r r' e span} hs h => ?_) (fun {r} target h => ?_) xs hxs h
  · rw [notices, formatter_step hs]
    exact Formatter.fromConversion_perform (fromConversion_acts settings r e span) h
  · rw [notices, formatter_image]
    exact Formatter.fromConversion_perform (fromConversion_imageActs settings resolve target) h

/-- A document reports what came with its events, and what its rendering does. -/
theorem reports_document (settings : Settings) (resolve : Resolver) (frame : Option Text)
    {xs : List Located} (hxs : ∀ x ∈ xs, FromConversion x.notices) {ts : List Notice}
    (hts : FromConversion ts) (table : Math.Table) :
    FromConversion (document settings resolve frame xs ts table).1.notices := by
  have hinitial : FromConversion (initial settings frame table).notices := by
    cases frame with
    | none => exact .nil
    | some preamble => exact Formatter.fromConversion_flush .nil
  have hrun : FromConversion (run settings resolve xs (initial settings frame table)).1.notices :=
    fromConversion_run hxs hinitial
  rw [document_run]
  generalize run settings resolve xs (initial settings frame table) = result at hrun
  obtain ⟨r, err⟩ := result
  cases err with
  | some e => exact hrun
  | none =>
    have hheard : FromConversion (r.hear ts).notices := fromConversion_hear hrun hts
    have hended : FromConversion (ended frame (r.hear ts)).notices := by
      cases frame with
      | none => exact Formatter.fromConversion_flush hheard
      | some preamble => exact Formatter.fromConversion_flush hheard
    exact hended.append (.single rfl)

end Rendering
end Latex

/-! ## Conversions -/

/-- A conversion reports what its parts do, and nothing else. -/
theorem reports_convert (job : Job) (read : Reader) (markdown : Text) :
    FromConversion (job.convert read markdown).notices := by
  have hprepare : ∀ table : Math.Table, FromConversion (Math.prepareNotices table) := fun table => by
    unfold Math.prepareNotices
    split
    · exact .nil
    · exact .single rfl
  unfold Job.convert Reader.events Reader.tokens
  cases hread : read (Math.prepare (Text.normalizeNewlines markdown)).1 with
  | error why =>
    simp only [hread]
    exact hprepare _
  | ok tokens =>
    obtain ⟨hxs, hts⟩ := reports_streamOf (Math.prepare (Text.normalizeNewlines markdown)).1 tokens
    simp only [hread]
    refine (hprepare _).append ?_
    unfold Job.render
    split
    · exact .nil
    · exact Latex.Rendering.reports_document _ _ _ hxs hts _
    · exact Latex.Rendering.reports_document _ _ _ hxs hts _

end Texdown
