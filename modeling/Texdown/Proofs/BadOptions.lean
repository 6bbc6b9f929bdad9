import Texdown.CommandLine.Session

/-!
# Options with bad values

A field of the options may hold any value until it is checked. A number that is compared, a name among
choices, a field that does not exist: whatever is wrong with them is reported as a bad value of an option. A
width that is no text is the one thing that is not, as it is asked whether it is blank before anything asks
whether it is a text.

Results:
* `checkPositive_spec`, `checkNonNegative_spec`, `checkChoice_spec`, `checkFilled_spec`: what a check accepts,
  and how it refuses.
* `RenderingOptions.reports_check_iff`: options are refused with a reported error unless their width is
  unusable.
* `settle_reports_iff`: settled options are reported exactly if no width is unusable on the way.
* `number_width_unhandled`: a width that is a number ends a session with an error that nothing handles.
-/
namespace Texdown

/-! ## Errors that are reported -/

namespace Options

/-- Whether an error about options is reported as a bad value. -/
def isReported : Error → Bool
  | .badValue _ | .wrongType _ => true
  | _ => false

/-- A computation that fails with reported errors only. -/
def Reports {α : Type} (r : Except Error α) : Prop := ∀ e, r = .error e → isReported e = true

variable {α β : Type}

theorem reports_ok (a : α) : Reports (.ok a : Except Error α) := nofun

theorem reports_error {e : Error} : Reports (.error e : Except Error α) ↔ isReported e = true :=
  ⟨fun h => h e rfl, fun h _ he => Except.error.inj he ▸ h⟩

theorem reports_bind {r : Except Error α} {f : α → Except Error β} :
    Reports (r >>= f) ↔ Reports r ∧ ∀ a, r = .ok a → Reports (f a) := by
  cases r with
  | error e =>
    have hbind : (.error e >>= f : Except Error β) = .error e := rfl
    rw [hbind, reports_error, reports_error]
    exact ⟨fun h => ⟨h, nofun⟩, And.left⟩
  | ok a =>
    have hbind : (.ok a >>= f : Except Error β) = f a := rfl
    rw [hbind]
    exact ⟨fun h => ⟨reports_ok a, fun _ ha => Except.ok.inj ha ▸ h⟩, fun h => h.2 a rfl⟩

theorem reports_andThen {r : Except Error Unit} {next : Except Error β} :
    Reports (r >>= fun _ => next) ↔ Reports r ∧ (r = .ok () → Reports next) :=
  reports_bind.trans (and_congr_right fun _ => ⟨fun h => h (), fun h _ => h⟩)

/-! ## Checks -/

theorem checkPositive_spec (name : Text) (v : Value) :
    Reports (checkPositive name v) ∧
      (checkPositive name v = .ok () ↔ v.ltInt? 0 = some false ∧ v.eqInt 0 = false) := by
  unfold checkPositive
  cases hless : v.ltInt? 0 with
  | none => exact ⟨reports_error.2 rfl, by simp⟩
  | some negative =>
    simp only [Option.some.injEq, ← Bool.or_eq_false_iff]
    cases negative || v.eqInt 0 with
    | true => exact ⟨reports_error.2 rfl, by simp⟩
    | false => exact ⟨reports_ok (), by simp⟩

theorem checkNonNegative_spec (name : Text) (v : Value) :
    Reports (checkNonNegative name v) ∧
      (checkNonNegative name v = .ok () ↔ v.ltInt? 0 = some false) := by
  unfold checkNonNegative
  cases hless : v.ltInt? 0 with
  | none => exact ⟨reports_error.2 rfl, by simp⟩
  | some negative =>
    cases negative with
    | true => exact ⟨reports_error.2 rfl, by simp⟩
    | false => exact ⟨reports_ok (), by simp⟩

theorem checkChoice_spec (name : Text) (choices : List Text) (v : Value) :
    Reports (checkChoice name choices v) ∧
      (checkChoice name choices v = .ok () ↔ choices.any v.isText = true) := by
  unfold checkChoice
  split
  · rename_i h
    exact ⟨reports_ok (), by simp [h]⟩
  · rename_i h
    exact ⟨reports_error.2 rfl, by simp [h]⟩

/-- The error about a value that is asked whether it is blank, and is no text. -/
def notBlankable (v : Value) : Error :=
  .unsupported (v.typeName.quoted ++ " object has no attribute 'strip'".toList)

/-- The check reports its errors exactly if the value is a text. -/
theorem checkFilled_spec (name : Text) (v : Value) :
    (Reports (checkFilled name v) ↔ v.asText?.isSome = true) ∧
      (v.asText? = none → checkFilled name v = .error (notBlankable v)) := by
  cases v with
  | text t =>
    refine ⟨⟨fun _ => rfl, fun _ => ?_⟩, nofun⟩
    unfold checkFilled
    simp only
    split
    · exact reports_error.2 rfl
    · exact reports_ok ()
  | _ => exact ⟨⟨fun h => absurd (h _ rfl) Bool.false_ne_true, nofun⟩, fun _ => rfl⟩

theorem reports_assign [Record α] (o : α) (fs : List (Text × Value)) : Reports (assign o fs) := by
  induction fs generalizing o with
  | nil => exact reports_ok o
  | cons f fs ih =>
    rw [assign]
    split
    · exact ih _
    · exact reports_error.2 rfl

/-- An update reports its errors exactly if the check of the assigned options does. -/
theorem reports_update_iff [Record α] (o : α) (fs : List (Text × Value)) :
    Reports (update o fs) ↔ ∀ o', assign o fs = .ok o' → Reports (Record.check o') := by
  rw [update, reports_bind, and_iff_right (reports_assign o fs)]
  refine forall₂_congr fun o' _ => ?_
  rw [reports_bind]
  exact and_iff_left fun _ _ => reports_ok _

end Options

/-! ## Options of the output -/

namespace RenderingOptions

/-- Options whose width is the first thing wrong with them, and wrong because it is no text. -/
structure WidthUnusable (o : RenderingOptions) : Prop where
  size : o.maxAssetSize.ltInt? 0 = some false ∧ o.maxAssetSize.eqInt 0 = false
  indent : o.indentWidth.ltInt? 0 = some false
  softBreak : softBreaks.any o.softBreak.isText = true
  width : o.imageWidth.asText? = none

theorem widthUnusable_iff (o : RenderingOptions) : o.WidthUnusable ↔
    Options.checkPositive "max_asset_size_bytes".toList o.maxAssetSize = .ok () ∧
      Options.checkNonNegative "indent_width".toList o.indentWidth = .ok () ∧
      Options.checkChoice "soft_break_mode".toList softBreaks o.softBreak = .ok () ∧
      o.imageWidth.asText? = none := by
  rw [(Options.checkPositive_spec _ _).2, (Options.checkNonNegative_spec _ _).2,
    (Options.checkChoice_spec _ _ _).2]
  exact ⟨fun h => ⟨h.size, h.indent, h.softBreak, h.width⟩, fun ⟨h1, h2, h3, h4⟩ => ⟨h1, h2, h3, h4⟩⟩

/-- Options are refused with a reported error unless their width is unusable. -/
theorem reports_check_iff (o : RenderingOptions) : Options.Reports o.check ↔ ¬ o.WidthUnusable := by
  rw [check, Options.reports_andThen, Options.reports_andThen, Options.reports_andThen,
    (Options.checkFilled_spec _ _).1, and_iff_right (Options.checkPositive_spec _ _).1,
    and_iff_right (Options.checkNonNegative_spec _ _).1, and_iff_right (Options.checkChoice_spec _ _ _).1,
    widthUnusable_iff, Option.isSome_iff_ne_none]
  simp only [not_and, ne_eq]

theorem check_of_widthUnusable {o : RenderingOptions} (h : o.WidthUnusable) :
    o.check = .error (Options.notBlankable o.imageWidth) := by
  obtain ⟨hsize, hindent, hsoftBreak, hwidth⟩ := (widthUnusable_iff o).1 h
  rw [check, hsize, hindent, hsoftBreak, (Options.checkFilled_spec _ _).2 hwidth]
  rfl

end RenderingOptions

/-! ## Options that are settled -/

namespace CommandLine

open Options (isReported notBlankable)

/-- Options that a session comes to check: those of a configuration, and, where they are accepted, those with
the switches on top. -/
inductive Checked (c : Config.Settings) (a : Arguments) : RenderingOptions → Prop
  | configured {o : RenderingOptions} (h : Options.assign {} c.rendering = .ok o) : Checked c a o
  | switched {o o' : RenderingOptions} (h : Options.update {} c.rendering = .ok o)
      (h' : Options.assign o a.rendering = .ok o') : Checked c a o'

/-- What is settled, before its errors are reported. -/
def chosen (c : Config.Settings) (a : Arguments) : Except Error Chosen := do
  let rendering ← Options.update ({} : RenderingOptions) c.rendering
  let rendering ← Options.update rendering a.rendering
  let reading ← Options.update ({} : ReadingOptions) c.reading
  let reading ← Options.update reading a.reading
  return ⟨rendering, reading⟩

theorem settle_eq (c : Config.Settings) (a : Arguments) :
    settle c a = (chosen c a).mapError ofOptionError := rfl

theorem reports_reading (o : ReadingOptions) (fs : List (Text × Value)) : Options.Reports (Options.update o fs) :=
  (Options.reports_update_iff o fs).2 fun _ _ => Options.reports_ok ()

theorem reports_chosen {c : Config.Settings} {a : Arguments}
    (h : ∀ o, Checked c a o → ¬ o.WidthUnusable) : Options.Reports (chosen c a) := by
  have hcheck : ∀ o, Checked c a o → Options.Reports (Options.Record.check o) := fun o ho =>
    (RenderingOptions.reports_check_iff o).2 (h o ho)
  refine Options.reports_bind.2 ⟨(Options.reports_update_iff _ _).2 fun o ho => hcheck o (.configured ho),
    fun o ho => Options.reports_bind.2 ⟨(Options.reports_update_iff _ _).2 fun o' ho' =>
      hcheck o' (.switched ho ho'), fun o' _ => ?_⟩⟩
  exact Options.reports_bind.2 ⟨reports_reading _ _, fun r _ =>
    Options.reports_bind.2 ⟨reports_reading _ _, fun r' _ => Options.reports_ok _⟩⟩

/-- An unusable width is the error that comes of everything behind it. -/
theorem chosen_of_widthUnusable {c : Config.Settings} {a : Arguments} {o : RenderingOptions}
    (ho : Checked c a o) (h : o.WidthUnusable) : chosen c a = .error (notBlankable o.imageWidth) := by
  have hcheck : Options.Record.check o = .error (notBlankable o.imageWidth) :=
    RenderingOptions.check_of_widthUnusable h
  cases ho with
  | configured hassign =>
    have hupdate : Options.update ({} : RenderingOptions) c.rendering
        = .error (notBlankable o.imageWidth) := by
      rw [Options.update, hassign]
      exact congrArg (· >>= fun _ => .ok o) hcheck
    rw [chosen, hupdate]
    rfl
  | @switched o₀ _ hconfigured hassign =>
    have hupdate : Options.update o₀ a.rendering = .error (notBlankable o.imageWidth) := by
      rw [Options.update, hassign]
      exact congrArg (· >>= fun _ => .ok o) hcheck
    rw [chosen, hconfigured]
    change (Options.update o₀ a.rendering >>= _) = _
    rw [hupdate]
    rfl

theorem settle_of_reports {c : Config.Settings} {a : Arguments} (h : Options.Reports (chosen c a)) :
    (∃ o, settle c a = .ok o) ∨ ∃ message, settle c a = .error (invalidOption message) := by
  rw [settle_eq]
  cases hchosen : chosen c a with
  | ok o => exact .inl ⟨o, rfl⟩
  | error e =>
    have he := h e hchosen
    cases e with
    | badValue message => exact .inr ⟨message, rfl⟩
    | wrongType message => exact .inr ⟨message, rfl⟩
    | _ => cases he

theorem settle_of_widthUnusable {c : Config.Settings} {a : Arguments} {o : RenderingOptions}
    (ho : Checked c a o) (h : o.WidthUnusable) : settle c a = .error (notBlankable o.imageWidth) := by
  rw [settle_eq, chosen_of_widthUnusable ho h]
  rfl

/-- Bad values are reported as validation errors, and no other error comes out, exactly if the width of no
options that are checked is unusable. If one is, what comes out is an error that a session does not handle. -/
theorem settle_reports_iff (c : Config.Settings) (a : Arguments) :
    (((∃ o, settle c a = .ok o) ∨ ∃ message, settle c a = .error (invalidOption message)) ↔
      ∀ o, Checked c a o → ¬ o.WidthUnusable) ∧
    ∀ o, Checked c a o → o.WidthUnusable →
      settle c a = .error (notBlankable o.imageWidth) ∧ isHandled (notBlankable o.imageWidth) = false := by
  refine ⟨⟨?_, fun h => settle_of_reports (reports_chosen h)⟩,
    fun o ho h => ⟨settle_of_widthUnusable ho h, rfl⟩⟩
  rintro hsettle o ho h
  rw [settle_of_widthUnusable ho h] at hsettle
  rcases hsettle with ⟨_, hok⟩ | ⟨_, herror⟩
  · cases hok
  · cases herror

/-- A size below zero is reported in front of a width that is no text. -/
theorem settle_reports_iff_size :
    ∃ message, settle ⟨[("max_asset_size_bytes".toList, .integer (-1)),
      ("image_width".toList, .list [])], [], []⟩ {} = .error (invalidOption message) := by
  have hnone : ∀ o, Checked ⟨[("max_asset_size_bytes".toList, .integer (-1)),
      ("image_width".toList, .list [])], [], []⟩ {} o → ¬ o.WidthUnusable := by
    rintro o (h | ⟨h, -⟩) hwidth
    · cases h
      cases hwidth.size.1
    · cases h
  rcases (settle_reports_iff _ _).1.2 hnone with ⟨_, hok⟩ | h
  · cases hok
  · exact h

/-- A width that is a number is no validation error. -/
theorem number_width_unhandled :
    settle ⟨[("image_width".toList, .integer 5)], [], []⟩ {}
        = .error (.unsupported "'int' object has no attribute 'strip'".toList) ∧
      isHandled (.unsupported "'int' object has no attribute 'strip'".toList) = false := by
  have hmessage : notBlankable (.integer 5) = .unsupported "'int' object has no attribute 'strip'".toList := by
    decide +kernel
  have hwidth : RenderingOptions.WidthUnusable { imageWidth := .integer 5 } := ⟨⟨rfl, rfl⟩, rfl, rfl, rfl⟩
  exact ⟨(settle_of_widthUnusable (.configured rfl) hwidth).trans (congrArg Except.error hmessage), rfl⟩

end CommandLine
end Texdown
