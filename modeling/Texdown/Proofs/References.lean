import Texdown.Proofs.Inert
import Texdown.Proofs.NextText

/-!
# References to dollars

Character references are decoded before text is scanned for math. A dollar that is named by a reference is
written as a protected dollar, but two of them that come to stand next to each other are a delimiter, as
if they had been written. They do not have to stand next to each other in the document: a reference to a
control character stands for nothing.

Results:
* `reference?_local`: a reference is read in the same way whatever comes behind it.
* `decodeReferences_append`: text is decoded in pieces that begin with an ampersand.
* `eq_dollar_of_reference`: no reference stands for a dollar and something else.
* `names_delimiter_iff`: which texts without a dollar have a delimiter once they are decoded.
* `splitAtDelimiter?_eq_none_iff`, `Inert.dollar`: text is cut exactly at delimiters, and no dollar of
  escaped text is unprotected.
* `dollars_protected_iff`: outside of math, the dollars written for a text are protected exactly if it has
  no delimiter.
* `references_delimit_iff`: the same for the text events of a document.
-/
namespace Texdown.Text

open Latex (infix_of_infix_append)

/-! ## References -/

theorem untilSemicolon?_eq_some_iff {p : Char → Bool} (hp : p ';' = false) {limit : Nat}
    {t run rest : Text} : untilSemicolon? p limit t = some (run, rest) ↔
      t = run ++ ';' :: rest ∧ (∀ c ∈ run, p c = true) ∧ 1 ≤ run.length ∧ run.length ≤ limit := by
  constructor
  · intro h
    have hsplit : t.takeWhile p ++ t.dropWhile p = t := List.takeWhile_append_dropWhile
    have hrun := List.all_eq_true.1 (List.all_takeWhile (p := p) (l := t))
    unfold untilSemicolon? at h
    split at h
    · next tail heq =>
      split at h
      · next hlength =>
        cases h
        rw [heq] at hsplit
        exact ⟨hsplit.symm, hrun, hlength⟩
      · cases h
    · cases h
  · rintro ⟨rfl, hrun, hlength⟩
    have htake : (run ++ ';' :: rest).takeWhile p = run := by
      rw [List.takeWhile_append_of_pos hrun, List.takeWhile_cons_of_neg (by simp [hp]), List.append_nil]
    have hdrop : (run ++ ';' :: rest).dropWhile p = ';' :: rest := by
      rw [List.dropWhile_append_of_pos hrun, List.dropWhile_cons_of_neg (by simp [hp])]
    unfold untilSemicolon?
    rw [htake, hdrop]
    exact if_pos hlength

/-- A run is read in the same way whatever comes behind its semicolon. -/
theorem untilSemicolon?_local {p : Char → Bool} (hp : p ';' = false) {limit : Nat} {t run rest : Text}
    (h : untilSemicolon? p limit t = some (run, rest)) :
    t = run ++ ';' :: rest ∧ (∀ c ∈ run, p c = true) ∧ run ≠ [] ∧
      ∀ b, untilSemicolon? p limit (run ++ ';' :: b) = some (run, b) := by
  obtain ⟨ht, hrun, hlength⟩ := (untilSemicolon?_eq_some_iff hp).1 h
  refine ⟨ht, hrun, ?_, fun b => (untilSemicolon?_eq_some_iff hp).2 ⟨rfl, hrun, hlength⟩⟩
  rintro rfl
  exact absurd hlength.1 (by decide)

/-- So is a reference, which holds no ampersand. -/
theorem reference?_local {t s rest : Text} (h : reference? t = some (s, rest)) :
    ∃ u, t = u ++ rest ∧ '&' ∉ u ∧ ∀ b, reference? (u ++ b) = some (s, b) := by
  have hamp : ∀ {p : Char → Bool} {run : Text}, p '&' = false → (∀ c ∈ run, p c = true) →
      '&' ∉ run :=
    fun hp hrun hmem => by cases hp.symm.trans (hrun _ hmem)
  unfold reference? at h
  split at h
  · obtain ⟨⟨run, rest'⟩, hread, he⟩ := Option.map_eq_some_iff.1 h
    cases he
    obtain ⟨rfl, hrun, -, hlocal⟩ := untilSemicolon?_local rfl hread
    refine ⟨'#' :: 'x' :: run ++ [';'], by simp, by simp [hamp rfl hrun], fun b => ?_⟩
    simp [reference?, reference?.hexadecimal, hlocal]
  · obtain ⟨⟨run, rest'⟩, hread, he⟩ := Option.map_eq_some_iff.1 h
    cases he
    obtain ⟨rfl, hrun, -, hlocal⟩ := untilSemicolon?_local rfl hread
    refine ⟨'#' :: 'X' :: run ++ [';'], by simp, by simp [hamp rfl hrun], fun b => ?_⟩
    simp [reference?, reference?.hexadecimal, hlocal]
  · obtain ⟨⟨run, rest'⟩, hread, he⟩ := Option.map_eq_some_iff.1 h
    cases he
    obtain ⟨rfl, hrun, hne, hlocal⟩ := untilSemicolon?_local rfl hread
    refine ⟨'#' :: run ++ [';'], by simp, by simp [hamp rfl hrun], fun b => ?_⟩
    obtain ⟨d, ds, rfl⟩ := List.exists_cons_of_ne_nil hne
    have hd := hrun d List.mem_cons_self
    have hlower : d ≠ 'x' := by rintro rfl; cases hd
    have hupper : d ≠ 'X' := by rintro rfl; cases hd
    have hb := hlocal b
    simp only [List.cons_append] at hb
    simp [reference?, hb, hlower, hupper]
  · next c r _ _ hhash =>
    split at h
    · next hletter =>
      obtain ⟨⟨run, rest'⟩, hread, he⟩ := Option.map_eq_some_iff.1 h
      cases he
      obtain ⟨rfl, hrun, -, hlocal⟩ := untilSemicolon?_local rfl hread
      have hc : c ≠ '#' := by rintro rfl; cases hletter
      have hcamp : '&' ≠ c := by rintro rfl; cases hletter
      refine ⟨c :: run ++ [';'], by simp, by simp [hamp rfl hrun, hcamp], fun b => ?_⟩
      simp [reference?, hlocal, hletter, hc]
    · cases h
  · cases h

/-- A text that is read as a reference as a whole is one in front of every other. -/
theorem reference?_whole {v s : Text} (h : reference? v = some (s, [])) (b : Text) :
    reference? (v ++ b) = some (s, b) := by
  obtain ⟨u, rfl, -, hlocal⟩ := reference?_local h
  rw [List.append_nil]
  exact hlocal b

/-! ## References to dollars -/

/-- No name stands for a dollar and something else. -/
theorem eq_dollar_of_named {name s : Text} (h : namedReference? name = some s) (hs : '$' ∈ s) :
    s = ['$'] := by
  have htable : ∀ p ∈ namedReferences, p.2 = "$" ∨ 36 ∉ p.2.toByteArray.data.toList := by decide +kernel
  obtain ⟨v, hv, rfl⟩ := Option.map_eq_some_iff.1 h
  obtain ⟨front, behind, hsplit, -⟩ := List.lookup_eq_some_iff.1 hv
  rcases htable (String.ofList name, v) (hsplit ▸ by simp) with hdollar | hbytes
  · dsimp only at hdollar
    rw [hdollar]
    rfl
  · refine absurd ?_ hbytes
    rw [← String.utf8Encode_toList, List.utf8Encode, List.toList_data_toByteArray]
    exact List.mem_flatMap.2 ⟨'$', hs, by decide⟩

theorem length_codeReference (n : Nat) : (codeReference n).length ≤ 1 := by
  unfold codeReference
  repeat' split
  all_goals simp

theorem eq_dollar_of_code {n : Nat} (hs : '$' ∈ codeReference n) : codeReference n = ['$'] := by
  have hlength := length_codeReference n
  cases h : codeReference n with
  | nil => rw [h] at hs; cases hs
  | cons c cs =>
    rw [h, List.length_cons] at hlength
    obtain rfl : cs = [] := List.eq_nil_of_length_eq_zero (by omega)
    rw [h, List.mem_singleton] at hs
    rw [← hs]

/-- Whatever a reference to a dollar is, it stands for that dollar only. -/
theorem eq_dollar_of_reference {t s rest : Text} (h : reference? t = some (s, rest)) (hs : '$' ∈ s) :
    s = ['$'] := by
  unfold reference? at h
  split at h
  · obtain ⟨⟨run, rest'⟩, hread, he⟩ := Option.map_eq_some_iff.1 h
    cases he
    exact eq_dollar_of_code hs
  · obtain ⟨⟨run, rest'⟩, hread, he⟩ := Option.map_eq_some_iff.1 h
    cases he
    exact eq_dollar_of_code hs
  · obtain ⟨⟨run, rest'⟩, hread, he⟩ := Option.map_eq_some_iff.1 h
    cases he
    exact eq_dollar_of_code hs
  · next c r _ _ _ =>
    split at h
    · next hletter =>
      obtain ⟨⟨run, rest'⟩, hread, he⟩ := Option.map_eq_some_iff.1 h
      cases he
      cases hname : namedReference? (c :: run) with
      | some s =>
        rw [hname] at hs
        exact eq_dollar_of_named hname hs
      | none =>
        -- An unknown name is kept, and has letters and digits only.
        obtain ⟨-, hrun, -⟩ := untilSemicolon?_local rfl hread
        have hc : '$' ≠ c := by rintro rfl; cases hletter
        have hmem : '$' ∉ run := fun hmem => by cases hrun _ hmem
        simp [hname, hc, hmem] at hs
    · cases h
  · cases h

/-! ## Decoding -/

theorem decodeReferences_char {c : Char} (hc : c ≠ '&') (r : Text) :
    decodeReferences (c :: r) = c :: decodeReferences r := by
  rw [decodeReferences, if_neg hc]

theorem decodeReferences_reference {r s rest : Text} (h : reference? r = some (s, rest)) :
    decodeReferences ('&' :: r) = s ++ decodeReferences rest := by
  rw [decodeReferences, if_pos rfl]
  split
  · next h' => rw [h] at h'; cases h'; rfl
  · next h' => rw [h] at h'; cases h'

theorem decodeReferences_ampersand {r : Text} (h : reference? r = none) :
    decodeReferences ('&' :: r) = '&' :: decodeReferences r := by
  rw [decodeReferences, if_pos rfl]
  split
  · next h' => rw [h] at h'; cases h'
  · rfl

/-- No reference reaches over an ampersand. -/
theorem decodeReferences_append (a b : Text) :
    decodeReferences (a ++ '&' :: b) = decodeReferences a ++ decodeReferences ('&' :: b) := by
  fun_induction decodeReferences a with
  | case1 => rfl
  | case2 r s rest h ih =>
    obtain ⟨u, rfl, -, hlocal⟩ := reference?_local h
    rw [List.cons_append, List.append_assoc, decodeReferences_reference (hlocal _), ih, List.append_assoc]
  | case3 r h ih =>
    have hnone : reference? (r ++ '&' :: b) = none := by
      cases hread : reference? (r ++ '&' :: b) with
      | none => rfl
      | some read =>
        obtain ⟨s, rest⟩ := read
        obtain ⟨u, hu, hamp, hlocal⟩ := reference?_local hread
        rcases List.append_eq_append_iff.1 hu with ⟨d, rfl, hd⟩ | ⟨d, rfl, -⟩
        · cases d with
          | nil =>
            have hr := hlocal []
            rw [List.append_nil, List.append_nil, h] at hr
            cases hr
          | cons e d =>
            obtain ⟨rfl, -⟩ := List.cons.inj hd
            exact absurd (List.mem_append_right r List.mem_cons_self) hamp
        · rw [hlocal] at h
          cases h
    rw [List.cons_append, decodeReferences_ampersand hnone, ih, List.cons_append]
  | case4 c r hc ih => rw [List.cons_append, decodeReferences_char hc, ih, List.cons_append]

/-- A complete reference and what it stands for. -/
def IsReference (u s : Text) : Prop := ∃ v, u = '&' :: v ∧ reference? v = some (s, [])

/-- Two references to a dollar, with nothing between them but references to nothing. -/
def NamesDelimiter (t : Text) : Prop :=
  ∃ a u w v b, t = a ++ u ++ w ++ v ++ b ∧ IsReference u ['$'] ∧ decodeReferences w = [] ∧
    IsReference v ['$']

theorem NamesDelimiter.behind {t : Text} (h : NamesDelimiter t) (front : Text) :
    NamesDelimiter (front ++ t) := by
  obtain ⟨a, u, w, v, b, rfl, h⟩ := h
  exact ⟨front ++ a, u, w, v, b, by simp only [List.append_assoc], h⟩

/-- A text that begins with a dollar once it is decoded, but has none, begins with a reference to one. -/
theorem exists_dollar_first {t s : Text} (hdollar : '$' ∉ t) (h : decodeReferences t = '$' :: s) :
    ∃ w v b, t = w ++ v ++ b ∧ decodeReferences w = [] ∧ IsReference v ['$'] := by
  fun_induction decodeReferences t with
  | case1 => cases h
  | case2 r s' rest href ih =>
    obtain ⟨u, rfl, -, hlocal⟩ := reference?_local href
    have hu : reference? u = some (s', []) := by simpa using hlocal []
    cases s' with
    | nil =>
      obtain ⟨w, v, b, rfl, hw, hv⟩ := ih (fun hmem => hdollar (by simp [hmem])) h
      refine ⟨'&' :: u ++ w, v, b, by simp, ?_, hv⟩
      rw [List.cons_append, decodeReferences_reference (hlocal w), hw]
      rfl
    | cons c s' =>
      obtain ⟨rfl, -⟩ := List.cons.inj h
      have hone := eq_dollar_of_reference hu List.mem_cons_self
      exact ⟨[], '&' :: u, rest, by simp, by simp [decodeReferences], u, rfl, hone ▸ hu⟩
  | case3 r href ih => cases (List.cons.inj h).1
  | case4 c r hc ih =>
    obtain ⟨rfl, -⟩ := List.cons.inj h
    exact absurd List.mem_cons_self hdollar

/-- Two dollars that are only named stand next to each other once they are decoded. -/
theorem names_delimiter_iff {t : Text} (hdollar : '$' ∉ t) :
    ['$', '$'] <:+: decodeReferences t ↔ NamesDelimiter t := by
  constructor
  · intro h
    fun_induction decodeReferences t with
    | case1 => simp at h
    | case2 r s rest href ih =>
      obtain ⟨u, rfl, -, hlocal⟩ := reference?_local href
      have hrest : '$' ∉ rest := fun hmem => hdollar (by simp [hmem])
      have hbehind : ['$', '$'] <:+: decodeReferences rest → NamesDelimiter ('&' :: (u ++ rest)) :=
        fun h => (ih hrest h).behind ('&' :: u)
      by_cases hs : '$' ∈ s
      · obtain rfl := eq_dollar_of_reference href hs
        rw [List.singleton_append, List.infix_cons_iff, List.cons_prefix_cons] at h
        rcases h with ⟨-, after, hafter⟩ | h
        · obtain ⟨w, v, b, rfl, hw, hv⟩ := exists_dollar_first hrest hafter.symm
          have hu : reference? u = some (['$'], []) := by simpa using hlocal []
          exact ⟨[], '&' :: u, w, v, b, by simp, ⟨u, rfl, hu⟩, hw, hv⟩
        · exact hbehind h
      · refine hbehind (infix_of_infix_append (a := []) (g := s) (fun c hc hmem => ?_) h)
        obtain rfl : c = '$' := by simpa using hmem
        exact hs hc
    | case3 r href ih =>
      rw [List.infix_cons_iff, List.cons_prefix_cons] at h
      rcases h with ⟨hc, -⟩ | h
      · cases hc
      · exact (ih (fun hmem => hdollar (List.mem_cons_of_mem _ hmem)) h).behind ['&']
    | case4 c r hc ih =>
      rw [List.infix_cons_iff, List.cons_prefix_cons] at h
      rcases h with ⟨rfl, -⟩ | h
      · exact absurd List.mem_cons_self hdollar
      · exact (ih (fun hmem => hdollar (List.mem_cons_of_mem c hmem)) h).behind [c]
  · rintro ⟨a, _, w, _, b, rfl, ⟨u, rfl, hu⟩, hw, v, rfl, hv⟩
    have hsplit : a ++ '&' :: u ++ w ++ '&' :: v ++ b = a ++ '&' :: (u ++ (w ++ '&' :: (v ++ b))) := by
      simp
    refine ⟨decodeReferences a, decodeReferences b, ?_⟩
    rw [hsplit, decodeReferences_append, decodeReferences_reference (reference?_whole hu _),
      decodeReferences_append, hw, List.nil_append, decodeReferences_reference (reference?_whole hv _)]
    simp

end Texdown.Text

namespace Texdown.Latex

/-- Text is cut exactly if two dollars stand next to each other. -/
theorem splitAtDelimiter?_eq_none_iff {t : Text} :
    splitAtDelimiter? t = none ↔ ¬ ['$', '$'] <:+: t := by
  refine ⟨fun h hinfix => ?_, Pass.splitAtDelimiter?_eq_none⟩
  fun_induction splitAtDelimiter? t with
  | case1 r => cases h
  | case2 c r hne ih =>
    rw [List.infix_cons_iff] at hinfix
    rcases hinfix with ⟨s, hs⟩ | hinfix
    · obtain ⟨rfl, rfl⟩ := List.cons.inj hs
      exact hne _ rfl rfl
    · exact ih (by simpa using h) hinfix
  | case3 => simp at hinfix

namespace Inert

theorem of_plain {t : Text} (h : ∀ c ∈ t, c ∉ specials) : Inert t := by
  induction t with
  | nil => exact .nil
  | cons c t ih => exact .plain (h c List.mem_cons_self) (ih fun d hd => h d (List.mem_cons_of_mem c hd))

/-- No dollar of an inert text is unprotected. -/
theorem dollar {t : Text} (h : Inert t) : '$' ∉ unprotected t := by
  have hwords : ∀ w ∈ substitutes, '$' ∉ unprotected w := by decide
  induction h with
  | nil => simp [unprotected]
  | substitute hw _ ih =>
    rw [unprotected_substitute hw, List.mem_append, not_or]
    exact ⟨hwords _ hw, ih⟩
  | @plain c t hc _ ih =>
    have hslash : c ≠ '\\' := fun h => hc (h ▸ by decide)
    have hdollar : '$' ≠ c := fun h => hc (h ▸ by decide)
    rw [unprotected_cons hslash, List.mem_cons, not_or]
    exact ⟨hdollar, ih⟩

end Inert

namespace Formatter

variable {f : Formatter}

/-- The line breaks outside of math are blanks. -/
theorem inert_breaks (h : f.mathOpen = false) : Inert f.breaks := by
  refine .of_plain fun c hc => ?_
  rw [breaks, h] at hc
  rcases blank_gap _ c (by simpa using hc) with rfl | rfl <;> decide

/-- Outside of math, no dollar that is written for a text is unprotected and no math is opened, exactly if
no two dollars stand next to each other in it. -/
theorem dollars_protected_iff (haware : f.mathAware = true) (h : f.mathOpen = false) (t : Text) :
    ((f.writeEscaped t).mathOpen = false ∧ '$' ∉ unprotected (chars (f.sayText t))) ↔
      ¬ ['$', '$'] <:+: t := by
  have hflush := (flush_of_closed h).2
  have hchars : chars (f.sayText t) = f.breaks ++ (transduce .text t).1 := by
    rw [sayText, if_pos haware, hflush, chars_append, chars_say, chars_transcribe]
    rfl
  rw [hchars, transduce_text, ← splitAtDelimiter?_eq_none_iff]
  cases hsplit : splitAtDelimiter? t with
  | none =>
    refine ⟨fun _ => rfl, fun _ => ⟨?_, ((inert_breaks h).append (inert_escape t)).dollar⟩⟩
    rw [writeEscaped_of_split h hsplit]
    exact hflush
  | some cut =>
    obtain ⟨a, b⟩ := cut
    refine ⟨fun hnone => absurd ?_ hnone.2, fun hnone => by cases hnone⟩
    -- What is written in front of the delimiter protects nothing.
    have hfront := ((inert_breaks h).append (inert_escape a)).unprotected_append
      ('$' :: (transduce .math b).1)
    rw [show f.breaks ++ (behind (escape a ++ ['$']) (transduce .math b)).1
      = (f.breaks ++ escape a) ++ '$' :: (transduce .math b).1 by simp [behind], hfront,
      unprotected_cons (by decide)]
    simp

end Formatter

namespace Rendering

open Math (prepare disguise)

/-- A text event outside of code and of math, whose text has no dollar: math stays closed and every dollar
that is written is protected, unless it is written and two references in it name a delimiter. -/
theorem references_delimit_iff (settings : Settings) (resolve : Resolver) (frame : Option Text) {o : Text}
    {tokens : List Token} {pre post : List Located} {x : Located} {payload : Text} {r : Rendering}
    (hxs : (streamOf (prepare o).1 tokens).1 = pre ++ x :: post) (hx : x.event = .text payload)
    (hcode : (openTags [] (eventsOf pre)).head?.any Tag.isCodeBlock = false)
    (haware : settings.mathAware = true)
    (hrun : run settings resolve pre (initial settings frame (prepare o).2) = (r, none))
    (hclosed : r.formatter.mathOpen = false) :
    ∃ t ns table r' added, r.table.restore payload x.span = (.ok t, ns, table) ∧
      run settings resolve (pre ++ [x]) (initial settings frame (prepare o).2) = (r', none) ∧
      r'.latex = r.latex ++ added ∧
      ('$' ∉ t → (r'.formatter.mathOpen = false ∧ '$' ∉ unprotected added ↔
        (Outside pre → ¬ Text.NamesDelimiter t))) := by
  obtain ⟨r0, hruns, hready, hcoded⟩ := exists_coded_to hxs (by rw [hx]; rfl) settings resolve frame
  obtain rfl : r0 = r := congrArg Prod.fst (hruns.run_eq.symm.trans hrun)
  obtain ⟨t, ns, table, hrestore, hwords⟩ := hready.exists_restored (Math.disguised_disguise o) (.inl hx)
  have hi : r0.startsImage? x.event = none := by rw [hx]; rfl
  obtain ⟨r', hs, -⟩ := hready.step settings (Math.disguised_disguise o) hi
  have hruns1 : Runs settings resolve [x] r0 r' := .event hi hs (.nil r')
  refine ⟨t, ns, table, r', _, hrestore, hruns.run_append.trans hruns1.run_eq, hruns1.text_eq,
    fun hdollar => ?_⟩
  rw [glyphsOf_event hi hs, glyphsOf, List.append_nil]
  rcases Nat.eq_zero_or_pos (skipping (openTags [] (eventsOf pre))) with h0 | hpos
  · obtain ⟨f, hmath, hfaware, hsaid, hr'⟩ := exists_said_text (Math.disguised_disguise o) hready h0
      ((hcoded.inCode_eq h0).trans hcode) hx hs
    rw [hwords] at hsaid hr'
    rw [hsaid, hr']
    have hraware := hruns.mathAware_eq.trans ((mathAware_initial settings frame _).trans haware)
    refine (Formatter.dollars_protected_iff (hfaware.trans hraware) (hmath.trans hclosed) _).trans ?_
    rw [Text.names_delimiter_iff hdollar]
    exact ⟨fun h _ => h, fun h => h h0⟩
  · have hacts := acts_of_skipping settings (hcoded.hear x.notices).toNested hpos x.event x.span
    have hr' : r'.formatter.mathOpen = false := by
      rw [formatter_step hs, hacts, formatter_hear, perform_notes]
      exact hclosed
    rw [sayEvent, hacts]
    exact ⟨fun _ hout => absurd hout (Nat.ne_of_gt hpos), fun _ => ⟨hr', List.not_mem_nil⟩⟩

/-- Dollars that are named in every way there is. -/
theorem references_delimit_spelled :
    let o := "&#36;5 &#x24; &dollar;".toList
    let tokens : List Token := [.container .paragraph [.text o]]
    let start := initial {} none (prepare o).2
    let pre : List Located := [⟨.start .paragraph, ⟨0, 0⟩, []⟩]
    let x : Located := ⟨.text o, ⟨0, 22⟩, []⟩
    (streamOf (prepare o).1 tokens).1 = pre ++ x :: [⟨.stop .paragraph, ⟨22, 22⟩, []⟩] ∧
      ∃ r r' added, run {} (fun _ => none) pre start = (r, none) ∧ r.formatter.mathOpen = false ∧
        run {} (fun _ => none) (pre ++ [x]) start = (r', none) ∧ r'.latex = r.latex ++ added ∧
        r'.formatter.mathOpen = false ∧ '$' ∉ unprotected added := by
  intro o tokens start pre x
  have hxs : (streamOf (prepare o).1 tokens).1 = pre ++ x :: [⟨.stop .paragraph, ⟨22, 22⟩, []⟩] := by
    decide +kernel
  let r := (run {} (fun _ => none) pre start).1
  have hrun : run {} (fun _ => none) pre start = (r, none) := Prod.ext rfl (by decide +kernel)
  have hclosed : r.formatter.mathOpen = false := by decide +kernel
  obtain ⟨t, ns, table, r', added, hrestore, hrun', hlatex, hiff⟩ :=
    references_delimit_iff {} (fun _ => none) none hxs rfl rfl rfl hrun hclosed
  have ht : t = o := by
    have hwritten : (r.table.restore o x.span).1 = .ok o := by decide +kernel
    exact Except.ok.inj ((congrArg Prod.fst hrestore).symm.trans hwritten)
  subst ht
  have hnames : ¬ Text.NamesDelimiter o := by
    rw [← Text.names_delimiter_iff (by decide +kernel)]
    decide +kernel
  exact ⟨hxs, r, r', added, hrun, hclosed, hrun', hlatex, (hiff (by decide +kernel)).2 fun _ => hnames⟩

/-- Two references open math. -/
theorem references_open_math :
    let o := "&#36;&#36;x".toList
    let tokens : List Token := [.container .paragraph [.text o]]
    let start := initial {} none (prepare o).2
    let pre : List Located := [⟨.start .paragraph, ⟨0, 0⟩, []⟩]
    let x : Located := ⟨.text o, ⟨0, 11⟩, []⟩
    (streamOf (prepare o).1 tokens).1 = pre ++ x :: [⟨.stop .paragraph, ⟨11, 11⟩, []⟩] ∧
      ∃ r r' ns table, run {} (fun _ => none) pre start = (r, none) ∧ r.formatter.mathOpen = false ∧
        r.table.restore o x.span = (.ok o, ns, table) ∧ '$' ∉ o ∧
        run {} (fun _ => none) (pre ++ [x]) start = (r', none) ∧ r'.formatter.mathOpen = true := by
  intro o tokens start pre x
  have hrun' : run {} (fun _ => none) (pre ++ [x]) start
      = ((run {} (fun _ => none) (pre ++ [x]) start).1, none) := Prod.ext rfl (by decide +kernel)
  refine ⟨by decide +kernel, _, _, _, _, Prod.ext rfl (by decide +kernel), by decide +kernel,
    Prod.ext (by decide +kernel) rfl, by decide +kernel, hrun', ?_⟩
  rw [(runs_of_run hrun').mathOpen_eq rfl]
  decide +kernel

end Rendering

end Texdown.Latex
