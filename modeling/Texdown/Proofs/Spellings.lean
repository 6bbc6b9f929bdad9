import Texdown.Proofs.References
import Mathlib.Data.List.Forall2

/-!
# Spellings of characters

A character of a text may be written as itself or as a reference: by its code point in decimal or in
hexadecimal, or by a name. Decoding a text gives the characters back, however each of them is written. A
reference is complete in itself, so what stands in front of it or behind it does not matter, and what it
stands for is not read again.

Results:
* `readDigits_toDigits`, `IsNumeral.untilSemicolon?_eq`: a numeral is read back, in either case and behind
  zeros.
* `codeReference_eq_self_iff`: the code points that a reference stands for as they are.
* `Spelling.decodeReferences_append`: one spelled character in front of a text.
* `decodeReferences_spelled`: a text of spelled characters is decoded to those characters.
-/
namespace Texdown.Text

/-! ## Digits -/

/-- The case of a letter does not matter for its value as a digit, nor for whether it is one. -/
theorem isHexDigit_toLower (c : Char) :
    hexValue c.toLower = hexValue c ∧ isHexDigit c.toLower = isHexDigit c ∧
      isDigit c.toLower = isDigit c := by
  by_cases hupper : c.val ≥ 'A'.val ∧ c.val ≤ 'Z'.val
  · -- One of twenty-six letters.
    have hall : ∀ n : Fin 26, let d := Char.ofNat (65 + n.val)
        hexValue d.toLower = hexValue d ∧ isHexDigit d.toLower = isHexDigit d ∧
          isDigit d.toLower = isDigit d := by decide
    have hlow : 65 ≤ c.toNat := UInt32.le_iff_toNat_le.1 hupper.1
    have hhigh : c.toNat ≤ 90 := UInt32.le_iff_toNat_le.1 hupper.2
    have hc := hall ⟨c.toNat - 65, by omega⟩
    rw [show 65 + (c.toNat - 65) = c.toNat by omega, Char.ofNat_toNat] at hc
    exact hc
  · have hsame : c.toLower = c := dif_neg hupper
    rw [hsame]
    exact ⟨rfl, rfl, rfl⟩

theorem hexValue_digitChar {d : Nat} (h : d < 16) : hexValue d.digitChar = d := by
  have hall : ∀ d : Fin 16, hexValue d.val.digitChar = d := by decide
  exact hall ⟨d, h⟩

/-- A numeral in a base up to sixteen is read back. -/
theorem readDigits_toDigits {base : Nat} (hlow : 1 < base) (hhigh : base ≤ 16) (n : Nat) :
    readDigits base (Nat.toDigits base n) = n := by
  induction n using Nat.strongRecOn with
  | ind n ih =>
    rw [Nat.toDigits_eq_if hlow]
    split
    · rename_i hsmall
      simp [readDigits, hexValue_digitChar (show n < 16 by omega)]
    · rename_i hlarge
      have hquotient := ih (n / base) (Nat.div_lt_self (by omega) hlow)
      have hdigit : n % base < 16 := by have := Nat.mod_lt n (show base > 0 by omega); omega
      rw [readDigits] at hquotient ⊢
      rw [List.foldl_append, hquotient]
      simp only [List.foldl_cons, List.foldl_nil, hexValue_digitChar hdigit]
      exact Nat.div_add_mod' n base

theorem exists_digitChar_of_mem_toDigits {base n : Nat} (hlow : 1 < base) {c : Char}
    (h : c ∈ Nat.toDigits base n) : ∃ d < base, c = d.digitChar := by
  induction n using Nat.strongRecOn with
  | ind n ih =>
    rw [Nat.toDigits_eq_if hlow] at h
    split at h
    · rename_i hsmall
      exact ⟨n, hsmall, List.mem_singleton.1 h⟩
    · rcases List.mem_append.1 h with h | h
      · exact ih (n / base) (Nat.div_lt_self (by omega) hlow) h
      · exact ⟨n % base, Nat.mod_lt n (by omega), List.mem_singleton.1 h⟩

/-- A numeral of a number: its digits in either case, behind zeros as far as there is room for them. -/
def IsNumeral (base limit n : Nat) (ds : Text) : Prop :=
  ∃ zeros ≤ limit - (Nat.toDigits base n).length,
    ds.map Char.toLower = List.replicate zeros '0' ++ Nat.toDigits base n

/-- A number whose digits fit is read off a numeral that ends at a semicolon. -/
theorem IsNumeral.untilSemicolon?_eq {base limit n : Nat} {ds : Text} (h : IsNumeral base limit n ds)
    (hlow : 1 < base) (hhigh : base ≤ 16) (hfits : (Nat.toDigits base n).length ≤ limit) {p : Char → Bool}
    (hp : ∀ c, p c.toLower = p c) (hdigit : ∀ d : Nat, d < base → p d.digitChar = true)
    (hsemicolon : p ';' = false) (rest : Text) :
    untilSemicolon? p limit (ds ++ ';' :: rest) = some (ds, rest) ∧ readDigits base ds = n := by
  obtain ⟨zeros, hzeros, hds⟩ := h
  have hlength := congrArg List.length hds
  simp only [List.length_map, List.length_append, List.length_replicate] at hlength
  have hpos : 0 < (Nat.toDigits base n).length := Nat.length_toDigits_pos
  have hdigits : ∀ c ∈ Nat.toDigits base n, p c = true := fun c hc => by
    obtain ⟨d, hd, rfl⟩ := exists_digitChar_of_mem_toDigits hlow hc
    exact hdigit d hd
  refine ⟨(untilSemicolon?_eq_some_iff hsemicolon).2 ⟨rfl, fun c hc => ?_, by omega, by omega⟩, ?_⟩
  · have hmem : c.toLower ∈ List.replicate zeros '0' ++ Nat.toDigits base n :=
      hds ▸ List.mem_map_of_mem hc
    rw [← hp]
    rcases List.mem_append.1 hmem with hmem | hmem
    · rw [List.eq_of_mem_replicate hmem]
      exact hdigit 0 (by omega)
    · exact hdigits _ hmem
  · have hlower : readDigits base (ds.map Char.toLower) = readDigits base ds := by
      rw [readDigits, readDigits, List.foldl_map]
      simp only [(isHexDigit_toLower _).1]
    have hzero : ∀ k, (List.replicate k '0').foldl (fun n c => n * base + hexValue c) 0 = 0 := by
      intro k
      induction k with
      | zero => rfl
      | succ k ih =>
        rw [List.replicate_succ, List.foldl_cons, Nat.zero_mul]
        exact ih
    rw [← hlower, hds, readDigits, List.foldl_append, hzero]
    exact readDigits_toDigits hlow hhigh n

theorem isNumeral_toDigits {base limit : Nat} (hlow : 1 < base) (hhigh : base ≤ 16) (n : Nat) :
    IsNumeral base limit n (Nat.toDigits base n) := by
  have hall : ∀ d : Fin 16, d.val.digitChar.toLower = d.val.digitChar := by decide
  refine ⟨0, Nat.zero_le _, (List.map_congr_left fun c hc => ?_).trans (List.map_id _)⟩
  obtain ⟨d, hd, rfl⟩ := exists_digitChar_of_mem_toDigits hlow hc
  exact hall ⟨d, by omega⟩

/-! ## Code points -/

/-- The code points that a reference stands for as they are: all but zero, the controls and the
noncharacters, and of those beyond 0x7f the five that the code page has no character for. -/
def standsForItself (n : Nat) : Bool :=
  n != 0 && (!isForbiddenCode n || [0x81, 0x8d, 0x8f, 0x90, 0x9d].contains n)

theorem toNat_lt (c : Char) : c.toNat < 0xd800 ∨ 0xdfff < c.toNat ∧ c.toNat < 0x110000 := c.valid

theorem codeReference_eq_self_iff (c : Char) :
    codeReference c.toNat = [c] ↔ standsForItself c.toNat = true := by
  have hvalid := toNat_lt c
  by_cases hcontrol : 0x80 ≤ c.toNat ∧ c.toNat ≤ 0x9f
  · have hall : ∀ n : Fin 32, codeReference (0x80 + n.val) = [Char.ofNat (0x80 + n.val)] ↔
        standsForItself (0x80 + n.val) = true := by decide
    have hc := hall ⟨c.toNat - 0x80, by omega⟩
    rw [show 0x80 + (c.toNat - 0x80) = c.toNat by omega, Char.ofNat_toNat] at hc
    exact hc
  · have hfree : [0x81, 0x8d, 0x8f, 0x90, 0x9d].contains c.toNat = false := by
      simp only [List.contains_eq_mem, List.mem_cons, List.not_mem_nil, or_false,
        decide_eq_false_iff_not]
      omega
    rw [standsForItself, hfree, Bool.or_false, codeReference, if_neg hcontrol,
      if_neg (show ¬((0xd800 ≤ c.toNat ∧ c.toNat ≤ 0xdfff) ∨ 0x10ffff < c.toNat) by omega)]
    by_cases hzero : c.toNat = 0
    · have hne : '\ufffd' ≠ c := by rintro rfl; cases hzero
      simp [hzero, hne]
    · cases hforbidden : isForbiddenCode c.toNat with
      | true => simp [hzero]
      | false => simp [hzero]

/-! ## Spellings -/

/-- The ways to write a character: as itself, unless it is the ampersand; as a decimal or a hexadecimal
reference, if its code point stands for itself; and the ampersand by its name. -/
inductive Spelling : Char → Text → Prop
  | itself {c : Char} (h : c ≠ '&') : Spelling c [c]
  | decimal {c : Char} {ds : Text} (h : standsForItself c.toNat = true)
      (hds : IsNumeral 10 7 c.toNat ds) : Spelling c ('&' :: '#' :: ds ++ [';'])
  | hexadecimal {c x : Char} {ds : Text} (h : standsForItself c.toNat = true) (hx : x = 'x' ∨ x = 'X')
      (hds : IsNumeral 16 6 c.toNat ds) : Spelling c ('&' :: '#' :: x :: ds ++ [';'])
  | ampersand : Spelling '&' "&amp;".toList

theorem reference?_decimal {c : Char} {ds : Text} (h : standsForItself c.toNat = true)
    (hds : IsNumeral 10 7 c.toNat ds) (rest : Text) :
    reference? ('#' :: (ds ++ ';' :: rest)) = some ([c], rest) := by
  have hlt := toNat_lt c
  have hfits : (Nat.toDigits 10 c.toNat).length ≤ 7 :=
    (Nat.length_toDigits_le_iff (by decide) (by decide)).2 (by omega)
  obtain ⟨hread, hvalue⟩ := hds.untilSemicolon?_eq (by decide) (by decide) hfits
    (fun c => (isHexDigit_toLower c).2.2) (by decide) (by decide) rest
  have hcode : codeReference (readDigits 10 ds) = [c] :=
    hvalue.symm ▸ (codeReference_eq_self_iff c).2 h
  obtain ⟨-, hdigits, hlength⟩ := (untilSemicolon?_eq_some_iff (by decide)).1 hread
  obtain ⟨d, ds, rfl⟩ := List.exists_cons_of_length_pos hlength.1
  have hd := hdigits d List.mem_cons_self
  have hlower : d ≠ 'x' := by rintro rfl; cases hd
  have hupper : d ≠ 'X' := by rintro rfl; cases hd
  rw [List.cons_append] at hread ⊢
  simp [reference?, hread, hcode, hlower, hupper]

theorem reference?_hexadecimal {c x : Char} {ds : Text} (h : standsForItself c.toNat = true)
    (hx : x = 'x' ∨ x = 'X') (hds : IsNumeral 16 6 c.toNat ds) (rest : Text) :
    reference? ('#' :: x :: (ds ++ ';' :: rest)) = some ([c], rest) := by
  have hlt := toNat_lt c
  have hfits : (Nat.toDigits 16 c.toNat).length ≤ 6 :=
    (Nat.length_toDigits_le_iff (by decide) (by decide)).2 (by omega)
  obtain ⟨hread, hvalue⟩ := hds.untilSemicolon?_eq (by decide) (by decide) hfits
    (fun c => (isHexDigit_toLower c).2.1) (by decide) (by decide) rest
  have hcode : codeReference (readDigits 16 ds) = [c] :=
    hvalue.symm ▸ (codeReference_eq_self_iff c).2 h
  rcases hx with rfl | rfl
  · simp [reference?, reference?.hexadecimal, hread, hcode]
  · simp [reference?, reference?.hexadecimal, hread, hcode]

theorem reference?_amp (rest : Text) : reference? ("amp;".toList ++ rest) = some (['&'], rest) :=
  reference?_whole (by decide +kernel) rest

/-- A spelled character is decoded to that character, whatever text comes behind it. -/
theorem Spelling.decodeReferences_append {c : Char} {w : Text} (h : Spelling c w) (t : Text) :
    decodeReferences (w ++ t) = c :: decodeReferences t := by
  cases h with
  | itself h => exact decodeReferences_char h t
  | decimal h hds =>
    have hread := decodeReferences_reference (reference?_decimal h hds t)
    simpa using hread
  | hexadecimal h hx hds =>
    have hread := decodeReferences_reference (reference?_hexadecimal h hx hds t)
    simpa using hread
  | ampersand => exact decodeReferences_reference (reference?_amp t)

/-- Whichever way each character of a text is spelled, decoding gives the text back; it goes through the
spellings one by one, and reads no reference across them or in what another one stands for. -/
theorem decodeReferences_spelled {s : Text} {ws : List Text} (h : List.Forall₂ Spelling s ws) :
    decodeReferences ws.flatten = s ∧ ws.flatMap decodeReferences = s := by
  induction h with
  | nil => exact ⟨by simp [decodeReferences], rfl⟩
  | @cons c w s ws hw _ ih =>
    refine ⟨?_, ?_⟩
    · rw [List.flatten_cons, hw.decodeReferences_append, ih.1]
    · have hone := hw.decodeReferences_append []
      rw [List.append_nil] at hone
      rw [List.flatMap_cons, hone, ih.2]
      simp [decodeReferences]

/-- An ampersand and a letter in front of what is then no reference, an accent, and the last code point that
is no noncharacter. -/
theorem decodeReferences_spelled_mixed :
    decodeReferences "&amp;l&#116;;&#xE9;&#X10fFfD;".toList = "&lt;\u00e9".toList ++ [Char.ofNat 0x10fffd] := by
  have hdecimal : ∀ n, IsNumeral 10 7 n (Nat.toDigits 10 n) := isNumeral_toDigits (by decide) (by decide)
  have hupper : IsNumeral 16 6 0xe9 "E9".toList := ⟨0, Nat.zero_le _, by decide⟩
  have hmixed : IsNumeral 16 6 0x10fffd "10fFfD".toList := ⟨0, Nat.zero_le _, by decide⟩
  exact (decodeReferences_spelled (.cons .ampersand (.cons (.itself (by decide))
    (.cons (.decimal (c := 't') (by decide) (hdecimal 116)) (.cons (.itself (by decide))
      (.cons (.hexadecimal (c := '\u00e9') (by decide) (.inl rfl) hupper)
        (.cons (.hexadecimal (c := Char.ofNat 0x10fffd) (by decide) (.inr rfl) hmixed) .nil))))))).1

end Texdown.Text
