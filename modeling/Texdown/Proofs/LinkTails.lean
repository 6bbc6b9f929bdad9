import Texdown.Proofs.MatchedBrackets

/-!
# The tail of an inline link

A tail in parentheses holds a destination and perhaps a title. The walk looks for the parenthesis that closes
the tail, which is none of those that are matched, hidden by a backslash, in quotes or in angle brackets; then
the destination is cut out of what stands in front of it. `Inside` says what may stand there.

Results:
* `closingParen?_eq_some_iff`: the walk finds the closing parenthesis behind what may stand inside, and only
  there.
* `destination_written`: the destination is cut out of a tail as it was written.
* `skipTail_reads_back`: a written tail is passed and gives its destination; a tail that is not closed is not
  passed.
-/
namespace Texdown

namespace Text

/-! ## Words and white space -/

theorem ne_of_isBlank {c m : Char} (hc : isBlank c = true) (hm : isBlank m = false) : c ≠ m := by
  rintro rfl
  exact Bool.false_ne_true (hm.symm.trans hc)

section Solid

variable {d v : Text}

theorem dropEndWhile_append {p : Char → Bool} {a : Text} {c : Char} (hc : a.getLast? = some c)
    (hp : p c = false) (v : Text) : dropEndWhile p (a ++ v) = a ++ dropEndWhile p v := by
  obtain ⟨b, rfl⟩ := List.getLast?_eq_some_iff.1 hc
  have hback : (b ++ [c]).reverse.dropWhile p = (b ++ [c]).reverse := by simp [hp]
  rw [dropEndWhile, List.reverse_append, List.dropWhile_append, hback, dropEndWhile]
  split
  · next hnil => simp [List.isEmpty_iff.1 hnil]
  · simp

/-- Behind what starts and ends with something else, white space is dropped at the end only. -/
theorem strip_append {a : Text} {b c : Char} (hb : a.head? = some b) (hb' : isBlank b = false)
    (hc : a.getLast? = some c) (hc' : isBlank c = false) (v : Text) :
    strip (a ++ v) = a ++ dropEndWhile isBlank v := by
  obtain ⟨r, rfl⟩ := List.head?_eq_some_iff.1 hb
  have hfront : ((b :: r) ++ v).dropWhile isBlank = (b :: r) ++ v := by simp [hb']
  rw [strip, trimWhile, hfront, dropEndWhile_append hc hc']

theorem dropEndWhile_prefix (p : Char → Bool) (t : Text) : dropEndWhile p t <+: t := by
  rw [← List.reverse_suffix, dropEndWhile, List.reverse_reverse]
  exact List.dropWhile_suffix p

theorem head?_words_go (hd : ∀ c ∈ d, isBlank c = false) (hv : ∀ c ∈ v.head?, isBlank c = true) (word : Text)
    (hne : word.reverse ++ d ≠ []) : (words.go word (d ++ v)).head? = some (word.reverse ++ d) := by
  induction d generalizing word with
  | nil =>
    rw [List.append_nil] at hne ⊢
    have hword : word.isEmpty = false := by simpa using hne
    cases v with
    | nil => simp [words.go, hword]
    | cons c v => simp [words.go, hword, hv c rfl]
  | cons c d ih =>
    obtain ⟨hc, hd⟩ := List.forall_mem_cons.1 hd
    rw [List.cons_append, words.go, hc, if_neg (by simp), ih hd (c :: word) (by simp)]
    simp

/-- A text without white space is the first word if nothing or white space follows. -/
theorem head?_words (hne : d ≠ []) (hd : ∀ c ∈ d, isBlank c = false) (hv : ∀ c ∈ v.head?, isBlank c = true) :
    (words (d ++ v)).head? = some d :=
  head?_words_go hd hv [] hne

end Solid

end Text

namespace Locator

open Text (Matched mark_cases isBlank)

variable {l : Locator}

/-! ## What may stand inside -/

/-- A mark around a title. -/
def IsQuote (c : Char) : Prop := c = '"' ∨ c = '\''

/-- A text in which a quotation mark does not occur unless a backslash hides it. -/
inductive Quoted (mark : Char) : Text → Prop where
  | nil : Quoted mark []
  | plain {c : Char} {t : Text} (hb : c ≠ '\\') (hm : c ≠ mark) (h : Quoted mark t) : Quoted mark (c :: t)
  | hidden {c : Char} {t : Text} (h : Quoted mark t) : Quoted mark ('\\' :: c :: t)

/-- A text with its parentheses matched, between the character in front of it and its last character. A
quotation mark behind white space hides what comes up to the next one. -/
inductive Passage : Char → Text → Char → Prop where
  | nil {x : Char} : Passage x [] x
  | letter {x c y : Char} {t : Text} (hb : c ≠ '\\') (ho : c ≠ '(') (hc : c ≠ ')')
      (hq : IsQuote c → isBlank x = false) (h : Passage c t y) : Passage x (c :: t) y
  | hidden {x c y : Char} {t : Text} (h : Passage c t y) : Passage x ('\\' :: c :: t) y
  | quoted {x q y : Char} {a t : Text} (hq : IsQuote q) (hx : isBlank x = true) (ha : Quoted q a)
      (h : Passage q t y) : Passage x (q :: (a ++ q :: t)) y
  | group {x y z : Char} {a b : Text} (ha : Passage '(' a y) (hb : Passage ')' b z) :
      Passage x ('(' :: (a ++ ')' :: b)) z

/-- What may stand inside the parentheses of a tail. An angle bracket with at most white space in front of it
hides what comes up to the next closing one. -/
inductive Inside : Text → Prop where
  | bare {t : Text} {y : Char} (hstart : (t.dropWhile isBlank).head? ≠ some '<') (h : Passage '(' t y) :
      Inside t
  | angled {w d t : Text} {y : Char} (hw : ∀ c ∈ w, isBlank c = true) (hd : '>' ∉ d) (h : Passage '>' t y) :
      Inside (w ++ '<' :: (d ++ '>' :: t))

theorem Passage.append {x y z : Char} {a b : Text} (ha : Passage x a y) (hb : Passage y b z) :
    Passage x (a ++ b) z := by
  induction ha with
  | nil => exact hb
  | letter hb' ho hc hq _ ih => exact .letter hb' ho hc hq (ih hb)
  | hidden _ ih => exact .hidden (ih hb)
  | quoted hq hx ha _ ih =>
    rw [List.cons_append, List.append_assoc]
    exact .quoted hq hx ha (ih hb)
  | group ha _ _ ihb =>
    rw [List.cons_append, List.append_assoc]
    exact .group ha (ihb hb)

/-! ## Looking for the parenthesis -/

section Steps

variable {before c q : Char} {depth : Nat} {t : Text}

theorem closingParen?_hidden (part : TailPart) (hp : part ≠ .angle) (depth : Nat) (before c : Char) (blank : Bool)
    (t : Text) : closingParen? part depth before blank ('\\' :: c :: t)
      = (closingParen? part depth c false t).map (· + 2) := by
  cases part with
  | plain | quoted => rw [closingParen?.eq_def]; rfl
  | angle => exact absurd rfl hp

theorem closingParen?_letter (hb : c ≠ '\\') (ho : c ≠ '(') (hc : c ≠ ')')
    (hq : IsQuote c → isBlank before = false) (depth : Nat) (t : Text) :
    closingParen? .plain depth before false (c :: t) = (closingParen? .plain depth c false t).map (· + 1) := by
  have hquote : ¬ ((c = '"' ∨ c = '\'') ∧ isBlank before = true) := fun ⟨h, h'⟩ => by simp [hq h] at h'
  rw [closingParen?.eq_def]
  simp [hb, ho, hc, hquote]

theorem closingParen?_step_blank (hc : isBlank c = true) (depth : Nat) (before : Char) (blank : Bool) (t : Text) :
    closingParen? .plain depth before blank (c :: t)
      = (closingParen? .plain depth c blank t).map (· + 1) := by
  have hmark : ∀ m, isBlank m = false → c ≠ m := fun _ => Text.ne_of_isBlank hc
  rw [closingParen?.eq_def]
  simp [hmark '\\' (by decide), hmark '<' (by decide), hmark '"' (by decide), hmark '\'' (by decide),
    hmark '(' (by decide), hmark ')' (by decide), hc]

theorem closingParen?_quote (hq : IsQuote q) (hbefore : isBlank before = true) (depth : Nat) (t : Text) :
    closingParen? .plain depth before false (q :: t)
      = (closingParen? (.quoted q) depth q false t).map (· + 1) := by
  rw [closingParen?.eq_def]
  rcases hq with rfl | rfl <;> simp [hbefore]

theorem closingParen?_open (depth : Nat) (before : Char) (t : Text) :
    closingParen? .plain depth before false ('(' :: t)
      = (closingParen? .plain (depth + 1) '(' false t).map (· + 1) := by
  rw [closingParen?.eq_def]
  simp

theorem closingParen?_close (depth : Nat) (before : Char) (t : Text) :
    closingParen? .plain (depth + 1) before false (')' :: t)
      = (closingParen? .plain depth ')' false t).map (· + 1) := by
  rw [closingParen?.eq_def]
  simp

theorem closingParen?_close_zero (before : Char) (t : Text) :
    closingParen? .plain 0 before false (')' :: t) = some 0 := by
  rw [closingParen?.eq_def]
  simp

theorem closingParen?_quoted (hb : c ≠ '\\') (hm : c ≠ q) (depth : Nat) (before : Char) (blank : Bool) (t : Text) :
    closingParen? (.quoted q) depth before blank (c :: t)
      = (closingParen? (.quoted q) depth c false t).map (· + 1) := by
  rw [closingParen?.eq_def]
  simp [hb, hm]

theorem closingParen?_unquote (hq : IsQuote q) (depth : Nat) (before : Char) (blank : Bool) (t : Text) :
    closingParen? (.quoted q) depth before blank (q :: t)
      = (closingParen? .plain depth q false t).map (· + 1) := by
  rw [closingParen?.eq_def]
  rcases hq with rfl | rfl <;> simp

end Steps

section Search

variable {x y q : Char} {a d t w : Text} {depth : Nat} {part : TailPart}

/-- The search goes past what is in quotes. -/
theorem closingParen?_append_quoted (hq : IsQuote q) (ha : Quoted q a) (depth : Nat) (before : Char) (blank : Bool)
    (t : Text) : closingParen? (.quoted q) depth before blank (a ++ q :: t)
      = (closingParen? .plain depth q false t).map (a.length + 1 + ·) := by
  induction ha generalizing before blank with
  | nil =>
    rw [List.nil_append, closingParen?_unquote hq]
    simp [Nat.add_comm]
  | plain hb hm _ ih =>
    rw [List.cons_append, closingParen?_quoted hb hm, ih]
    simp only [Option.map_map, Function.comp_def, List.length_cons, Nat.add_right_comm]
  | hidden _ ih =>
    rw [List.cons_append, List.cons_append, closingParen?_hidden _ (by simp), ih]
    simp only [Option.map_map, Function.comp_def, List.length_cons, Nat.add_right_comm]

/-- It goes past what has its parentheses matched, at any depth. -/
theorem closingParen?_append (h : Passage x a y) (depth : Nat) (t : Text) :
    closingParen? .plain depth x false (a ++ t) = (closingParen? .plain depth y false t).map (a.length + ·) := by
  induction h generalizing depth t with
  | nil => simp
  | letter hb ho hc hq _ ih =>
    rw [List.cons_append, closingParen?_letter hb ho hc hq, ih]
    simp only [Option.map_map, Function.comp_def, List.length_cons, Nat.add_right_comm]
  | hidden _ ih =>
    rw [List.cons_append, List.cons_append, closingParen?_hidden _ (by simp), ih]
    simp only [Option.map_map, Function.comp_def, List.length_cons, Nat.add_right_comm]
  | quoted hq hx ha _ ih =>
    rw [List.cons_append, List.append_assoc, List.cons_append, closingParen?_quote hq hx,
      closingParen?_append_quoted hq ha, ih]
    simp only [Option.map_map, Function.comp_def, List.length_cons, List.length_append]
    congr 1
    funext n
    omega
  | group _ _ iha ihb =>
    rw [List.cons_append, List.append_assoc, List.cons_append, closingParen?_open, iha, closingParen?_close, ihb]
    simp only [Option.map_map, Function.comp_def, List.length_cons, List.length_append]
    congr 1
    funext n
    omega

/-- It comes out of quotes at the next mark that is not hidden. -/
theorem exists_of_quoted (hq : IsQuote q) {before : Char} {blank : Bool}
    (h : (closingParen? (.quoted q) depth before blank t).isSome) :
    ∃ a r, t = a ++ q :: r ∧ Quoted q a ∧ (closingParen? .plain depth q false r).isSome := by
  induction hn : t.length using Nat.strongRecOn generalizing t before blank with
  | ind n ih =>
  subst hn
  match t with
  | [] => cases h
  | c :: t =>
    by_cases hm : c = q
    · subst hm
      rw [closingParen?_unquote hq, Option.isSome_map] at h
      exact ⟨[], t, rfl, .nil, h⟩
    by_cases hb : c = '\\'
    · subst hb
      match t with
      | [] => cases h
      | c :: t =>
        rw [closingParen?_hidden _ (by simp), Option.isSome_map] at h
        obtain ⟨a, r, rfl, ha, hr⟩ := ih _ (by simp only [List.length_cons]; omega) h rfl
        exact ⟨'\\' :: c :: a, r, rfl, .hidden ha, hr⟩
    · rw [closingParen?_quoted hb hm, Option.isSome_map] at h
      obtain ⟨a, r, rfl, ha, hr⟩ := ih _ (by simp) h rfl
      exact ⟨c :: a, r, rfl, .plain hb hm ha, hr⟩

/-- It finds a parenthesis only behind what has its parentheses matched. -/
theorem exists_of_closingParen? (h : (closingParen? .plain depth x false t).isSome) :
    ∃ a r y, t = a ++ ')' :: r ∧ Passage x a y ∧
      (depth = 0 ∨ (closingParen? .plain (depth - 1) ')' false r).isSome) := by
  induction hn : t.length using Nat.strongRecOn generalizing t x depth with
  | ind n ih =>
  subst hn
  rcases mark_cases '(' ')' t with rfl | rfl | ⟨c, t, rfl⟩ | ⟨t, rfl⟩ | ⟨t, rfl⟩ | ⟨c, t, rfl, hb, ho, hc⟩
  · cases h
  · cases h
  · rw [closingParen?_hidden _ (by simp), Option.isSome_map] at h
    obtain ⟨a, r, y, rfl, ha, hr⟩ := ih _ (by simp only [List.length_cons]; omega) h rfl
    exact ⟨'\\' :: c :: a, r, y, rfl, .hidden ha, hr⟩
  · rw [closingParen?_open, Option.isSome_map] at h
    -- The parenthesis that opens here is closed first, and then the one that was open before.
    obtain ⟨a, u, y, rfl, ha, hzero | hu⟩ := ih _ (by simp) h rfl
    · cases hzero
    rw [Nat.add_sub_cancel] at hu
    obtain ⟨b, r, z, rfl, hb, hr⟩ := ih _ (by simp only [List.length_cons, List.length_append]; omega) hu rfl
    exact ⟨'(' :: (a ++ ')' :: b), r, z, by simp, .group ha hb, hr⟩
  · cases depth with
    | zero => exact ⟨[], t, x, rfl, .nil, .inl rfl⟩
    | succ depth =>
      rw [closingParen?_close, Option.isSome_map] at h
      exact ⟨[], t, x, rfl, .nil, .inr h⟩
  · by_cases hq : IsQuote c ∧ isBlank x = true
    · rw [closingParen?_quote hq.1 hq.2, Option.isSome_map] at h
      obtain ⟨a, u, rfl, ha, hu⟩ := exists_of_quoted hq.1 h
      obtain ⟨b, r, y, rfl, hb, hr⟩ := ih _ (by simp only [List.length_cons, List.length_append]; omega) hu rfl
      exact ⟨c :: (a ++ c :: b), r, y, by simp, .quoted hq.1 hq.2 ha hb, hr⟩
    · have hq' : IsQuote c → isBlank x = false := fun hquote =>
        Bool.eq_false_iff.2 fun hblank => hq ⟨hquote, hblank⟩
      rw [closingParen?_letter hb ho hc hq', Option.isSome_map] at h
      obtain ⟨a, r, y, rfl, ha, hr⟩ := ih _ (by simp) h rfl
      exact ⟨c :: a, r, y, rfl, .letter hb ho hc hq' ha, hr⟩

/-- White space in front makes no difference unless an angle bracket follows. -/
theorem closingParen?_blank (h : (t.dropWhile isBlank).head? ≠ some '<') (depth : Nat) (x : Char) :
    closingParen? .plain depth x true t = closingParen? .plain depth x false t := by
  induction t generalizing x with
  | nil => rfl
  | cons c t ih =>
    have hangle : c ≠ '<' := by
      rintro rfl
      exact h rfl
    cases hc : isBlank c with
    | false =>
      rw [closingParen?.eq_def, closingParen?.eq_def .plain depth x false]
      simp [hangle, hc]
    | true =>
      rw [List.dropWhile_cons_of_pos hc] at h
      rw [closingParen?_step_blank hc, closingParen?_step_blank hc, ih h]

theorem closingParen?_append_angle (hd : '>' ∉ d) (depth : Nat) (x : Char) (blank : Bool) (t : Text) :
    closingParen? .angle depth x blank (d ++ '>' :: t)
      = (closingParen? .plain depth '>' false t).map (d.length + 1 + ·) := by
  induction d generalizing x blank with
  | nil =>
    rw [List.nil_append, closingParen?.eq_def]
    simp [Nat.add_comm]
  | cons c d ih =>
    have hc : c ≠ '>' := fun hc => hd (hc ▸ List.mem_cons_self)
    rw [List.cons_append, closingParen?.eq_def]
    simp only [if_neg hc, ih (List.not_mem_of_not_mem_cons hd), Option.map_map, Function.comp_def,
      List.length_cons, Nat.add_right_comm]

theorem closingParen?_angle_open (ht : '>' ∉ t) (depth : Nat) (x : Char) (blank : Bool) :
    closingParen? .angle depth x blank t = none := by
  induction t generalizing x blank with
  | nil => rfl
  | cons c t ih =>
    have hc : c ≠ '>' := fun hc => ht (hc ▸ List.mem_cons_self)
    rw [closingParen?.eq_def]
    simp [hc, ih (List.not_mem_of_not_mem_cons ht)]

/-- Behind white space, an angle bracket hides what follows. -/
theorem closingParen?_angle (hw : ∀ c ∈ w, isBlank c = true) (depth : Nat) (x : Char) (t : Text) :
    closingParen? .plain depth x true (w ++ '<' :: t)
      = (closingParen? .angle depth '<' false t).map (w.length + 1 + ·) := by
  induction w generalizing x with
  | nil =>
    rw [List.nil_append, closingParen?.eq_def]
    simp [Nat.add_comm]
  | cons c w ih =>
    obtain ⟨hc, hw⟩ := List.forall_mem_cons.1 hw
    rw [List.cons_append, closingParen?_step_blank hc, ih hw]
    simp only [Option.map_map, Function.comp_def, List.length_cons, Nat.add_right_comm]

/-- The first character that is not white space does not depend on what follows a parenthesis. -/
theorem head?_dropWhile_isBlank (a r : Text) : ((a ++ ')' :: r).dropWhile isBlank).head? = some '<' ↔
    (a.dropWhile isBlank).head? = some '<' := by
  rw [List.dropWhile_append]
  split
  · next hnil => simp [List.isEmpty_iff.1 hnil, show isBlank ')' = false by decide]
  · next hne =>
    obtain ⟨c, u, hu⟩ := List.exists_cons_of_ne_nil (mt List.isEmpty_iff.2 hne)
    rw [hu]
    rfl

/-- The closing parenthesis is found behind what may stand inside, and only there. -/
theorem closingParen?_eq_some_iff {i : Nat} : closingParen? .plain 0 '(' true t = some i ↔
    ∃ a r, t = a ++ ')' :: r ∧ Inside a ∧ i = a.length := by
  have hclose : ∀ {a r}, Inside a → closingParen? .plain 0 '(' true (a ++ ')' :: r) = some a.length := by
    intro a r ha
    cases ha with
    | bare hstart h =>
      rw [closingParen?_blank (mt (head?_dropWhile_isBlank a r).1 hstart), closingParen?_append h,
        closingParen?_close_zero]
      rfl
    | @angled w d b y hw hd h =>
      rw [List.append_assoc, List.cons_append, List.append_assoc, List.cons_append, closingParen?_angle hw,
        closingParen?_append_angle hd, closingParen?_append h, closingParen?_close_zero]
      simp only [Option.map_some, Option.some.injEq, List.length_append, List.length_cons]
      omega
  have hinside : (closingParen? .plain 0 '(' true t).isSome → ∃ a r, t = a ++ ')' :: r ∧ Inside a := by
    intro h
    by_cases hstart : (t.dropWhile isBlank).head? = some '<'
    · obtain ⟨u, hu⟩ := List.head?_eq_some_iff.1 hstart
      have hw : ∀ c ∈ t.takeWhile isBlank, isBlank c = true := fun c hc =>
        List.all_eq_true.1 List.all_takeWhile c hc
      have ht : t = t.takeWhile isBlank ++ '<' :: u := by rw [← hu, List.takeWhile_append_dropWhile]
      rw [ht, closingParen?_angle hw, Option.isSome_map] at h
      have hmem : '>' ∈ u := Decidable.by_contra fun hno => by
        rw [closingParen?_angle_open hno] at h
        cases h
      obtain ⟨d, v, rfl, hd⟩ := List.eq_append_cons_of_mem hmem
      rw [closingParen?_append_angle hd, Option.isSome_map] at h
      obtain ⟨a, r, y, rfl, ha, -⟩ := exists_of_closingParen? h
      exact ⟨t.takeWhile isBlank ++ '<' :: (d ++ '>' :: a), r, ht.trans (by simp), .angled hw hd ha⟩
    · rw [closingParen?_blank hstart] at h
      obtain ⟨a, r, y, rfl, ha, -⟩ := exists_of_closingParen? h
      exact ⟨a, r, rfl, .bare (mt (head?_dropWhile_isBlank a r).2 hstart) ha⟩
  constructor
  · intro h
    obtain ⟨a, r, rfl, ha⟩ := hinside (h ▸ rfl)
    exact ⟨a, r, rfl, ha, Option.some.inj (h.symm.trans (hclose ha))⟩
  · rintro ⟨a, r, rfl, ha, rfl⟩
    exact hclose ha

end Search

/-! ## Tails as they are written -/

/-- How a destination may be written: as it is, or in angle brackets. -/
inductive Written : Text → Text → Prop where
  | bare {d : Text} (hne : d ≠ []) (hsolid : ∀ c ∈ d, isBlank c = false) (hback : '\\' ∉ d)
      (hangle : d.head? ≠ some '<') (hparens : Matched '(' ')' d) : Written d d
  | angled {d : Text} (hd : '>' ∉ d) : Written ('<' :: (d ++ ['>'])) d

/-- Nothing, or white space and a title in quotes. -/
inductive Titled : Text → Prop where
  | none : Titled []
  | title {w t : Text} {q : Char} (hw : ∀ c ∈ w, isBlank c = true) (hne : w ≠ []) (hq : IsQuote q)
      (hmark : q ∉ t) (hback : '\\' ∉ t) : Titled (w ++ q :: (t ++ [q]))

section Tails

variable {d written title blank : Text}

theorem quoted_of_not_mem {q : Char} {t : Text} (hmark : q ∉ t) (hback : '\\' ∉ t) : Quoted q t := by
  induction t with
  | nil => exact .nil
  | cons c t ih =>
    simp only [List.mem_cons, not_or] at hmark hback
    exact .plain (Ne.symm hback.1) (Ne.symm hmark.1) (ih hmark.2 hback.2)

theorem exists_passage_blank (hw : ∀ c ∈ blank, isBlank c = true) (x : Char) :
    ∃ y, Passage x blank y ∧ (blank ≠ [] → isBlank y = true) := by
  induction blank generalizing x with
  | nil => exact ⟨x, .nil, fun h => absurd rfl h⟩
  | cons c w ih =>
    obtain ⟨hc, hw⟩ := List.forall_mem_cons.1 hw
    have hmark : ∀ m, isBlank m = false → c ≠ m := fun _ => Text.ne_of_isBlank hc
    obtain ⟨y, hy, hlast⟩ := ih hw c
    have hquote : ¬ IsQuote c := not_or.2 ⟨hmark '"' (by decide), hmark '\'' (by decide)⟩
    refine ⟨y, .letter (hmark '\\' (by decide)) (hmark '(' (by decide)) (hmark ')' (by decide))
      (fun hq => absurd hq hquote) hy, fun _ => ?_⟩
    cases w with
    | nil => cases hy; exact hc
    | cons c' w => exact hlast (List.cons_ne_nil _ _)

theorem exists_passage_titled (ht : Titled title) (x : Char) : ∃ y, Passage x title y := by
  cases ht with
  | none => exact ⟨x, .nil⟩
  | @title w t q hw hne hq hmark hback =>
    obtain ⟨y, hy, hlast⟩ := exists_passage_blank hw x
    exact ⟨q, hy.append (.quoted hq (hlast hne) (quoted_of_not_mem hmark hback) .nil)⟩

/-- Behind what is not white space, no quotation mark begins a title. -/
theorem exists_passage_solid (hd : Matched '(' ')' d) (hsolid : ∀ c ∈ d, isBlank c = false) (hback : '\\' ∉ d)
    {x : Char} (hx : isBlank x = false) : ∃ y, Passage x d y ∧ isBlank y = false := by
  induction hd generalizing x with
  | nil => exact ⟨x, .nil, hx⟩
  | plain hb ho hc _ ih =>
    obtain ⟨hc', hsolid⟩ := List.forall_mem_cons.1 hsolid
    obtain ⟨y, hy, hlast⟩ := ih hsolid (List.not_mem_of_not_mem_cons hback) hc'
    exact ⟨y, .letter hb ho hc (fun _ => hx) hy, hlast⟩
  | hidden => exact absurd List.mem_cons_self hback
  | @group a b _ _ iha ihb =>
    simp only [List.mem_cons, List.mem_append, not_or, or_imp, forall_and] at hsolid hback
    obtain ⟨y, hy, -⟩ := iha hsolid.2.1 hback.2.1 (x := '(') (by decide)
    obtain ⟨z, hz, hlast⟩ := ihb hsolid.2.2.2 hback.2.2.2 (x := ')') (by decide)
    exact ⟨z, .group hy hz, hlast⟩

theorem inside_written (hd : Written written d) (ht : Titled title) (hw : ∀ c ∈ blank, isBlank c = true) :
    Inside (written ++ (title ++ blank)) := by
  have hbehind : ∀ x, ∃ y, Passage x (title ++ blank) y := by
    intro x
    obtain ⟨y, hy⟩ := exists_passage_titled ht x
    obtain ⟨z, hz, -⟩ := exists_passage_blank hw y
    exact ⟨z, hy.append hz⟩
  cases hd with
  | bare hne hsolid hback hangle hparens =>
    obtain ⟨y, hy, -⟩ := exists_passage_solid hparens hsolid hback (x := '(') (by decide)
    obtain ⟨z, hz⟩ := hbehind y
    refine .bare ?_ (hy.append hz)
    obtain ⟨c, r, rfl⟩ := List.exists_cons_of_ne_nil hne
    rw [List.cons_append, List.dropWhile_cons_of_neg (by simp [hsolid c List.mem_cons_self])]
    exact hangle
  | angled hd =>
    obtain ⟨z, hz⟩ := hbehind '>'
    have h := Inside.angled (w := []) (by simp) hd hz
    simpa using h

theorem isBlank_of_head? (ht : Titled title) (hw : ∀ c ∈ blank, isBlank c = true) :
    ∀ c ∈ (title ++ blank).head?, isBlank c = true := by
  cases ht with
  | none => exact fun c hc => hw c (List.mem_of_head? hc)
  | title hw' hne _ _ _ =>
    obtain ⟨c, w, rfl⟩ := List.exists_cons_of_ne_nil hne
    rintro c ⟨⟩
    exact hw' c List.mem_cons_self

/-- The destination is cut out of a tail as it was written. -/
theorem destination_written (hd : Written written d) (ht : Titled title) (hw : ∀ c ∈ blank, isBlank c = true) :
    destination (written ++ (title ++ blank)) = d := by
  have hfirst := isBlank_of_head? ht hw
  generalize title ++ blank = behind at hfirst
  cases hd with
  | bare hne hsolid _ hangle _ =>
    have hlast := List.getLast?_eq_some_getLast hne
    obtain ⟨c, r, rfl⟩ := List.exists_cons_of_ne_nil hne
    have hstrip := Text.strip_append rfl (hsolid c List.mem_cons_self) hlast
      (hsolid _ (List.getLast_mem hne)) behind
    -- What is left behind the destination still begins with white space.
    have hfirst' : ∀ c ∈ (Text.dropEndWhile isBlank behind).head?, isBlank c = true := by
      intro c hc
      obtain ⟨u, hu⟩ := Text.dropEndWhile_prefix isBlank behind
      refine hfirst c ?_
      rw [← hu, List.head?_append, Option.mem_def.1 hc]
      rfl
    rw [destination, hstrip]
    split
    · next heq => exact absurd (congrArg some (List.cons.inj heq).1) hangle
    · rw [Text.head?_words hne hsolid hfirst']
      rfl
  | angled hd =>
    have hstrip := Text.strip_append (a := '<' :: (d ++ ['>'])) rfl (by decide)
      (List.getLast?_eq_some_iff.2 ⟨'<' :: d, rfl⟩) (by decide) behind
    have hinside : ∀ c ∈ d, decide (c ≠ '>') = true := fun c hc => decide_eq_true fun h => hd (h ▸ hc)
    rw [destination, hstrip]
    simp only [List.cons_append, List.append_assoc]
    rw [List.takeWhile_append_of_pos hinside]
    simp

end Tails

/-! ## Passing a tail -/

variable {a behind d t written title blank : Text}

theorem skipTail_of_inside (h : l.rest = '(' :: (a ++ ')' :: behind)) (ha : Inside a) :
    l.skipTail = (some (destination a), { l with cursor := l.cursor + 1 + a.length + 1 }) := by
  have hclose := closingParen?_eq_some_iff.2 ⟨a, behind, rfl, ha, rfl⟩
  unfold skipTail
  rw [h]
  simp only [hclose, List.take_left]

/-- A tail as it is written is passed, and gives its destination. -/
theorem skipTail_of_written (hd : Written written d) (ht : Titled title) (hw : ∀ c ∈ blank, isBlank c = true)
    (h : l.rest = '(' :: (written ++ (title ++ blank) ++ ')' :: behind)) :
    l.skipTail
      = (some d, { l with cursor := l.cursor + 1 + (written ++ (title ++ blank)).length + 1 }) := by
  rw [skipTail_of_inside h (inside_written hd ht hw), destination_written hd ht hw]

theorem skipTail_of_unclosed (h : l.rest = '(' :: t) (hopen : ∀ a behind, t = a ++ ')' :: behind → ¬ Inside a) :
    l.skipTail = (none, l) := by
  have hnone : closingParen? .plain 0 '(' true t = none := by
    refine Option.eq_none_iff_forall_ne_some.2 fun i hi => ?_
    obtain ⟨a, behind, ht, ha, -⟩ := closingParen?_eq_some_iff.1 hi
    exact hopen a behind ht ha
  unfold skipTail
  rw [h]
  simp only [hnone]

/-- At a destination with its title, if it has one, and white space in parentheses, the walk gives back the
destination and goes past the closing parenthesis. Where none closes, it stays. -/
theorem skipTail_reads_back (l : Locator) :
    (∀ written d title blank behind : Text, Written written d → Titled title →
      (∀ c ∈ blank, isBlank c = true) → l.rest = '(' :: (written ++ (title ++ blank) ++ ')' :: behind) →
      l.skipTail
        = (some d, { l with cursor := l.cursor + 1 + (written ++ (title ++ blank)).length + 1 })) ∧
    ∀ t : Text, l.rest = '(' :: t → (∀ a behind, t = a ++ ')' :: behind → ¬ Inside a) →
      l.skipTail = (none, l) := by
  exact ⟨fun written d title blank behind hd ht hw hrest => skipTail_of_written hd ht hw hrest,
    fun t hrest hopen => skipTail_of_unclosed hrest hopen⟩

/-- Parentheses in a destination and in a title, a destination with a space, a backslash and a parenthesis in
angle brackets, and a tail that is not closed. -/
theorem skipTail_reads_back_parens :
    Written "a(b)'c".toList "a(b)'c".toList ∧ Titled " \"t)\"".toList ∧
      skipTail ⟨"x(a(b)'c \"t)\" )y".toList, 1⟩
        = (some "a(b)'c".toList, ⟨"x(a(b)'c \"t)\" )y".toList, 15⟩) ∧
      Written "<a )\\>".toList "a )\\".toList ∧
      skipTail ⟨"(<a )\\>)".toList, 0⟩ = (some "a )\\".toList, ⟨"(<a )\\>)".toList, 8⟩) ∧
      skipTail ⟨"(a".toList, 0⟩ = (none, ⟨"(a".toList, 0⟩) := by
  have hparens : Matched '(' ')' "a(b)'c".toList :=
    .plain (by decide) (by decide) (by decide) (.group (a := ['b']) (b := "'c".toList)
      (Text.matched_of_forall (by simp)) (Text.matched_of_forall (by simp)))
  have hsolid : ∀ c ∈ "a(b)'c".toList, isBlank c = false := by
    simpa using show "a(b)'c".toList.any isBlank = false by decide
  have hbare : Written "a(b)'c".toList "a(b)'c".toList :=
    .bare (by decide) hsolid (by decide) (by decide) hparens
  have hblank : ∀ c ∈ [' '], isBlank c = true := List.forall_mem_singleton.2 (by decide)
  have htitle : Titled " \"t)\"".toList :=
    .title (w := [' ']) (t := ['t', ')']) hblank (by decide) (.inl rfl) (by decide) (by decide)
  have hangled : Written "<a )\\>".toList "a )\\".toList := .angled (d := "a )\\".toList) (by decide)
  have hnil : ∀ c ∈ ([] : Text), isBlank c = true := List.forall_mem_nil _
  refine ⟨hbare, htitle, ?_, hangled, ?_, ?_⟩
  · exact (skipTail_reads_back ⟨"x(a(b)'c \"t)\" )y".toList, 1⟩).1 _ _ _ [' '] ['y'] hbare htitle hblank rfl
  · exact (skipTail_reads_back ⟨"(<a )\\>)".toList, 0⟩).1 _ _ _ [] [] hangled .none hnil rfl
  · refine (skipTail_reads_back ⟨"(a".toList, 0⟩).2 ['a'] rfl fun a behind h => ?_
    have hmem : ')' ∈ ['a'] := h ▸ by simp
    exact absurd hmem (by decide)

end Locator

end Texdown
