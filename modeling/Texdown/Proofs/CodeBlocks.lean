import Texdown.Proofs.Arrangement
import Texdown.Proofs.OutsideMath

/-!
# Blocks of code

A block of code is written as a verbatim environment. Its lines are written as they are, each as it
stands in the text, and a line feed comes behind them if the last one lacks its end. But the line break
in front of the first line is one that was asked for, so indentation follows it: inside of lists, a
block of code begins with blanks that are not in its text (`CodeBlock.written`).

Results:
* `codeBlocks_of_tokens`: the blocks of a stream are those of its tree, but for what is in tables.
* `Printed.step`, `Printed.runs`: each event goes on with the blocks that are written.
* `codeBlocks_written`: a conversion writes the blocks of its stream, each with its lines.
-/
namespace Texdown

/-! ## The blocks of a stream -/

/-- A block of code: the level of indentation at its place, and its lines and where they stand. -/
structure CodeBlock where
  level : Nat
  lines : List (Text × Span) := []
  deriving DecidableEq, Repr

namespace CodeBlock

/-- The text of a block as the reader gives it. -/
def raw (b : CodeBlock) : Text := b.lines.flatMap (·.1)

def add (b : CodeBlock) (line : Text) (span : Span) : CodeBlock :=
  { b with lines := b.lines ++ [(line, span)] }

end CodeBlock

/-- What is known of the blocks of code while the events are read: the open containers, the level of
indentation, the block that is open, and the blocks before it. -/
structure CodeScan where
  st : List Tag := []
  level : Nat := 0
  current : Option CodeBlock := none
  blocks : List CodeBlock := []
  deriving DecidableEq, Repr

namespace CodeScan

/-- Reads an event. Inside of what is left out there are no blocks. -/
def next (s : CodeScan) (x : Located) : CodeScan :=
  let s' := { s with st := x.event.opened s.st }
  if 0 < skipping s.st then s'
  else
    let s' := { s' with level := x.event.levelAfter s.level }
    match x.event with
    | .start (.codeBlock _) => { s' with current := some { level := s.level } }
    | .text t => { s' with current := s.current.map (·.add t x.span) }
    | .stop (.codeBlock _) => { s' with current := none, blocks := s.blocks ++ s.current.toList }
    | _ => s'

def read (s : CodeScan) (xs : List Located) : CodeScan := xs.foldl next s

end CodeScan

/-- The blocks of code of a stream, but for what is left out. -/
def codeBlocksOf (xs : List Located) : List CodeBlock := (({} : CodeScan).read xs).blocks

mutual

/-- The blocks of code in a token, but for those in tables. -/
def Token.shownCode : Token → List Text
  | .container kind children => if kind = .table then [] else shownCodeAll children
  | .group children | .heading _ children | .list _ children | .item _ children
  | .link _ _ _ children => shownCodeAll children
  | .codeBlock _ raw => [raw]
  | .text _ | .html _ | .codeSpan _ | .image _ _ _ | .footnote _ | .footnoteReference _ | .rule
  | .softBreak | .hardBreak | .blank | .other _ => []

def Token.shownCodeAll : List Token → List Text
  | [] => []
  | t :: ts => t.shownCode ++ shownCodeAll ts

end

namespace CodeScan

variable {s : CodeScan} {x : Located} {xs : List Located}

@[simp] theorem read_nil (s : CodeScan) : s.read [] = s := rfl

@[simp] theorem read_cons (s : CodeScan) (x : Located) (xs : List Located) :
    s.read (x :: xs) = (s.next x).read xs := rfl

theorem read_append (s : CodeScan) (xs ys : List Located) : s.read (xs ++ ys) = (s.read xs).read ys :=
  List.foldl_append

theorem st_next (s : CodeScan) (x : Located) : (s.next x).st = x.event.opened s.st := by
  unfold next
  split
  · rfl
  · dsimp only
    split <;> rfl

theorem next_skipped (h : 0 < skipping s.st) (x : Located) :
    s.next x = { s with st := x.event.opened s.st } := if_pos h

theorem next_start_code (h : skipping s.st = 0) {language : Option Text}
    (hx : x.event = .start (.codeBlock language)) :
    s.next x = { s with st := .codeBlock language :: s.st, current := some { level := s.level } } := by
  rw [next, if_neg (by omega), hx]
  rfl

theorem next_text (h : skipping s.st = 0) {t : Text} (hx : x.event = .text t) :
    s.next x = { s with current := s.current.map (·.add t x.span) } := by
  rw [next, if_neg (by omega), hx]
  rfl

theorem next_stop_code (h : skipping s.st = 0) {language : Option Text}
    (hx : x.event = .stop (.codeBlock language)) :
    s.next x = { s with st := s.st.tail, current := none, blocks := s.blocks ++ s.current.toList } := by
  rw [next, if_neg (by omega), hx]
  rfl

/-- Outside of code, nothing but code changes the blocks. -/
theorem next_other (h : skipping s.st = 0) (hnone : s.current = none)
    (hstart : ∀ language, x.event ≠ .start (.codeBlock language)) :
    s.next x = { s with st := x.event.opened s.st, level := x.event.levelAfter s.level } := by
  rw [next, if_neg (by omega)]
  dsimp only
  split
  · next language hx => exact absurd hx (hstart language)
  · rw [hnone]
    rfl
  · rw [hnone, Option.toList_none, List.append_nil]
  · rfl

/-! ### Trees -/

/-- A walk whose events have these blocks of code, unless all of them are left out. -/
def Adds (k : Walker) (raws : List Text) : Prop := ∀ (w : Walk) (s : CodeScan),
  (0 < skipping s.st → s.read (k w).1 = s) ∧
    (skipping s.st = 0 → s.current = none → ∃ level blocks,
      s.read (k w).1 = { s with level := level, blocks := s.blocks ++ blocks } ∧
        blocks.map CodeBlock.raw = raws)

/-- A scan that goes nowhere. -/
theorem same (s : CodeScan) : s = { s with level := s.level, blocks := s.blocks ++ [] } := by
  rw [List.append_nil]

theorem adds_nothing {k : Walker} (h : ∀ w, (k w).1 = []) : Adds k [] := fun w s => by
  rw [h w]
  exact ⟨fun _ => rfl, fun _ _ => ⟨s.level, [], same s, rfl⟩⟩

theorem levelAfter_of_isLeaf {e : Event} (h : e.isLeaf = true) (n : Nat) : e.levelAfter n = n := by
  cases e with
  | start | stop => cases h
  | _ => rfl

theorem adds_leaf {k : Walker} (h : ∀ w, ∃ x, (k w).1 = [x] ∧ x.event.isLeaf = true) : Adds k [] := by
  intro w s
  obtain ⟨x, hk, hx⟩ := h w
  have hst : x.event.opened s.st = s.st := Event.opened_of_isLeaf hx s.st
  have hlevel : x.event.levelAfter s.level = s.level := levelAfter_of_isLeaf hx s.level
  rw [hk]
  refine ⟨fun hpos => ?_, fun h0 hnone => ⟨s.level, [], ?_, rfl⟩⟩
  · rw [read_cons, next_skipped hpos, hst]
    rfl
  · have hstart : ∀ language, x.event ≠ .start (.codeBlock language) := fun language he => by
      rw [he] at hx
      cases hx
    rw [read_cons, next_other h0 hnone hstart, hst, hlevel]
    exact same s

theorem Adds.andThen {a b : Walker} {ps qs : List Text} (ha : Adds a ps) (hb : Adds b qs) :
    Adds (.andThen a b) (ps ++ qs) := by
  intro w s
  have happend : (Walker.andThen a b w).1 = (a w).1 ++ (b (a w).2).1 := rfl
  rw [happend, read_append]
  refine ⟨fun hpos => ?_, fun h0 hnone => ?_⟩
  · rw [(ha w s).1 hpos]
    exact (hb _ s).1 hpos
  · obtain ⟨n, bs, hs, hps⟩ := (ha w s).2 h0 hnone
    rw [hs]
    obtain ⟨m, cs, hs', hqs⟩ := (hb (a w).2 { s with level := n, blocks := s.blocks ++ bs }).2 h0 hnone
    exact ⟨m, bs ++ cs, by rw [hs', List.append_assoc], by rw [List.map_append, hps, hqs]⟩

/-- A container other than a block of code around the events of a walk. -/
theorem read_enclosed {k : Walker} {raws : List Text} (h : Adds k raws) {t : Tag}
    (ht : t.isCodeBlock = false) {a z : Located} (ha : a.event = .start t) (hz : z.event = .stop t) (w : Walk)
    (s : CodeScan) :
    (0 < skipping s.st → s.read (a :: ((k w).1 ++ [z])) = s) ∧
    (skipping s.st = 0 → s.current = none → ∃ level blocks,
      s.read (a :: ((k w).1 ++ [z])) = { s with level := level, blocks := s.blocks ++ blocks } ∧
        blocks.map CodeBlock.raw = if t.isSkipped then [] else raws) := by
  have hcode : ∀ language, t ≠ .codeBlock language := by
    rintro language rfl
    cases ht
  rw [read_cons, read_append, read_cons, read_nil]
  refine ⟨fun hpos => ?_, fun h0 hnone => ?_⟩
  · have hin : 0 < skipping (t :: s.st) := by
      rw [skipping_cons]
      omega
    rw [next_skipped hpos, ha, Event.opened, (h w _).1 hin, next_skipped hin, hz]
    rfl
  · rw [next_other h0 hnone fun language he => hcode language (Event.start.inj (ha.symm.trans he)), ha]
    cases hskip : t.isSkipped with
    | true =>
      have hin : 0 < skipping (t :: s.st) := by simp [hskip]
      rw [Event.opened, (h w _).1 hin, next_skipped hin, hz]
      exact ⟨_, [], by rw [List.append_nil]; rfl, rfl⟩
    | false =>
      have hin : skipping (t :: s.st) = 0 := by simp [hskip, h0]
      obtain ⟨n, bs, hs, hraws⟩ := (h w { s with st := t :: s.st, level := _ }).2 hin hnone
      have hend := next_other (s := ⟨t :: s.st, n, s.current, s.blocks ++ bs⟩) (x := z) hin hnone
        fun language he => by rw [hz] at he; cases he
      rw [hz] at hend
      exact ⟨_, bs, (congrArg (next · z) hs).trans hend, hraws⟩

theorem Adds.enclose {k : Walker} {raws : List Text} (h : Adds k raws) {t : Tag}
    (ht : t.isCodeBlock = false) : Adds (.enclose t k) (if t.isSkipped then [] else raws) := fun w s =>
  read_enclosed (a := ⟨.start t, w.locator.here, w.notices⟩) h ht rfl rfl { w with notices := [] } s

/-- Notices do not matter. -/
theorem read_clear (s : CodeScan) (xs : List Located) :
    s.read (xs.map fun x => { x with notices := [] }) = s.read xs := by
  induction xs generalizing s with
  | nil => rfl
  | cons x xs ih => exact ih (s.next x)

theorem Adds.link {k : Walker} {raws : List Text} (h : Adds k raws) (url : Text)
    (title label : Option Text) : Adds (.link url title label k) raws := by
  intro w s
  obtain ⟨target, _, a, z, hk, ha, hz, -⟩ := link_eq url title label k w
  have hclear : s.read (Walker.link url title label k w).1 = s.read (a :: ((k (linkStart w)).1 ++ [z])) := by
    rw [hk, List.cons_append, read_cons, read_cons, read_append, read_append, read_clear]
  rw [hclear]
  exact read_enclosed h rfl ha hz (linkStart w) s

theorem read_lines {ls : List Text} {b : CodeBlock} (h0 : skipping s.st = 0) (hs : s.current = some b)
    (hxs : eventsOf xs = ls.map .text) : ∃ lines,
      s.read xs = { s with current := some { b with lines := b.lines ++ lines } } ∧
        lines.map (·.1) = ls := by
  induction ls generalizing s xs b with
  | nil =>
    obtain rfl : xs = [] := List.map_eq_nil_iff.1 hxs
    exact ⟨[], by rw [List.append_nil, read_nil, ← hs], rfl⟩
  | cons l ls ih =>
    obtain ⟨x, xs, rfl, hx, hrest⟩ := List.map_eq_cons_iff.1 hxs
    have hnext : s.next x = { s with current := some (b.add l x.span) } := by
      rw [next_text h0 hx, hs]
      rfl
    obtain ⟨lines, hread, hls⟩ := ih (s := { s with current := some (b.add l x.span) }) h0 rfl hrest
    refine ⟨(l, x.span) :: lines, ?_, by rw [List.map_cons, hls]⟩
    rw [read_cons, hnext, hread]
    simp [CodeBlock.add]

theorem read_lines_skipped {ls : List Text} (hpos : 0 < skipping s.st)
    (hxs : eventsOf xs = ls.map .text) : s.read xs = s := by
  induction ls generalizing xs with
  | nil =>
    obtain rfl : xs = [] := List.map_eq_nil_iff.1 hxs
    rfl
  | cons l ls ih =>
    obtain ⟨x, xs, rfl, hx, hrest⟩ := List.map_eq_cons_iff.1 hxs
    rw [read_cons, next_skipped hpos, hx]
    exact ih hrest

theorem adds_codeBlock (language : Option Text) (raw : Text) :
    Adds (.enclose (.codeBlock language) (.codeLines (Text.splitLines raw))) [raw] := by
  intro w s
  have hlines := eventsOf_codeLines (Text.splitLines raw) { w with notices := [] }
  have hevents : (Walker.enclose (.codeBlock language) (.codeLines (Text.splitLines raw)) w).1
      = ⟨.start (.codeBlock language), w.locator.here, w.notices⟩
        :: ((Walker.codeLines (Text.splitLines raw) { w with notices := [] }).1 ++ [_]) := rfl
  rw [hevents, read_cons, read_append, read_cons, read_nil]
  refine ⟨fun hpos => ?_, fun h0 hnone => ?_⟩
  · have hin : 0 < skipping (.codeBlock language :: s.st) := hpos
    rw [next_skipped hpos, read_lines_skipped (by exact hin) hlines, next_skipped (by exact hin)]
    rfl
  · have hin : skipping (.codeBlock language :: s.st) = 0 := h0
    obtain ⟨lines, hread, hls⟩ := read_lines
      (s := { s with st := .codeBlock language :: s.st, current := some { level := s.level } }) hin rfl hlines
    rw [next_start_code h0 rfl, hread, next_stop_code (by exact hin) rfl]
    refine ⟨s.level, [{ level := s.level, lines }], ?_, ?_⟩
    · rw [hnone]
      rfl
    · have hraw : (CodeBlock.raw { level := s.level, lines }) = (lines.map (·.1)).flatten := by
        rw [CodeBlock.raw, List.flatMap_def]
      rw [List.map_singleton, hraw, hls, Text.flatten_splitLines]

theorem adds_nonempty {event : Text → Event} (raw : Text) (h : (event raw).isLeaf = true) :
    Adds (.nonempty event raw) [] := by
  unfold Walker.nonempty
  split
  · exact adds_nothing fun _ => rfl
  · exact adds_leaf fun w => ⟨_, rfl, h⟩

theorem adds_image (url : Text) (title label : Option Text) : Adds (.image url title label) [] := by
  intro w s
  obtain ⟨target, a, z, hk, ha, hz⟩ : ∃ target a z, (Walker.image url title label w).1 = [a, z] ∧
      a.event = .start (.image target) ∧ z.event = .stop (.image target) := ⟨_, _, _, rfl, rfl, rfl⟩
  rw [hk]
  exact read_enclosed (adds_nothing (k := .skip) fun _ => rfl) rfl ha hz w s

mutual

theorem adds_walk : ∀ t : Token, Adds t.walk t.shownCode
  | .container kind children => by
    rw [Token.walk, Token.shownCode]
    have h := (adds_walkAll children).enclose (t := kind.tag) (by cases kind <;> rfl)
    cases kind <;> exact h
  | .group children => by
    rw [Token.walk, Token.shownCode]
    exact adds_walkAll children
  | .heading level children => by
    rw [Token.walk, Token.shownCode]
    exact (adds_walkAll children).enclose rfl
  | .codeBlock info raw => by
    rw [Token.walk, Token.shownCode]
    exact adds_codeBlock _ raw
  | .list start children => by
    rw [Token.walk, Token.shownCode]
    exact (adds_walkAll children).enclose rfl
  | .item none children => by
    rw [Token.walk, Token.shownCode]
    exact (adds_walkAll children).enclose rfl
  | .item (some done) children => by
    rw [Token.walk, Token.shownCode]
    exact ((adds_leaf fun w => ⟨_, rfl, rfl⟩).andThen (adds_walkAll children)).enclose rfl
  | .footnote label => by
    rw [Token.walk, Token.shownCode]
    exact (adds_nothing fun _ => rfl).enclose rfl
  | .link url title label children => by
    rw [Token.walk, Token.shownCode]
    exact (adds_walkAll children).link url title label
  | .html raw | .text raw => by
    rw [Token.walk, Token.shownCode]
    exact adds_nonempty raw rfl
  | .codeSpan raw | .footnoteReference raw => by
    rw [Token.walk, Token.shownCode]
    exact adds_leaf fun w => ⟨_, rfl, rfl⟩
  | .image url title label => by
    rw [Token.walk, Token.shownCode]
    exact adds_image url title label
  | .rule | .softBreak | .hardBreak => by
    rw [Token.walk, Token.shownCode]
    exact adds_leaf fun w => ⟨_, rfl, rfl⟩
  | .blank | .other _ => by
    rw [Token.walk, Token.shownCode]
    exact adds_nothing fun _ => rfl

theorem adds_walkAll : ∀ ts : List Token, Adds (Token.walkAll ts) (Token.shownCodeAll ts)
  | [] => by
    rw [Token.walkAll, Token.shownCodeAll]
    exact adds_nothing fun _ => rfl
  | t :: ts => by
    rw [Token.walkAll, Token.shownCodeAll]
    exact (adds_walk t).andThen (adds_walkAll ts)

end

end CodeScan

namespace CodeScan

def lines (s : CodeScan) : List (Text × Span) := (s.blocks ++ s.current.toList).flatMap (·.lines)

/-- A line is the text of an event, and where it stands. -/
theorem mem_lines_next {s : CodeScan} {x : Located} {line : Text × Span}
    (h : line ∈ (s.next x).lines) : line ∈ s.lines ∨ x.event = .text line.1 ∧ x.span = line.2 := by
  unfold next at h
  split at h
  · exact .inl h
  · dsimp only at h
    split at h
    · refine .inl ?_
      simp only [lines, List.flatMap_append, List.mem_append] at h ⊢
      exact .inl (h.resolve_right (by simp))
    · next t hx =>
      cases hc : s.current with
      | none => exact .inl (by simpa [lines, hc] using h)
      | some b =>
        simp only [lines, hc, CodeBlock.add, Option.map_some, Option.toList_some, List.flatMap_append,
          List.flatMap_singleton, List.mem_append, List.mem_singleton] at h ⊢
        rcases h with h | h | rfl
        · exact .inl (.inl h)
        · exact .inl (.inr h)
        · exact .inr ⟨hx, rfl⟩
    · exact .inl (by simpa [lines] using h)
    · exact .inl h

theorem mem_lines_read {s : CodeScan} {xs : List Located} {line : Text × Span}
    (h : line ∈ (s.read xs).lines) :
    line ∈ s.lines ∨ ∃ x ∈ xs, x.event = .text line.1 ∧ x.span = line.2 := by
  induction xs generalizing s with
  | nil => exact .inl h
  | cons x xs ih =>
    rcases ih h with hs | ⟨y, hy, hline⟩
    · rcases mem_lines_next hs with hs | hline
      · exact .inl hs
      · exact .inr ⟨x, List.mem_cons_self, hline⟩
    · exact .inr ⟨y, List.mem_cons_of_mem x hy, hline⟩

end CodeScan

/-- Where a line of a block was located, the source has it. -/
theorem slice_of_line {source : Text} {tokens : List Token} {b : CodeBlock}
    (hb : b ∈ codeBlocksOf (streamOf source tokens).1) {line : Text × Span} (hline : line ∈ b.lines) :
    line.2.start = line.2.stop ∨ line.2.slice source = line.1 := by
  have hmem : line ∈ (({} : CodeScan).read (streamOf source tokens).1).lines :=
    List.mem_flatMap.2 ⟨b, List.mem_append_left _ hb, hline⟩
  rcases CodeScan.mem_lines_read hmem with hno | ⟨x, hx, htext, hspan⟩
  · cases hno
  · obtain ⟨c, hsits⟩ := (ordered_streamOf source tokens).exists_sits hx
    simp only [Located.Sits, htext, hspan] at hsits
    exact hsits.2.2.2.imp id And.right

/-- The blocks of code of a stream are those of its tree, but for what is in tables. At its end, none is
open. -/
theorem codeBlocks_of_tokens (source : Text) (tokens : List Token) :
    (codeBlocksOf (streamOf source tokens).1).map CodeBlock.raw = Token.shownCodeAll tokens ∧
      (({} : CodeScan).read (streamOf source tokens).1).current = none := by
  obtain ⟨level, blocks, hread, hraws⟩ :=
    (CodeScan.adds_walkAll tokens ⟨⟨source, 0⟩, []⟩ {}).2 rfl rfl
  have hread : ({} : CodeScan).read (streamOf source tokens).1 = { level, blocks } := hread
  rw [codeBlocksOf, hread]
  exact ⟨hraws, rfl⟩

/-! ## What is written of a block -/

namespace CodeBlock

/-- A line with the delimiters of the text given back where it stands. -/
def lineIn (o : Text) (line : Text × Span) : Text := Math.unveil (Math.disguise o).2 line.2 line.1

def body (o : Text) (b : CodeBlock) : Text := b.lines.flatMap (lineIn o)

/-- A line that was located stands so in the text. -/
theorem lineIn_slice (o : Text) (s : Span) :
    lineIn o (s.slice (Math.disguise o).1, s) = Math.sliceVeiled (Math.disguise o).2 s o :=
  (Math.disguised_disguise o).unveil_slice s

/-- A line that was not located has no delimiters. -/
theorem lineIn_lost (o : Text) {line : Text} {s : Span} (h : s.start = s.stop) :
    lineIn o (line, s) = line := by
  have hnone : Math.inside s (Math.disguise o).2 = [] := List.eq_nil_iff_forall_not_mem.2 fun p hp => by
    obtain ⟨-, hstart, hstop⟩ := Math.mem_inside.1 hp
    omega
  rw [lineIn, Math.unveil_eq_uncover, hnone, Math.uncover_nil]

/-- Text whose last line lacks its end. -/
def unended (t : Text) : Bool := !t.isEmpty && t.getLast? != some '\n'

theorem unended_append (a t : Text) :
    unended (a ++ t) = if t.isEmpty then unended a else t.getLast? != some '\n' := by
  cases t with
  | nil => rw [List.append_nil, List.isEmpty_nil, if_pos rfl]
  | cons c t => simp [unended, List.getLast?_append, List.getLast?_cons]

/-- What comes in front of the lines: indentation follows the line break, as it does everywhere. -/
def opening (indentWidth : Int) (b : CodeBlock) : Text :=
  Latex.command "begin".toList "verbatim".toList
    ++ '\n' :: List.replicate (min Latex.maxIndent (indentWidth * b.level)).toNat ' '

def written (indentWidth : Int) (o : Text) (b : CodeBlock) : Text :=
  b.opening indentWidth ++ b.body o ++ (if unended (b.body o) then ['\n'] else [])
    ++ Latex.command "end".toList "verbatim".toList

end CodeBlock

namespace Latex

/-- These texts stand in a text one behind the other, and none reaches into the next. -/
def StandIn : List Text → Text → Prop
  | [], _ => True
  | b :: bs, t => ∃ front rest, t = front ++ b ++ rest ∧ StandIn bs rest

theorem StandIn.append {bs : List Text} {t : Text} (h : StandIn bs t) (u : Text) : StandIn bs (t ++ u) := by
  induction bs generalizing t with
  | nil => trivial
  | cons b bs ih =>
    obtain ⟨front, rest, rfl, hrest⟩ := h
    exact ⟨front, rest ++ u, by simp, ih hrest⟩

theorem StandIn.concat {bs : List Text} {t : Text} (h : StandIn bs t) (b : Text) :
    StandIn (bs ++ [b]) (t ++ b) := by
  induction bs generalizing t with
  | nil => exact ⟨t, [], by simp, trivial⟩
  | cons c bs ih =>
    obtain ⟨front, rest, rfl, hrest⟩ := h
    exact ⟨front, rest ++ b, by simp, ih hrest⟩

theorem StandIn.mono {bs : List Text} {t u : Text} (h : StandIn bs t) (hu : t <+: u) :
    StandIn bs u := by
  obtain ⟨rest, rfl⟩ := hu
  exact h.append rest

namespace Formatter

/-- Outside of math, text comes behind what is written and its gap. -/
theorem flush_write {f : Formatter} (h : f.mathOpen = false) (origin : Origin) (t : Text) :
    (f.write origin t).flush.text = f.flush.text ++ t ∧ (f.write origin t).mathOpen = false := by
  have hspacing : (f.write origin t).spacing = f.spacing.flushed := f.flush_spacing
  have hcount : f.spacing.flushed.count = 0 := rfl
  refine ⟨?_, ?_⟩
  · rw [flush_text, hspacing, if_pos hcount, Spacing.gap, if_pos hcount, List.append_nil]
    exact text_put f.flush origin t
  · have hflush : f.flush.mathOpen = false := by rw [flush_mathOpen, h, ite_self]
    exact hflush

end Formatter

namespace Rendering

open Math (prepare disguise Disguised disguised_disguise)
open Formatter (Wrote closed flush_text text_put)

variable {settings : Settings} {resolve : Resolver} {r r' : Rendering} {width : Int} {o : Text}
  {s s' : CodeScan} {last : Option Event} {cs : List Text} {x : Located} {xs : List Located}

/-- The blocks that were read are written, and of the block that is open what was read of it. -/
structure Printed (width : Int) (o : Text) (s : CodeScan) (r : Rendering) : Prop where
  indentWidth : r.formatter.spacing.indentWidth = width
  level : r.formatter.spacing.level = s.level
  inCode : r.inCode = s.current.isSome
  onTop : s.current.isSome = true → skipping s.st = 0 ∧ s.st.head?.any Tag.isCodeBlock = true
  outside : s.current = none →
    r.codeLineOpen = false ∧ StandIn (s.blocks.map (·.written width o)) r.formatter.text
  inside : ∀ b, s.current = some b → r.formatter.mathOpen = false ∧
    r.codeLineOpen = CodeBlock.unended (b.body o) ∧ ∃ front,
      StandIn (s.blocks.map (·.written width o)) front ∧
        r.formatter.flush.text = front ++ b.opening width ++ b.body o

theorem Printed.hear (h : Printed width o s r) (ns : List Notice) : Printed width o s (r.hear ns) := by
  have hflush : ∀ f : Formatter, ({ f with notices := f.notices ++ ns } : Formatter).flush.text
      = f.flush.text := fun f => by rw [Formatter.flush_text, Formatter.flush_text]; rfl
  rw [hear_eq]
  refine ⟨h.indentWidth, h.level, h.inCode, h.onTop, h.outside, fun b hb => ?_⟩
  obtain ⟨hclosed, hline, front, hstand, htext⟩ := h.inside b hb
  exact ⟨hclosed, hline, front, hstand, (hflush _).trans htext⟩

/-- Outside of code, whatever is written comes behind the blocks. -/
theorem Printed.perform (h : Printed width o s r) (hnone : s.current = none) {acts : List Act}
    (hf : r'.formatter = r.formatter.perform acts) (hcode : r'.inCode = false)
    (hline : r'.codeLineOpen = false) (hcurrent : s'.current = none) (hblocks : s'.blocks = s.blocks)
    (hlevel : (acts.foldl Spacing.act r.formatter.spacing).level = s'.level) : Printed width o s' r' where
  indentWidth := by rw [hf, Formatter.spacing_perform, indentWidth_act, h.indentWidth]
  level := by rw [hf, Formatter.spacing_perform, hlevel]
  inCode := by rw [hcode, hcurrent]; rfl
  onTop := fun hsome => by rw [hcurrent] at hsome; cases hsome
  outside := fun _ => by
    rw [hblocks, hf]
    exact ⟨hline, (h.outside hnone).2.mono (r.formatter.prefix_perform acts)⟩
  inside := fun b hb => by cases hcurrent.symm.trans hb

/-- Inside of what is left out, nothing is written. -/
theorem Printed.skip (h : Printed width o s r) (hpos : 0 < skipping s.st) (x : Located) :
    Printed width o (s.next x) (r.skip x.event) := by
  have hnone : s.current = none := by
    cases hc : s.current with
    | none => rfl
    | some b =>
      have := (h.onTop (by rw [hc]; rfl)).1
      omega
  have hsame : (r.skip x.event).formatter = r.formatter ∧ (r.skip x.event).inCode = r.inCode ∧
      (r.skip x.event).codeLineOpen = r.codeLineOpen := by
    unfold Rendering.skip
    split
    · split <;> exact ⟨rfl, rfl, rfl⟩
    · split <;> exact ⟨rfl, rfl, rfl⟩
    · exact ⟨rfl, rfl, rfl⟩
  rw [CodeScan.next_skipped hpos]
  have hformatter : (r.skip x.event).formatter = r.formatter.perform [] := hsame.1
  refine h.perform hnone hformatter ?_ (hsame.2.2.trans (h.outside hnone).1) hnone rfl h.level
  rw [hsame.2.1, h.inCode, hnone]
  rfl

/-- An event outside of code that opens none. -/
theorem Printed.other (h : Printed width o s r) (hnone : s.current = none) (h0 : skipping s.st = 0)
    (hdepth : r.skipDepth = 0) (hstart : ∀ language, x.event ≠ .start (.codeBlock language))
    (hr : r.step settings x.event x.span = .ok r') : Printed width o (s.next x) r' := by
  have hcode : r.inCode = false := by rw [h.inCode, hnone]; rfl
  have hline := (h.outside hnone).1
  have hkept : r'.inCode = false ∧ r'.codeLineOpen = false := by
    have hleaf : x.event.isLeaf = true → r'.inCode = false ∧ r'.codeLineOpen = false := fun hleaf => by
      obtain ⟨-, b, hb, hbeside⟩ := beside_leaf hleaf hdepth hr
      exact ⟨(congrArg Rendering.inCode hbeside :).trans hcode,
        (congrArg Rendering.codeLineOpen hbeside :).trans ((hb hcode).trans hline)⟩
    have hr' := hr
    unfold Rendering.step at hr'
    rw [if_neg (by omega)] at hr'
    cases he : x.event with
    | start t =>
      rw [he] at hr'
      cases hr'
      obtain ⟨links, -, hbeside⟩ := beside_openTag r t
      have ht : t.isCodeBlock = false := by
        cases t with
        | codeBlock language => exact absurd he (hstart language)
        | _ => rfl
      refine ⟨(congrArg Rendering.inCode hbeside :).trans ?_,
        (congrArg Rendering.codeLineOpen hbeside :).trans hline⟩
      rw [beside, ht, hcode, Bool.or_false]
    | stop t =>
      rw [he] at hr'
      obtain ⟨links, -, hbeside⟩ := beside_closeTag hr'
      refine ⟨(congrArg Rendering.inCode hbeside :).trans ?_,
        (congrArg Rendering.codeLineOpen hbeside :).trans ?_⟩
      · rw [beside, hcode, Bool.and_false]
      · rw [beside, hline, Bool.and_false]
    | _ => exact hleaf (by rw [he]; rfl)
  rw [CodeScan.next_other h0 hnone hstart]
  refine h.perform hnone (formatter_step hr) hkept.1 hkept.2 hnone rfl ?_
  rw [(effect_acts settings hdepth x.event x.span).level, h.level]

/-- A block of code opens. -/
theorem Printed.begin (h : Printed width o s r) (hnone : s.current = none) (h0 : skipping s.st = 0)
    (hwrote : Wrote cs r.formatter) {language : Option Text}
    (hx : x.event = .start (.codeBlock language)) :
    Printed width o (s.next x) (r.openTag (.codeBlock language)) := by
  have hclosed := openTag_closed hwrote (t := .codeBlock language) (.inl rfl)
  obtain ⟨hline, hstand⟩ := h.outside hnone
  have hspacing : (r.openTag (.codeBlock language)).formatter.spacing
      = { r.formatter.spacing with pending := 1, limit := 1 } :=
    congrArg (fun s : Spacing => (s.add 1).cap 1) (r.formatter.add 1).flush_spacing
  have hgap : (r.openTag (.codeBlock language)).formatter.flush.text
      = (r.formatter.add 1).flush.text ++ (CodeBlock.opening width { level := s.level }) := by
    have hcount : (r.openTag (.codeBlock language)).formatter.spacing.count = 1 := by
      rw [hspacing]
      rfl
    have hcommand : (r.openTag (.codeBlock language)).formatter.text
        = (r.formatter.add 1).flush.text ++ command "begin".toList "verbatim".toList :=
      text_put (r.formatter.add 1).flush .command _
    rw [flush_text, hcount, if_neg (by decide), closed, hclosed, hcommand, Spacing.gap, hcount,
      if_neg (by decide), hspacing, h.indentWidth, h.level]
    simp [CodeBlock.opening]
  rw [CodeScan.next_start_code h0 hx]
  refine ⟨?_, ?_, rfl, fun _ => ⟨h0, rfl⟩, (fun hc => by cases hc), fun b hb => ?_⟩
  · rw [hspacing, h.indentWidth]
  · rw [hspacing, h.level]
  · cases hb
    refine ⟨hclosed, hline, _, hstand.mono (r.formatter.add 1).prefix_flush, ?_⟩
    rw [hgap]
    exact (List.append_nil _).symm

/-- Text in code is written as it is once it has its delimiters back. -/
theorem text_of_inCode {q : Rendering} {t t' : Text} {span : Span} (hin : q.inCode = true)
    (hr : r.restore t span = .ok (t', q)) : r.text t span = .ok { q.format (·.write .content t') with
      codeLineOpen := if t'.isEmpty then q.codeLineOpen else t'.getLast? != some '\n' } := by
  unfold Rendering.text
  rw [hr]
  dsimp only [bind, Except.bind]
  rw [if_pos hin]
  cases t'.isEmpty <;> rfl

/-- A line of code is written as it stands in the text. -/
theorem Printed.line (h : Printed width o s r) {b : CodeBlock} (hb : s.current = some b)
    (hdepth : r.skipDepth = 0) {t : Text} {ns : List Notice} {table : Math.Table} (hx : x.event = .text t)
    (hrestore : r.table.restore t x.span = (.ok (CodeBlock.lineIn o (t, x.span)), ns, table))
    (hr : r.step settings x.event x.span = .ok r') : Printed width o (s.next x) r' := by
  have hsome : s.current.isSome = true := by rw [hb]; rfl
  obtain ⟨h0, hcode⟩ := h.onTop hsome
  have hq : Printed width o s (({ r with table } : Rendering).hear ns) :=
    Printed.hear (r := { r with table })
      ⟨h.indentWidth, h.level, h.inCode, h.onTop, h.outside, h.inside⟩ ns
  have hrestored : r.restore t x.span
      = .ok (CodeBlock.lineIn o (t, x.span), ({ r with table } : Rendering).hear ns) := by
    rw [restore_eq, hrestore]
  generalize ({ r with table } : Rendering).hear ns = q at hq hrestored
  have hin : q.inCode = true := hq.inCode.trans hsome
  obtain ⟨hclosed, hline, front, hstand, htext⟩ := hq.inside b hb
  obtain ⟨hflush, hclosed'⟩ := Formatter.flush_write hclosed .content (CodeBlock.lineIn o (t, x.span))
  have hspacing : (q.formatter.write .content (CodeBlock.lineIn o (t, x.span))).spacing
      = q.formatter.spacing.flushed := q.formatter.flush_spacing
  have hbody : (b.add t x.span).body o = b.body o ++ CodeBlock.lineIn o (t, x.span) := by
    simp [CodeBlock.body, CodeBlock.add]
  have hwritten : r' = { q.format (·.write .content (CodeBlock.lineIn o (t, x.span))) with
      codeLineOpen := CodeBlock.unended ((b.add t x.span).body o) } := by
    rw [hbody, CodeBlock.unended_append, ← hline]
    unfold Rendering.step at hr
    rw [if_neg (by omega), hx] at hr
    exact Except.ok.inj (hr.symm.trans (text_of_inCode hin hrestored))
  rw [CodeScan.next_text h0 hx, hb, hwritten]
  refine ⟨?_, ?_, hin, fun _ => ⟨h0, hcode⟩, (fun hc => by cases hc), fun c hc => ?_⟩
  · exact (congrArg Spacing.indentWidth hspacing).trans hq.indentWidth
  · exact (congrArg Spacing.level hspacing).trans hq.level
  · cases hc
    refine ⟨hclosed', rfl, front, hstand, ?_⟩
    rw [hbody, ← List.append_assoc]
    exact hflush.trans (congrArg (· ++ _) htext)

/-- A block of code closes. -/
theorem Printed.finish (h : Printed width o s r) {b : CodeBlock} (hb : s.current = some b)
    {language : Option Text} (hx : x.event = .stop (.codeBlock language))
    (hr : r.closeTag (.codeBlock language) = .ok r') : Printed width o (s.next x) r' := by
  obtain ⟨h0, -⟩ := h.onTop (by rw [hb]; rfl)
  obtain ⟨hclosed, hline, front, hstand, htext⟩ := h.inside b hb
  have hf : r'.formatter = r.formatter.perform (closeActs r.codeLineOpen r.openLinks (.codeBlock language)) :=
    (congrArg Rendering.formatter
      (Except.ok.inj (hr.symm.trans (closeTag_on hr r.formatter r.asked))) :)
  have hend : (r.formatter.perform (if r.codeLineOpen then [.write .content ['\n']] else [])).flush.text
      = r.formatter.flush.text ++ if r.codeLineOpen then ['\n'] else [] := by
    cases r.codeLineOpen with
    | false => exact (List.append_nil _).symm
    | true => exact (Formatter.flush_write hclosed .content ['\n']).1
  have hwritten : r'.formatter.text = front ++ b.written width o := by
    rw [hf, closeActs, Formatter.perform_append]
    refine (text_put (Formatter.flush _) .command _).trans ?_
    rw [hend, htext, hline]
    simp [CodeBlock.written]
  have hshut : r'.inCode = false ∧ r'.codeLineOpen = false := by
    cases hr
    exact ⟨rfl, rfl⟩
  rw [CodeScan.next_stop_code h0 hx, hb]
  refine ⟨?_, ?_, hshut.1, (fun hc => by cases hc), fun _ => ⟨hshut.2, ?_⟩, (fun c hc => by cases hc)⟩
  · rw [hf, Formatter.spacing_perform, indentWidth_act, h.indentWidth]
  · rw [hf, Formatter.spacing_perform, (effect_closeActs _ _ _).level, h.level]
    rfl
  · rw [hwritten, Option.toList_some, List.map_append, List.map_singleton]
    exact hstand.concat _

/-- An image writes its figure outside of code. -/
theorem Printed.image (h : Printed width o s r) (hnone : s.current = none) (target : Target) :
    Printed width o s (r.image settings resolve target) := by
  have hbeside := beside_image settings resolve r target
  refine h.perform hnone (formatter_image settings resolve r target) ?_ ?_ hnone rfl ?_
  · refine ((congrArg Rendering.inCode hbeside :).trans h.inCode).trans ?_
    rw [hnone]
    rfl
  · exact (congrArg Rendering.codeLineOpen hbeside :).trans (h.outside hnone).1
  · rw [(effect_imageActs settings resolve target).level, h.level]
    rfl

/-! ## Runs -/

/-- An event goes on with the blocks that are written. -/
theorem Printed.step (h : Printed width o s r)
    (hready : Ready (disguise o).2 (disguise o).1 s.st last (x :: xs) r) (hwrote : Wrote cs r.formatter)
    (hr : (r.hear x.notices).step settings x.event x.span = .ok r') : Printed width o (s.next x) r' := by
  have hplaced := hready.placed
  rw [eventsOf_cons] at hplaced
  obtain ⟨hfits, hmay, -⟩ := placed_cons hplaced
  have hskips : (r.hear x.notices).skipDepth = skipping s.st := (hready.nested.hear x.notices).skips
  have hheard := h.hear x.notices
  have hstep := hr
  unfold Rendering.step at hstep
  rcases Nat.eq_zero_or_pos (skipping s.st) with h0 | hpos
  · rw [if_neg (by omega)] at hstep
    cases hc : s.current with
    | none =>
      by_cases hcode : ∃ language, x.event = .start (.codeBlock language)
      · obtain ⟨language, hx⟩ := hcode
        rw [hx] at hstep
        cases hstep
        exact hheard.begin hc h0 (wrote_hear hwrote x.notices) hx
      · exact hheard.other hc h0 (hskips.trans h0) (fun language hx => hcode ⟨language, hx⟩) hr
    | some b =>
      -- A block of code is the innermost container, so this is a line of it or its end.
      obtain ⟨-, hhead⟩ := h.onTop (by rw [hc]; rfl)
      obtain ⟨language, outer, hst⟩ := exists_eq_codeBlock_cons hhead
      rw [hst] at hmay hfits
      obtain ⟨c, hbehind, hsits, -⟩ := hready.order
      cases hx : x.event with
      | text t =>
        obtain ⟨t', ns, table, hrestore, -, -, hrestored⟩ :=
          exists_restore (disguised_disguise o) hready.table hbehind (.inl hx) hsits
        simp only [Located.Sits, hx] at hsits
        have hline : t' = CodeBlock.lineIn o (t, x.span) := by
          rcases hsits.2.2.2 with hlost | ⟨hlocated, hslice⟩
          · rw [if_neg (by omega)] at hrestored
            rw [CodeBlock.lineIn_lost o hlost, hrestored.1]
          · rw [if_pos hlocated] at hrestored
            rw [← hslice, CodeBlock.lineIn_slice, hrestored.1]
        rw [hline, ← table_hear r x.notices] at hrestore
        exact hheard.line hc (hskips.trans h0) hx hrestore hr
      | stop t =>
        rw [hx] at hfits hstep
        obtain ⟨_, hstop⟩ := eq_cons_of_fits hfits
        cases hstop
        exact hheard.finish hc hx hstep
      | _ =>
        rw [hx] at hmay
        rcases text_or_stop_of_code hmay with hno | hno <;> cases hno
  · rw [if_pos (by omega)] at hstep
    cases hstep
    exact hheard.skip hpos x

theorem Printed.runs (hruns : Runs settings resolve xs r r') :
    ∀ {cs : List Text} {s : CodeScan} {last : Option Event}, Printed width o s r →
      Ready (disguise o).2 (disguise o).1 s.st last xs r → Clear cs s.st last r →
      Printed width o (s.read xs) r' := by
  induction hruns with
  | nil r => exact fun h _ _ => h
  | @event x rest r r1 r2 hi hs _ ih =>
    intro cs s last h hready hclear
    obtain ⟨r1', hs', hready'⟩ := hready.step settings (disguised_disguise o) hi
    cases Except.ok.inj (hs.symm.trans hs')
    obtain ⟨hfits, hmay, -⟩ := placed_cons hready.placed
    have hclear' : Clear (cs ++ commandsOf settings resolve s.st [x.event]) _ _ r1 :=
      (hclear.hear x.notices).step hfits hmay (startsImage?_hear r _ _ ▸ hi) hs
    rw [← CodeScan.st_next] at hready' hclear'
    exact ih (h.step hready hclear.wrote hs) hready' hclear'
  | @image x y rest r r2 target hi hy _ ih =>
    intro cs s last h hready hclear
    obtain ⟨hx, hzero⟩ := eq_of_startsImage? hi
    obtain ⟨hy', hready'⟩ := hready.image settings resolve hi
    have h0 : skipping s.st = 0 := hready.nested.skips.symm.trans hzero
    have hplaced := hready.placed
    rw [eventsOf_cons, hx] at hplaced
    obtain ⟨-, hmay, -⟩ := placed_cons hplaced
    have hcode : s.st.head?.any Tag.isCodeBlock = false := by
      obtain ⟨-, htext, -, -⟩ := Placement.walked_iff.1 hmay
      exact head?_isCodeBlock_of_start htext
    have hnone : s.current = none := by
      cases hc : s.current with
      | none => rfl
      | some b => cases hcode.symm.trans (h.onTop (by rw [hc]; rfl)).2
    have hnext : (s.next x).next y = s := by
      have hopen := CodeScan.next_other (x := x) h0 hnone fun _ he => by cases hx.symm.trans he
      have hclose := CodeScan.next_other (s := s.next x) (x := y) (by rw [hopen, hx]; exact h0)
        (by rw [hopen]; exact hnone) fun _ he => by cases hy'.symm.trans he
      rw [hclose, hopen, hx, hy']
      rfl
    have hlast : some y.event ≠ some (.start .item) := by
      rw [hy']
      exact fun he => by cases he
    rw [CodeScan.read_cons, CodeScan.read_cons, hnext]
    exact ih (((h.hear x.notices).image hnone target).hear y.notices) hready'
      (((hclear.hear x.notices).image hcode target hlast).hear y.notices)

/-! ## Conversions -/

theorem printed_initial (settings : Settings) (frame : Option Text) (o : Text) (table : Math.Table) :
    Printed settings.indentWidth o {} (initial settings frame table) := by
  have hfresh : Printed settings.indentWidth o {} (ofTable settings table) :=
    ⟨rfl, rfl, rfl, (fun h => by cases h), fun _ => ⟨rfl, trivial⟩, fun b hb => by cases hb⟩
  cases frame with
  | none => exact hfresh
  | some preamble =>
    have hopened : ((ofTable settings table).openDocument preamble).formatter
        = (ofTable settings table).formatter.perform
          [.write .command (Text.dropEndWhile (· == '\n') preamble), .cap 2, .add 2] := rfl
    exact hfresh.perform rfl hopened rfl rfl rfl rfl rfl

/-- The end of a document comes behind what is written. -/
theorem prefix_ended (frame : Option Text) (r : Rendering) :
    r.formatter.text <+: (ended frame r).formatter.text := by
  cases frame with
  | none => exact ((r.formatter.cap 1).add 1).prefix_flush
  | some preamble => exact r.formatter.prefix_perform [.cap 3, .add 3, .write .command endsDocument]

/-- A conversion writes the blocks of code of its tree, but for those in tables, one behind the other:
each has its lines, with the delimiters given back where they stand in the text and nothing else changed,
in a verbatim environment whose first line is indented as its place asks for. -/
theorem codeBlocks_written (settings : Settings) (resolve : Resolver) (frame : Option Text)
    (markdown : Text) (tokens : List Token) :
    let o := Text.normalizeNewlines markdown
    let xs := streamOf (prepare o).1 tokens
    (codeBlocksOf xs.1).map CodeBlock.raw = Token.shownCodeAll tokens ∧
      (∀ b ∈ codeBlocksOf xs.1, ∀ line ∈ b.lines,
        line.2.start = line.2.stop ∨ line.2.slice (prepare o).1 = line.1) ∧
      ∃ r, document settings resolve frame xs.1 xs.2 (prepare o).2 = (r, none) ∧
        StandIn ((codeBlocksOf xs.1).map (·.written settings.indentWidth o)) r.latex := by
  intro o xs
  obtain ⟨hraws, hnone⟩ := codeBlocks_of_tokens (prepare o).1 tokens
  obtain ⟨r, hruns⟩ := exists_runs_streamOf o tokens settings resolve frame
  have hprinted := Printed.runs hruns (printed_initial settings frame o _)
    (ready_initial settings frame o tokens) (clear_initial settings frame _)
  obtain ⟨-, hstand⟩ := (hprinted.hear xs.2).outside hnone
  exact ⟨hraws, fun b hb line hline => slice_of_line hb hline, _, document_of_runs frame hruns xs.2,
    hstand.mono (prefix_ended frame _)⟩

/-- Inside of a list, the first line of a block of code is indented. -/
theorem codeBlock_indented :
    let o := Text.normalizeNewlines "- ```\n  x\n  ```\n".toList
    let tokens : List Token := [.list none [.item none [.codeBlock [] "x\n".toList]]]
    let xs := streamOf (prepare o).1 tokens
    ∃ r, document {} (fun _ => none) none xs.1 xs.2 (prepare o).2 = (r, none) ∧
      r.latex = ("\\begin\x7bitemize\x7d\n  \\item \\begin\x7bverbatim\x7d\n    x\n\\end\x7bverbatim\x7d\n"
        ++ "\\end\x7bitemize\x7d\n").toList ∧
      ¬ "\\begin\x7bverbatim\x7d\nx\n\\end\x7bverbatim\x7d".toList <:+: r.latex := by
  intro o tokens xs
  have hnone : (document {} (fun _ => none) none xs.1 xs.2 (prepare o).2).2 = none := by decide +kernel
  exact ⟨_, Prod.ext rfl hnone, by decide +kernel, by decide +kernel⟩

end Rendering
end Latex
end Texdown
