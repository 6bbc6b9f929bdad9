import Texdown.Value.Toml.Scalar

/-!
# TOML documents

A document is a table. Its statements put values under keys, open tables and append tables to
lists. What a table may still take depends on how it came about:
* a key is given once, and a table is opened once;
* tables in the way of a dotted key are closed for headings, and for dotted keys under later headings;
* inline tables and lists are final, with everything in them.
-/
namespace Texdown.Toml

abbrev Key := List Text

abbrev Entries := List (Value × Value)

/-! ## Keys -/

/-- The characters of a part without quotes. -/
def isBare (c : Char) : Bool := Text.isLetterOrDigit c || c = '-' || c = '_'

def keyPart? (t : Text) : Option (Text × Text) :=
  match t.span isBare with
  | ([], _) => lineText? t
  | p => some p

def skipSpace (t : Text) : Text := t.dropWhile isSpace

/-- The parts of a key, with points between them, up to what is neither. -/
def key? : Nat → Text → Option (Key × Text)
  | 0, _ => none
  | fuel + 1, t => do
    let (part, t) ← keyPart? t
    match skipSpace t with
    | '.' :: r => (key? fuel (skipSpace r)).map fun p => (part :: p.1, p.2)
    | t => return ([part], t)

/-! ## Comments -/

/-- What stands behind a comment, if one comes first. -/
def skipComment? (t : Text) : Option Text :=
  match t with
  | '#' :: r =>
    let (comment, rest) := r.span (· ≠ '\n')
    if comment.any isBarred then none else some rest
  | _ => some t

/-- What stands behind blanks, line ends and comments. -/
def skipBlank? : Nat → Text → Option Text
  | 0, t => some t
  | fuel + 1, t =>
    match t.dropWhile isSpaceOrBreak with
    | '#' :: r => (skipComment? ('#' :: r)).bind (skipBlank? fuel)
    | t => some t

/-! ## Tables -/

/-- Changes the table under a key; tables in the way are made as needed. With `items`, a list in the
way stands for its last item. -/
def within (items : Bool) (change : Entries → Option Entries) : Key → Entries → Option Entries
  | [], es => change es
  | k :: ks, es =>
    let key := Value.text k
    match Value.find? key es with
    | none => do return Value.put key (.mapping (← within items change ks [])) es
    | some (.mapping inner) => do return Value.put key (.mapping (← within items change ks inner)) es
    | some (.list vs) =>
      match items, vs.getLast? with
      | true, some (.mapping inner) => do
        return Value.put key (.list (vs.dropLast ++ [.mapping (← within items change ks inner)])) es
      | _, _ => none
    | some _ => none

def putNew (k : Text) (v : Value) (es : Entries) : Option Entries :=
  if (Value.find? (.text k) es).isSome then none else some (Value.put (.text k) v es)

/-- Appends an empty table to the list under a key. -/
def appendTable (k : Text) (es : Entries) : Option Entries :=
  match Value.find? (.text k) es with
  | none => some (Value.put (.text k) (.list [.mapping []]) es)
  | some (.list vs) => some (Value.put (.text k) (.list (vs ++ [.mapping []])) es)
  | some _ => none

/-- Whether a value is final once it is written. -/
def isFinal : Value → Bool
  | .list _ | .mapping _ => true
  | _ => false

/-- Whether a key leads into something final. -/
def isFrozen (frozen : List Key) (key : Key) : Bool := frozen.any (·.isPrefixOf key)

/-! ## Values -/

mutual

def value? : Nat → Text → Option (Value × Text)
  | 0, _ => none
  | fuel + 1, t =>
    match t with
    | '[' :: r => do
      match ← skipBlank? fuel r with
      | ']' :: r => return (.list [], r)
      | r =>
        let (vs, r) ← items? fuel r
        return (.list vs, r)
    | '\x7b' :: r =>
      match skipSpace r with
      | '\x7d' :: r => some (.mapping [], r)
      | r => (inlineEntries? fuel [] [] r).map fun p => (.mapping p.1, p.2)
    | _ => scalar? t

/-- The items of a list up to its end; a comma may stand behind the last one. -/
def items? : Nat → Text → Option (List Value × Text)
  | 0, _ => none
  | fuel + 1, t => do
    let (v, t) ← value? fuel t
    match ← skipBlank? fuel t with
    | ']' :: r => return ([v], r)
    | ',' :: r =>
      match ← skipBlank? fuel r with
      | ']' :: r => return ([v], r)
      | r =>
        let (vs, r) ← items? fuel r
        return (v :: vs, r)
    | _ => none

/-- The entries of an inline table up to its end, put behind earlier ones. -/
def inlineEntries? : Nat → Entries → List Key → Text → Option (Entries × Text)
  | 0, _, _, _ => none
  | fuel + 1, es, frozen, t => do
    let ((key, v), t) ← pair? fuel t
    if isFrozen frozen key then none
    let es ← within false (putNew (key.getLastD []) v) key.dropLast es
    match skipSpace t with
    | '\x7d' :: r => return (es, r)
    | ',' :: r => inlineEntries? fuel es (if isFinal v then key :: frozen else frozen) (skipSpace r)
    | _ => none

def pair? : Nat → Text → Option ((Key × Value) × Text)
  | 0, _ => none
  | fuel + 1, t => do
    let (key, t) ← key? fuel t
    let (v, t) ← value? fuel (skipSpace (← after? '=' t))
    return ((key, v), t)

end

/-! ## Statements -/

/-- A document that is being read: its entries, the tables that are open under no further heading,
those that will be so under the next one, what is final, and the key of the last heading. -/
structure Document where
  entries : Entries := []
  opened : List Key := []
  pending : List Key := []
  frozen : List Key := []
  heading : Key := []

namespace Document

/-- Puts a value under a key. -/
def assign? (d : Document) (key : Key) (v : Value) : Option Document :=
  let inner := (List.range key.length).drop 1 |>.map fun n => d.heading ++ key.take n
  let parent := d.heading ++ key.dropLast
  if inner.any (d.opened.contains ·) || isFrozen d.frozen parent then none
  else do
    let entries ← within true (putNew (key.getLastD []) v) parent d.entries
    return { d with
      entries
      pending := inner ++ d.pending
      frozen := if isFinal v then (d.heading ++ key) :: d.frozen else d.frozen }

/-- What holds as soon as a heading begins. -/
def settled (d : Document) : Document := { d with opened := d.pending ++ d.opened, pending := [] }

def openTable? (d : Document) (key : Key) : Option Document :=
  let d := d.settled
  if d.opened.contains key || isFrozen d.frozen key then none
  else do
    let entries ← within true some key d.entries
    return { d with entries, opened := key :: d.opened, heading := key }

/-- Appends a table to a list. Nothing is known about the keys in it. -/
def openItem? (d : Document) (key : Key) : Option Document :=
  let d := d.settled
  if isFrozen d.frozen key then none
  else do
    let entries ← within true (appendTable (key.getLastD [])) key.dropLast d.entries
    return { d with
      entries
      opened := key :: d.opened.filter (!key.isPrefixOf ·)
      frozen := d.frozen.filter (!key.isPrefixOf ·)
      heading := key }

/-- Reads the statement at the beginning of a line. -/
def statement? (fuel : Nat) (d : Document) (t : Text) : Option (Document × Text) :=
  match t with
  | '[' :: '[' :: r => do
    let (key, r) ← key? fuel (skipSpace r)
    return (← d.openItem? key, ← after? ']' (← after? ']' r))
  | '[' :: r => do
    let (key, r) ← key? fuel (skipSpace r)
    return (← d.openTable? key, ← after? ']' r)
  | '#' :: _ | '\n' :: _ | [] => some (d, t)
  | _ => do
    let ((key, v), r) ← pair? fuel t
    return (← d.assign? key v, r)

/-- Reads all statements, each on a line of its own. -/
def statements? : Nat → Document → Text → Option Document
  | 0, d, _ => some d
  | fuel + 1, d, t => do
    let (d, t) ← d.statement? (2 * t.length + 2) (skipSpace t)
    match ← skipComment? (skipSpace t) with
    | [] => return d
    | c :: r => if c = '\n' then statements? fuel d r else none

end Document

/-- A carriage return before a line feed does not count. -/
def joinBreaks : Text → Text
  | '\r' :: '\n' :: r => '\n' :: joinBreaks r
  | c :: r => c :: joinBreaks r
  | [] => []

def read? (t : Text) : Option Value :=
  let t := joinBreaks t
  (Document.statements? (t.length + 1) {} t).map fun d => .mapping d.entries

end Texdown.Toml
