import Texdown.Program.Markdown.Lines

/-!
# Tables

A table has a line of headings, a line of dashes under them, and any number of rows, with as many
cells in every line. Cells are separated by bars; the bars at both ends of a line may be left out
throughout.
-/
namespace Texdown.Markdown.Tables

def cells (t : Text) : List Text :=
  (go [] none t).map fun c => Lines.trim c
where
  /-- `cell` holds the current cell, last character first, and `before` the character in front. -/
  go (cell : Text) (before : Option Char) : Text → List Text
    | [] => [cell.reverse]
    | c :: r =>
      if c = '|' ∧ before ≠ some '\\' then cell.reverse :: go [] (some c) r
      else go (c :: cell) (some c) r

/-- What stands between the bars at both ends of a line. -/
def framed? (line : Text) : Option Text :=
  (Lines.shallow? line).bind fun t =>
    match t with
    | '|' :: r =>
      let r := Lines.trimEnd r
      if 2 ≤ r.length && r.getLast? == some '|' then some r.dropLast else none
    | _ => none

def isDashes (t : Text) : Bool :=
  let t' := Lines.dropIndent t
  t.all (fun c => c ∈ ['-', ':', '|', ' ']) && (t'.head? == some '-' || t'.head? == some ':')

/-- Whether a line is the line of dashes of a table without bars at the ends. -/
def isOpenDashes (line : Text) : Bool :=
  match Lines.shallow? line with
  | some t =>
    let rest := (t.dropWhile fun c => c == '-' || c == ':').dropWhile (· == ' ')
    isDashes t && t.head? != some ' ' && rest.head? == some '|'
  | none => false

/-- Reads the lines of a table: its headings, its rows, and the lines behind it. -/
def read? (head dashes : Text) (lines : List Text) : Option ((List Text × List (List Text)) × List Text) :=
  match framed? head, framed? dashes with
  | some h, some d =>
    if isDashes d then finish h d ((lines.takeWhile fun l => (framed? l).isSome).filterMap framed?)
      (lines.dropWhile fun l => (framed? l).isSome)
    else none
  | _, _ =>
    match Lines.shallow? head with
    | some h =>
      if h.contains '|' && isOpenDashes dashes then
        finish h (Lines.dropIndent dashes) (lines.takeWhile (·.contains '|'))
          (lines.dropWhile (·.contains '|'))
      else none
    | none => none
where
  /-- Every line must have as many cells. -/
  finish (head dashes : Text) (rows rest : List Text) :
      Option ((List Text × List (List Text)) × List Text) :=
    let headings := cells (Lines.trim head)
    let n := (cells (Lines.trim dashes)).length
    let rows := rows.map fun r => cells (Lines.trim r)
    if headings.length = n && rows.all (·.length = n) then
      some ((headings, rows), rest.dropWhile Lines.isBlank)
    else none

end Texdown.Markdown.Tables
