import Texdown.Text.Basic
import Texdown.Text.CaseTable

/-!
# Lower and upper case

Full case mappings: some characters become several, and a capital sigma at the end of a word
becomes the final form.
-/
namespace Texdown.Text

/-- The image of one character under a table of runs and one of expansions. -/
def mapCase (runs : List CaseRun) (expansions : List (Nat × List Nat)) (c : Char) : Text :=
  match expansions.lookup c.toNat with
  | some ns => ns.map Char.ofNat
  | none => [Char.ofNat ((runs.findSome? (·.map? c.toNat)).getD c.toNat)]

/-- Whether the first character that is not passed over has case. -/
def startsCased (t : Text) : Bool :=
  ((t.dropWhile caseIgnorableRanges.contains).head?.map casedRanges.contains).getD false

/-- A sigma ends a word if a letter stands before it and none after it, nearest first. -/
def endsWord (before after : Text) : Bool := startsCased before && !startsCased after

def lower (t : Text) : Text :=
  go [] t
where
  /-- `before` holds the characters already read, nearest first. -/
  go (before : Text) : Text → Text
    | [] => []
    | c :: r =>
      (if c = 'Σ' then (if endsWord before r then ['ς'] else ['σ'])
       else mapCase lowerRuns lowerExpansions c) ++ go (c :: before) r

def upper (t : Text) : Text := t.flatMap (mapCase upperRuns upperExpansions)

end Texdown.Text
