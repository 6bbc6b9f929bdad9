import Texdown.Text.Ranges
import Texdown.Text.Basic

/-!
# White space

Blank characters are the white space of every script, the line and paragraph separators, and the
four ASCII information separators. They bound words and are trimmed from both ends.
-/
namespace Texdown.Text

def blankRanges : Ranges :=
  [(0x9, 0xd), (0x1c, 0x20), (0x85, 0x85), (0xa0, 0xa0), (0x1680, 0x1680), (0x2000, 0x200a),
   (0x2028, 0x2029), (0x202f, 0x202f), (0x205f, 0x205f), (0x3000, 0x3000)]

def isBlank (c : Char) : Bool := blankRanges.contains c

/-- A text without any character but white space. -/
def isBlankText (t : Text) : Bool := t.all isBlank

def strip (t : Text) : Text := trimWhile isBlank t

/-- The maximal runs of characters other than white space. -/
def words (t : Text) : List Text :=
  go [] t
where
  /-- `word` holds the characters of the current word, last one first. -/
  go (word : Text) : Text → List Text
    | [] => if word.isEmpty then [] else [word.reverse]
    | c :: r =>
      if isBlank c then (if word.isEmpty then go [] r else word.reverse :: go [] r)
      else go (c :: word) r

end Texdown.Text
