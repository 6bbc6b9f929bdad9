import Texdown.Text.Blank
import Texdown.Text.Case

/-!
# HTML and automatic links

What stands between angle brackets: tags, comments, instructions and declarations of HTML, and
links that are their own text. Readers get the text behind the opening bracket and give back what
follows the closing one.
-/
namespace Texdown.Markdown

/-! ## Tags -/

def tagName? (t : Text) : Option (Text × Text) :=
  match t with
  | c :: r =>
    if Text.isLetter c then
      let p (c : Char) : Bool := Text.isLetterOrDigit c || c == '-'
      some (c :: r.takeWhile p, r.dropWhile p)
    else none
  | [] => none

def attributeValue? (t : Text) : Option Text :=
  match t with
  | '"' :: r => (Text.splitFirst? '"' r).map (·.2)
  | '\'' :: r => (Text.splitFirst? '\'' r).map (·.2)
  | t =>
    let p (c : Char) : Bool := !(c ∈ [' ', '!', '"', '\'', '=', '<', '>', '`'])
    if (t.head?.map p).getD false then some (t.dropWhile p) else none

def attribute? (t : Text) : Option Text :=
  match t with
  | c :: r =>
    if Text.isLetter c || c == '_' || c == ':' then
      let rest := r.dropWhile fun c => Text.isLetterOrDigit c || c ∈ ['_', '.', ':', '-']
      match rest.dropWhile Text.isBlank with
      | '=' :: v => attributeValue? (v.dropWhile Text.isBlank)
      | _ => some rest
    else none
  | [] => none

/-- What follows the attributes of a tag. `fuel` bounds their number. -/
def skipAttributes : Nat → Text → Text
  | 0, t => t
  | fuel + 1, t =>
    let gap := t.dropWhile Text.isBlank
    if gap.length < t.length then
      match attribute? gap with
      | some rest => skipAttributes fuel rest
      | none => t
    else t

def openTagEnd? (t : Text) : Option Text :=
  match (skipAttributes t.length t).dropWhile Text.isBlank with
  | '/' :: '>' :: r => some r
  | '>' :: r => some r
  | _ => none

def closeTagEnd? (t : Text) : Option Text :=
  match t.dropWhile Text.isBlank with
  | '>' :: r => some r
  | _ => none

/-- What follows a mark, which stands at least `least` characters away. -/
def behind? (mark : Text) (least : Nat) (t : Text) : Option Text :=
  (Text.indexOf? mark (t.drop least)).map fun i => (t.drop least).drop (i + mark.length)

def inlineHtml? (t : Text) : Option Text :=
  match t with
  | '!' :: '-' :: '-' :: r =>
    if ['>'].isPrefixOf r || ['-', '>'].isPrefixOf r then none
    else (Text.indexOf? ['-', '-'] r).bind fun i =>
      if 0 < i && ['>'].isPrefixOf (r.drop (i + 2)) then some (r.drop (i + 3)) else none
  | '?' :: r => behind? ['?', '>'] 1 r
  | '!' :: '[' :: 'C' :: 'D' :: 'A' :: 'T' :: 'A' :: r => behind? [']', ']', '>'] 1 r
  | '!' :: c :: r => if 'A' ≤ c ∧ c ≤ 'Z' then behind? ['>'] 1 r else none
  | '/' :: r => (tagName? r).bind fun s => closeTagEnd? s.2
  | r => (tagName? r).bind fun s => openTagEnd? s.2

/-! ## Automatic links -/

/-- A link that begins with a scheme, and what follows it. -/
def schemeLink? (t : Text) : Option (Text × Text) :=
  match t with
  | c :: r =>
    let scheme := r.takeWhile fun c => Text.isLetterOrDigit c || c ∈ ['.', '+', '-']
    if Text.isLetter c && 1 ≤ scheme.length && scheme.length ≤ 31 then
      match r.drop scheme.length with
      | ':' :: r' =>
        let body := r'.takeWhile fun c => !(c == '<' || c == '>' || c.toNat ≤ 0x20)
        match r'.drop body.length with
        | '>' :: rest => some (c :: scheme ++ ':' :: body, rest)
        | _ => none
      | _ => none
    else none
  | [] => none

/-- A part of the domain of an address: letters, digits and inner dashes. -/
def isDomainLabel (t : Text) : Bool :=
  1 ≤ t.length && t.length ≤ 63 && t.all (fun c => Text.isLetterOrDigit c || c == '-')
    && t.head? != some '-' && t.getLast? != some '-'

def mailLink? (t : Text) : Option (Text × Text) :=
  let userChar (c : Char) : Bool := Text.isLetterOrDigit c || c ∈ ".!#$%&'*+/=?^_\x60\x7b|\x7d~-".toList
  let user := t.takeWhile userChar
  match t.drop user.length with
  | '@' :: r =>
    let domain := r.takeWhile fun c => Text.isLetterOrDigit c || c == '-' || c == '.'
    match r.drop domain.length with
    | '>' :: rest =>
      if !user.isEmpty && (Text.splitOn '.' domain).all isDomainLabel then
        some (user ++ '@' :: domain, rest)
      else none
    | _ => none
  | _ => none

/-! ## Blocks -/

/-- The tags whose content is left alone up to their closing tag. -/
def verbatimTags : List Text := ["pre", "script", "style", "textarea"].map String.toList

/-- The tags that begin a block of HTML wherever they stand. -/
def blockTags : List Text :=
  ["address", "article", "aside", "base", "basefont", "blockquote", "body", "caption", "center",
    "col", "colgroup", "dd", "details", "dialog", "dir", "div", "dl", "dt", "fieldset",
    "figcaption", "figure", "footer", "form", "frame", "frameset", "h1", "h2", "h3", "h4", "h5",
    "h6", "head", "header", "hr", "html", "iframe", "legend", "li", "link", "main", "menu",
    "menuitem", "meta", "nav", "noframes", "ol", "optgroup", "option", "p", "param", "section",
    "source", "summary", "table", "tbody", "td", "tfoot", "th", "thead", "title", "tr", "track",
    "ul"].map String.toList

/-- How a block of HTML ends. -/
inductive HtmlEnd where
  /-- With the line that holds a mark. -/
  | mark (text : Text)
  /-- In front of a blank line. -/
  | blank
  /-- In front of a blank line; such a block does not interrupt a paragraph. -/
  | blankAlone
  deriving DecidableEq, Repr

/-- How the block of HTML ends that a line begins, if it begins one; the line is given behind its
indentation. -/
def htmlBlock? (line : Text) : Option HtmlEnd :=
  match line with
  | '<' :: '!' :: '-' :: '-' :: _ => some (.mark ['-', '-', '>'])
  | '<' :: '?' :: _ => some (.mark ['?', '>'])
  | '<' :: '!' :: '[' :: 'C' :: 'D' :: 'A' :: 'T' :: 'A' :: '[' :: _ => some (.mark [']', ']', '>'])
  | '<' :: '!' :: c :: _ => if 'A' ≤ c ∧ c ≤ 'Z' then some (.mark ['>']) else none
  | '<' :: '/' :: r =>
    (tagName? r).bind fun (name, rest) =>
      if blockTags.contains (Text.lower name) then some .blank
      else alone (closeTagEnd? rest)
  | '<' :: r =>
    (tagName? r).bind fun (name, rest) =>
      let name := Text.lower name
      if verbatimTags.contains name then some (.mark ('<' :: '/' :: name ++ ['>']))
      else if blockTags.contains name then some .blank
      else alone (openTagEnd? rest)
  | _ => none
where
  /-- A complete tag begins a block if nothing follows it on its line. -/
  alone (rest : Option Text) : Option HtmlEnd :=
    match rest with
    | some r => if Text.isBlankText r then some .blankAlone else none
    | none => none

end Texdown.Markdown
