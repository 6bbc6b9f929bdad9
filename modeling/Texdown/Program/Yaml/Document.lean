import Texdown.Config
import Texdown.Program.Yaml.Plain
import Texdown.Program.Yaml.Scalar

/-!
# YAML documents

Nodes are blocks, told apart by their columns, or stand in brackets. A node may have a name, under
which it may be referred to later, and a tag, which says what kind of value it is. A mapping takes in the
entries of those under its merge keys; its own entries win. A text holds one document at most.

The reader stands in for a library when the program runs. No theorem is about it: configurations are treated for
every reader of YAML.
-/
namespace Texdown.Yaml

/-! ## Values -/

/-- A node: a scalar whose value is still open, as it stands without quotes, or a value. -/
inductive Node where
  | plain (t : Text)
  | quoted (t : Text)
  | value (v : Value)
  deriving Inhabited

/-- The tag of a node. -/
inductive Tag where
  /-- The node says itself what it is. -/
  | open
  /-- A kind of the common schema. -/
  | standard (name : Text)
  /-- A kind that nobody knows. -/
  | unknown
  deriving DecidableEq, Repr

namespace Node

def text? : Node → Option Text
  | plain t | quoted t => some t
  | value _ => none

def untagged? : Node → Option Value
  | plain t => ofPlain? t
  | quoted t => some (.text t)
  | value v => some v

def scalar? (name t : Text) : Option Value :=
  if name = "str".toList then some (.text t)
  else if name = "null".toList then some .null
  else if name = "bool".toList then
    (booleanWords.lookup (t.map Char.toLower)).map Value.boolean
  else if name = "int".toList then (integer? t).map Value.integer
  else if name = "float".toList then
    ((real? t).orElse fun _ => (integer? t).map Double.ofInt).map Value.real
  else none

def value? (tag : Option Tag) (n : Node) : Option Value :=
  match tag, n with
  | none, n => n.untagged?
  | some .open, plain t | some .open, quoted t => ofPlain? t
  | some .open, value v => some v
  | some (.standard name), value (.list vs) => if name = "seq".toList then some (.list vs) else none
  | some (.standard name), value (.mapping es) => if name = "map".toList then some (.mapping es) else none
  | some (.standard name), n => n.text?.bind (scalar? name)
  | some .unknown, _ => none

end Node

/-- An entry of a mapping that is being read. -/
inductive Entry where
  | pair (key value : Value)
  /-- Takes in all entries of mappings; those of an earlier one win. -/
  | merge (sources : List Value)

namespace Entry

/-- The entry of a key; its value has been read. -/
def of? (key : Option Tag × Node) (v : Value) : Option Entry :=
  match key, v with
  | (none, .plain ['<', '<']), .list vs => some (.merge vs)
  | (none, .plain ['<', '<']), v => some (.merge [v])
  | (none, .plain ['=']), v => some (.pair (.text ['=']) v)
  | (tag, n), v => do
    let k ← n.value? tag
    if k.canBeKey then some (.pair k v) else none

/-- The entries that an entry takes in. -/
def merged? : Entry → Option (List (Value × Value))
  | pair .. => some []
  | merge sources => sources.reverse.foldlM (fun acc v => match v with
    | .mapping es => some (acc ++ es)
    | _ => none) []

/-- The entry itself. -/
def own : Entry → List (Value × Value)
  | pair k v => [(k, v)]
  | merge _ => []

end Entry

/-- The mapping with entries: first those it takes in, then its own. -/
def mapping? (entries : List Entry) : Option Value := do
  let merged ← entries.mapM Entry.merged?
  let all := merged.flatten ++ entries.flatMap Entry.own
  return .mapping (all.foldl (fun es e => Value.put e.1 e.2 es) [])

/-! ## Properties -/

namespace Reading

def isNameChar (c : Char) : Bool := Text.isLetterOrDigit c || c = '-' || c = '_'

/-- Whether what stands behind a name bounds it. -/
def endsName (t : Text) : Bool := startsBlank t || t.head?.any (· ∈ "?:,]\x7d%@\x60".toList)

def name : Reading Text := do
  pass 1
  let c ← get
  let s := c.rest.takeWhile isNameChar
  if s.isEmpty then failure
  pass s.length
  require fun c => endsName c.rest
  return s

/-- What stands before the names of standard tags in full. -/
def standardScheme : Text := "tag:yaml.org,2002:".toList

/-- A tag in full, short, or without a name. -/
def tag : Reading Tag := do
  let c ← get
  let s := c.rest.takeWhile (!isBlank ·)
  pass s.length
  match s with
  | ['!'] => return .open
  | '!' :: '!' :: s => return .standard s
  | '!' :: '<' :: s =>
    if s.getLast? ≠ some '>' then failure
    else if standardScheme.isPrefixOf s then
      return .standard (s.dropLast.drop standardScheme.length)
    else return .unknown
  | _ => return .unknown

/-- What may be said about a node before it. -/
structure Properties where
  anchor : Option Text := none
  tag : Option Tag := none

def Properties.isEmpty (p : Properties) : Bool := p.anchor.isNone && p.tag.isNone

/-- One more property, if one comes next. Each kind is given once. -/
def property? (p : Properties) : Reading (Option Properties) := do
  match (← get).rest with
  | '&' :: _ =>
    if p.anchor.isSome then failure
    let s ← name
    setKeyable false
    return some { p with anchor := some s }
  | '!' :: _ =>
    if p.tag.isSome then failure
    let t ← tag
    setKeyable false
    return some { p with tag := some t }
  | _ => return none

def properties : Reading Properties := do
  match ← property? {} with
  | none => return {}
  | some p =>
    modify Cursor.skipSpaces
    match ← property? p with
    | none => return p
    | some p => modify Cursor.skipSpaces; return p

/-- The value of a node with its properties; it gets its name. -/
def finish (p : Properties) (n : Node) : Reading Value := do
  let some v := n.value? p.tag | failure
  match p.anchor with
  | some s => define s v
  | none => pure ()
  return v

def reference : Reading Value := do
  let s ← name
  let some v := (← get).anchors.lookup s | failure
  setKeyable false
  return v

/-- A colon that ends a key. Outside of brackets a blank stands behind it. -/
def atColon (inFlow : Bool) (c : Cursor) : Bool := if inFlow then c.starts [':'] else c.atMark [':']

/-- Keys without a mark are not longer. -/
def longestKey : Nat := 1024

/-- Whether what was read since a cursor may be a key: a colon comes next, on the same line. -/
def isKey (inFlow : Bool) (start c : Cursor) : Bool :=
  atColon inFlow c && c.line = start.line && c.column ≤ start.column + longestKey

/-! ## Nodes in brackets -/

/-- A property of the node, or the null of a key or value that is left out. -/
def omitted : Node := .plain []

/-- Passes a character that must come next. -/
def expect (d : Char) : Reading Unit := do
  require fun c => c.starts [d]
  pass 1

mutual

/-- The content of a node in one piece: a scalar, a list or mapping in brackets, or a reference. -/
def atom (inFlow : Bool) (indent : Int) : Nat → Reading Node
  | 0 => failure
  | fuel + 1 => do
    match (← get).rest with
    | '*' :: _ => return .value (← reference)
    | '"' :: _ | '\'' :: _ => return .quoted (← quoted)
    | '[' :: _ => do
      pass 1
      skip true
      let vs ← flowItems fuel
      setKeyable false
      return .value (.list vs)
    | '\x7b' :: _ => do
      pass 1
      skip true
      let es ← flowEntries fuel
      let some v := mapping? es | failure
      setKeyable false
      return .value v
    | _ => return .plain (← plain inFlow (indent + 1).toNat)

/-- A node within brackets, with its tag. What it says of itself may stand alone. -/
def flowNode : Nat → Reading (Option Tag × Node)
  | 0 => failure
  | fuel + 1 => do
    require (!·.atBound)
    let p ← properties
    skip true
    let c ← get
    if !p.isEmpty && (c.rest.head?.any (· ∈ [',', ':', ']', '\x7d'])) then
      let v ← finish p omitted
      return (none, .value v)
    if p.anchor.isSome && c.starts ['*'] then failure
    let n ← atom true (-1) fuel
    match p.anchor with
    | none => return (p.tag, n)
    | some _ => return (none, .value (← finish p n))

/-- What stands behind the colon of a key, if it does. -/
def flowValue : Nat → Reading Value
  | 0 => failure
  | fuel + 1 => do
    if atColon true (← get) then
      pass 1
      skip true
      if (← get).rest.head?.any (· ∈ [',', ']', '\x7d']) then return .null
      let (tag, n) ← flowNode fuel
      finish { tag } n
    else return .null

/-- Goes on behind a comma, or ends at a bracket; tells whether it goes on. -/
def flowNext (close : Char) : Reading Bool := do
  skip true
  match (← get).rest with
  | ',' :: _ => do
    pass 1
    skip true
    if (← get).starts [close] then pass 1; return false
    return true
  | _ => expect close; return false

/-- An entry that begins with the mark of a key, or with a key. -/
def flowMarked : Nat → Reading Entry
  | 0 => failure
  | fuel + 1 => do
    pass 1
    skip true
    let key ← if (← get).rest.head?.any (· ∈ [':', ',', ']', '\x7d']) then pure (none, omitted) else flowNode fuel
    skip true
    let v ← flowValue fuel
    let some e := Entry.of? key v | failure
    return e

def flowItems : Nat → Reading (List Value)
  | 0 => failure
  | fuel + 1 => do
    let start ← get
    if start.starts [']'] then
      pass 1
      return []
    let v : Value ← if start.starts ['?'] then do
        let some v := mapping? [← flowMarked fuel] | failure
        pure v
      else do
        let (tag, n) ← flowNode fuel
        skip true
        if isKey true start (← get) then
          let some e := Entry.of? (tag, n) (← flowValue fuel) | failure
          let some v := mapping? [e] | failure
          pure v
        else finish { tag } n
    if ← flowNext ']' then return v :: (← flowItems fuel) else return [v]

/-- The entries of a mapping in brackets; a value may be left out. -/
def flowEntries : Nat → Reading (List Entry)
  | 0 => failure
  | fuel + 1 => do
    let start ← get
    if start.starts ['\x7d'] then
      pass 1
      return []
    let e : Entry ← if start.starts ['?'] then flowMarked fuel
      else do
        let key ← flowNode fuel
        skip true
        let v ← if isKey true start (← get) then flowValue fuel else pure .null
        let some e := Entry.of? key v | failure
        pure e
    if ← flowNext '\x7d' then return e :: (← flowEntries fuel) else return [e]

end

/-! ## Blocks -/

def key (indent : Int) : Reading (Option Tag × Node) := do
  let start ← get
  let fuel := 2 * start.rest.length + 2
  let p ← properties
  let n ← if atColon false (← get) then pure omitted else atom false indent fuel
  modify Cursor.skipSpaces
  require (isKey false start)
  pass 1
  setKeyable false
  match p.anchor with
  | none => return (p.tag, n)
  | some _ => return (none, .value (← finish p n))

/-- A key without a mark, if one begins here. -/
def key? (indent : Int) : Reading (Option (Option Tag × Node)) := do
  let c ← get
  if !c.keyable then return none
  match (key indent).run c with
  | some (k, c) => set c; return some k
  | none => return none

/-- Whether a node that belongs to a block at a column is left out: nothing comes, or only what lies
no deeper. With `lists`, the items of a list may lie as deep as the block. -/
def isOmitted (lists : Bool) (indent : Int) (c : Cursor) : Bool :=
  c.atEnd || c.column < indent || (c.column = indent && !(lists && c.atMark ['-']))

mutual

/-- The node that belongs to a block at a column, or nothing. -/
def nodeOrNull (lists : Bool) (indent : Int) : Nat → Reading Value
  | 0 => failure
  | fuel + 1 => do
    skip false
    if isOmitted lists indent (← get) then return .null
    node lists indent {} fuel

def node (lists : Bool) (indent : Int) (p : Properties) : Nat → Reading Value
  | 0 => failure
  | fuel + 1 => do
    let c ← get
    if c.atMark ['-'] then
      if !c.keyable then failure
      finish p (.value (.list (← items c.column fuel)))
    else if c.atMark ['?'] then
      if !c.keyable then failure
      let some v := mapping? (← entries c.column fuel) | failure
      finish p (.value v)
    else match ← key? indent with
      | some k => do
        let v ← nodeOrNull true c.column fuel
        let some e := Entry.of? k v | failure
        let es ← moreEntries c.column fuel
        let some v := mapping? (e :: es) | failure
        finish p (.value v)
      | none =>
        match ← property? p with
        | some p => do
          skip false
          if isOmitted lists indent (← get) then finish p omitted else node lists indent p fuel
        | none =>
          match c.rest with
          | '|' :: _ | '>' :: _ => finish p (.quoted (← block indent))
          | '*' :: _ => if p.isEmpty then reference else failure
          | _ => finish p (← atom false indent fuel)

def items (column : Nat) : Nat → Reading (List Value)
  | 0 => failure
  | fuel + 1 => do
    pass 1
    setKeyable true
    let v ← nodeOrNull false column fuel
    skip false
    let c ← get
    if !c.atEnd && c.column = column && c.atMark ['-'] then return v :: (← items column fuel)
    else return [v]

/-- The entries of a mapping at a column that come next, if any do. -/
def moreEntries (column : Nat) : Nat → Reading (List Entry)
  | 0 => failure
  | fuel + 1 => do
    skip false
    let c ← get
    if c.atEnd || c.column < column then return [] else entries column fuel

def entries (column : Nat) : Nat → Reading (List Entry)
  | 0 => failure
  | fuel + 1 => do
    let c ← get
    if c.column ≠ column then failure
    let e ← if c.atMark ['?'] then do
        pass 1
        setKeyable true
        let k ← nodeOrNull true column fuel
        skip false
        let c ← get
        let v ← if !c.atEnd && c.column = column && c.atMark [':'] then do
            pass 1
            setKeyable true
            nodeOrNull true column fuel
          else pure .null
        let some e := Entry.of? (none, .value k) v | failure
        pure e
      else do
        let some k ← key? column | failure
        let v ← nodeOrNull true column fuel
        let some e := Entry.of? k v | failure
        pure e
    return e :: (← moreEntries column fuel)

end

/-! ## Documents -/

/-- Passes directives; the beginning of the document must be marked behind them. -/
def directives : Nat → Reading Unit
  | 0 => failure
  | fuel + 1 => do
    skip false
    let c ← get
    if c.column = 0 && c.starts ['%'] then
      modify (·.passWhile (!isBreak ·))
      skip false
      require fun c => c.starts ['%'] || c.atBound
      directives fuel

def ends : Nat → Reading Unit
  | 0 => failure
  | fuel + 1 => do
    skip false
    let c ← get
    if c.column = 0 && c.atMark "...".toList then
      pass 3
      ends fuel
    else require (·.rest.isEmpty)

def document : Reading Value := do
  let fuel := 4 * (← get).rest.length + 8
  directives fuel
  let c ← get
  if c.column = 0 && c.atMark "---".toList then
    pass 3
    setKeyable false
    skip false
  else if !c.rest.isEmpty then require (!·.atBound)
  let v ← nodeOrNull false (-1) fuel
  ends fuel
  return v

end Reading

/-- A mark of the byte order at the beginning does not count. -/
def skipByteOrder : Text → Text
  | c :: r => if c = '\ufeff' then r else c :: r
  | [] => []

def read? (t : Text) : Option Value :=
  if t.all isAllowed then (Reading.document.run { rest := skipByteOrder t }).map (·.1) else none

/-- The reader of configurations: a text that is no document is the only error. -/
def reader : Config.YamlReader := fun t => ((read? t).map .ok).getD (.error .malformed)

end Texdown.Yaml
