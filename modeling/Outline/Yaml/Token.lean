import Outline.Yaml.Name

namespace Outline.Yaml

inductive Token
  | directive (d : Directive)
  | documentStart
  | documentEnd
  | blockList
  | blockMap
  | blockEnd
  | openList
  | closeList
  | openMap
  | closeMap
  | comma
  | entry
  | key
  | value
  | alias (name : String)
  | anchor (name : String)
  | tag (handle? : Option String) (text : String)
  | text (content : String) (isPlain : Bool)
  -- The text cannot be read on from here.
  | broken (f : Fault)
  deriving DecidableEq, Repr

namespace Token

-- A place where a key may have begun, in brackets of depth `nesting`, after `number` tokens.
-- That something was a key shows only at the colon after it; until then a mark keeps the place.
structure Mark where
  nesting  : Nat
  number   : Nat
  -- Nothing but a key can stand there.
  required : Bool
  index    : Nat
  line     : Nat
  column   : Nat

-- How far a text has been read.
structure Scan where
  -- The tokens so far, the last one first.
  done       : List Token
  count      : Nat
  nesting    : Nat
  indent     : Int
  outer      : List Int
  keyAllowed : Bool
  marks      : List Mark
  here       : Cursor

namespace Scan

def ofText (cs : List Char) : Scan := ⟨[], 0, 0, -1, [], true, [], .ofText cs⟩

def push (t : Token) (s : Scan) : Scan := { s with done := t :: s.done, count := s.count + 1 }

-- Puts a token after the first `number` ones.
def insert (number : Nat) (t : Token) (s : Scan) : Scan :=
  let after := s.count - number
  { s with done := s.done.take after ++ t :: s.done.drop after, count := s.count + 1 }

def goto (c : Cursor) (s : Scan) : Scan := { s with here := c }

def allowKey (b : Bool) (s : Scan) : Scan := { s with keyAllowed := b }

def inBrackets (s : Scan) : Bool := s.nesting != 0

-- A key ends in the line where it begins, and within 1024 characters.
def isStale (m : Mark) (c : Cursor) : Bool := m.line != c.line || m.index + 1024 < c.index

def dropStale (s : Scan) : Except Fault Scan :=
  let (stale, marks) := s.marks.partition (isStale · s.here)
  if stale.any Mark.required then .error .malformed else .ok { s with marks }

def dropMark (s : Scan) : Except Fault Scan :=
  let (here, marks) := s.marks.partition (·.nesting == s.nesting)
  if here.any Mark.required then .error .malformed else .ok { s with marks }

def mark (s : Scan) : Except Fault Scan := do
  if !s.keyAllowed then return s
  let required := !s.inBrackets && s.indent == s.here.column
  let s ← s.dropMark
  let m := ⟨s.nesting, s.count, required, s.here.index, s.here.line, s.here.column⟩
  return { s with marks := m :: s.marks }

-- The tokens that are settled, whatever follows.
def settled (s : Scan) : List Token :=
  let first := s.marks.foldl (fun n m => min n m.number) s.count
  (s.done.drop (s.count - first)).reverse

-- The number of blocks that end before a column, and the indentation that is left.
def ended (column : Int) (indent : Int) : List Int → Nat × Int × List Int
  | [] => (0, indent, [])
  | next :: outer =>
    if column < indent then
      let (n, indent, outer) := ended column next outer
      (n + 1, indent, outer)
    else (0, indent, next :: outer)

def endBlocks (column : Int) (s : Scan) : Scan :=
  if s.inBrackets then s
  else
    let (n, indent, outer) := ended column s.indent s.outer
    (List.range n).foldl (fun s _ => s.push .blockEnd) { s with indent, outer }

-- Begins a block if a column is indented further than the last one.
def beginBlock (column : Nat) (put : Scan → Scan) (s : Scan) : Scan :=
  if s.indent < column then put { s with indent := column, outer := s.indent :: s.outer } else s

def skipBlanks : Nat → Scan → Scan
  | 0, s => s
  | fuel + 1, s =>
    let c := s.here.skip (· == ' ')
    let c := if c.head? == some '#' then c.skip (!isBreak ·) else c
    match c.lineBreak? with
    | some (_, c) => skipBlanks fuel ((s.goto c).allowKey (s.keyAllowed || !s.inBrackets))
    | none        => s.goto c

def toNext (s : Scan) : Scan :=
  let s := if s.here.index == 0 && s.here.head? == some '\uFEFF' then s.goto s.here.next else s
  skipBlanks (s.here.rest.length + 1) s

def leaveDocument (s : Scan) : Except Fault Scan := do
  return (← (s.endBlocks (-1)).dropMark).allowKey false

def openBrackets (t : Token) (s : Scan) : Except Fault Scan := do
  let s ← s.mark
  return { s.push t with nesting := s.nesting + 1, keyAllowed := true, here := s.here.next }

def closeBrackets (t : Token) (s : Scan) : Except Fault Scan := do
  if s.nesting == 0 then .error .malformed
  else
    let s ← s.dropMark
    return { s.push t with nesting := s.nesting - 1, keyAllowed := false, here := s.here.next }

def entry (s : Scan) : Except Fault Scan := do
  if s.inBrackets then return ((← s.allowKey true |>.dropMark).push .entry).goto s.here.next
  else if !s.keyAllowed then .error .malformed
  else
    let s := s.beginBlock s.here.column (push .blockList)
    return ((← s.allowKey true |>.dropMark).push .entry).goto s.here.next

def key (s : Scan) : Except Fault Scan := do
  if s.inBrackets then return ((← s.allowKey false |>.dropMark).push .key).goto s.here.next
  else if !s.keyAllowed then .error .malformed
  else
    let s := s.beginBlock s.here.column (push .blockMap)
    return ((← s.allowKey true |>.dropMark).push .key).goto s.here.next

def value (s : Scan) : Except Fault Scan :=
  let s? : Except Fault Scan := match s.marks.find? (·.nesting == s.nesting) with
    | some m =>
      let s := { s with marks := s.marks.filter (·.nesting != s.nesting) }
      let s := s.insert m.number .key
      .ok ((if s.inBrackets then s else s.beginBlock m.column (insert m.number .blockMap)).allowKey false)
    | none =>
      if s.inBrackets then .ok (s.allowKey false)
      else if !s.keyAllowed then .error .malformed
      else .ok ((s.beginBlock s.here.column (push .blockMap)).allowKey true)
  s?.map fun s => (s.push .value).goto s.here.next

def beginsPlain (inBrackets : Bool) (d : Char) (rest : List Char) : Bool :=
  !(isBlank d || "-?:,[]\x7b\x7d#&*!|>'\"%@\x60".contains d) ||
    (!Cursor.endsOr isBlank rest && (d == '-' || (!inBrackets && (d == '?' || d == ':'))))

-- The token that begins with a character.
def token (d : Char) (rest : List Char) (s : Scan) : Except Fault Scan := do
  let c := s.here
  let ends := Cursor.endsOr isBlank rest
  if d == '%' && c.column == 0 then
    let s ← s.leaveDocument
    let (before, c) ← Name.directive c
    return (s.push (.directive before)).goto c
  else if c.column == 0 && c.isSeparator then
    let s ← s.leaveDocument
    return (s.push (if d == '-' then .documentStart else .documentEnd)).goto (c.advance 3)
  else if d == '[' then s.openBrackets .openList
  else if d == '\x7b' then s.openBrackets .openMap
  else if d == ']' then s.closeBrackets .closeList
  else if d == '\x7d' then s.closeBrackets .closeMap
  else if d == ',' then return ((← s.allowKey true |>.dropMark).push .comma).goto c.next
  else if d == '-' && ends then s.entry
  else if d == '?' && (s.inBrackets || ends) then s.key
  else if d == ':' && (s.inBrackets || ends) then s.value
  else if d == '*' || d == '&' then
    let s ← s.mark
    let (name, c) ← Name.anchor c
    return ((s.push (if d == '*' then .alias name else .anchor name)).allowKey false).goto c
  else if d == '!' then
    let s ← s.mark
    let (handle?, name, c) ← Name.tag c
    return ((s.push (.tag handle? name)).allowKey false).goto c
  else if (d == '|' || d == '>') && !s.inBrackets then
    let s ← s.dropMark
    let (content, c) ← Scalar.block (d == '>') (max 1 (s.indent + 1)).toNat c
    return ((s.push (.text content false)).allowKey true).goto c
  else if d == '\'' || d == '"' then
    let s ← s.mark
    let (content, c) ← Scalar.quoted d c
    return ((s.push (.text content false)).allowKey false).goto c
  else if beginsPlain s.inBrackets d rest then
    let s ← s.mark
    let (content, lineEnded, c) := Scalar.plain s.inBrackets (s.indent + 1) c
    return ((s.push (.text content true)).allowKey lineEnded).goto c
  else .error .malformed

-- The next token, or none at the end.
def step (s : Scan) : Except Fault (Scan × Bool) := do
  let s ← s.toNext.dropStale
  let s := s.endBlocks s.here.column
  match s.here.rest with
  | []        => return (← (s.endBlocks (-1)).dropMark, true)
  | d :: rest => return (← s.token d rest, false)

-- `fuel` is one more than the number of characters: each token but the last step takes one.
def run : Nat → Scan → List Token
  | 0, s => s.settled
  | fuel + 1, s =>
    match s.dropStale with
    | .error f => s.settled ++ [.broken f]
    | .ok s => match s.step with
      | .error f         => s.settled ++ [.broken f]
      | .ok (next, true) => next.done.reverse
      | .ok (next, false) => run fuel next

end Scan

-- The tokens of a text, up to the end or to the first fault.
def ofText (cs : List Char) : List Token := Scan.run (cs.length + 1) (.ofText cs)

end Token
end Outline.Yaml
