import Outline.Yaml.Tag
import Outline.Yaml.Token

namespace Outline.Yaml

inductive Node
  | text (tag : Tag) (content : String)
  | list (tag : Tag) (items : List Node)
  | map (tag : Tag) (entries : List (Node × Node))
  deriving Repr

namespace Node

def empty : Node := text .null ""

instance : Inhabited Node := ⟨empty⟩

-- What is left of the tokens, and what has been named.
structure Reading where
  tokens  : List Token
  -- What begins a tag, and what it stands for.
  handles : List (String × String)
  -- A name whose node is not finished stands for none.
  anchors : List (String × Option Node)

abbrev Read := StateT Reading (Except Fault)

namespace Read

def fail : Read α := throw .malformed

-- The next token; none at the end.
def peek : Read (Option Token) := do
  match (← get).tokens with
  | .broken f :: _ => throw f
  | t :: _         => return some t
  | []             => return none

def pass : Read Unit := modify fun r => { r with tokens := r.tokens.drop 1 }

-- Passes over a token if it comes next.
def skip (t : Token) : Read Bool := do
  if (← peek) == some t then
    pass
    return true
  else return false

def expect (t : Token) : Read Unit := do
  unless ← skip t do fail

def nextIn (ts : List Token) : Read Bool := do return (← peek).any ts.contains

def name? (anchor? : Option String) (n? : Option Node) : Read Unit :=
  match anchor? with
  | some a => modify fun r => { r with anchors := (a, n?) :: r.anchors }
  | none   => return

end Read

open Read

-- What stands before a node: its anchor and its tag.
structure Properties where
  anchor? : Option String
  tag?    : Option String

def anchor? : Read (Option String) := do
  match ← peek with
  | some (.anchor name) => pass; return some name
  | _ => return none

def tag? : Read (Option (Option String × String)) := do
  match ← peek with
  | some (.tag handle? name) => pass; return some (handle?, name)
  | _ => return none

def properties : Read Properties := do
  let before? ← anchor?
  let tag? ← tag?
  let anchor? ← if before?.isNone && tag?.isSome then anchor? else pure before?
  match tag? with
  | none => return ⟨anchor?, none⟩
  | some (none, name) => return ⟨anchor?, some name⟩
  | some (some handle, name) => match (← get).handles.lookup handle with
    | some meaning => return ⟨anchor?, some (meaning ++ name)⟩
    | none         => fail

def tagOr (usual : Tag) (tag? : Option String) : Tag :=
  match tag? with
  | none      => usual
  | some name => if name == "!" then usual else Tag.ofName name

def textTag (content : String) (isPlain : Bool) (tag? : Option String) : Tag :=
  match tag? with
  | none      => if isPlain then Tag.ofPlain content else .text
  | some name => if name == "!" then Tag.ofPlain content else Tag.ofName name

-- Reads a node that has a name, which stands for nothing until the node is finished.
def named (p : Properties) (read : Read Node) : Read Node := do
  let anchors := (← get).anchors
  if p.anchor?.any fun a => (anchors.lookup a).isSome then fail
  name? p.anchor? none
  let n ← read
  name? p.anchor? n
  return n

mutual

-- A node; `inBlock` tells whether blocks may begin here, and `inMap` whether their list may stand
-- at the indentation of the map.
def node (inBlock inMap : Bool) : Nat → Read Node
  | 0 => fail
  | fuel + 1 => do
    if let some (.alias name) := ← peek then
      pass
      match (← get).anchors.lookup name with
      | some (some n) => return n
      | _             => fail
    else
      let p ← properties
      match ← peek with
      | some (.text content isPlain) =>
        pass
        named p (return text (textTag content isPlain p.tag?) content)
      | some .openList =>
        pass
        named p do return list (tagOr .list p.tag?) (← bracketItems true [] fuel)
      | some .openMap =>
        pass
        named p do return map (tagOr .map p.tag?) (← bracketEntries true [] fuel)
      | t =>
        if t == some .entry && inMap then
          named p do return list (tagOr .list p.tag?) (← looseItems [] fuel)
        else if t == some .blockList && inBlock then
          pass
          named p do return list (tagOr .list p.tag?) (← blockItems [] fuel)
        else if t == some .blockMap && inBlock then
          pass
          named p do return map (tagOr .map p.tag?) (← blockEntries [] fuel)
        else if p.anchor?.isSome || p.tag?.isSome then
          named p (return text (textTag "" true p.tag?) "")
        else fail

-- A node, unless one of some tokens comes next.
def nodeUnless (stops : List Token) (inBlock inMap : Bool) : Nat → Read Node
  | 0 => fail
  | fuel + 1 => do
    if ← nextIn stops then return empty else node inBlock inMap fuel

def blockItems (done : List Node) : Nat → Read (List Node)
  | 0 => fail
  | fuel + 1 => do
    if ← skip .entry then
      let n ← nodeUnless [.entry, .blockEnd] true false fuel
      blockItems (n :: done) fuel
    else
      expect .blockEnd
      return done.reverse

def looseItems (done : List Node) : Nat → Read (List Node)
  | 0 => fail
  | fuel + 1 => do
    if ← skip .entry then
      let n ← nodeUnless [.entry, .key, .value, .blockEnd] true false fuel
      looseItems (n :: done) fuel
    else return done.reverse

def blockEntries (done : List (Node × Node)) : Nat → Read (List (Node × Node))
  | 0 => fail
  | fuel + 1 => do
    if ← skip .key then
      let k ← nodeUnless [.key, .value, .blockEnd] true true fuel
      let v ← if ← skip .value then nodeUnless [.key, .value, .blockEnd] true true fuel
        else pure empty
      blockEntries ((k, v) :: done) fuel
    else
      expect .blockEnd
      return done.reverse

def bracketItems (first : Bool) (done : List Node) : Nat → Read (List Node)
  | 0 => fail
  | fuel + 1 => do
    if ← skip .closeList then return done.reverse
    unless first do expect .comma
    if ← skip .key then
      let k ← nodeUnless [.value, .comma, .closeList] false false fuel
      let v ← if ← skip .value then nodeUnless [.comma, .closeList] false false fuel
        else pure empty
      bracketItems false (map .map [(k, v)] :: done) fuel
    else if ← skip .closeList then return done.reverse
    else
      let n ← node false false fuel
      bracketItems false (n :: done) fuel

def bracketEntries (first : Bool) (done : List (Node × Node)) :
    Nat → Read (List (Node × Node))
  | 0 => fail
  | fuel + 1 => do
    if ← skip .closeMap then return done.reverse
    unless first do expect .comma
    if ← skip .key then
      let k ← nodeUnless [.value, .comma, .closeMap] false false fuel
      let v ← if ← skip .value then nodeUnless [.comma, .closeMap] false false fuel
        else pure empty
      bracketEntries false ((k, v) :: done) fuel
    else if ← skip .closeMap then return done.reverse
    else
      let k ← node false false fuel
      bracketEntries false ((k, empty) :: done) fuel

end

def commonHandles : List (String × String) := [("!", "!"), ("!!", Tag.commonStart)]

-- The directives before a document; `hasVersion` tells whether one told the version.
def directives (hasVersion : Bool) (handles : List (String × String)) :
    Nat → Read (List (String × String))
  | 0 => fail
  | fuel + 1 => do
    match ← peek with
    | some (.directive d) =>
      pass
      match d with
      | .version major =>
        if hasVersion || major != 1 then fail else directives true handles fuel
      | .handle name meaning =>
        if (handles.lookup name).isSome then fail
        else directives hasVersion ((name, meaning) :: handles) fuel
      | .other => directives hasVersion handles fuel
    | _ => return handles

def isDirective : Token → Bool
  | .directive _ => true
  | _            => false

def isDocumentSign (t : Token) : Bool :=
  isDirective t || t == .documentStart || t == .documentEnd

def setHandles (handles : List (String × String)) : Read Unit :=
  modify fun r => { r with handles := handles ++ commonHandles }

-- A document after directives and a line that begins it.
def explicitDocument (room : Nat) : Read Node := do
  setHandles (← directives false [] room)
  expect .documentStart
  match ← peek with
  | none   => return empty
  | some t => if isDocumentSign t then return empty else node true false room

def skipEnds : Nat → Read Unit
  | 0 => return
  | fuel + 1 => do
    if ← skip .documentEnd then skipEnds fuel

-- The only document, if there is one.
def document? (room : Nat) : Read (Option Node) := do
  match ← peek with
  | none => return none
  | some t =>
    let n ← if isDirective t || t == .documentStart then explicitDocument room
      else do
        setHandles []
        node true false room
    skipEnds room
    match ← peek with
    | none   => return some n
    | some _ =>
      let _ ← directives false [] room
      fail

def ofTokens? (ts : List Token) : Except Fault (Option Node) := do
  -- No two steps in a row go without a token.
  let room := 4 * ts.length + 4
  let (n?, _) ← (document? room).run ⟨ts, [], []⟩
  return n?

end Node
end Outline.Yaml
