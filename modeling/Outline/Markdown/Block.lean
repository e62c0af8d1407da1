import Outline.Markdown.Definition
import Outline.Markdown.Token

namespace Outline.Markdown

-- What was read: the number of lines, the tokens, and the keys of the links defined.
structure Parsed where
  taken  : Nat
  tokens : List Token
  keys   : List String

namespace Block

-- Blocks can be nested this deep; what is deeper is skipped.
def deepest : Nat := 20

def leaf (kind : BlockKind) (number taken : Nat) (content : List Char) : Parsed :=
  ⟨taken, [⟨kind, .alone, some (number, number + taken), String.ofList content⟩], []⟩

-- A run of three hyphens or more. What it begins with is known to those who ask.
private def hyphens (body : List Char) : Nat :=
  match body with
  | []        => 0
  | _ :: rest => 1 + (rest.takeWhile (· == '-')).length

private def closesMatter (f : Frame) (l : Line) : Bool :=
  l.body.head? == some '-' && !l.isCode f && 3 ≤ hyphens l.body &&
    (l.body.drop (hyphens l.body)).all isIndent

-- The lines of front matter after the first one, and the number of lines that end it.
private def matter? (f : Frame) (done : List Line) : List Line → Option (List Line × Nat)
  | [] => none
  | l :: rest =>
    if (done.head?.any fun last => last.body == ['.', '.', '.']) || (!l.isBlank && l.isOutside f) then
      some (done.reverse, 0)
    else if closesMatter f l then some (done.reverse, 1)
    else matter? f (l :: done) rest

def frontMatter? (f : Frame) (number : Nat) (own : List Line) : Option Parsed := do
  let first :: rest := own | none
  if number != 0 || !f.hyphenFirst || hyphens first.body < 3 then none
  let (inside, ends) ← matter? f [] rest
  return leaf .frontMatter number (inside.length + 1 + ends) (Line.join 0 false inside)

-- More cells than this are not made up for rows that are too short.
private def mostMissing : Int := 65536

private def rows (f : Frame) (columns : Nat) (missing : Int) (count : Nat) : List Line → Nat
  | [] => count
  | l :: rest =>
    let row := Table.trimmed l
    if l.isOutside f || l.endsQuote f false || row.isEmpty || l.isCode f then count
    else
      let missing := missing + columns - (Table.rowCells row).length
      if mostMissing < missing then count else rows f columns missing (count + 1) rest

def table? (f : Frame) (number : Nat) (own : List Line) : Option Parsed :=
  (Table.start? f own).map fun columns =>
    let taken := 2 + rows f columns 0 0 (own.drop 2)
    ⟨taken, Token.around .table number (number + taken) [], []⟩

def code? (f : Frame) (number : Nat) (own : List Line) : Option Parsed :=
  if own.head?.any (·.isCode f) then
    let inside := own.takeWhile fun l => l.isBlank || l.isCode f
    let inside := (inside.reverse.dropWhile Line.isBlank).reverse
    some (leaf .indentedCode number inside.length (Line.join (4 + f.indent) false inside ++ ['\n']))
  else none

def fence? (f : Frame) (number : Nat) (own : List Line) : Option Parsed := do
  let first :: rest := own | none
  let fence ← Fence.ofLine? f first
  let ends (l : Line) : Bool := (!l.isBlank && l.isOutside f) || fence.closes f l
  let inside := rest.takeWhile (!ends ·)
  let closing := match rest.drop inside.length with
    | l :: _ => if !l.isBlank && l.isOutside f then 0 else 1
    | []     => 0
  return leaf .fence number (1 + inside.length + closing) (Line.join first.indent.toNat true inside)

def rule? (f : Frame) (number : Nat) (own : List Line) : Option Parsed :=
  if own.head?.any (·.isRule f) then some (leaf .rule number 1 []) else none

def html? (f : Frame) (number : Nat) (own : List Line) : Option Parsed := do
  let first :: rest := own | none
  let kind ← first.html? f
  let goes (l : Line) : Bool := !l.isOutside f && !kind.endsIn l.body
  let inside := if kind.endsIn first.body then [] else rest.takeWhile goes
  let closing := if kind.endsIn first.body then [] else
    match rest.drop inside.length with
    | l :: _ => if l.isOutside f || l.isBlank then [] else [l]
    | []     => []
  let all := first :: inside ++ closing
  return leaf .html number all.length (Line.join f.indent true all)

def text (kind : BlockKind) (number taken : Nat) (content : List Char) : Parsed :=
  ⟨taken, Token.ofText kind number (number + taken) (String.ofList content), []⟩

def heading? (f : Frame) (number : Nat) (own : List Line) : Option Parsed :=
  (own.head?.bind (Line.heading? f)).map fun (depth, content) => text (.heading depth) number 1 content

def definition? (f : Frame) (own beyond : List Line) : Option Parsed := do
  if own.head?.any (·.body.head? == some '[') then
    let (key, taken) ← Definition.read? f (if beyond.isEmpty then own else own ++ beyond)
    return ⟨taken, [], [key]⟩
  else none

-- The lines of the text above an underline, last one first, and the depth that it gives them.
private def underlined? (f : Frame) (done : List Line) : List Line → Option (List Line × Nat)
  | [] => none
  | l :: rest =>
    if l.isBlank then none
    else if l.isCode f then underlined? f (l :: done) rest
    else match l.underline? f with
      | some depth => some (done, depth)
      | none =>
        if l.indent < 0 || !endsText f true (l :: rest) then underlined? f (l :: done) rest else none

def setext? (f : Frame) (number : Nat) (own : List Line) : Option Parsed := do
  let first :: rest := own | none
  if first.isCode f then none
  let (inside, depth) ← underlined? f [first] rest
  let content := trim (Line.join f.indent false inside.reverse)
  return text (.heading depth) number (inside.length + 1) content

-- The lines that a paragraph goes on with, last one first.
private def continuation (f : Frame) (done : List Line) : List Line → List Line
  | [] => done
  | l :: rest => if goesOn f true (l :: rest) then continuation f (l :: done) rest else done

def paragraph (f : Frame) (number : Nat) (own beyond : List Line) : Parsed :=
  let all := if beyond.isEmpty then own else own ++ beyond
  let inside := (continuation f (all.take 1) (all.drop 1)).reverse
  text .paragraph number inside.length
    (trim (Line.join f.indent false inside))

-- A line of a quote as the blocks in the quote see it: without the `>` and one blank after it.
def unquote (l : Line) : Line :=
  let rest := l.body.drop 1
  let column := l.indent.toNat + 1
  let isTab := rest.head? == some '\t'
  let isApart := isTab || rest.head? == some ' '
  -- A tab gives one of its columns to the mark, and is indentation as to the others.
  let isSplit := isTab && (l.base + column) % 4 != 3
  let start := if isApart && !isSplit then column + 1 else column
  let rest := if isApart && !isSplit then rest.drop 1 else rest
  let lead := rest.takeWhile isIndent
  let shift := l.base + if isSplit then 1 else 0
  { l with
    lead   := lead
    body   := rest.drop lead.length
    indent := (columnAfter shift start lead - start : Nat)
    base   := column + if isApart then 1 else 0 }

-- Lines of a quote after its first one, as the blocks in it see them, last one first; whether
-- another block ends it; and the lines after it.
private def quoteLines (f : Frame) (done : List Line) (lastBlank : Bool) :
    List Line → List Line × Bool × List Line
  | [] => (done, false, [])
  | l :: rest =>
    if l.isBlank then (done, false, l :: rest)
    else if l.body.head? == some '>' && !l.isOutside f then
      let inner := unquote l
      quoteLines f (inner :: done) inner.isBlank rest
    else if lastBlank then (done, false, l :: rest)
    else if l.endsQuote f false then (done, true, l :: rest)
    else quoteLines f ({ l with indent := -1 } :: done) lastBlank rest

-- Reads blocks in a frame, from a line number on.
-- Blocks of the lines that the surroundings leave; paragraphs may go on into the lines beyond
-- these.
abbrev Reader := Frame → Nat → List Line → List Line → Parsed

def quote? (inner : Reader) (f : Frame) (number : Nat) (own beyond : List Line) :
    Option Parsed := do
  let first :: rest := own | none
  if !first.isQuote f then none
  let opened := unquote first
  let (lines, isEnded, after) := quoteLines f [opened] opened.isBlank rest
  let after := if isEnded then [] else after ++ beyond
  let parsed := inner { f with indent := 0 } number lines.reverse after
  return { parsed with
    tokens := Token.around .blockquote number (number + parsed.taken) parsed.tokens }

-- The first line of an item as the blocks in the item see it, and the column of the item.
def unmark (m : Marker) (l : Line) : Line × Nat :=
  let rest := l.body.drop m.width
  let blanks := rest.takeWhile isIndent
  let body := rest.drop blanks.length
  let start := l.indent.toNat + m.width
  let column := columnAfter l.base start blanks
  -- Text that is far off is code, one blank after the marker.
  let apart := if body.isEmpty || 4 < column - start then 1 else column - start
  ({ l with lead := l.lead ++ l.body.take m.width ++ blanks, body := body, indent := column },
   start + apart)

def item (inner : Reader) (f : Frame) (m : Marker) (number : Nat) (first : Line)
    (rest beyond : List Line) : Parsed :=
  let (opened, column) := unmark m first
  let nextBlank := match rest, beyond with
    | l :: _, _    => l.isBlank
    | [], l :: _   => l.isBlank
    | [], []       => true
  let parsed :=
    -- An empty item ends at the blank line after it.
    if opened.isBlank && nextBlank then ⟨if rest.isEmpty then 1 else 2, [], []⟩
    else inner { f with indent := column, listIndent? := some f.indent } number (opened :: rest) beyond
  { parsed with tokens := Token.around .listItem number (number + parsed.taken) parsed.tokens }

-- Items from the next one on. `fuel` is the number of lines: an item takes at least one.
def items (inner : Reader) (f : Frame) (m : Marker) (beyond : List Line) :
    Nat → Nat → List Line → Parsed
  | 0, _, _ => ⟨0, [], []⟩
  | _ + 1, _, [] => ⟨0, [], []⟩
  | fuel + 1, number, first :: rest =>
    let parsed := item inner f m number first rest beyond
    match (first :: rest).drop parsed.taken with
    | [] => parsed
    | l :: after =>
      match if l.isOutside f || l.isCode f || l.endsList f then none else m.next? l with
      | none => parsed
      | some m =>
        let more := items inner f m beyond fuel (number + parsed.taken) (l :: after)
        ⟨parsed.taken + more.taken, parsed.tokens ++ more.tokens, parsed.keys ++ more.keys⟩

def list? (inner : Reader) (f : Frame) (number : Nat) (own beyond : List Line) :
    Option Parsed := do
  let first :: _ := own | none
  let m ← Marker.ofLine? f false first
  let parsed := items inner f m beyond own.length number own
  let kind : BlockKind := if m.number?.isSome then .orderedList else .bulletList
  return { parsed with tokens := Token.around kind number (number + parsed.taken) parsed.tokens }

-- One block. The kinds are tried in order; a paragraph can always be read.
def one (inQuote inItem : Reader) (f : Frame) (number : Nat) (own beyond : List Line) : Parsed :=
  (frontMatter? f number own <|> table? f number own <|> code? f number own <|> fence? f number own <|>
    quote? inQuote f number own beyond <|> rule? f number own <|> list? inItem f number own beyond <|>
    definition? f own beyond <|> html? f number own <|> heading? f number own <|>
    setext? f number own).getD (paragraph f number own beyond)

-- Blocks until the lines are used up or one is outside. `done` and `keys` hold what has been
-- read, last token first, and `taken` the number of lines; `fuel` is the number of lines left.
def loop (inQuote inItem : Reader) (f : Frame) (beyond : List Line) (done : List Token)
    (keys : List String) (number taken : Nat) : Nat → List Line → Parsed
  | 0, _ => ⟨taken, done.reverse, keys⟩
  | _ + 1, [] => ⟨taken, done.reverse, keys⟩
  | fuel + 1, own =>
    let blank := (own.takeWhile Line.isBlank).length
    let taken := taken + blank
    match own.drop blank with
    | [] => ⟨taken + (beyond.takeWhile Line.isBlank).length, done.reverse, keys⟩
    | l :: rest =>
      if l.isOutside f then ⟨taken, done.reverse, keys⟩
      else
        let number := number + blank
        let parsed := one inQuote inItem f number (l :: rest) beyond
        let after := (l :: rest).drop parsed.taken
        let skipped := if after.head?.any Line.isBlank then 1 else 0
        let step := parsed.taken + skipped
        loop inQuote inItem f beyond (parsed.tokens.reverse ++ done) (parsed.keys ++ keys)
          (number + step) (taken + step) fuel (after.drop skipped)

-- Where nothing more can be nested, the blank lines are read and the others skipped.
def skip : Reader := fun f _ own beyond =>
  let blank := (own.takeWhile Line.isBlank).length
  match own.drop blank with
  | []     => ⟨blank + (beyond.takeWhile Line.isBlank).length, [], []⟩
  | l :: _ => ⟨if l.isOutside f then blank else own.length, [], []⟩

-- Blocks in a frame, with room for blocks nested so deep. An item of a list takes up two levels:
-- the list and the item.
def readIn : Nat → Reader
  | 0 => skip
  | 1 => fun f number own beyond => loop skip skip f beyond [] [] number 0 own.length own
  | room + 2 => fun f number own beyond =>
    loop (readIn (room + 1)) (readIn room) f beyond [] [] number 0 own.length own

def read (lines : List Line) : Parsed :=
  let hyphenFirst := match lines with
    | l :: _ => l.lead.isEmpty && l.body.head? == some '-'
    | []     => false
  readIn deepest ⟨0, none, hyphenFirst⟩ 0 lines []

end Block
end Outline.Markdown
