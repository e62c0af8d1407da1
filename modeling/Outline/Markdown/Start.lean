import Outline.Markdown.Html
import Outline.Markdown.Line
import Outline.Text.Trim

namespace Outline.Markdown

-- What the blocks around a line ask of it.
structure Frame where
  -- The column that lines of the block begin in.
  indent      : Nat
  -- The same of the block around the innermost list.
  listIndent? : Option Nat
  -- Does the text begin with a hyphen? Its first line may then open front matter.
  hyphenFirst : Bool
  deriving DecidableEq, Repr

namespace Line

def isOutside (f : Frame) (l : Line) : Bool := l.indent < f.indent

-- Is the line indented as code is?
def isCode (f : Frame) (l : Line) : Bool := 4 ≤ l.indent - f.indent

end Line

-- What opens fenced code: a run of one of two signs.
structure Fence where
  sign   : Char
  length : Nat
  deriving DecidableEq, Repr

namespace Fence

def ofLine? (f : Frame) (l : Line) : Option Fence :=
  match l.body with
  | [] => none
  | c :: _ =>
    let run := l.body.takeWhile (· == c)
    let rest := l.body.drop run.length
    if l.isCode f || !(c == '~' || c == '\x60') || run.length < 3 || (c == '\x60' && rest.contains c)
    then none
    else some ⟨c, run.length⟩

def closes (f : Frame) (fence : Fence) (l : Line) : Bool :=
  let run := l.body.takeWhile (· == fence.sign)
  !l.isCode f && !run.isEmpty && fence.length ≤ run.length && (l.body.drop run.length).all isIndent

end Fence

-- Three or more of one sign, with nothing but blanks between them.
def Line.isRule (f : Frame) (l : Line) : Bool :=
  match l.body with
  | [] => false
  | c :: _ =>
    !l.isCode f && (c == '*' || c == '-' || c == '_') &&
      l.body.all (fun d => d == c || isIndent d) && 3 ≤ l.body.count c

-- The depth of a heading that begins with number signs, and its text.
def Line.heading? (f : Frame) (l : Line) : Option (Nat × List Char) :=
  let signs := l.body.takeWhile (· == '#')
  let rest := l.body.drop signs.length
  if l.isCode f || signs.isEmpty || 6 < signs.length || !(rest.isEmpty || rest.head?.any isIndent)
  then none
  else
    let text := (rest.reverse.dropWhile isIndent)
    let open' := text.dropWhile (· == '#')
    -- Number signs at the end belong to the text unless a blank stands before them.
    let text := if open'.head?.any isIndent then open' else text
    some (signs.length, trim text.reverse)

-- The depth that an underline gives the text above it.
def Line.underline? (f : Frame) (l : Line) : Option Nat :=
  match l.body with
  | [] => none
  | c :: rest =>
    if !l.isOutside f && (c == '-' || c == '=') && (rest.dropWhile (· == c)).all isIndent then
      some (if c == '=' then 1 else 2)
    else none

-- What opens the item of a list.
structure Marker where
  -- The number of an ordered item.
  number? : Option Nat
  sign    : Char
  width   : Nat
  deriving DecidableEq, Repr

namespace Marker

private def isFollowed (rest : List Char) : Bool := rest.isEmpty || rest.head?.any isIndent

def bullet? : List Char → Option Marker
  | c :: rest =>
    if (c == '*' || c == '-' || c == '+') && isFollowed rest then some ⟨none, c, 1⟩ else none
  | [] => none

def ordered? (body : List Char) : Option Marker :=
  let digits := body.takeWhile Char.isDigit
  match body.drop digits.length with
  | c :: rest =>
    if !digits.isEmpty && digits.length ≤ 9 && (c == ')' || c == '.') && isFollowed rest then
      some ⟨some (digits.foldl (fun n d => n * 10 + (d.toNat - 48)) 0), c, digits.length + 1⟩
    else none
  | [] => none

-- The marker that a line begins with, if a list may begin there. Inside a paragraph its first item
-- must not be empty, and must be the first one where items are numbered.
def ofLine? (f : Frame) (inParagraph : Bool) (l : Line) : Option Marker :=
  let isContinued := match f.listIndent? with
    | some outer => 4 ≤ l.indent - outer && l.isOutside f
    | none       => false
  if l.isCode f || isContinued then none
  else
    let interrupts := inParagraph && !l.isOutside f
    match ordered? l.body <|> bullet? l.body with
    | none => none
    | some m =>
      if interrupts && (m.number?.any (· != 1) || (l.body.drop m.width).all isIndent) then none
      else some m

-- The marker of a further item of the same list.
def next? (m : Marker) (l : Line) : Option Marker :=
  (if m.number?.isSome then ordered? l.body else bullet? l.body).filter (·.sign == m.sign)

end Marker

def Line.isQuote (f : Frame) (l : Line) : Bool := !l.isCode f && l.body.head? == some '>'

def Line.html? (f : Frame) (l : Line) : Option Html.Block :=
  if l.isCode f then none else Html.block? l.body

namespace Table

-- The cells of a row: bars separate them, but for those after a backslash.
def cells (row : List Char) : List (List Char) :=
  let rec go (escaped : Bool) (cell : List Char) : List Char → List (List Char)
    | [] => [cell.reverse]
    | '|' :: rest =>
      if escaped then go false ('|' :: cell.drop 1) rest else cell.reverse :: go false [] rest
    | c :: rest => go (c == '\\') (c :: cell) rest
  go false [] row

private def dropEmptyFirst : List (List Char) → List (List Char)
  | [] :: rest => rest
  | cells      => cells

-- The cells of a trimmed row; bars at its ends separate nothing.
def rowCells (row : List Char) : List (List Char) :=
  (dropEmptyFirst (dropEmptyFirst (cells row)).reverse).reverse

private def isRuleChar (c : Char) : Bool := c == '|' || c == '-' || c == ':'

-- `---`, with or without colons at its ends.
private def isAlignment (cell : List Char) : Bool :=
  let cell := if cell.head? == some ':' then cell.drop 1 else cell
  let dashes := cell.takeWhile (· == '-')
  !dashes.isEmpty && (cell.drop dashes.length == [] || cell.drop dashes.length == [':'])

-- The cells between bars, trimmed.
private def split (row : List Char) : List (List Char) :=
  let rec go (cell : List Char) : List Char → List (List Char)
    | [] => [trim cell.reverse]
    | '|' :: rest => trim cell.reverse :: go [] rest
    | c :: rest   => go (c :: cell) rest
  go [] row

-- The number of columns that the line under a header lays out.
def columns? (body : List Char) : Option Nat :=
  match body with
  | first :: second :: rest =>
    if !isRuleChar first || !(isRuleChar second || isIndent second) ||
        (first == '-' && isIndent second) || !rest.all (fun c => isRuleChar c || isIndent c) then
      none
    else
      let cells := split body
      -- Only the first and the last cell may be empty.
      let inner := (cells.drop 1).dropLast
      if inner.any List.isEmpty then none
      else
        let full := cells.filter (!·.isEmpty)
        if full.all isAlignment then some full.length else none
  | _ => none

def trimmed (l : Line) : List Char := trim l.body

-- The number of columns of a table that begins with these lines.
def start? (f : Frame) : List Line → Option Nat
  | header :: rule :: _ =>
    if rule.isOutside f || rule.isCode f then none
    else match columns? rule.body with
      | none => none
      | some columns =>
        let row := trimmed header
        if !row.contains '|' || header.isCode f then none
        else
          let width := (rowCells row).length
          if width == 0 || width != columns then none else some columns
  | _ => none

end Table

namespace Line

-- Ends the list before it.
def endsList (f : Frame) (l : Line) : Bool :=
  (Fence.ofLine? f l).isSome || l.isQuote f || l.isRule f

-- Ends the quote before it, or the paragraph if it is no table's.
def endsQuote (f : Frame) (inParagraph : Bool) (l : Line) : Bool :=
  l.endsList f || (Marker.ofLine? f inParagraph l).isSome ||
    (l.html? f).any Html.Block.interrupts || (l.heading? f).isSome

end Line

-- Does a block begin here that ends the paragraph before it?
def endsText (f : Frame) (inParagraph : Bool) (ls : List Line) : Bool :=
  ls.head?.any (·.endsQuote f inParagraph) || (Table.start? f ls).isSome

-- Does a paragraph go on with the first line?
def goesOn (f : Frame) (inParagraph : Bool) (ls : List Line) : Bool :=
  match ls with
  | [] => false
  | l :: _ => !l.isBlank && (l.isCode f || l.indent < 0 || !endsText f inParagraph ls)

end Outline.Markdown
