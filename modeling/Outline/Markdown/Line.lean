import Outline.Text.Lines
import Outline.Text.Trim

namespace Outline.Markdown

-- The blanks that indentation is made of.
def isIndent (c : Char) : Bool := c == ' ' || c == '\t'

-- Spaces of all kinds, and what ends a line or moves to the next one in ASCII.
def isSpace (c : Char) : Bool :=
  let n := c.toNat
  (9 ≤ n && n ≤ 13) || n == 0x20 || n == 0xA0 || n == 0x1680 || (0x2000 ≤ n && n ≤ 0x200A) ||
    n == 0x202F || n == 0x205F || n == 0x3000

-- Text of a block without spaces, nor separators of lines and paragraphs, at its ends.
def trim (cs : List Char) : List Char :=
  Text.trimBy (fun c => isSpace c || c == '\u2028' || c == '\u2029') cs

structure Line where
  -- What stands before the first character that counts, list markers included.
  lead   : List Char
  body   : List Char
  -- The column that the body begins in; negative for a line that can only go on with a paragraph.
  indent : Int
  -- The columns that the blocks around the line take up before `lead`.
  base   : Nat
  -- Does a line feed end it?
  ended  : Bool
  deriving DecidableEq, Repr

-- The column after blanks, the first of which stands in the given one; `shift` is added before tabs
-- are counted.
def columnAfter (shift : Nat) (column : Nat) : List Char → Nat
  | []        => column
  | '\t' :: r => columnAfter shift (column + (4 - (column + shift) % 4)) r
  | _ :: r    => columnAfter shift (column + 1) r

namespace Line

def isBlank (l : Line) : Bool := l.body.isEmpty

def ofChars (ended : Bool) (cs : List Char) : Line :=
  let lead := cs.takeWhile isIndent
  { lead   := lead
    body   := cs.dropWhile isIndent
    indent := columnAfter 0 0 lead
    base   := 0
    ended  := ended }

-- `open'` holds the line that has begun, last character first, and `done` the lines before it.
private def splitFrom (done : List Line) (open' : List Char) : List Char → List Line
  | [] =>
    let last := open'.reverse
    (if last.all isIndent then done else ofChars false last :: done).reverse
  | '\n' :: rest => splitFrom (ofChars true open'.reverse :: done) [] rest
  | c :: rest    => splitFrom done (c :: open') rest

-- The lines of a text. What follows the last line feed is a line only if more than blanks stand
-- there.
def ofText (s : String) : List Line :=
  splitFrom [] [] ((Text.unifyNewlines s.toList).map fun c => if c == '\x00' then '\uFFFD' else c)

-- Takes columns off the front; `column` of them are off already.
private def dropColumns (base wanted column : Nat) (body : List Char) : List Char → List Char
  | [] => List.replicate (column - wanted) ' ' ++ body
  | c :: rest =>
    if column < wanted then
      let next := if c == '\t' then column + (4 - (column + base) % 4) else column + 1
      dropColumns base wanted next body rest
    else List.replicate (column - wanted) ' ' ++ (c :: rest ++ body)

-- The line without its first columns, as far as they are indentation.
def unindent (wanted : Nat) (l : Line) : List Char := dropColumns l.base wanted 0 l.body l.lead

-- Lines as one text, without the first columns of each; a line feed ends every line but the last
-- one, and that one too if `closed`.
def join (wanted : Nat) (closed : Bool) (ls : List Line) : List Char :=
  ((ls.map (unindent wanted)).intersperse ['\n']).flatten ++
    if closed && ls.getLast?.any Line.ended then ['\n'] else []

end Line
end Outline.Markdown
