import Outline.Text.CodePoint
import Outline.Text.Hex
import Outline.Yaml.Cursor

namespace Outline.Yaml.Scalar

-- Line breaks as they are kept: the first one as a space if it stands alone.
def fold (first : Char) (more : List Char) : List Char :=
  (if first != '\n' then [first] else if more.isEmpty then [' '] else []) ++ more

-- Empty lines. A document must not end inside quotes.
def emptyLines (done : List Char) : Nat → Cursor → Except Fault (List Char × Cursor)
  | 0, _ => .error .malformed
  | fuel + 1, c =>
    if c.isSeparator then .error .malformed
    else
      let c := c.skip fun d => d == ' ' || d == '\t'
      match c.lineBreak? with
      | some (b, c) => emptyLines (b :: done) fuel c
      | none        => .ok (done.reverse, c)

def escapes : List (Char × Char) :=
  [('0', '\x00'), ('a', '\x07'), ('b', '\x08'), ('t', '\t'), ('\t', '\t'), ('n', '\n'), ('v', '\x0b'),
   ('f', '\x0c'), ('r', '\r'), ('e', '\x1b'), (' ', ' '), ('"', '"'), ('\\', '\\'), ('/', '/'),
   ('N', '\x85'), ('_', '\xa0'), ('L', '\u2028'), ('P', '\u2029')]

-- The number of hexadecimal digits after the sign of an escape.
def escapeWidth? : Char → Option Nat
  | 'x' => some 2
  | 'u' => some 4
  | 'U' => some 8
  | _   => none

def codePoint (width : Nat) (cs : List Char) : Except Fault Char :=
  match (cs.take width).mapM Text.hexValue? with
  | none => .error .malformed
  | some digits =>
    let n := digits.foldl (fun n d => n * 16 + d) 0
    if digits.length < width then .error .malformed
    else if Nat.pow 2 31 ≤ n then .error .codePointSize
    else if 0x110000 ≤ n then .error .codePoint
    else .ok (Text.ofCodePoint n)

def quotedFrom (quote : Char) (done : List Char) : Nat → Cursor → Except Fault (String × Cursor)
  | 0, _ => .error .malformed
  | fuel + 1, c =>
    match c.rest with
    | [] => .error .malformed
    | d :: rest =>
      if d == quote then
        if quote == '\'' && rest.head? == some '\'' then quotedFrom quote ('\'' :: done) fuel (c.advance 2)
        else .ok (String.ofList done.reverse, c.next)
      else if isBlank d then do
        let blanks := c.rest.takeWhile fun e => e == ' ' || e == '\t'
        let c := c.advance blanks.length
        match c.lineBreak? with
        | some (b, c) =>
          let (more, c) ← emptyLines [] (c.rest.length + 1) c
          quotedFrom quote ((fold b more).reverse ++ done) fuel c
        | none => quotedFrom quote (blanks.reverse ++ done) fuel c
      else if quote == '"' && d == '\\' then
        let c := c.next
        match rest with
        | [] => .error .malformed
        | e :: digits =>
          match escapes.lookup e, escapeWidth? e, c.lineBreak? with
          | some f, _, _ => quotedFrom quote (f :: done) fuel c.next
          | none, some width, _ => do
            let f ← codePoint width digits
            quotedFrom quote (f :: done) fuel (c.advance (width + 1))
          | none, none, some (_, c) => do
            let (more, c) ← emptyLines [] (c.rest.length + 1) c
            quotedFrom quote (more.reverse ++ done) fuel c
          | none, none, none => .error .malformed
      else quotedFrom quote (d :: done) fuel c.next

def quoted (quote : Char) (c : Cursor) : Except Fault (String × Cursor) :=
  quotedFrom quote [] (c.rest.length + 1) c.next

-- Signs of lists and maps in brackets.
def isFlowSign (c : Char) : Bool := c == ',' || c == '[' || c == ']' || c == '\x7b' || c == '\x7d'

-- The characters up to a blank or a sign that ends plain text.
def plainRun (inFlow : Bool) : List Char → List Char
  | [] => []
  | d :: rest =>
    if isBlank d || (d == ':' && Cursor.endsOr (fun e => isBlank e || (inFlow && isFlowSign e)) rest) ||
        (inFlow && (d == '?' || isFlowSign d)) then []
    else d :: plainRun inFlow rest

-- Empty lines after plain text; none where the document ends.
def plainLines (done : List Char) : Nat → Cursor → Option (List Char) × Cursor
  | 0, c => (none, c)
  | fuel + 1, c =>
    if c.isSeparator then (none, c)
    else
      let c := c.skip (· == ' ')
      match c.lineBreak? with
      | some (b, c) => plainLines (b :: done) fuel c
      | none        => (some done.reverse, c)

-- What stands between two runs of plain text, if the text may go on after it, and whether a line
-- ends there.
def plainGap (c : Cursor) : List Char × Bool × Cursor :=
  let blanks := c.rest.takeWhile (· == ' ')
  let c := c.advance blanks.length
  match c.lineBreak? with
  | some (b, c) => match plainLines [] (c.rest.length + 1) c with
    | (some more, c) => (fold b more, true, c)
    | (none, c)      => ([], true, c)
  | none => (blanks, false, c)

def plainFrom (inFlow : Bool) (indent : Int) (done gap : List Char) (atStart : Bool) :
    Nat → Cursor → String × Bool × Cursor
  | 0, c => (String.ofList done.reverse, atStart, c)
  | fuel + 1, c =>
    let run := if c.head? == some '#' then [] else plainRun inFlow c.rest
    if run.isEmpty then (String.ofList done.reverse, atStart, c)
    else
      let done := run.reverse ++ gap.reverse ++ done
      let (gap, atStart, c) := plainGap (c.advance run.length)
      if gap.isEmpty || (!inFlow && (c.column : Int) < indent) then
        (String.ofList done.reverse, atStart, c)
      else plainFrom inFlow indent done gap atStart fuel c

-- The plain text that begins here, whether a line ends behind it, and the place after that. Outside
-- of brackets it goes on only with lines of at least the given indentation.
def plain (inFlow : Bool) (indent : Int) (c : Cursor) : String × Bool × Cursor :=
  plainFrom inFlow indent [] [] false (c.rest.length + 1) c

-- What becomes of the line breaks at the end of a block.
inductive Chomping
  | clip
  | strip
  | keep
  deriving DecidableEq, Repr

def chomping? : Option Char → Option Chomping
  | some '+' => some .keep
  | some '-' => some .strip
  | _        => none

def isIncrement (c : Char) : Bool := '1' ≤ c && c ≤ '9'

-- The signs in the first line of a block: chomping and indentation, in either order.
def header (c : Cursor) : Chomping × Option Nat × Cursor :=
  let digit? (c : Cursor) : Option Nat × Cursor :=
    match c.head? with
    | some d => if isIncrement d then (some (d.toNat - 48), c.next) else (none, c)
    | none   => (none, c)
  match chomping? c.head? with
  | some chomping =>
    let (increment?, c) := digit? c.next
    (chomping, increment?, c)
  | none =>
    match digit? c with
    | (some n, c) => match chomping? c.head? with
      | some chomping => (chomping, some n, c.next)
      | none          => (.clip, some n, c)
    | (none, c) => (.clip, none, c)

-- The empty lines at the beginning of a block, and the greatest indentation among them.
def leadingLines (done : List Char) (deepest : Nat) : Nat → Cursor → List Char × Nat × Cursor
  | 0, c => (done.reverse, deepest, c)
  | fuel + 1, c =>
    let c := c.skip (· == ' ')
    let deepest := max deepest c.column
    match c.lineBreak? with
    | some (b, c) => leadingLines (b :: done) deepest fuel c
    | none        => (done.reverse, deepest, c)

-- Skips spaces up to a column.
def indentTo (column : Nat) (c : Cursor) : Cursor :=
  c.advance ((c.rest.take (column - c.column)).takeWhile (· == ' ')).length

def emptyBlockLines (column : Nat) (done : List Char) : Nat → Cursor → List Char × Cursor
  | 0, c => (done.reverse, c)
  | fuel + 1, c =>
    let c := indentTo column c
    match c.lineBreak? with
    | some (b, c) => emptyBlockLines column (b :: done) fuel c
    | none        => (done.reverse, c)

def isIndented (c : Cursor) : Bool := c.head?.any fun d => d == ' ' || d == '\t'

-- Lines of a block from the next one on; `breaks` are the empty lines before it, and the result is
-- the text with the last line break and the empty lines after it.
def blockLines (folded : Bool) (column : Nat) (done breaks : List Char) :
    Nat → Cursor → List Char × Option Char × List Char × Cursor
  | 0, c => (done, none, breaks, c)
  | fuel + 1, c =>
    let flush := !isIndented c
    let line := c.rest.takeWhile (!isBreak ·)
    let done := line.reverse ++ breaks.reverse ++ done
    let c := c.advance line.length
    let (break?, c) := match c.lineBreak? with
      | some (b, c) => (some b, c)
      | none        => (none, c)
    let (breaks, c) := emptyBlockLines column [] (c.rest.length + 1) c
    if c.column == column && !c.rest.isEmpty then
      -- Lines that are indented further are not folded.
      let joint := if folded && break? == some '\n' && flush && !isIndented c then
          if breaks.isEmpty then [' '] else []
        else break?.toList
      blockLines folded column (joint ++ done) breaks fuel c
    else (done, break?, breaks, c)

-- The text of the block that begins here with `|` or `>`, and the place after it. `indent` is the
-- least indentation that its lines may have.
def block (folded : Bool) (indent : Nat) (c : Cursor) : Except Fault (String × Cursor) :=
  let (chomping, increment?, c) := header c.next
  if !(Cursor.endsOr (fun d => d == ' ' || isBreak d) c.rest) then .error .malformed
  else match c.restOfLine? with
    | none => .error .malformed
    | some c =>
      let (column, breaks, c) := match increment? with
        | some n =>
          let column := indent + n - 1
          let (breaks, c) := emptyBlockLines column [] (c.rest.length + 1) c
          (column, breaks, c)
        | none =>
          let (breaks, deepest, c) := leadingLines [] 0 (c.rest.length + 1) c
          (max indent deepest, breaks, c)
      let (done, break?, breaks, c) :=
        if c.column == column && !c.rest.isEmpty then
          blockLines folded column [] breaks (c.rest.length + 1) c
        else ([], none, breaks, c)
      let tail := match chomping with
        | .clip  => break?.toList
        | .strip => []
        | .keep  => break?.toList ++ breaks
      .ok (String.ofList (done.reverse ++ tail), c)

end Outline.Yaml.Scalar
