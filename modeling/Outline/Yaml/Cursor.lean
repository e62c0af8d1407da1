import Outline.Number.Read
import Outline.Text.CodePoint

namespace Outline.Yaml

-- Characters that end a line.
def isBreak (c : Char) : Bool :=
  c == '\n' || c == '\r' || c == '\x85' || c == '\u2028' || c == '\u2029'

-- Blanks, and what ends a line.
def isBlank (c : Char) : Bool := c == ' ' || c == '\t' || isBreak c

-- Characters that a text may hold.
def isAllowed (c : Char) : Bool :=
  let n := Text.codePoint c
  n == 9 || n == 10 || n == 13 || (32 ≤ n && n ≤ 126) || n == 0x85 || (0xA0 ≤ n && n ≤ 0xD7FF) ||
    (0xE000 ≤ n && n ≤ 0xFFFD) || 0x10000 ≤ n

-- Letters, digits and two signs, which names are made of.
def isNameChar (c : Char) : Bool := c.isAlphanum || c == '-' || c == '_'

inductive Fault
  | malformed
  -- An escape that stands for no character.
  | codePoint
  -- An escape whose number is no machine word.
  | codePointSize
  | number (e : Number.Error)
  -- A truth value that is none of the words for one.
  | truth (word : String)
  -- A number of which nothing is written.
  | noNumber
  -- A number in sixtieths with so many of them that the first one is out of reach.
  | weight
  -- A date that a map is said to be, which has a text under its value key.
  | momentOfMap
  -- A date that is not written as one.
  | noMoment
  -- A date that there is not.
  | moment (message : String)
  deriving DecidableEq, Repr

structure Cursor where
  rest   : List Char
  index  : Nat
  line   : Nat
  column : Nat
  deriving Repr

namespace Cursor

def ofText (cs : List Char) : Cursor := ⟨cs, 0, 0, 0⟩

def next (c : Cursor) : Cursor :=
  match c.rest with
  | [] => c
  | d :: rest =>
    if (isBreak d && d != '\r') || (d == '\r' && rest.head? != some '\n') then
      ⟨rest, c.index + 1, c.line + 1, 0⟩
    else ⟨rest, c.index + 1, c.line, if d == '\uFEFF' then c.column else c.column + 1⟩

def advance : Nat → Cursor → Cursor
  | 0, c     => c
  | n + 1, c => advance n c.next

def skip (p : Char → Bool) (c : Cursor) : Cursor := c.advance (c.rest.takeWhile p).length

def head? (c : Cursor) : Option Char := c.rest.head?

def endsOr (p : Char → Bool) (cs : List Char) : Bool := cs.head?.all p

-- The line break here, as it is kept, and the place after it.
def lineBreak? (c : Cursor) : Option (Char × Cursor) :=
  match c.rest with
  | '\r' :: '\n' :: _ => some ('\n', c.advance 2)
  | d :: _ =>
    if d == '\u2028' || d == '\u2029' then some (d, c.next)
    else if isBreak d then some ('\n', c.next)
    else none
  | [] => none

-- Does the line begin with three hyphens or three points that stand alone?
def isSeparator (c : Cursor) : Bool :=
  match c.rest with
  | '-' :: '-' :: '-' :: rest => endsOr isBlank rest
  | '.' :: '.' :: '.' :: rest => endsOr isBlank rest
  | _ => false

-- The place after the rest of the line, if nothing but spaces and a comment stand there; what ends
-- the line is passed over.
def restOfLine? (c : Cursor) : Option Cursor :=
  let c := c.skip (· == ' ')
  let c := if c.head? == some '#' then c.skip (!isBreak ·) else c
  match c.lineBreak? with
  | some (_, c) => some c
  | none        => if c.rest.isEmpty then some c else none

end Cursor
end Outline.Yaml
