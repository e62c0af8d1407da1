import Outline.Html.Reference
import Outline.Text.Case
import Outline.Text.Classes

namespace Outline.Html

structure Attribute where
  name  : String
  value : String
  deriving DecidableEq, Repr

namespace Tag

private def isNameStart (c : Char) : Bool := c.isAlpha

private def isInName (c : Char) : Bool :=
  !(c == '\t' || c == '\n' || c == '\r' || c == '\x0c' || c == ' ' || c == '/' || c == '>' ||
    c == '\x00')

def name? (cs : List Char) : Option (List Char) :=
  if cs.head?.any isNameStart then some (cs.takeWhile isInName) else none

def smallName (cs : List Char) : String := Text.small (String.ofList cs)

-- Blanks and slashes between attributes; a slash before `>` belongs to the end of the tag.
private def gapLength : List Char → Nat
  | [] => 0
  | c :: rest =>
    if Text.isBlank c || (c == '/' && rest.head? != some '>') then gapLength rest + 1 else 0

private def opensAttribute (c : Char) : Bool := !(Text.isBlank c || c == '/' || c == '>')

private def isInAttribute (c : Char) : Bool :=
  !(Text.isBlank c || c == '/' || c == '=' || c == '>')

-- Only these may stand right before an attribute.
private def mayPrecede (c : Char) : Bool := c == '\'' || c == '"' || c == '/' || Text.isBlank c

private def isBare (c : Char) : Bool := !(c == '>' || Text.isBlank c)

-- The length of the text up to a closing quote, if there is one.
private def quotedLength? (quote : Char) (cs : List Char) : Option Nat :=
  let n := (cs.takeWhile (· != quote)).length
  if (cs.drop n).isEmpty then none else some n

-- The value after the name of an attribute, and how many characters it takes with its sign; none if
-- there is no value.
private def value? (cs : List Char) : Option (List Char × Nat) :=
  let before := (cs.takeWhile Text.isBlank).length
  let signs := ((cs.drop before).takeWhile (· == '=')).length
  let after := cs.drop (before + signs)
  let gap := (after.takeWhile Text.isBlank).length
  let start := before + signs + gap
  let rest := after.drop gap
  let bare (start : Nat) (cs : List Char) : Option (List Char × Nat) :=
    let value := cs.takeWhile isBare
    some (value, start + value.length)
  if signs == 0 then none
  else match rest with
    | [] => bare start rest
    | c :: inside =>
      if c == '\'' || c == '"' then
        match quotedLength? c inside with
        | some n => some (inside.take n, start + n + 2)
        | none =>
          if gap != 0 then some ([], start)
          else if 2 ≤ signs then bare (start - 1) ('=' :: rest)
          else none
      else bare start rest

-- The attribute that begins here after the character `before`, with its value as it is written, and
-- how many characters it takes.
private def attribute? (before : Char) (cs : List Char) : Option (Attribute × Nat) :=
  match cs with
  | [] => none
  | c :: rest =>
    if mayPrecede before && opensAttribute c then
      let name := c :: rest.takeWhile isInAttribute
      match value? (cs.drop name.length) with
      | some (value, n) =>
        some (⟨smallName name, String.ofList value⟩, name.length + n)
      | none => some (⟨smallName name, ""⟩, name.length)
    else none

-- `before` is the character before the text.
private def attributesFrom (done : List Attribute) (before : Char) :
    Nat → List Char → List Attribute × List Char
  | 0, cs => (done.reverse, cs)
  | fuel + 1, cs =>
    match attribute? before cs with
    | none => (done.reverse, cs)
    | some (a, n) =>
      let used := n + gapLength (cs.drop n)
      attributesFrom (a :: done) ((cs[used - 1]?).getD ' ') fuel (cs.drop used)

-- A tag that opens an element; `isClosed` if it closes it, too.
structure Opening where
  name       : String
  attributes : List Attribute
  isClosed   : Bool

private def resolved (attributes : List Attribute) : Except Number.Error (List Attribute) :=
  attributes.mapM fun a => do
    return { a with value := String.ofList (← Reference.resolve a.value.toList) }

-- The tag whose `<` stands at the front of a text, and what follows it. What cannot be read as a
-- tag is text, and a tag that the text does not finish is none.
def opening? (cs : List Char) : Option (Except Number.Error (Option Opening × List Char)) := do
  let name ← name? (cs.drop 1)
  let used := 1 + name.length + gapLength (cs.drop (name.length + 1))
  let (attributes, rest) := attributesFrom [] ((cs[used - 1]?).getD ' ') cs.length (cs.drop used)
  let tag (isClosed : Bool) (after : List Char) : Except Number.Error (Option Opening × List Char) :=
    (resolved attributes).map fun attributes => (some ⟨smallName name, attributes, isClosed⟩, after)
  match rest with
  | '/' :: '>' :: after => some (tag true after)
  | '>' :: after        => some (tag false after)
  | []                  => none
  | c :: _              =>
    if c.isAlpha || c == '=' then none else some ((resolved attributes).map fun _ => (none, rest))

-- The name in a closing tag that is well written, and what follows it.
def closing? (cs : List Char) : Option (String × List Char) :=
  let inside := (cs.drop 2).dropWhile Text.isBlank
  let isInClosing (c : Char) : Bool := c.isAlphanum || c == '-' || c == '.' || c == ':' || c == '_'
  let name := inside.takeWhile isInClosing
  match (inside.drop name.length).dropWhile Text.isBlank with
  | '>' :: after => if name.head?.any isNameStart then some (smallName name, after) else none
  | _ => none

end Tag
end Outline.Html
