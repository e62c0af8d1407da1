import Outline.Text.Utf8
import Outline.Yaml.Scalar

namespace Outline.Yaml

-- What stands before a document.
inductive Directive
  | version (major : Nat)
  -- What a handle at the front of a tag stands for.
  | handle (name meaning : String)
  | other
  deriving DecidableEq, Repr

namespace Name

def isSpaceOrBreak (c : Char) : Bool := c == ' ' || isBreak c

-- Refuses what follows unless it is the end of the text or a character that satisfies `p`.
def require (p : Char → Bool) (c : Cursor) : Except Fault Unit :=
  if Cursor.endsOr p c.rest then .ok () else .error .malformed

def word (c : Cursor) : Except Fault (String × Cursor) :=
  let name := c.rest.takeWhile isNameChar
  if name.isEmpty then .error .malformed else .ok (String.ofList name, c.advance name.length)

def isAfterAnchor (c : Char) : Bool :=
  isBlank c || c == '?' || c == ':' || c == ',' || c == ']' || c == '\x7d' || c == '%' || c == '@' ||
    c == '\x60'

-- The name of the anchor whose sign stands here, and the place after it.
def anchor (c : Cursor) : Except Fault (String × Cursor) := do
  let (name, c) ← word c.next
  require isAfterAnchor c
  return (name, c)

def handle (c : Cursor) : Except Fault (String × Cursor) :=
  match c.rest with
  | '!' :: rest =>
    let name := rest.takeWhile isNameChar
    if rest.head? == some ' ' then .ok ("!", c.next)
    else if (rest.drop name.length).head? == some '!' then
      .ok (String.ofList ('!' :: name ++ ['!']), c.advance (name.length + 2))
    else .error .malformed
  | _ => .error .malformed

def isTagChar (c : Char) : Bool := c.isAlphanum || "-;/?:@&=+$,_.!~*'()[]%".contains c

def tagTextFrom (done : List Char) : Nat → Cursor → Except Fault (String × Cursor)
  | 0, _ => .error .malformed
  | fuel + 1, c =>
    match c.rest.takeWhile isTagChar with
    | [] => if done.isEmpty then .error .malformed else .ok (String.ofList done.reverse, c)
    | '%' :: _ =>
      let (bytes, after) := Text.percentCodes [] c.rest
      match bytes.isEmpty || after.head? == some '%', Text.Utf8.decode bytes with
      | false, .ok s => tagTextFrom (s.toList.reverse ++ done) fuel (c.advance (3 * bytes.length))
      | _, _ => .error .malformed
    | d :: _ => tagTextFrom (d :: done) fuel c.next

-- The text of a tag, in which characters may be written by their bytes.
def tagText (c : Cursor) : Except Fault (String × Cursor) :=
  tagTextFrom [] (c.rest.length + 1) c

-- The tag that begins here, its handle apart, and the place after it.
def tag (c : Cursor) : Except Fault (Option String × String × Cursor) := do
  let (handle?, text, c) ← match c.rest.drop 1 with
    | '<' :: _ => do
      let (text, c) ← tagText (c.advance 2)
      if c.head? == some '>' then .ok (none, text, c.next) else .error .malformed
    | rest =>
      if Cursor.endsOr isBlank rest then .ok (none, "!", c.next)
      else do
        let (name, c) ← if (rest.takeWhile (!isSpaceOrBreak ·)).contains '!' then handle c
          else .ok ("!", c.next)
        let (text, c) ← tagText c
        .ok (some name, text, c)
  require isSpaceOrBreak c
  return (handle?, text, c)

def number (c : Cursor) : Except Fault (Nat × Cursor) :=
  let digits := c.rest.takeWhile Char.isDigit
  if digits.isEmpty then .error .malformed
  else match Number.readInt (String.ofList digits) with
    | .ok n    => .ok (n.toNat, c.advance digits.length)
    | .error e => .error (.number e)

def skipSpaces (c : Cursor) : Cursor := c.skip (· == ' ')

def version (c : Cursor) : Except Fault (Directive × Cursor) := do
  let (major, c) ← number (skipSpaces c)
  if c.head? != some '.' then .error .malformed
  else do
    let (_, c) ← number c.next
    require isSpaceOrBreak c
    return (.version major, c)

def handleMeaning (c : Cursor) : Except Fault (Directive × Cursor) := do
  let (name, c) ← handle (skipSpaces c)
  if c.head? != some ' ' then .error .malformed
  else do
    let (meaning, c) ← tagText (skipSpaces c)
    require isSpaceOrBreak c
    return (.handle name meaning, c)

-- The directive that begins here, and the place after its line.
def directive (c : Cursor) : Except Fault (Directive × Cursor) := do
  let (name, c) ← word c.next
  require isSpaceOrBreak c
  let (d, c) ← match name with
    | "YAML" => version c
    | "TAG"  => handleMeaning c
    | _      => .ok (.other, c.skip (!isBreak ·))
  match c.restOfLine? with
  | some c => return (d, c)
  | none   => .error .malformed

end Name
end Outline.Yaml
