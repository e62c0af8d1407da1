import Outline.Pattern.Syntax
import Outline.Text.Case
import Outline.Text.Classes
import Outline.Text.CodePoint

namespace Outline.Pattern

namespace Class

-- With `ascii`, only the characters of ASCII belong to a class.
def mem (ascii : Bool) (k : Class) (c : Char) : Bool :=
  match k with
  | digit => if ascii then c.isDigit else Text.isDigit c
  | word  => if ascii then c.isAlphanum || c == '_' else Text.isWord c
  | space => if ascii then c == ' ' || (9 ≤ c.toNat && c.toNat ≤ 13) else Text.isBlank c

end Class

-- The small form under the flags.
def small (f : Flags) (c : Char) : Char := if f.ascii then c.toLower else Text.foldCase c

-- Does the character have another case under the flags?
def hasCase (f : Flags) (c : Char) : Bool :=
  if f.ascii then c.toNat < 128 && c.isAlpha else Text.isCased c

-- The small letters that count as this small letter too.
def siblings (f : Flags) (c : Char) : List Char := if f.ascii then [] else Text.sameCapital c

-- Code points above this have no part in the table of a set.
private def tableLimit : Nat := 0xFFFF

-- Is `c` this character of the pattern?
def isCode (f : Flags) (code : Nat) (c : Char) : Bool :=
  if f.ignoreCase && hasCase f (Text.ofCodePoint code) then
    let lower := small f (Text.ofCodePoint code)
    let x := small f c
    x == lower || (siblings f lower).contains x
  else Text.codePoint c == code

namespace Member

-- Does the range hold a character that has another case?
private def casedRange (f : Flags) (low high : Nat) : Bool :=
  tableLimit < high ||
    (if f.ascii then (low ≤ 90 && 65 ≤ high) || (low ≤ 122 && 97 ≤ high)
     else Text.anyCased low high)

def hasCase (f : Flags) : Member → Bool
  | one code   => tableLimit < code || Pattern.hasCase f (Text.ofCodePoint code)
  | range a b  => casedRange f a b
  | ofClass .. => false

-- Is the character in the range, as it is or as a small form of what is in it?
private def lowerInRange (f : Flags) (low high : Nat) (x : Char) : Bool :=
  (x :: siblings f x).any fun y =>
    (if f.ascii then [y, y.toUpper] else y :: Text.largeForms y).any fun z =>
      let n := Text.codePoint z
      low ≤ n && n ≤ high && n ≤ tableLimit && small f z == y

-- Is the small form `x` in a set in which some member has another case?
def memSmall (f : Flags) (x : Char) : Member → Bool
  | one code =>
    if tableLimit < code then Text.codePoint x == code
    else
      let lower := small f (Text.ofCodePoint code)
      x == lower || (siblings f lower).contains x
  | range a b =>
    lowerInRange f a b x ||
      (tableLimit < b &&
        ((a ≤ Text.codePoint x && Text.codePoint x ≤ b) ||
          let y := Text.codePoint (Text.largeForm x)
          a ≤ y && y ≤ b))
  | ofClass k negated => k.mem f.ascii x != negated

def mem (f : Flags) (c : Char) : Member → Bool
  | one code          => Text.codePoint c == code
  | range a b         => a ≤ Text.codePoint c && Text.codePoint c ≤ b
  | ofClass k negated => k.mem f.ascii c != negated

end Member

-- Is the character in the set? Case counts unless some member of the set has another case.
def isInSet (f : Flags) (negated : Bool) (members : List Member) (c : Char) : Bool :=
  let found :=
    if f.ignoreCase && members.any (Member.hasCase f) then
      members.any (Member.memSmall f (small f c))
    else members.any (Member.mem f c)
  found != negated

end Outline.Pattern
