import Outline.Text.Entity
import Outline.Text.Hex

namespace Outline.Markdown

-- ASCII punctuation, which a backslash may stand before.
def isEscapable (c : Char) : Bool := 32 < c.toNat && c.toNat < 127 && !c.isAlphanum

-- Code points that can be written by their number: no surrogates, control characters or others that
-- are no characters.
def isWritable (n : Nat) : Bool :=
  !((0xD800 ≤ n && n ≤ 0xDFFF) || (0xFDD0 ≤ n && n ≤ 0xFDEF) || n % 0x10000 == 0xFFFF ||
    n % 0x10000 == 0xFFFE || n ≤ 8 || n == 11 || (14 ≤ n && n ≤ 31) || (0x7F ≤ n && n ≤ 0x9F) ||
    0x10FFFF < n)

-- The number that is written after `#`, if it has no more than so many digits.
def codeNumber? (mostHex mostDecimal : Nat) : List Char → Option Nat
  | c :: rest =>
    if c == 'x' || c == 'X' then
      if rest.isEmpty || mostHex < rest.length || !rest.all Text.isHex then none
      else some (Text.numberIn 16 rest)
    else if mostDecimal < (c :: rest).length || !(c :: rest).all Char.isDigit then none
    else some (Text.numberIn 10 (c :: rest))
  | [] => none

-- What stands between `&` and `;`, and what follows.
private def named? (rest : List Char) : Option (List Char × List Char) :=
  let name := (rest.take 33).takeWhile fun c => c.isAlphanum || c == '#'
  match rest.drop name.length with
  | ';' :: after => some (name, after)
  | _ => none

-- The characters that stand for what is written after `&`, and what follows; a number that stands
-- for no character becomes U+FFFD.
def entityAfter? (rest : List Char) : Option (List Char × List Char) := do
  let (name, after) ← named? rest
  match name with
  | '#' :: code =>
    let n ← codeNumber? 6 7 code
    some ([if isWritable n then Char.ofNat n else '\uFFFD'], after)
  | _ =>
    let cs ← Text.entity? (String.ofList name)
    some (cs, after)

-- The same in the destination of a link, where such a number is left as it is.
private def linkEntityAfter? (rest : List Char) : Option (List Char × List Char) := do
  let (name, after) ← named? rest
  match name with
  | '#' :: code =>
    let n ← codeNumber? 8 8 code
    if isWritable n then some ([Char.ofNat n], after) else none
  | _ =>
    let cs ← Text.entity? (String.ofList name)
    some (cs, after)

-- `fuel` is the number of characters: each step reads at least one.
private def unescapeFrom (done : List Char) : Nat → List Char → List Char
  | 0, _ => done.reverse
  | _ + 1, [] => done.reverse
  | fuel + 1, '\\' :: c :: rest =>
    if isEscapable c then unescapeFrom (c :: done) fuel rest
    else unescapeFrom ('\\' :: done) fuel (c :: rest)
  | fuel + 1, '&' :: rest => match linkEntityAfter? rest with
    | some (cs, after) => unescapeFrom (cs.reverse ++ done) fuel after
    | none             => unescapeFrom ('&' :: done) fuel rest
  | fuel + 1, c :: rest => unescapeFrom (c :: done) fuel rest

-- The text that is meant where characters are written otherwise.
def unescape (cs : List Char) : List Char := unescapeFrom [] cs.length cs

end Outline.Markdown
