import Outline.Number.Read
import Outline.Text.CodePoint
import Outline.Text.Entity
import Outline.Text.Hex

namespace Outline.Html.Reference

-- The characters 128 to 159 of Windows-1252; a space where there is none.
private def windowsRow : List Char :=
  "€ ‚ƒ„…†‡ˆ‰Š‹Œ Ž  ‘’“”•–—˜™š›œ žŸ".toList

private def windows? (n : Nat) : Option Char :=
  if n < 128 then none else (windowsRow[n - 128]?).filter (· != ' ')

-- The number that digits are, of which there must not be too many.
def number (base : Nat) (digits : List Char) : Except Number.Error Nat :=
  if base == 10 && Number.digitLimit < digits.length then .error (.tooLong digits.length)
  else .ok (Text.numberIn base digits)

-- The character that a number means in text.
def ofNumber (n : Nat) : Char :=
  match windows? n with
  | some c => c
  | none   => if 0x10FFFF < n then '\uFFFD' else Text.ofCodePoint n

-- Numbers that mean nothing in the value of an attribute.
private def isVoid (n : Nat) : Bool :=
  (1 ≤ n && n ≤ 8) || n == 11 || (14 ≤ n && n ≤ 31) || n == 127 || (0xFDD0 ≤ n && n ≤ 0xFDEF) ||
    n % 0x10000 == 0xFFFE || n % 0x10000 == 0xFFFF

private def ofNumberInValue (n : Nat) : List Char :=
  if n == 0 then ['\uFFFD']
  else if isVoid n && n ≤ 0x10FFFF then []
  else if Text.isSurrogate n then ['\uFFFD']
  else [ofNumber n]

-- The characters that a name means, with or without a semicolon behind it.
def ofName? (name : List Char) : Option (List Char) := Text.entity? (String.ofList name)

-- The longest name at the front of the text that needs no semicolon, from a length on downward.
private def longestName? (name : List Char) : Nat → Option (List Char)
  | 0 => none
  | length + 1 =>
    if length == 0 then none
    else match Text.bareEntity? (String.ofList (name.take (length + 1))) with
      | some cs => some (cs ++ name.drop (length + 1))
      | none    => longestName? name length

private def isInName (c : Char) : Bool :=
  !(c == '\t' || c == '\n' || c == '\x0c' || c == ' ' || c == '<' || c == '&' || c == '#' || c == ';')

-- What a name after `&` means in a value; `ended` tells whether a semicolon follows.
private def named (name : List Char) (ended : Bool) : List Char :=
  let semicolon := if ended then [';'] else []
  let whole? := if ended then ofName? name else Text.bareEntity? (String.ofList name)
  match whole? with
  | some cs => cs
  | none =>
    let first := if ended then name.length else name.length - 1
    match longestName? name first with
    | some cs => cs ++ semicolon
    | none    => '&' :: name ++ semicolon

private def dropSemicolon (cs : List Char) : List Char :=
  match cs with
  | ';' :: rest => rest
  | cs          => cs

-- What is written after `&` in a value, and what follows; none if it is no reference.
private def afterSign? (cs : List Char) : Except Number.Error (Option (List Char × List Char)) :=
  match cs with
  | '#' :: rest =>
    match rest with
    | [] => .ok none
    | x :: after =>
      let (base, digits) := if x == 'x' || x == 'X' then (16, after.takeWhile Text.isHex)
        else (10, rest.takeWhile Char.isDigit)
      if digits.isEmpty then .ok none
      else
        let after := if base == 16 then after.drop digits.length else rest.drop digits.length
        (number base digits).map fun n => some (ofNumberInValue n, dropSemicolon after)
  | _ =>
    let name := (cs.take 32).takeWhile isInName
    if name.isEmpty then .ok none
    else
      let after := cs.drop name.length
      .ok (some (named name (after.head? == some ';'), dropSemicolon after))

private def resolveFrom : Nat → List Char → Except Number.Error (List Char)
  | 0, cs => .ok cs
  | _ + 1, [] => .ok []
  | fuel + 1, c :: rest => do
    if c == '&' then
      match ← afterSign? rest with
      | some (cs, after) => return cs ++ (← resolveFrom fuel after)
      | none             => return '&' :: (← resolveFrom fuel rest)
    else return c :: (← resolveFrom fuel rest)

-- The value of an attribute with its references resolved.
def resolve (value : List Char) : Except Number.Error (List Char) := resolveFrom value.length value

end Outline.Html.Reference
