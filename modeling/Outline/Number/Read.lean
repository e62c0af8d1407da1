import Outline.Number.Double
import Outline.Text.Hex
import Outline.Text.Trim
import Outline.Text.Quoted

namespace Outline.Number

def digitIn? (base : Nat) (c : Char) : Option Nat :=
  ((Text.digitValue? c).or (Text.hexValue? c)).filter (· < base)

-- The value of digits with low lines between them, and the number of digits; none if anything else
-- stands in the text, or a low line elsewhere.
def digitsWithLowLines? (base : Nat) (cs : List Char) : Option (Nat × Nat) :=
  let rec go (value count : Nat) (afterDigit : Bool) : List Char → Option (Nat × Nat)
    | [] => if afterDigit then some (value, count) else none
    | '_' :: rest => if afterDigit then go value count false rest else none
    | c :: rest =>
      match digitIn? base c with
      | some d => go (value * base + d) (count + 1) true rest
      | none   => none
  go 0 0 false cs

def unsign : List Char → Bool × List Char
  | '-' :: cs => (true, cs)
  | '+' :: cs => (false, cs)
  | cs        => (false, cs)

def digitLimit : Nat := 4300

inductive Error
  | integer (base : Nat) (text : String)
  | tooLong (digits : Nat)
  | fraction (text : String)
  deriving DecidableEq, Repr

def Error.message : Error → String
  | .integer base text => s!"invalid literal for int() with base {base}: " ++ Text.quoted text
  | .tooLong digits => s!"Exceeds the limit ({digitLimit} digits) for integer string conversion: " ++
      s!"value has {digits} digits; use sys.set_int_max_str_digits() to increase the limit"
  | .fraction text => "could not convert string to float: " ++ Text.quoted text

-- What tells the base at the front of digits; a low line may follow it.
def dropBase (base : Nat) (cs : List Char) : List Char :=
  let mark? := [(2, 'b'), (8, 'o'), (16, 'x')].lookup base
  match cs with
  | '0' :: c :: rest =>
    if mark? == some c.toLower then (if rest.head? == some '_' then rest.drop 1 else rest) else cs
  | _ => cs

def isPowerOfTwo (n : Nat) : Bool := Nat.pow 2 n.log2 == n

def readIntIn (base : Nat) (text : String) : Except Error Int :=
  let (negative, cs) := unsign (Text.trimBy Text.isBlank text.toList)
  match digitsWithLowLines? base (dropBase base cs) with
  | none => .error (.integer base text)
  | some (n, count) =>
    if digitLimit < count && !isPowerOfTwo base then .error (.tooLong count)
    else .ok (if negative then - (n : Int) else n)

def readInt (text : String) : Except Error Int := readIntIn 10 text

def special? (negative : Bool) (cs : List Char) : Option Double :=
  let word := String.ofList (cs.map Char.toLower)
  if word == "inf" || word == "infinity" then some (.infinite negative)
  else if word == "nan" then some .nan
  else none

-- Digits with low lines, or none at all.
def part? (cs : List Char) : Option (Nat × Nat) :=
  if cs.isEmpty then some (0, 0) else digitsWithLowLines? 10 cs

def decimal? (negative : Bool) (cs : List Char) : Option Double := do
  let inMantissa (c : Char) : Bool := c != 'e' && c != 'E'
  let mantissa := cs.takeWhile inMantissa
  let power? := cs.dropWhile inMantissa
  let whole := mantissa.takeWhile (· != '.')
  let (n, count) ← part? whole
  let (n, count, places) ← match mantissa.dropWhile (· != '.') with
    | [] => some (n, count, 0)
    | _ :: fraction => do
      let (f, places) ← part? fraction
      some (n * Nat.pow 10 places + f, count + places, places)
  if count == 0 then none else
  let power ← match power? with
    | [] => some (0 : Int)
    | _ :: cs => do
      let (down, cs) := unsign cs
      let (p, _) ← digitsWithLowLines? 10 cs
      some (if down then - (p : Int) else p)
  some (Double.ofDecimal negative n (power - places))

def readDouble (text : String) : Except Error Double :=
  let (negative, cs) := unsign (Text.trimBy Text.isBlank text.toList)
  match special? negative cs, decimal? negative cs with
  | some x, _      => .ok x
  | none,   some x => .ok x
  | none,   none   => .error (.fraction text)

end Outline.Number
