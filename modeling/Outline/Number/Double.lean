namespace Outline

-- Binary floating point numbers of 53 bits: a finite one is the mantissa times a power of two.
inductive Double
  | finite (negative : Bool) (mantissa : Nat) (exponent : Int)
  | infinite (negative : Bool)
  | nan
  deriving DecidableEq, Repr

namespace Double

-- The exponent of the smallest number.
def leastExponent : Int := -1074

def greatestExponent : Int := 971

def zero (negative : Bool) : Double := finite negative 0 0

-- The quotient, rounded to the nearest integer, a half to the even one.
def roundDiv (num den : Nat) : Nat :=
  let quotient := num / den
  let rest := num % den
  if den < 2 * rest || (2 * rest == den && quotient % 2 == 1) then quotient + 1 else quotient

-- `num / den` in units of `2 ^ exponent`.
def scaled (num den : Nat) (exponent : Int) : Nat × Nat :=
  if 0 ≤ exponent then (num, den * Nat.pow 2 exponent.toNat) else (num * Nat.pow 2 (-exponent).toNat, den)

-- The number nearest to `num / den`.
def ofRatio (negative : Bool) (num den : Nat) : Double :=
  if num == 0 then zero negative else
  let first := max leastExponent ((num.log2 : Int) - den.log2 - 53)
  let (n, d) := scaled num den first
  let exponent := if n / d < Nat.pow 2 53 then first else first + 1
  let (n, d) := scaled num den exponent
  let mantissa := roundDiv n d
  if mantissa == 0 then zero negative else
  let (mantissa, exponent) :=
    if mantissa == Nat.pow 2 53 then (Nat.pow 2 52, exponent + 1) else (mantissa, exponent)
  if greatestExponent < exponent then infinite negative else finite negative mantissa exponent

def digitCount (n : Nat) : Nat := (Nat.toDigits 10 n).length

-- The number nearest to `digits * 10 ^ exponent`.
def ofDecimal (negative : Bool) (digits : Nat) (exponent : Int) : Double :=
  if digits == 0 then zero negative else
  let reach := exponent + digitCount digits
  if 310 < reach then infinite negative
  else if reach < -330 then zero negative
  else if 0 ≤ exponent then ofRatio negative (digits * Nat.pow 10 exponent.toNat) 1
  else ofRatio negative digits (Nat.pow 10 (-exponent).toNat)

def ofInt (i : Int) : Double := ofRatio (i < 0) i.natAbs 1

-- The integer that the number is, if it is one.
def integer? : Double → Option Int
  | finite negative mantissa exponent =>
    let size? : Option Nat :=
      if 0 ≤ exponent then some (mantissa * Nat.pow 2 exponent.toNat)
      else
        let unit := Nat.pow 2 (-exponent).toNat
        if mantissa % unit == 0 then some (mantissa / unit) else none
    size?.map fun n => if negative then - (n : Int) else n
  | _ => none

private def ofSigned (num : Int) (den : Nat) : Double := ofRatio (num < 0) num.natAbs den

-- A finite number in units of `2 ^ leastExponent`.
private def units (negative : Bool) (mantissa : Nat) (exponent : Int) : Int :=
  let size : Int := mantissa * Nat.pow 2 (exponent - leastExponent).toNat
  if negative then - size else size

def add : Double → Double → Double
  | finite n m e, finite n' m' e' =>
    if m == 0 && m' == 0 then zero (n && n')
    else ofSigned (units n m e + units n' m' e') (Nat.pow 2 (-leastExponent).toNat)
  | infinite n, infinite n' => if n == n' then infinite n else nan
  | infinite n, finite .. => infinite n
  | finite .., infinite n => infinite n
  | _, _ => nan

-- The number nearest to `mantissa * 2 ^ exponent`.
def ofScaled (negative : Bool) (mantissa : Nat) (exponent : Int) : Double :=
  let (num, den) := scaled mantissa 1 (-exponent)
  ofRatio negative num den

def mul : Double → Double → Double
  | finite n m e, finite n' m' e' => ofScaled (n != n') (m * m') (e + e')
  | infinite n, finite n' m _ => if m == 0 then nan else infinite (n != n')
  | finite n m _, infinite n' => if m == 0 then nan else infinite (n != n')
  | infinite n, infinite n' => infinite (n != n')
  | _, _ => nan

-- The number nearest to a natural one, unless that is beyond the greatest.
def ofNat? (k : Nat) : Option Double :=
  match ofRatio false k 1 with
  | infinite _ => none
  | x          => some x

-- The number times a natural one that is within reach.
def times? (k : Nat) (x : Double) : Option Double := (ofNat? k).map x.mul

def negate : Double → Double
  | finite n m e => finite (!n) m e
  | infinite n   => infinite (!n)
  | nan          => nan

-- The greatest `k` with `10 ^ k ≤ num / den`.
private def decimalExponent (num den : Nat) : Int :=
  if den ≤ num then (digitCount (num / den) : Int) - 1
  else
    let rec below (n k : Nat) : Nat → Int
      | 0 => - (k : Int)
      | fuel + 1 => if den ≤ n then - (k : Int) else below (n * 10) (k + 1) fuel
    below num 0 400

-- The shortest decimal that reads back as the finite number `mantissa * 2 ^ exponent`: its digits,
-- and the power of ten that they count.
def shortest (mantissa : Nat) (exponent : Int) : Nat × Int :=
  -- All in quarters of the last place: the number, and the ends of what rounds to it.
  let unit := exponent - 2
  let value := 4 * mantissa
  let low := if mantissa == Nat.pow 2 52 && leastExponent < exponent then value - 1 else value - 2
  let high := value + 2
  let (num, den) := if 0 ≤ unit then (Nat.pow 2 unit.toNat, 1) else (1, Nat.pow 2 (-unit).toNat)
  let top := decimalExponent (value * num) den
  let even := mantissa % 2 == 0
  let rec find (count : Nat) : Nat → Nat × Int
    | 0 => (0, 0)
    | fuel + 1 =>
      let grid := top - count + 1
      -- One step of the grid is `up / down`.
      let (up, down) := if 0 ≤ grid then (Nat.pow 10 grid.toNat, 1) else (1, Nat.pow 10 (-grid).toNat)
      let floor := value * num * down / (den * up)
      let holds (n : Nat) : Bool :=
        let point := n * up * den
        let left := low * num * down
        let right := high * num * down
        if even then left ≤ point && point ≤ right else left < point && point < right
      let nearer : Nat := roundDiv (value * num * down) (den * up)
      let other := if nearer == floor then floor + 1 else floor
      if holds nearer then (nearer, grid)
      else if holds other then (other, grid)
      else find (count + 1) fuel
  find 1 17

-- Drops the zeros at the end of the digits.
private def dropZeros (digits : Nat) (exponent : Int) : Nat → Nat × Int
  | 0 => (digits, exponent)
  | fuel + 1 =>
    if digits != 0 && digits % 10 == 0 then dropZeros (digits / 10) (exponent + 1) fuel
    else (digits, exponent)

private def zeros (n : Nat) : String := String.ofList (List.replicate n '0')

-- The number in the fewest digits: with a point from a ten-thousandth up to sixteen places, and
-- with an exponent of two digits or more beyond.
def text : Double → String
  | nan => "nan"
  | infinite negative => if negative then "-inf" else "inf"
  | finite negative mantissa exponent =>
    let sign := if negative then "-" else ""
    if mantissa == 0 then sign ++ "0.0" else
    let (digits, place) := shortest mantissa exponent
    let (digits, place) := dropZeros digits place 400
    let shown := toString digits
    let point : Int := shown.length + place
    if -4 < point && point ≤ 16 then
      if point ≤ 0 then sign ++ "0." ++ zeros (-point).toNat ++ shown
      else if (shown.length : Int) ≤ point then
        sign ++ shown ++ zeros (point.toNat - shown.length) ++ ".0"
      else
        let cs := shown.toList
        sign ++ String.ofList (cs.take point.toNat) ++ "." ++ String.ofList (cs.drop point.toNat)
    else
      let power := point - 1
      let mark := if power < 0 then "e-" else "e+"
      let size := toString power.natAbs
      let tail := String.ofList (shown.toList.drop 1)
      sign ++ String.ofList (shown.toList.take 1) ++ (if tail.isEmpty then "" else "." ++ tail) ++
        mark ++ (if size.length < 2 then "0" ++ size else size)

-- The number with so many decimal places, rounded to the nearest, a half to the even neighbour.
def fixed (places : Nat) : Double → String
  | finite negative mantissa exponent =>
    let (num, den) := scaled (mantissa * Nat.pow 10 places) 1 (-exponent)
    let digits := toString (roundDiv num den)
    let digits := zeros (places + 1 - digits.length) ++ digits
    let cs := digits.toList
    let whole := String.ofList (cs.take (cs.length - places))
    (if negative then "-" else "") ++
      if places = 0 then whole else whole ++ "." ++ String.ofList (cs.drop (cs.length - places))
  | x => x.text

end Double
end Outline
