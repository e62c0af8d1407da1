namespace Outline.Text

def hexValue? (c : Char) : Option Nat :=
  if c.isDigit then some (c.toNat - 48)
  else if 'a' ≤ c && c ≤ 'f' then some (c.toNat - 87)
  else if 'A' ≤ c && c ≤ 'F' then some (c.toNat - 55)
  else none

def isHex (c : Char) : Bool := (hexValue? c).isSome

-- The number that digits stand for in a base; what is no digit counts as zero.
def numberIn (base : Nat) (cs : List Char) : Nat :=
  cs.foldl (fun n c => n * base + (hexValue? c).getD 0) 0

-- The last `width` hexadecimal digits of a number.
def hexPadded : Nat → Nat → List Char
  | 0, _ => []
  | width + 1, n => hexPadded width (n / 16) ++ [Nat.digitChar (n % 16)]

-- The byte written as a percent sign and two digits.
def percentCode (b : UInt8) : List Char :=
  '%' :: (hexPadded 2 b.toNat).map Char.toUpper

-- The bytes that percent codes at the front stand for, and what follows them.
def percentCodes (done : List UInt8) : List Char → List UInt8 × List Char
  | '%' :: a :: b :: rest =>
    match hexValue? a, hexValue? b with
    | some x, some y => percentCodes (UInt8.ofNat (x * 16 + y) :: done) rest
    | _, _ => (done.reverse, '%' :: a :: b :: rest)
  | cs => (done.reverse, cs)

end Outline.Text
