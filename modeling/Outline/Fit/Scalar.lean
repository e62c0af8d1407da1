import Outline.Fit.Basic
import Outline.Number.Read
import Outline.Text.Utf8

namespace Outline.Fit

def text : Value → Fit String
  | .text s   => ok s
  | .bytes bs => match Text.Utf8.decode bs with
    | .ok s    => ok s
    | .error _ => wrong .textBytes
  | _ => wrong .text

-- Words for true and false, in small letters.
def truthWords : List (String × Bool) :=
  [("0", false), ("off", false), ("f", false), ("false", false), ("n", false), ("no", false),
   ("1", true), ("on", true), ("t", true), ("true", true), ("y", true), ("yes", true)]

private def asciiSmall (s : String) : String := String.ofList (s.toList.map Char.toLower)

def truthOfWord? (s : String) : Option Bool := truthWords.lookup (asciiSmall s)

-- Integers that a machine word holds.
def isWord64 (i : Int) : Bool := -Int.pow 2 63 ≤ i && i < Int.pow 2 63

def truthOfInt (i : Int) : Fit Bool :=
  if i = 0 then ok false
  else if i = 1 then ok true
  else if isWord64 i then wrong .truthText
  else wrong .truth

def truth : Value → Fit Bool
  | .bool b => ok b
  | .int i  => truthOfInt i
  | .float x => match x.integer? with
    | some i => truthOfInt i
    | none   => wrong .truth
  | .text s => match truthOfWord? s with
    | some b => ok b
    | none   => wrong .truthText
  | .bytes bs => match Text.Utf8.decode bs with
    | .ok s => match truthOfWord? s with
      | some b => ok b
      | none   => wrong .truthText
    | .error _ => wrong .truthText
  | _ => wrong .truth

-- What is left when the zeros that a number may begin with are gone: from a digit on, or from
-- the zero before a point.
private def dropLeadingZeros : List Char → Option (List Char)
  | '0' :: rest =>
    let tail := rest.dropWhile fun c => c == '0' || c == '_'
    match tail with
    | [] => some [rest.getLastD '0']
    | c :: _ =>
      if c.isDigit then some tail
      else if c == '.' then
        -- The character before the point is the last one that was dropped.
        some (((rest.takeWhile fun c => c == '0' || c == '_').getLastD '0') :: tail)
      else none
  | cs => match cs with
    | c :: _ => if c.isDigit || c == '-' then some cs else none
    | []     => none

private def dropDecimalZeros (cs : List Char) : List Char :=
  if ((cs.dropWhile (· != '.')).drop 1).all (· == '0') then cs.takeWhile (· != '.') else cs

private def hasDoubled (c : Char) : List Char → Bool
  | a :: b :: rest => (a == c && b == c) || hasDoubled c (b :: rest)
  | _ => false

private def dropLowLines (cs : List Char) : List Char :=
  if cs.head? == some '_' || cs.getLast? == some '_' || hasDoubled '_' cs then cs
  else cs.filter (· != '_')

private def asciiInt? (cs : List Char) : Option Int :=
  let (negative, digits) := match cs with
    | '-' :: rest => (true, rest)
    | _           => (false, cs)
  if digits.isEmpty || !digits.all Char.isDigit then none
  else
    let n : Int := digits.foldl (fun n c => n * 10 + (c.toNat - 48)) (0 : Nat)
    some (if negative then -n else n)

-- Blanks at the ends of a number; the information separators are none.
private def isOuterBlank (c : Char) : Bool := Text.isBlank c && !(28 ≤ c.toNat && c.toNat ≤ 31)

private def intOfText? (cs : List Char) : Option Int :=
  let cs := Text.trimBy isOuterBlank cs
  let unsigned? := match cs with
    | '+' :: '-' :: _ => none
    | '+' :: rest     => some rest
    | cs              => some cs
  (unsigned?.bind dropLeadingZeros).bind fun cs => asciiInt? (dropLowLines (dropDecimalZeros cs))

def intOfText (s : String) : Fit Int :=
  if Number.digitLimit < s.utf8ByteSize then wrong .integerSize
  else match intOfText? s.toList with
    | some i => ok i
    | none   => wrong .integerText

def intOfDouble (x : Double) : Fit Int :=
  match x with
  | .finite .. => match x.integer? with
    | some i => if -Int.pow 2 63 < i && i < Int.pow 2 63 then ok i else wrong .integerSize
    | none   => wrong .integerFraction
  | _ => wrong .finite

def int : Value → Fit Int
  | .int i   => ok i
  | .bool b  => ok (if b then 1 else 0)
  | .float x => intOfDouble x
  | .text s  => intOfText s
  | .bytes bs => match Text.Utf8.decode bs with
    | .ok s    => intOfText s
    | .error _ => wrong .integerText
  | _ => wrong .integer

-- An integer of at least `low`, and at most `high` if that is given.
def natFrom (low : Nat) (high? : Option Nat) (v : Value) : Fit Nat :=
  (int v).andThen fun i =>
    match high? with
    | some high =>
      if (high : Int) < i then wrong (.atMost high)
      else if i < low then wrong (.atLeast low)
      else ok i.toNat
    | none => if i < low then wrong (.atLeast low) else ok i.toNat

-- Text that is one of the tags.
def tag (tags : List (String × α)) (v : Value) : Fit α :=
  match v with
  | .text s => match tags.lookup s with
    | some a => ok a
    | none   => wrong (.oneOf (tags.map (·.1)))
  | _ => wrong (.oneOf (tags.map (·.1)))

end Outline.Fit
