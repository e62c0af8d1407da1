namespace Outline.Text.Punycode

-- The bias after a number; it decides how many digits the next number may take.
def adapt (delta : Nat) (isFirst : Bool) (count : Nat) : Nat :=
  let delta := if isFirst then delta / 700 else delta / 2
  let delta := delta + delta / count
  -- The number of times that it is divided is bounded by its size.
  let rec shrink (delta steps : Nat) : Nat → Nat × Nat
    | 0 => (delta, steps)
    | fuel + 1 => if 455 < delta then shrink (delta / 35) (steps + 36) fuel else (delta, steps)
  let (delta, steps) := shrink delta 0 (delta.log2 + 1)
  steps + 36 * delta / (delta + 38)

-- The least value of a digit that is not the last one of its number.
def threshold (place bias : Nat) : Nat := min 26 (max 1 (36 * (place + 1) - bias))

private def digitValue? (c : Char) : Option Nat :=
  if c.isLower then some (c.toNat - 97)
  else if c.isUpper then some (c.toNat - 65)
  else if c.isDigit then some (c.toNat - 22)
  else none

private def digit (n : Nat) : Char := Char.ofNat (if n < 26 then n + 97 else n + 22)

private def readNumber (bias value weight place : Nat) : List Char → Option (Nat × List Char)
  | [] => none
  | c :: rest => do
    let d ← digitValue? c
    let t := threshold place bias
    let value := value + d * weight
    if d < t then some (value, rest) else readNumber bias value (weight * (36 - t)) (place + 1) rest

-- Puts in one character after another. `position` is the place after the last one, and `fuel` the
-- number of digits: each character takes at least one.
private def insertAll (text : List Char) (char position bias : Nat) (isFirst : Bool) :
    Nat → List Char → Option (List Char)
  | _, [] => some text
  | 0, _ => some text
  | fuel + 1, cs => do
    let (delta, rest) ← readNumber bias 0 1 0 cs
    let count := text.length + 1
    let position := position + delta
    let char := char + position / count
    let position := position % count
    if h : char.isValidChar then
      let text := text.take position ++ Char.ofNatAux char h :: text.drop position
      insertAll text char (position + 1) (adapt delta isFirst count) false fuel rest
    else none

-- The text that is written so, if it is well written.
def decode (cs : List Char) : Option (List Char) :=
  if !cs.all (·.toNat < 128) then none
  else
    let digits := (cs.reverse.takeWhile (· != '-')).reverse
    let base := cs.take (cs.length - digits.length - 1)
    insertAll base 128 0 72 true digits.length digits

private def writeNumber (bias : Nat) (n place : Nat) : Nat → List Char
  | 0 => []
  | fuel + 1 =>
    let t := threshold place bias
    if n < t then [digit n]
    else
      let span := 36 - t
      digit (t + (n - t) % span) :: writeNumber bias ((n - t) / span) (place + 1) fuel

private structure Writer where
  done  : List Char
  delta : Nat
  bias  : Nat
  count : Nat
  first : Nat

-- One pass over the text writes the places of one character.
private def pass (char : Nat) (w : Writer) (c : Char) : Writer :=
  if c.toNat < char then { w with delta := w.delta + 1 }
  else if c.toNat == char then
    { w with
      done  := w.done ++ writeNumber w.bias w.delta 0 (w.delta.log2 + 2)
      bias  := adapt w.delta (w.count == w.first) (w.count + 1)
      delta := 0
      count := w.count + 1 }
  else w

private def writeAll (text : List Char) (next : Nat) (w : Writer) : Nat → List Char
  | 0 => w.done
  | fuel + 1 =>
    match (text.filter (next ≤ ·.toNat)).map Char.toNat with
    | [] => w.done
    | n :: ns =>
      let char := ns.foldl min n
      let w := { w with delta := w.delta + (char - next) * (w.count + 1) }
      let w := text.foldl (pass char) w
      writeAll text (char + 1) { w with delta := w.delta + 1 } fuel

def encode (cs : List Char) : List Char :=
  let base := cs.filter (·.toNat < 128)
  let start := if base.isEmpty then [] else base ++ ['-']
  writeAll cs 128 ⟨start, 0, 72, base.length, base.length⟩ (cs.length + 1)

end Outline.Text.Punycode
