namespace Outline

namespace Table

private def digit (c : Char) : Nat :=
  if c.isDigit then c.toNat - '0'.toNat else c.toNat - 'a'.toNat + 10

private def number (s : String) : Int :=
  match s.toList with
  | '-' :: cs => - (cs.foldl (fun n c => n * 36 + digit c) 0 : Nat)
  | cs        => (cs.foldl (fun n c => n * 36 + digit c) 0 : Nat)

-- The numbers of a written table.
def numbers (text : String) : List Int := (text.splitOn " ").map number

end Table

-- A set of code points: closed ranges in ascending order.
-- Written as a text of numbers in base 36: for each range the gap since the last one, and its
-- length less one.
structure Ranges where
  bounds : Array (Nat × Nat)

namespace Ranges

private def collect (next : Nat) : List Int → Array (Nat × Nat) → Array (Nat × Nat)
  | gap :: more :: rest, acc =>
    let low := next + gap.toNat
    let high := low + more.toNat
    collect (high + 1) rest (acc.push (low, high))
  | _, acc => acc

def ofText (text : String) : Ranges := ⟨collect 0 (Table.numbers text) #[]⟩

-- Halves the part of the table between `low` and `high`; `fuel` bounds the number of halvings.
private def search (bounds : Array (Nat × Nat)) (n : Nat) (low high : Nat) : Nat → Option (Nat × Nat)
  | 0 => none
  | fuel + 1 =>
    if low < high then
      let mid := (low + high) / 2
      match bounds[mid]? with
      | none => none
      | some (a, b) =>
        if n < a then search bounds n low mid fuel
        else if b < n then search bounds n (mid + 1) high fuel
        else some (a, b)
    else none

-- The range that holds the character.
def rangeOf? (r : Ranges) (c : Char) : Option (Nat × Nat) :=
  search r.bounds c.toNat 0 r.bounds.size (r.bounds.size + 1)

def mem (r : Ranges) (c : Char) : Bool := (r.rangeOf? c).isSome

-- Does the set hold a code point from `low` to `high`?
def meets (r : Ranges) (low high : Nat) : Bool := r.bounds.any fun (a, b) => a ≤ high && low ≤ b

end Ranges

-- A case map: runs of letters, evenly spaced, to each of which the same is added.
-- Written as a text of numbers in base 36: for each run of letters the distance from the last run,
-- the number of letters, the step between them, and what is added to each.
structure CaseRuns where
  ranges : Ranges
  steps  : Array (Nat × Int)

namespace CaseRuns

private def collect (last : Nat) : List Int → CaseRuns → CaseRuns
  | apart :: count :: step :: shift :: rest, acc =>
    let low := last + apart.toNat
    let high := low + (count.toNat - 1) * step.toNat
    collect low rest ⟨⟨acc.ranges.bounds.push (low, high)⟩, acc.steps.push (step.toNat, shift)⟩
  | _, acc => acc

def ofText (text : String) : CaseRuns := collect 0 (Table.numbers text) ⟨⟨#[]⟩, #[]⟩

private def search (runs : CaseRuns) (n : Nat) (low high : Nat) : Nat → Option (Nat × Nat × Int)
  | 0 => none
  | fuel + 1 =>
    if low < high then
      let mid := (low + high) / 2
      match runs.ranges.bounds[mid]?, runs.steps[mid]? with
      | some (a, b), some step =>
        if n < a then search runs n low mid fuel
        else if b < n then search runs n (mid + 1) high fuel
        else some (a, step)
      | _, _ => none
    else none

-- The other case of a letter; any other character is its own.
def map (runs : CaseRuns) (c : Char) : Char :=
  let n := c.toNat
  match search runs n 0 runs.steps.size (runs.steps.size + 1) with
  | some (low, step, shift) =>
    if (n - low) % step == 0 then Char.ofNat (n + shift).toNat else c
  | none => c

-- The letters that the map takes to this one.
def sources (runs : CaseRuns) (c : Char) : List Char :=
  (runs.ranges.bounds.zip runs.steps).toList.filterMap fun ((low, high), step, shift) =>
    let n := c.toNat - shift
    if (low : Int) ≤ n && n ≤ high && (n.toNat - low) % step == 0 then some (Char.ofNat n.toNat)
    else none

end CaseRuns

end Outline
