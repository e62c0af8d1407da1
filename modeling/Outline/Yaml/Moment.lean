namespace Outline.Yaml

-- A distance from Greenwich in hours and minutes, as it is written.
structure Offset where
  west    : Bool
  hours   : Nat
  minutes : Nat
  deriving DecidableEq, Repr

structure Clock where
  hour    : Nat
  minute  : Nat
  second  : Nat
  offset? : Option Offset
  deriving DecidableEq, Repr

-- A date, and a time of day that `clock?` tells; month and day have `digits` digits together.
structure Moment where
  year   : Nat
  month  : Nat
  day    : Nat
  digits : Nat
  clock? : Option Clock
  deriving DecidableEq, Repr

namespace Moment

-- The number of one to `most` digits that begins here, how many they are, and what follows.
private def digits? (least most : Nat) (cs : List Char) : Option (Nat × Nat × List Char) :=
  let ds := (cs.take most).takeWhile Char.isDigit
  if ds.length < least then none
  else some (ds.foldl (fun n d => n * 10 + (d.toNat - 48)) 0, ds.length, cs.drop ds.length)

private def after? (c : Char) : List Char → Option (List Char)
  | d :: rest => if d == c then some rest else none
  | []        => none

private def isGap (c : Char) : Bool := c == ' ' || c == '\t'

private def offsetAfter? (west : Bool) (cs : List Char) : Option (Option Offset) := do
  let (hours, _, cs) ← digits? 1 2 cs
  match cs with
  | [] => some (some ⟨west, hours, 0⟩)
  | _ =>
    let (minutes, _, cs) ← digits? 2 2 (← after? ':' cs)
    if cs.isEmpty then some (some ⟨west, hours, minutes⟩) else none

-- The distance that is written at the end, if one is.
private def offset? (cs : List Char) : Option (Option Offset) :=
  match cs.dropWhile isGap with
  | []        => if cs.isEmpty then some none else none
  | ['Z']     => some none
  | '+' :: cs => offsetAfter? false cs
  | '-' :: cs => offsetAfter? true cs
  | _         => none

private def clockAfter? (cs : List Char) : Option Clock := do
  let (hour, _, cs) ← digits? 1 2 cs
  let (minute, _, cs) ← digits? 2 2 (← after? ':' cs)
  let (second, _, cs) ← digits? 2 2 (← after? ':' cs)
  let cs := match cs with
    | '.' :: cs => cs.dropWhile Char.isDigit
    | cs        => cs
  some ⟨hour, minute, second, ← offset? cs⟩

private def clockFrom? (cs : List Char) : Option (Option Clock) :=
  match cs with
  | [] => some none
  | c :: rest =>
    if c == 'T' || c == 't' then (clockAfter? rest).map some
    else if isGap c then (clockAfter? (rest.dropWhile isGap)).map some
    else none

private def ofChars? (cs : List Char) : Option Moment := do
  let (year, _, cs) ← digits? 4 4 cs
  let (month, m, cs) ← digits? 1 2 (← after? '-' cs)
  let (day, d, cs) ← digits? 1 2 (← after? '-' cs)
  some ⟨year, month, day, m + d, ← clockFrom? cs⟩

-- What is written, if it has the form of a date; one line break may follow it.
def ofText? (s : String) : Option Moment :=
  let cs := s.toList
  match ofChars? cs with
  | some m => some m
  | none   => if cs.getLast? == some '\n' then ofChars? cs.dropLast else none

-- A date alone needs all its digits to be taken for one.
def isPlain (m : Moment) : Bool := m.clock?.isSome || m.digits == 4

def isLeap (year : Nat) : Bool := year % 4 == 0 && (year % 100 != 0 || year % 400 == 0)

def daysIn (year month : Nat) : Nat :=
  if month == 2 then (if isLeap year then 29 else 28)
  else if month == 4 || month == 6 || month == 9 || month == 11 then 30
  else 31

-- How a distance of a day or more is written.
private def span (o : Offset) : String :=
  let seconds : Int := (o.hours * 60 + o.minutes) * 60
  let seconds := if o.west then - seconds else seconds
  let rest := seconds % 86400
  s!"datetime.timedelta(days={seconds / 86400}" ++
    (if rest == 0 then "" else s!", seconds={rest}") ++ ")"

private def clockFault? (c : Clock) : Option String :=
  if 23 < c.hour then some "hour must be in 0..23"
  else if 59 < c.minute then some "minute must be in 0..59"
  else if 59 < c.second then some "second must be in 0..59"
  else none

private def offsetFault? (o : Offset) : Option String :=
  if 24 * 60 ≤ o.hours * 60 + o.minutes then
    some ("offset must be a timedelta strictly between -timedelta(hours=24) and " ++
      "timedelta(hours=24), not " ++ span o ++ ".")
  else none

-- What is impossible about a moment, if anything is.
def fault? (m : Moment) : Option String :=
  if let some message := (m.clock?.bind Clock.offset?).bind offsetFault? then some message
  else if m.year == 0 then some "year 0 is out of range"
  else if m.month == 0 || 12 < m.month then some "month must be in 1..12"
  else if m.day == 0 || daysIn m.year m.month < m.day then some "day is out of range for month"
  else m.clock?.bind clockFault?

end Moment
end Outline.Yaml
