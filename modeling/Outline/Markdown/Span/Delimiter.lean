import Outline.Markdown.Line
import Outline.Markdown.Span.Token
import Outline.Text.Classes

namespace Outline.Markdown

-- One sign of a run, or two of them for strikes.
structure Delimiter where
  sign     : Char
  -- The length of the run; zero where lengths do not matter.
  length   : Nat
  -- The place of its token.
  token    : Nat
  opens    : Bool
  closes   : Bool
  -- The place of the delimiter that closes what it opens.
  partner? : Option Nat
  deriving DecidableEq, Repr, Inhabited

namespace Delimiter

-- Whether a run between these characters may open a span, and whether it may close one. In words a
-- run may only do so if it `splits` them.
def flanks (splits : Bool) (before after : Char) : Bool × Bool :=
  let left := !(isSpace after || (Text.isMark after && !(isSpace before || Text.isMark before)))
  let right := !(isSpace before || (Text.isMark before && !(isSpace after || Text.isMark after)))
  (left && (splits || !right || Text.isMark before), right && (splits || !left || Text.isMark after))

-- The state of pairing. A place is counted from one, and zero stands for none.
private structure Pairing where
  delimiters : Array Delimiter
  -- How many delimiters before one can be passed over.
  jumps      : Array Nat
  -- Below which no opener was found, for each kind of closer.
  floors     : List ((Char × Bool × Nat) × Nat)
  -- The first delimiter of the run.
  head       : Nat
  -- The place of the token after the last delimiter of the run.
  next?      : Option Nat

-- A delimiter that opens and closes pairs off only if the lengths of both runs together are no
-- multiple of three, or if each is one.
private def isOdd (opener closer : Delimiter) : Bool :=
  (opener.closes || closer.opens) && (opener.length + closer.length) % 3 == 0 &&
    (opener.length % 3 != 0 || closer.length % 3 != 0)

-- The place of the opener, from the one at `place` backwards.
private def findOpener (p : Pairing) (closer : Delimiter) (floor place : Nat) : Nat → Option Nat
  | 0 => none
  | fuel + 1 =>
    if place ≤ floor then none
    else
      let opener := p.delimiters.getD (place - 1) default
      if opener.sign == closer.sign && opener.opens && opener.partner?.isNone && !isOdd opener closer
      then some (place - 1)
      else findOpener p closer floor (place - 1 - p.jumps.getD (place - 1) 0) fuel

private def pairOne (p : Pairing) (index : Nat) : Pairing :=
  let closer := p.delimiters.getD index default
  let first := p.delimiters.getD p.head default
  let head := if first.sign != closer.sign || p.next? != some closer.token then index else p.head
  let p := { p with jumps := p.jumps.push 0, head := head, next? := some (closer.token + 1) }
  if !closer.closes then p
  else
    let key := (closer.sign, closer.opens, closer.length % 3)
    let floor := (p.floors.lookup key).getD 0
    let place := head - p.jumps.getD head 0
    match findOpener p closer floor place (place + 1) with
    | some o =>
      let opener := p.delimiters.getD o default
      let jump := if 0 < o && !(p.delimiters.getD (o - 1) default).opens then
          p.jumps.getD (o - 1) 0 + 1
        else 0
      { p with
        delimiters := (p.delimiters.setIfInBounds index { closer with opens := false }).setIfInBounds o
          { opener with partner? := some index, closes := false }
        jumps := (p.jumps.setIfInBounds index (index - o + jump)).setIfInBounds o jump
        next? := none }
    | none => if place == 0 then p else { p with floors := (key, place) :: p.floors }

-- The delimiters with their partners.
def pair (ds : Array Delimiter) : Array Delimiter :=
  ((List.range ds.size).foldl pairOne ⟨ds, #[], [], 0, none⟩).delimiters

private def mark (ts : Array SpanToken) (place : Nat) (kind : SpanKind) (nesting : Nesting) :
    Array SpanToken :=
  ts.setIfInBounds place ⟨kind, nesting, ""⟩

private def isLone (ts : Array SpanToken) (place : Nat) : Bool :=
  ts[place]? == some (.ofText "~")

-- Moves a single sign behind the closers that follow it.
private def moveLone (ts : Array SpanToken) (place : Nat) : Array SpanToken :=
  let closers := (ts.toList.drop (place + 1)).takeWhile (· == ⟨.strike, .closes, ""⟩)
  ts.swapIfInBounds place (place + closers.length)

-- The tokens with strikes where delimiters are paired for them.
def markStrikes (ds : Array Delimiter) (ts : Array SpanToken) : Array SpanToken :=
  let (ts, lone) := ds.toList.foldl (fun (ts, lone) d =>
    match d.partner?.bind (ds[·]?) with
    | some e =>
      if d.sign != '~' then (ts, lone)
      else
        let ts := mark (mark ts d.token .strike .opens) e.token .strike .closes
        (ts, if isLone ts (e.token - 1) then (e.token - 1) :: lone else lone)
    | none => (ts, lone)) (ts, [])
  lone.foldl moveLone ts

private def isStrong (ds : Array Delimiter) (index : Nat) (d : Delimiter) (partner : Nat) : Bool :=
  match ds[index - 1]?, ds[partner]?, ds[partner + 1]? with
  | some before, some e, some after =>
    0 < index && before.partner? == some (partner + 1) && before.sign == d.sign &&
      before.token + 1 == d.token && after.token == e.token + 1
  | _, _, _ => false

private def clear (ts : Array SpanToken) (place : Nat) : Array SpanToken :=
  ts.modify place fun t => { t with content := "" }

-- From the last delimiter to the first; `index` of them are left.
private def markFrom (ds : Array Delimiter) (ts : Array SpanToken) : Nat → Array SpanToken
  | 0 => ts
  | index + 1 =>
    match ds[index]? with
    | none => markFrom ds ts index
    | some d =>
      match d.partner?, d.partner?.bind (ds[·]?) with
      | some partner, some e =>
        if d.sign != '*' && d.sign != '_' then markFrom ds ts index
        else if isStrong ds index d partner then
          let ts := mark (mark ts d.token .strong .opens) e.token .strong .closes
          let ts := clear (clear ts (d.token - 1)) (e.token + 1)
          -- The delimiter before it is done with too.
          match index with
          | 0         => ts
          | index + 1 => markFrom ds ts index
        else
          markFrom ds (mark (mark ts d.token .emphasis .opens) e.token .emphasis .closes) index
      | _, _ => markFrom ds ts index

-- The tokens with emphasis where delimiters are paired for it; two adjacent pairs make it strong.
def markEmphasis (ds : Array Delimiter) (ts : Array SpanToken) : Array SpanToken :=
  markFrom ds ts ds.size

-- Pairs delimiters off, and turns their tokens into openers and closers.
def resolve (ds : Array Delimiter) (ts : Array SpanToken) : List SpanToken :=
  if ds.isEmpty then ts.toList
  else
    let ds := pair ds
    (markEmphasis ds (markStrikes ds ts)).toList

end Delimiter
end Outline.Markdown
