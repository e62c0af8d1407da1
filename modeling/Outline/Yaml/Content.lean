import Outline.Text.Base64
import Outline.Text.Case
import Outline.Value
import Outline.Yaml.Node

namespace Outline.Yaml

-- A value, or a fault and how deep it lies.
-- Of two faults the one less deep counts, and of two as deep the first.
abbrev Settled (α : Type) := Except (Nat × Fault) α

namespace Settled

-- Both values, or the fault that counts.
def both : Settled α → Settled β → Settled (α × β)
  | .ok a,    .ok b    => .ok (a, b)
  | .error e, .ok _    => .error e
  | .ok _,    .error e => .error e
  | .error e, .error f => .error (if f.1 < e.1 then f else e)

def all : List (Settled α) → Settled (List α)
  | []      => .ok []
  | x :: xs => (both x (all xs)).map fun (a, as) => a :: as

def lying (depth : Nat) (x : Except Fault α) : Settled α := x.mapError (depth, ·)

end Settled

namespace Node

def truthOfWord (word : String) : Except Fault Value :=
  if ["yes", "true", "on"].contains word then .ok (.bool true)
  else if ["no", "false", "off"].contains word then .ok (.bool false)
  else .error (.truth word)

-- The sign at the front and what follows it; some of it must be written.
def signed (cs : List Char) : Except Fault (Bool × List Char) :=
  match cs with
  | []        => .error .noNumber
  | '-' :: cs => .ok (true, cs)
  | '+' :: cs => .ok (false, cs)
  | cs        => .ok (false, cs)

def sixtieths (s : String) : List String := s.splitOn ":"

def intIn (base : Nat) (cs : List Char) : Except Fault Int :=
  (Number.readIntIn base (String.ofList cs)).mapError .number

def integer (s : String) : Except Fault Int := do
  let (negative, cs) ← signed (s.toList.filter (· != '_'))
  let n ← match cs with
    | []                 => .error .noNumber
    | ['0']              => .ok 0
    | '0' :: 'b' :: rest => intIn 2 rest
    | '0' :: 'x' :: rest => intIn 16 rest
    | '0' :: _           => intIn 8 cs
    | _ =>
      let parts ← (sixtieths (String.ofList cs)).mapM fun s => intIn 10 s.toList
      .ok (parts.foldl (fun n part => n * 60 + part) 0)
  return if negative then - n else n

def double (s : String) : Except Fault Double := do
  let (negative, cs) ← signed (Text.small (String.ofList (s.toList.filter (· != '_')))).toList
  let text := String.ofList cs
  let x ← if text == ".inf" then .ok (Double.infinite false)
    else if text == ".nan" then .ok Double.nan
    else if cs.contains ':' then do
      let parts ← (sixtieths text).mapM fun s => (Number.readDouble s).mapError .number
      let weighted ← parts.reverse.zipIdx.mapM fun (x, place) =>
        match x.times? (Nat.pow 60 place) with
        | some y => .ok y
        | none   => .error .weight
      .ok (weighted.foldl Double.add (.zero false))
    else (Number.readDouble text).mapError .number
  return if negative then x.negate else x

def bytes (s : String) : Except Fault Value :=
  if s.toList.all (·.toNat < 128) then
    match Text.Base64.decode s.toList with
    | some bs => .ok (.bytes bs)
    | none    => .error .malformed
  else .error .malformed

def moment (s : String) : Except Fault Value :=
  match Moment.ofText? s with
  | none => .error .noMoment
  | some m => match m.fault? with
    | some message => .error (.moment message)
    | none         => .ok .moment

def valueOfText (tag : Tag) (s : String) : Except Fault Value :=
  match tag with
  | .null    => .ok .null
  | .truth   => truthOfWord (Text.small s)
  | .integer => (integer s).map .int
  | .number  => (double s).map .float
  | .binary  => bytes s
  | .moment  => moment s
  | .text    => .ok (.text s)
  | _        => .error .malformed

-- The text of a node: of a map that is a value itself, the text under its value key.
def text? : Node → Option String
  | text _ s => some s
  | list ..  => none
  | map _ es => textIn? es
where
  textIn? : List (Node × Node) → Option String
    | [] => none
    | (text .value _, v) :: _ => text? v
    | (list .value _, v) :: _ => text? v
    | (map .value _, v) :: _  => text? v
    | _ :: es => textIn? es

def tag : Node → Tag
  | text t _ => t
  | list t _ => t
  | map t _  => t

-- The value of a node that has a text. Of a map it can be any but a date.
def valueBy (n : Node) (s : String) : Except Fault Value :=
  match n with
  | map .moment _ => .error .momentOfMap
  | _             => valueOfText n.tag s

def withTag (t : Tag) : Node → Node
  | text _ s     => text t s
  | list _ items => list t items
  | map _ es     => map t es

abbrev Entries := List (Node × Node)

mutual

-- The entries that a map takes over, and its own ones. The key for a value is text like others.
def parts : Entries → Except Fault (Entries × Entries)
  | [] => .ok ([], [])
  | (k, v) :: es => do
    if k.tag == .merge then
      let here ← taken v
      let (taken, own) ← parts es
      return (here ++ taken, own)
    else
      let (taken, own) ← parts es
      return (taken, (if k.tag == .value then k.withTag .text else k, v) :: own)

def taken : Node → Except Fault Entries
  | text ..      => .error .malformed
  | map _ es     => do
    let (taken, own) ← parts es
    return taken ++ own
  | list _ items => do return (← takenOfAll items).reverse.flatten

def takenOfAll : List Node → Except Fault (List Entries)
  | [] => .ok []
  | map _ es :: items => do
    let (taken, own) ← parts es
    return (taken ++ own) :: (← takenOfAll items)
  | _ :: _ => .error .malformed

end

-- The entries of a map together with those that it takes over, which come first.
def allEntries (es : Entries) : Except Fault Entries := do
  let (taken, own) ← parts es
  return taken ++ own

mutual

def height : Node → Nat
  | text ..      => 1
  | list _ items => heightOfItems items + 1
  | map _ es     => heightOfEntries es + 1

def heightOfItems : List Node → Nat
  | []            => 0
  | n :: items => max (height n) (heightOfItems items)

def heightOfEntries : List (Node × Node) → Nat
  | []           => 0
  | (k, v) :: es => max (max (height k) (height v)) (heightOfEntries es)

end

-- Lists, sets and maps cannot be keys.
def canBeKey : Value → Bool
  | .list _ => false
  | .set _  => false
  | .map _  => false
  | _       => true

def mapOf (es : List (Value × Value)) : Value :=
  .map (es.foldl (fun es (k, v) => match k with
    | .text s => Value.put s v es
    | _       => es) [])

def setOf (es : List (Value × Value)) : Value := .set (es.map Prod.fst)

-- `room` is the height of the node. What is in it lies `step` deeper than the node itself.
def settled (depth step : Nat) : Nat → Node → Settled Value
  | 0, _ => .error (depth, .malformed)
  | room + 1, n =>
    let inner := depth + step
    let entries (es : Entries) : Settled (List (Value × Value)) :=
      match allEntries es with
      | .error f => .error (inner, f)
      | .ok es => Settled.all (es.map fun (k, v) =>
        let key := (settled inner 0 room k).bind fun k =>
          if canBeKey k then .ok k else .error (inner, .malformed)
        match key with
        | .error e => .error e
        | .ok k    => (settled inner step room v).map (k, ·))
    match n.tag, n with
    | .list, list _ items => (Settled.all (items.map (settled inner step room))).map .list
    | .map, map _ es => (entries es).map mapOf
    | .set, map _ es => (entries es).map setOf
    | .pairs, list _ items =>
      (Settled.all (items.map fun
        | map _ [(k, v)] =>
          (Settled.both (settled inner step room k) (settled inner step room v)).map fun (k, v) =>
            Value.pair k v
        | _ => .error (inner, .malformed))).map .list
    | .list, _ | .map, _ | .set, _ | .pairs, _ => .error (inner, .malformed)
    | _, _ => match text? n with
      | some s => Settled.lying depth (n.valueBy s)
      | none   => .error (depth, .malformed)

def value (n : Node) : Except Fault Value := (settled 0 1 n.height n).mapError Prod.snd

end Node
end Outline.Yaml
