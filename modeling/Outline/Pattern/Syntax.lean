namespace Outline.Pattern

-- How a part of a pattern is meant.
structure Flags where
  ignoreCase : Bool
  multiline  : Bool
  dotAll     : Bool
  ascii      : Bool
  deriving DecidableEq, Repr

-- A class of characters.
inductive Class
  | digit
  | space
  | word
  deriving DecidableEq, Repr

-- A member of a set of characters.
inductive Member
  | one (code : Nat)
  | range (low high : Nat)
  | ofClass (c : Class) (negated : Bool)
  deriving DecidableEq, Repr

-- A place in a text.
inductive Anchor
  | lineStart
  | lineEnd
  | textStart
  | textEnd
  | boundary
  | noBoundary
  deriving DecidableEq, Repr

inductive Mode
  | greedy
  | lazy
  | possessive
  deriving DecidableEq, Repr

-- Flags that a group turns on and off for what it holds.
structure FlagChange where
  ignoreCase? : Option Bool
  multiline?  : Option Bool
  dotAll?     : Option Bool
  ascii?      : Option Bool
  verbose?    : Option Bool
  deriving DecidableEq, Repr

namespace FlagChange

def none : FlagChange := ⟨.none, .none, .none, .none, .none⟩

def apply (c : FlagChange) (f : Flags) : Flags :=
  { ignoreCase := c.ignoreCase?.getD f.ignoreCase
    multiline  := c.multiline?.getD f.multiline
    dotAll     := c.dotAll?.getD f.dotAll
    ascii      := c.ascii?.getD f.ascii }

end FlagChange

-- The least and the greatest number of characters that a part can match.
structure Width where
  least : Nat
  most  : Nat
  deriving DecidableEq, Repr

-- Looking behind needs to know how far; the width is that of what is looked for.
inductive Direction
  | ahead
  | behind (width : Width)
  deriving DecidableEq, Repr

-- Code points stand for characters, as a pattern may name one that no text has.
inductive Item
  | char (code : Nat) (negated : Bool)
  | any
  | set (negated : Bool) (members : List Member)
  | anchor (a : Anchor)
  | «repeat» (mode : Mode) (least : Nat) (most? : Option Nat) (body : List Item)
  | group (index? : Option Nat) (change : FlagChange) (body : List Item)
  | atomic (body : List Item)
  | look (direction : Direction) (negated : Bool) (body : List Item)
  | reference (group : Nat)
  | conditional (group : Nat) (yes : List Item) (no? : Option (List Item))
  | choice (alternatives : List (List Item))
  deriving Repr, Inhabited

namespace Width

-- Stands for any number of characters.
def unbounded : Nat := Nat.pow 2 64

def add (a b : Width) : Width := ⟨a.least + b.least, a.most + b.most⟩

def either (a b : Width) : Width := ⟨min a.least b.least, max a.most b.most⟩

def capped (w : Width) : Width := ⟨min w.least unbounded, min w.most unbounded⟩

end Width

def repeatLimit : Nat := 4294967295

-- Groups are numbered below this.
def groupLimit : Nat := 1073741823

namespace Item

mutual

-- `groups` holds the widths of the groups that are closed, by their numbers.
def width (groups : Nat → Width) : Item → Width
  | char ..        => ⟨1, 1⟩
  | any            => ⟨1, 1⟩
  | set ..         => ⟨1, 1⟩
  | anchor _       => ⟨0, 0⟩
  | look ..        => ⟨0, 0⟩
  | «repeat» _ least most? body =>
    let w := widthList groups body
    match most? with
    | some most => ⟨w.least * least, w.most * most⟩
    | none      => ⟨w.least * least, if w.most = 0 then 0 else Width.unbounded⟩
  | group _ _ body => widthList groups body
  | atomic body    => widthList groups body
  | reference n    => groups n
  | conditional _ yes no? =>
    let w := widthList groups yes
    match no? with
    | some no => w.either (widthList groups no)
    | none    => ⟨0, w.most⟩
  | choice alternatives => widthChoice groups alternatives

def widthList (groups : Nat → Width) (items : List Item) : Width :=
  (widthSum groups items).capped

def widthSum (groups : Nat → Width) : List Item → Width
  | []            => ⟨0, 0⟩
  | item :: items => (width groups item).add (widthSum groups items)

def widthChoice (groups : Nat → Width) : List (List Item) → Width
  | []      => ⟨Width.unbounded, 0⟩
  | a :: as => (widthList groups a).either (widthChoice groups as)

end

-- A repeat of any kind.
def isRepeat : Item → Bool
  | «repeat» .. => true
  | _           => false

def isAnchor : Item → Bool
  | anchor _ => true
  | _        => false

-- A group that neither captures nor changes flags.
def plainGroup? : Item → Option (List Item)
  | group none change body => if change = FlagChange.none then some body else none
  | _ => none

-- What is in such groups, in their place.
def unwrap (items : List Item) : List Item :=
  items.flatMap fun item => (plainGroup? item).getD [item]

end Item
end Outline.Pattern
