import Outline.Pattern.Test
import Outline.Pattern.Reader

namespace Outline.Pattern

-- A place in a text: the characters before it, the nearest one first, and after it; with what the
-- groups have matched so far.
structure Place where
  before : List Char
  after  : List Char
  groups : List (Nat × List Char)

namespace Place

def start (text : List Char) : Place := ⟨[], text, []⟩

def step (p : Place) (test : Char → Bool) : Option Place :=
  match p.after with
  | c :: rest => if test c then some { p with before := c :: p.before, after := rest } else none
  | []        => none

-- `n` characters back.
def back (p : Place) : Nat → Option Place
  | 0 => some p
  | n + 1 => match p.before with
    | c :: rest => back { p with before := rest, after := c :: p.after } n
    | []        => none

-- What has been passed since an earlier place.
def since (p earlier : Place) : List Char :=
  (p.before.take (p.before.length - earlier.before.length)).reverse

def isAt (p q : Place) : Bool := p.before.length == q.before.length

-- Is the place between a character of a word and another, or the end?
private def isBoundary (f : Flags) (p : Place) : Bool :=
  let isWord (c? : Option Char) : Bool := c?.any (Class.word.mem f.ascii)
  isWord p.before.head? != isWord p.after.head?

def holds (f : Flags) (p : Place) : Anchor → Bool
  | .lineStart  => p.before.isEmpty || (f.multiline && p.before.head? == some '\n')
  | .lineEnd    => p.after.isEmpty || p.after == ['\n'] ||
    (f.multiline && p.after.head? == some '\n')
  | .textStart  => p.before.isEmpty
  | .textEnd    => p.after.isEmpty
  | .boundary   => isBoundary f p
  | .noBoundary => !(p.before.isEmpty && p.after.isEmpty) && !isBoundary f p

-- Past a text that comes next, without regard to case if the flags say so.
def stepText (f : Flags) (p : Place) : List Char → Option Place
  | [] => some p
  | c :: cs =>
    match p.step fun d => if f.ignoreCase then small f c == small f d else c == d with
    | some q => stepText f q cs
    | none   => none

end Place

-- Goes on from a place; none if that leads nowhere.
abbrev Next := Place → Option Place

-- A part of a pattern: the ways to match it, each handed to `Next` in turn.
-- Alternatives are tried in order, and the first way to the end counts.
abbrev Part := Place → Next → Option Place

namespace Part

-- The first way to match, which is not given up for another.
def once (part : Part) (p : Place) : Option Place := part p some

-- As many rounds as possible first. `last?` is where the last optional round began: one that
-- matches nothing is not followed by another.
def greedy (part : Part) (least : Nat) (most? : Option Nat) :
    Nat → Nat → Option Place → Part
  | 0, _, _, p, k => k p
  | fuel + 1, count, last?, p, k =>
    if count < least then
      part p fun q => greedy part least most? fuel (count + 1) last? q k
    else if most?.all (count < ·) && !last?.any p.isAt then
      (part p fun q => greedy part least most? fuel (count + 1) (some p) q k).orElse fun _ => k p
    else k p

-- As few rounds as possible first.
def lazy (part : Part) (least : Nat) (most? : Option Nat) :
    Nat → Nat → Option Place → Part
  | 0, _, _, p, k => k p
  | fuel + 1, count, last?, p, k =>
    if count < least then
      part p fun q => lazy part least most? fuel (count + 1) last? q k
    else (k p).orElse fun _ =>
      if most?.all (count < ·) && !last?.any p.isAt then
        part p fun q => lazy part least most? fuel (count + 1) (some p) q k
      else none

-- As many rounds as possible, none of which is given up again.
def possessive (part : Part) (least : Nat) (most? : Option Nat) :
    Nat → Nat → Place → Option Place
  | 0, _, p => some p
  | fuel + 1, count, p =>
    if count < least then (part.once p).bind (possessive part least most? fuel (count + 1))
    else if most?.all (count < ·) then
      match part.once p with
      | some q => if q.isAt p then some q else possessive part least most? fuel (count + 1) q
      | none   => some p
    else some p

end Part

mutual

def runItem (f : Flags) : Item → Part
  | .char code negated => fun p k => (p.step fun c => isCode f code c != negated).bind k
  | .any => fun p k => (p.step fun c => f.dotAll || c != '\n').bind k
  | .set negated members => fun p k => (p.step (isInSet f negated members)).bind k
  | .anchor a => fun p k => if p.holds f a then k p else none
  | .repeat mode least most? body => fun p k =>
    let rounds := least + p.after.length + 2
    match mode with
    | .greedy     => Part.greedy (run f body) least most? rounds 0 none p k
    | .lazy       => Part.lazy (run f body) least most? rounds 0 none p k
    | .possessive => (Part.possessive (run f body) least most? rounds 0 p).bind k
  | .group index? change body => fun p k =>
    run (change.apply f) body p fun q =>
      match index? with
      | some n => k { q with groups := (n, q.since p) :: q.groups }
      | none   => k q
  | .atomic body => fun p k => ((run f body).once p).bind k
  | .look direction negated body => fun p k =>
    let from? := match direction with
      | .ahead        => some p
      | .behind width => p.back width.least
    match from?.bind (run f body).once, negated with
    | some q, false => k { p with groups := q.groups }
    | none,   true  => k p
    | _,      _     => none
  | .reference n => fun p k =>
    match p.groups.lookup n with
    | some text => (p.stepText f text).bind k
    | none      => none
  | .conditional n yes no? => fun p k =>
    if (p.groups.lookup n).isSome then run f yes p k
    else match no? with
      | some no => run f no p k
      | none    => k p
  | .choice alternatives => runChoice f alternatives

def run (f : Flags) : List Item → Part
  | []      => fun p k => k p
  | i :: is => fun p k => runItem f i p fun q => run f is q k

def runChoice (f : Flags) : List (List Item) → Part
  | []      => fun _ _ => none
  | a :: as => fun p k => (run f a p k).orElse fun _ => runChoice f as p k

end

-- From each place in turn.
private def searchFrom (pattern : Pattern) : List Char → Place → Bool
  | [], p => ((run pattern.flags pattern.items).once p).isSome
  | c :: rest, p =>
    ((run pattern.flags pattern.items).once p).isSome ||
      searchFrom pattern rest { p with before := c :: p.before, after := rest }

-- Does the pattern match somewhere in the text?
def search (pattern : Pattern) (text : String) : Bool :=
  searchFrom pattern text.toList (Place.start text.toList)

-- Is the pattern, in its written form, found in the text? What is no pattern is not found.
def isFound (pattern text : String) : Bool :=
  match read pattern with
  | .ok p    => p.search text
  | .error _ => false

end Outline.Pattern
