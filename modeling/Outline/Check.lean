import Outline.Check.Context
import Outline.Diagnostic

namespace Outline

-- What a check says, in order: what it tells whoever looks on, and what it reports. An onlooker that
-- counts as false, and so as none, is left out.
inductive Event
  | checked (path : String) (s : Section)
  | reported (d : Diagnostic)
  deriving Repr

namespace Event

def diagnostic? : Event → Option Diagnostic
  | reported d => some d
  | checked .. => none

def match? : Event → Option (String × Section)
  | checked path s => some (path, s)
  | reported _     => none

end Event

-- Is a pattern, which comes first, found in a title?
abbrev Found := String → String → Bool

namespace Schema.Entry

-- Does the entry expect a section of this title? A pattern counts before a title, and an empty one
-- of either does not count.
def accepts (found : Found) (e : Entry) (title : String) : Bool :=
  match e.titlePattern?.filter (· ≠ ""), e.title?.filter (· ≠ "") with
  | some pattern, _             => found pattern title
  | none,         some expected => title = expected
  | none,         none          => false

-- What messages of this entry end in.
def suffix (e : Entry) : String :=
  match e.description? with
  | some text => if text = "" then "" else " - " ++ text
  | none      => ""

end Schema.Entry

namespace Section

-- Is there content of one of the types, or a deeper section where that is enough?
def isNonEmpty (s : Section) (contentTypes : List String) (allowChildren : Bool) : Bool :=
  s.content.any (fun c => contentTypes.contains c.kind.name) ||
    (allowChildren && !s.children.isEmpty)

end Section

namespace Check

open Schema (Entry)

def emptyMessage (c : Context) (e : Entry) : String :=
  "Section \"" ++ c.path ++ e.name ++ "\" must not be empty." ++ e.suffix

def missingMessage (c : Context) (e : Entry) : String :=
  "Missing required section: " ++ c.path ++ e.name ++ e.suffix

def orderMessage (c : Context) (e : Entry) (s : Section) : String :=
  "Section \"" ++ s.title ++ "\" is out of order. Expected \"" ++ e.name ++ "\" at " ++ c.place ++
    "." ++ e.suffix

-- What is said of a matched section itself.
def onMatch (c : Context) (e : Entry) (s : Section) : List Event :=
  .checked (c.path ++ e.name) s ::
    if e.nonEmpty && !s.isNonEmpty c.contentTypes (c.allowsChildren e) then
      [.reported ⟨emptyMessage c e, s.position?, c.ruleId⟩]
    else []

-- What is said of an entry that does not match the section beside it.
def onMiss (c : Context) (e : Entry) (current? : Option Section) : List Event :=
  (if e.required then [.reported ⟨missingMessage c e, none, c.ruleId⟩] else []) ++
    match current? with
    | some s =>
      if c.enforceOrder then [.reported ⟨orderMessage c e s, s.position?, c.ruleId⟩] else []
    | none => []

mutual

-- The sections of one level against its entries.
-- Entries are taken in order, beside the first section that is not matched yet: if the entry
-- accepts it both are done with, and if not the entry alone is.
def level (found : Found) (c : Context) : List Entry → List Section → List Event
  | [], _ => []
  | e :: es, ss =>
    match ss with
    | [] => onMiss c e none ++ level found c es []
    | s :: rest =>
      if e.accepts found s.title then
        onMatch c e s ++ below found c e s.children ++ level found c es rest
      else onMiss c e (some s) ++ level found c es (s :: rest)

-- The sections below a matched one, if its entry says anything about them.
def below (found : Found) (c : Context) : Entry → List Section → List Event
  | e@⟨_, _, _, _, _, _, children?, _⟩, ss => belowAll found (c.descend e) children? ss

def belowAll (found : Found) (c : Context) : Option (List Entry) → List Section → List Event
  | some es, ss => level found c es ss
  | none,    _  => []

end

end Check
end Outline
