import Outline.Check
import Outline.Pattern.Search
import Outline.Section.Forest

namespace Outline

-- A text in a schema that is no pattern.
structure PatternError where
  pattern : String
  error   : Pattern.Error
  deriving DecidableEq, Repr

namespace Schema

-- The patterns of entries, an entry's own before those below it.
def patterns : List Entry → List String
  | [] => []
  | ⟨_, titlePattern?, _, _, _, _, children?, _⟩ :: es =>
    titlePattern?.toList ++
      (match children? with
       | some below => patterns below
       | none       => []) ++
      patterns es

-- The first text that is no pattern.
def badPattern? (s : Schema) : Option PatternError :=
  (patterns s.sections).findSome? fun p => match Pattern.read p with
    | .ok _    => none
    | .error e => some ⟨p, e⟩

end Schema

-- The patterns of the schema have been read.
structure Checker where
  schema  : Schema
  context : Context
  deriving Repr

namespace Checker

def ofSchema (s : Schema) (o : Options) : Except PatternError Checker :=
  match s.badPattern? with
  | some e => .error e
  | none   => .ok ⟨s, .ofSchema s o⟩

-- Everything that is said of a forest of sections.
def events (c : Checker) (forest : List Section) : List Event :=
  Check.level Pattern.isFound c.context c.schema.sections forest

def diagnostics (c : Checker) (forest : List Section) : List Diagnostic :=
  (c.events forest).filterMap Event.diagnostic?

end Checker

-- Checks the nodes of one document.
def checkNodes (s : Schema) (o : Options) (nodes : List Node) :
    Except PatternError (List Diagnostic) := do
  let checker ← Checker.ofSchema s o
  return checker.diagnostics (Section.forest nodes)

end Outline
