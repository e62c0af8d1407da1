import Outline.Fit.Record

namespace Outline
namespace Schema

-- One expected section.
-- Settings that are left open are taken over from the entry above, and in the end from the caller.
structure Entry where
  title?         : Option String
  titlePattern?  : Option String
  required       : Bool
  nonEmpty       : Bool
  allowChildren? : Option Bool
  enforceOrder?  : Option Bool
  children?      : Option (List Entry)
  description?   : Option String
  deriving Repr, Inhabited

end Schema

structure Schema where
  sections       : List Schema.Entry
  enforceOrder?  : Option Bool
  allowChildren? : Option Bool
  contentTypes?  : Option (List String)
  deriving Repr

namespace Schema.Entry

-- What messages call the expected section: its title, or else its pattern.
def name (e : Entry) : String :=
  match e.title? with
  | some title => if title = "" then e.titlePattern?.getD "" else title
  | none       => e.titlePattern?.getD ""

mutual

def fit : Value → Fit Entry
  | .map es =>
    Entry.mk
      <$> Fit.withDefault ["title"] none (Fit.optional Fit.text) es
      <*> Fit.withDefault ["titlePattern", "title_pattern"] none (Fit.optional Fit.text) es
      <*> Fit.withDefault ["required"] false Fit.truth es
      <*> Fit.withDefault ["nonEmpty", "non_empty"] false Fit.truth es
      <*> Fit.withDefault ["allowChildrenToSatisfyNonEmpty", "allow_children_to_satisfy_non_empty"]
            none (Fit.optional Fit.truth) es
      <*> Fit.withDefault ["enforceOrder", "enforce_order"] none (Fit.optional Fit.truth) es
      <*> Fit.withDefault ["children"] none id (fitEntries es)
      <*> Fit.withDefault ["description"] none (Fit.optional Fit.text) es
  | _ => Fit.wrong (.record "SchemaSection")

-- A list of entries, or none for `null`.
def fitList? : Value → Fit (Option (List Entry))
  | .null    => .ok none
  | .list vs => Fit.map some (fitItems 0 vs)
  | .set vs  => Fit.map some (fitItems 0 vs)
  | _        => Fit.wrong .list

def fitItems (index : Nat) : List Value → Fit (List Entry)
  | []      => .ok []
  | v :: vs => Fit.ap (Fit.map List.cons (Fit.under (.item index) (fit v))) (fitItems (index + 1) vs)

def fitEntries : List (String × Value) → List (String × Fit (Option (List Entry)))
  | []           => []
  | (k, v) :: es => (k, fitList? v) :: fitEntries es

end

def fitList : Value → Fit (List Entry) := Fit.list fit

end Schema.Entry

def Schema.fit : Value → Fit Schema := Fit.record "Schema" fun es =>
  Schema.mk
    <$> Fit.required ["sections"] Schema.Entry.fitList es
    <*> Fit.withDefault ["enforceOrder", "enforce_order"] none (Fit.optional Fit.truth) es
    <*> Fit.withDefault ["allowChildrenToSatisfyNonEmpty", "allow_children_to_satisfy_non_empty"]
          none (Fit.optional Fit.truth) es
    <*> Fit.withDefault ["contentNodeTypes", "content_node_types"]
          none (Fit.optional Fit.textSet) es

end Outline
