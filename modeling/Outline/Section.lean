import Outline.Node

namespace Outline

structure Section where
  title     : String
  depth     : Nat
  position? : Option Position
  content   : List Content
  children  : List Section
  deriving Repr, Inhabited

namespace Section

mutual

def fit : Value → Fit Section
  | .map es =>
    Section.mk
      <$> Fit.required ["title"] Fit.text es
      <*> Fit.required ["depth"] (Fit.natFrom 1 (some 6)) es
      <*> Fit.withDefault ["position"] none (Fit.optional Position.fit) es
      <*> Fit.withDefault ["content"] [] (Fit.list Content.fit) es
      <*> Fit.withDefault ["children"] [] id (fitEntries es)
  | _ => Fit.wrong (.record "Section")

def fitList : Value → Fit (List Section)
  | .list vs => fitItems 0 vs
  | .set vs  => fitItems 0 vs
  | _        => Fit.wrong .list

def fitItems (index : Nat) : List Value → Fit (List Section)
  | []      => .ok []
  | v :: vs => Fit.ap (Fit.map List.cons (Fit.under (.item index) (fit v))) (fitItems (index + 1) vs)

def fitEntries : List (String × Value) → List (String × Fit (List Section))
  | []           => []
  | (k, v) :: es => (k, fitList v) :: fitEntries es

end

-- The number of sections in a forest, at all depths.
def count : List Section → Nat
  | [] => 0
  | ⟨_, _, _, _, children⟩ :: rest => count children + count rest + 1

end Section
end Outline
