import Outline.Fit.Message
import Outline.Section

namespace Outline

namespace Node

-- Is the node a heading of at most this depth? It then closes every section of that depth.
def closes (depth : Nat) : Node → Bool
  | heading h => h.depth ≤ depth
  | _         => false

def isHeading : Node → Bool
  | heading _ => true
  | _         => false

def content? : Node → Option Content
  | content c => some c
  | _         => none

end Node

namespace Section

-- The sections of a stream of nodes.
def forest : List Node → List Section
  | [] => []
  | .heading h :: rest =>
    let own := rest.takeWhile (!·.closes h.depth)
    { title     := h.title
      depth     := h.depth
      position? := h.position?
      content   := (own.takeWhile (!·.isHeading)).filterMap Node.content?
      children  := forest (own.dropWhile (!·.isHeading)) } ::
      forest (rest.dropWhile (!·.closes h.depth))
  | _ :: rest => forest rest
termination_by nodes => nodes.length
decreasing_by
  · have inside := (List.dropWhile_sublist (!·.isHeading) (l := rest.takeWhile (!·.closes h.depth))).length_le
    have own := (List.takeWhile_sublist (!·.closes h.depth) (l := rest)).length_le
    simp only [List.length_cons]; omega
  · have after := (List.dropWhile_sublist (!·.closes h.depth) (l := rest)).length_le
    simp only [List.length_cons]; omega
  · simp

end Section

-- A value among a document's nodes that is no node.
structure NodeError where
  value  : Value
  issues : List Issue
  deriving Repr

namespace NodeError

-- What a value that is no record is called.
private def kindName : Value → String
  | .null    => "NoneType"
  | .bool _  => "bool"
  | .int _   => "int"
  | .float _ => "float"
  | .text _  => "str"
  | .bytes _ => "bytes"
  | .moment  => "date"
  | .pair .. => "tuple"
  | .list _  => "list"
  | .set _   => "set"
  | .map _   => "dict"

-- The `type` of a record, as far as it has one, and what any other value is.
def subject : Value → String
  | .map es => ((es.lookup "type").getD .null).quoted
  | v       => Text.quoted (kindName v)

def message (e : NodeError) : String :=
  "Unsupported document node " ++ subject e.value ++ ": " ++ issueCount e.issues

end NodeError

namespace Node

def ofValue (v : Value) : Except NodeError Node :=
  match fit v with
  | .ok node    => .ok node
  | .bad issues => .error ⟨v, issues⟩

-- All values as nodes; the first one that is none is refused.
def ofValues : List Value → Except NodeError (List Node)
  | []      => .ok []
  | v :: vs => do
    let node ← ofValue v
    let nodes ← ofValues vs
    pure (node :: nodes)

end Node
end Outline
