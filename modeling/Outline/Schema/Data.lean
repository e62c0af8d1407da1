import Outline.Node.Data
import Outline.Schema

namespace Outline

-- A truth value, or `null` for none.
def truthData : Option Bool → Value
  | some b => .bool b
  | none   => .null

namespace Schema

namespace Entry

mutual

def data : Entry → Value
  | ⟨title?, titlePattern?, required, nonEmpty, allowChildren?, enforceOrder?, children?,
      description?⟩ =>
    .map [("title", textData title?), ("titlePattern", textData titlePattern?),
          ("required", .bool required), ("nonEmpty", .bool nonEmpty),
          ("allowChildrenToSatisfyNonEmpty", truthData allowChildren?),
          ("enforceOrder", truthData enforceOrder?), ("children", dataList? children?),
          ("description", textData description?)]

def dataList? : Option (List Entry) → Value
  | some es => .list (dataList es)
  | none    => .null

def dataList : List Entry → List Value
  | []      => []
  | e :: es => e.data :: dataList es

end

end Entry

def data (s : Schema) : Value :=
  .map [("sections", .list (Entry.dataList s.sections)), ("enforceOrder", truthData s.enforceOrder?),
        ("allowChildrenToSatisfyNonEmpty", truthData s.allowChildren?),
        ("contentNodeTypes", match s.contentTypes? with
          | some ts => .list (ts.map .text)
          | none    => .null)]

end Schema
end Outline
