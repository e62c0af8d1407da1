import Outline.Node

namespace Outline

-- A text, or `null` for none.
def textData : Option String → Value
  | some s => .text s
  | none   => .null

namespace Position

def data (p : Position) : Value :=
  .map [("line", .int p.line), ("column", .int p.column)]

-- A position, or `null` for none.
def data? : Option Position → Value
  | some p => p.data
  | none   => .null

end Position

namespace Inline

mutual

def data : Inline → Value
  | ⟨kind, value?, children⟩ =>
    .map [("type", .text kind), ("value", textData value?), ("children", .list (dataList children))]

def dataList : List Inline → List Value
  | []      => []
  | i :: is => i.data :: dataList is

end

end Inline

def Heading.data (h : Heading) : Value :=
  .map [("type", .text "heading"), ("depth", .int h.depth),
        ("children", .list (Inline.dataList h.children)), ("position", Position.data? h.position?)]

def Content.data (c : Content) : Value :=
  .map [("type", .text c.kind.name), ("value", textData c.value?),
        ("children", .list (Inline.dataList c.children)), ("position", Position.data? c.position?)]

def Aside.data (a : Aside) : Value :=
  .map [("type", .text a.kind.name), ("value", textData a.value?),
        ("position", Position.data? a.position?)]

def Node.data : Node → Value
  | .heading h => h.data
  | .content c => c.data
  | .aside a   => a.data

end Outline
