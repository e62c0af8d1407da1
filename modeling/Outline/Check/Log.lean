import Outline.Check

namespace Outline

-- The text that a log shows of a block: its own, or else that of its text children.
def Content.excerpt (c : Content) : String :=
  let own := c.value?.getD ""
  let whole := if own = "" then
      " ".intercalate (c.children.filterMap fun i =>
        if i.kind = "text" then i.value?.filter (· ≠ "") else none)
    else own
  String.ofList ((Text.trim whole).toList.take 80)

namespace Event

private def contentLines (index : Nat) : List Content → List String
  | []      => []
  | c :: cs => (s!"  [{index}] type = " ++ c.kind.name ++ ", text = " ++ Text.quoted c.excerpt) ::
      contentLines (index + 1) cs

def logLines : Event → List String
  | checked path s => ("Checking section " ++ Text.quoted path) :: contentLines 0 s.content
  | reported _     => []

end Event
end Outline
