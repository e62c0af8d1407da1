import Outline.Yaml.Content

namespace Outline.Yaml

-- A text without a document is a null value.
def read (s : String) : Except Fault Value := do
  if !s.toList.all isAllowed then .error .malformed
  else match ← Node.ofTokens? (Token.ofText s.toList) with
    | none   => return .null
    | some n => n.value

end Outline.Yaml
