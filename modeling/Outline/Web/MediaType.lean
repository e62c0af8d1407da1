import Outline.Text.Case
import Outline.Text.Split

namespace Outline.Web

structure MediaType where
  type     : String
  subtype  : String
  charset? : Option String
  deriving DecidableEq, Repr

namespace MediaType

private def unquoted (cs : List Char) : List Char :=
  if 2 ≤ cs.length && cs.head? == some '"' && cs.getLast? == some '"' then (cs.drop 1).dropLast
  else cs

private def lower (cs : List Char) : String := Text.small (String.ofList (Text.trimBy Text.isBlank cs))

-- The value of a parameter of the given name.
private def value? (name : String) (parameter : List Char) : Option String :=
  match Text.split '=' parameter with
  | key :: first :: rest =>
    if lower key = name then
      some (lower (unquoted (Text.trimBy Text.isBlank (Text.join '=' (first :: rest)))))
    else none
  | _ => none

-- A text without a type and a subtype says that the body is plain text.
def ofText (s : String) : MediaType :=
  let (full, parameters) := match Text.split ';' s.toList with
    | full :: parameters => (full, parameters)
    | []                 => ([], [])
  let charset? := parameters.findSome? (value? "charset")
  match Text.split '/' full with
  | [type, subtype] => ⟨lower type, lower subtype, charset?⟩
  | _               => ⟨"text", "plain", charset?⟩

def isJson (m : MediaType) : Bool :=
  m.type = "application" && (m.subtype = "json" || "+json".toList.isSuffixOf m.subtype.toList)

end MediaType
end Outline.Web
