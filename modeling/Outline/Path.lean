import Outline.Text.Split

namespace Outline

-- The names on the way. Empty names and those that stand for the folder itself are left out.
structure Path where
  -- The slashes at the front.
  root  : String
  names : List String
  deriving DecidableEq, Repr

namespace Path

-- Two slashes at the front are kept apart from one, and more than two are one.
private def rootOf (cs : List Char) : String :=
  match cs with
  | '/' :: '/' :: '/' :: _ => "/"
  | '/' :: '/' :: _        => "//"
  | '/' :: _               => "/"
  | _                      => ""

def ofText (s : String) : Path where
  root  := rootOf s.toList
  names := ((Text.split '/' s.toList).map String.ofList).filter fun name => name ≠ "" && name ≠ "."

-- The path as it is shown; the folder itself is a point.
def text (p : Path) : String :=
  let s := p.root ++ "/".intercalate p.names
  if s = "" then "." else s

-- The last name from its last point on, unless it begins or ends there.
def suffix (p : Path) : String :=
  let name := (p.names.getLast?.getD "").toList
  let tail := (name.reverse.takeWhile (· != '.')).reverse
  let stem := name.take (name.length - tail.length - 1)
  if stem.isEmpty || tail.isEmpty then "" else String.ofList ('.' :: tail)

end Path
end Outline
