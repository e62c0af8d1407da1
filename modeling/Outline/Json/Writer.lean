import Outline.Text.Quoted
import Outline.Value

namespace Outline.Json

private def escaped (c : Char) : List Char :=
  if c == '"' || c == '\\' then ['\\', c]
  else if c == '\n' then ['\\', 'n']
  else if c.toNat < 32 || c.toNat == 127 || Text.isStray c then
    '\\' :: 'u' :: Text.hexPadded 4 (Text.codePoint c)
  else [c]

private def quoted (s : String) : String :=
  "\"" ++ String.ofList (s.toList.flatMap escaped) ++ "\""

mutual

-- Numbers with a fraction are written as text, in the fewest digits.
def write : Value → String
  | .null     => "null"
  | .bool b   => if b then "true" else "false"
  | .int i    => toString i
  | .float x  => quoted x.text
  | .text s   => quoted s
  | .bytes _  => "null"
  | .moment   => "null"
  | .pair a b => "[" ++ write a ++ "," ++ write b ++ "]"
  | .list vs  => "[" ++ ",".intercalate (writeItems vs) ++ "]"
  | .set vs   => "[" ++ ",".intercalate (writeItems vs) ++ "]"
  | .map es   => "\x7b" ++ ",".intercalate (writeEntries es) ++ "\x7d"

def writeItems : List Value → List String
  | []      => []
  | v :: vs => write v :: writeItems vs

def writeEntries : List (String × Value) → List String
  | []           => []
  | (k, v) :: es => (quoted k ++ ":" ++ write v) :: writeEntries es

end

end Outline.Json
