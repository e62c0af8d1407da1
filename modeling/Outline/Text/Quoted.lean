import Outline.Text.Classes
import Outline.Text.CodePoint
import Outline.Text.Hex

namespace Outline.Text

def quoteFor (cs : List Char) : Char :=
  if cs.contains '\'' && !cs.contains '"' then '"' else '\''

-- One character inside text quoted with `quote`.
def escape (quote : Char) (c : Char) : List Char :=
  if c == quote || c == '\\' then ['\\', c]
  else if c == '\n' then ['\\', 'n']
  else if c == '\r' then ['\\', 'r']
  else if c == '\t' then ['\\', 't']
  else if isPrintable c then [c]
  else
    let n := codePoint c
    if n < 0x100 then '\\' :: 'x' :: hexPadded 2 n
    else if n < 0x10000 then '\\' :: 'u' :: hexPadded 4 n
    else '\\' :: 'U' :: hexPadded 8 n

def quoted (s : String) : String :=
  let cs := s.toList
  let quote := quoteFor cs
  String.ofList (quote :: cs.flatMap (escape quote) ++ [quote])

end Outline.Text
