import Outline.Text.Case
import Outline.Text.Classes
import Outline.Text.Punycode
import Outline.Text.Split
import Outline.Url.Escape
import Outline.Url.Fault
import Outline.Url.Letter

namespace Outline.Url

-- Does the text begin with digits, of which the last one may be any, and then a character of any
-- kind, past which it goes on so?
private def afterDigits (next : List Char → Bool) : List Char → Bool
  | c :: d :: rest => c.isDigit && (next rest || afterDigits next (d :: rest))
  | _              => false

-- Does the text consist of so many runs of digits, with one character of any kind between each two?
private def isDigitRuns : Nat → List Char → Bool
  | 0, cs        => cs.isEmpty
  | 1, cs        => !cs.isEmpty && cs.all Char.isDigit
  | runs + 2, cs => afterDigits (isDigitRuns (runs + 1)) cs

private def isOctet (cs : List Char) : Bool :=
  !cs.isEmpty && cs.length ≤ 3 && cs.all Char.isDigit && Text.numberIn 10 cs ≤ 255 &&
    (cs.length == 1 || cs.head? != some '0')

-- Four numbers of up to a byte, without zeros in front.
def isFourPart (cs : List Char) : Bool :=
  let parts := Text.split '.' cs
  parts.length == 4 && parts.all isOctet

private def isHextet (cs : List Char) : Bool := !cs.isEmpty && cs.length ≤ 4 && cs.all Text.isHex

-- An empty part inside, next to the gap, must be the only one on its side.
private def isSide (parts : List (List Char)) : Bool := parts == [[]] || parts.all isHextet

private def count (parts : List (List Char)) : Nat := if parts == [[]] then 0 else parts.length

private def isEightParts (parts : List (List Char)) : Bool :=
  let inner := parts.drop 1 |>.dropLast
  if inner.any List.isEmpty then
    let before := parts.take (1 + (inner.takeWhile (!·.isEmpty)).length)
    let after := parts.drop (before.length + 1)
    isSide before && isSide after && count before + count after < 8
  else parts.length == 8 && parts.all isHextet

-- Eight numbers of four hexadecimal digits, of which one gap may leave out some, and the last two
-- of which may be written as four parts; a name may follow after a percent sign.
def isEightPart (cs : List Char) : Bool :=
  let scope := cs.dropWhile (· != '%')
  let cs := cs.takeWhile (· != '%')
  let isScope := scope.isEmpty || (scope != ['%'] && !(scope.drop 1).contains '%')
  let parts := Text.split ':' cs
  let last := parts.getLast?.getD []
  let parts? :=
    if !last.contains '.' then some parts
    else if isFourPart last then some (parts.dropLast ++ [['0'], ['0']])
    else none
  isScope && !scope.contains '/' && 3 ≤ parts.length &&
    match parts? with
    | some parts => isEightParts parts
    | none       => false

private def isDot (c : Char) : Bool := c == '.' || c == '\u3002' || c == '\uFF0E' || c == '\uFF61'

-- A part of a name is well formed: of letters, with hyphens at none of the places that have a
-- meaning of their own, and with no mark at the front.
private def isLabel (cs : List Char) : Bool :=
  let opens := match cs with
    | c :: _ => Text.isWord c
    | []     => false
  opens && cs.getLast? != some '-' && (cs.drop 2).take 2 != ['-', '-'] && cs.all isHostLetter

private def isCoded (cs : List Char) : Bool := ['x', 'n', '-', '-'].isPrefixOf cs

private def decodedLabel? (cs : List Char) : Option (List Char) :=
  if isCoded cs then
    if cs.getLast? == some '-' then none
    else (Text.Punycode.decode (cs.drop 4)).filter isLabel
  else if isLabel cs then some cs else none

private def codedLabel? (cs : List Char) : Option (List Char) :=
  let coded? :=
    if cs.all (·.toNat < 128) then (decodedLabel? cs).map fun _ => cs
    else if isLabel cs then some ("xn--".toList ++ Text.Punycode.encode cs) else none
  coded?.filter (·.length ≤ 63)

private def labels (cs : List Char) : List (List Char) :=
  Text.split '.' (cs.map fun c => if isDot c then '.' else c)

-- Rewrites a name part by part; a dot at its end stays there.
private def mapLabels? (f : List Char → Option (List Char)) (cs : List Char) :
    Option (List Char) := do
  let parts := labels cs
  let closed := parts.getLast? == some [] && 1 < parts.length
  let done ← (if closed then parts.dropLast else parts).mapM f
  return Text.join '.' (if closed then done ++ [[]] else done)

-- A dot at the end of a name does not count towards its length.
private def isNameLength (cs : List Char) : Bool :=
  cs.length ≤ if cs.getLast? == some '.' then 254 else 253

private def codedName? (cs : List Char) : Option (List Char) :=
  (mapLabels? codedLabel? cs).filter isNameLength

private def decodedName? (cs : List Char) : Option (List Char) :=
  if cs.length ≤ 254 then mapLabels? decodedLabel? cs else none

-- The host as it is sent; brackets are left out.
def hostOf (cs : List Char) : Except Fault String :=
  let s := String.ofList cs
  if isDigitRuns 4 cs then
    if isFourPart cs then .ok s else .error (.fourPartHost s)
  else if cs.head? == some '[' && cs.getLast? == some ']' then
    let inner := (cs.drop 1).dropLast
    if isEightPart inner then .ok (String.ofList inner) else .error (.bracketedHost s)
  else if cs.all (·.toNat < 128) then .ok (String.ofList (escape inHost (cs.map Char.toLower)))
  else match codedName? (Text.small s).toList with
    | some name => .ok (String.ofList name)
    | none      => .error (.hostName s)

-- The host in its own letters.
def shownHost (host : String) : Except Fault String :=
  if isCoded host.toList then
    match decodedName? host.toList with
    | some name => .ok (String.ofList name)
    | none      => .error (.codedHost host)
  else .ok host

end Outline.Url
