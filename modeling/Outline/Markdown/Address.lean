import Outline.Text.Hex
import Outline.Text.Punycode
import Outline.Text.Split
import Outline.Text.Utf8

namespace Outline.Markdown.Address

private structure Parts where
  scheme  : List Char
  slashes : Bool
  auth    : List Char
  host    : List Char
  port    : List Char
  rest    : List Char

private def isSchemeChar (c : Char) : Bool := c.isAlphanum || c == '.' || c == '+' || c == '-'

private def splitScheme (cs : List Char) : List Char × List Char :=
  let name := cs.takeWhile isSchemeChar
  match cs.drop name.length with
  | ':' :: rest => if name.isEmpty then ([], cs) else (name ++ [':'], rest)
  | _ => ([], cs)

-- Schemes whose addresses have a host only after slashes.
private def slashed : List String :=
  ["http:", "https:", "ftp:", "gopher:", "file:"]

private def endsHost (c : Char) : Bool := c == '/' || c == '?' || c == '#'

private def isNoHost (c : Char) : Bool := "%/?;#'\x7b\x7d|\\^\x60<>\" \r\n\t".toList.contains c

private def isHostChar (c : Char) : Bool := c.isAlphanum || c == '+' || c == '_' || c == '-'

private def isHostPart (part : List Char) : Bool :=
  part.length ≤ 63 && part.all fun c => isHostChar c || 127 < c.toNat

-- The part of a host up to what cannot be in one, and what is left.
private def cutHost (done : List (List Char)) : List (List Char) → List Char × List Char
  | [] => (Text.join '.' done.reverse, [])
  | part :: parts =>
    if isHostPart part then cutHost (part :: done) parts
    else
      let start := (part.takeWhile isHostChar).take 63
      (Text.join '.' (start :: done).reverse, Text.join '.' (part.drop start.length :: parts))

private def splitPort (host : List Char) : List Char × List Char :=
  let digits := (host.reverse.takeWhile Char.isDigit).reverse
  let before := host.take (host.length - digits.length)
  if before.getLast? == some ':' then (before.dropLast, digits) else (host, [])

private def isBracketed (host : List Char) : Bool :=
  host.head? == some '[' && host.getLast? == some ']'

-- The address after its scheme and the slashes, from its host on.
private def splitHost (scheme : List Char) (slashes : Bool) (cs : List Char) : Parts :=
  let reach := cs.takeWhile (!endsHost ·)
  let authed := reach.reverse.dropWhile (· != '@')
  let auth := authed.reverse.dropLast
  let cs := if authed.isEmpty then cs else cs.drop authed.length
  let host := cs.takeWhile (!isNoHost ·)
  let host := if host.getLast? == some ':' then host.dropLast else host
  let rest := cs.drop host.length
  let (host, port) := splitPort host
  if isBracketed host then
    let host := if 255 < host.length then [] else host
    ⟨scheme, slashes, auth, (host.drop 1).dropLast, port, rest⟩
  else
    let (host, left) := cutHost [] (Text.split '.' host)
    ⟨scheme, slashes, auth, if 255 < host.length then [] else host, port, left ++ rest⟩

private def split (cs : List Char) : Parts :=
  let (scheme, cs) := splitScheme cs
  let isProgram := scheme == "javascript:".toList
  let slashes := ['/', '/'].isPrefixOf cs
  let hasHost := !isProgram &&
    (slashes || (!scheme.isEmpty && !slashed.contains (String.ofList scheme)))
  if hasHost then splitHost scheme slashes (if slashes then cs.drop 2 else cs)
  else ⟨scheme, false, [], [], [], cs⟩

private def join (p : Parts) : List Char :=
  p.scheme ++ (if p.slashes then ['/', '/'] else []) ++
    (if p.auth.isEmpty then [] else p.auth ++ ['@']) ++
    (if p.host.contains ':' then '[' :: p.host ++ [']'] else p.host) ++
    (if p.port.isEmpty then [] else ':' :: p.port) ++ p.rest

private def isDot (c : Char) : Bool := c == '.' || c == '\u3002' || c == '\uFF0E' || c == '\uFF61'

private def label? (label : List Char) : Option (List Char) :=
  if ['x', 'n', '-', '-'].isPrefixOf label then
    Text.Punycode.decode ((label.drop 4).map Char.toLower)
  else some label

-- The host with its names in their own letters; unchanged if one is not well written.
private def readableHost (host : List Char) : List Char :=
  let labels := Text.split '.' (host.map fun c => if isDot c then '.' else c)
  match labels.mapM label? with
  | some labels => Text.join '.' labels
  | none        => host

private def readableSchemes : List String := ["", "http:", "https:", "mailto:"]

-- These stay in code, as they would otherwise be read as signs of the address.
private def keptCode (n : Nat) : Bool := (";/?:@&=+$,#%".toList.map Char.toNat).contains n

-- How many bytes a byte of more than seven bits promises, and how many of them follow it.
private def promised (b : UInt8) : Nat :=
  let n := b.toNat
  if n / 32 == 6 then 2 else if n / 16 == 14 then 3 else if n / 8 == 30 then 4 else 0

private def isLater (b : UInt8) : Bool := b.toNat / 64 == 2

private def shown : Nat → List UInt8 → List Char
  | 0, _ => []
  | _ + 1, [] => []
  | fuel + 1, b :: rest =>
    let n := b.toNat
    if n < 128 then
      (if keptCode n then Text.percentCode b else [Char.ofNat n]) ++ shown fuel rest
    else
      let size := promised b
      let later := rest.take (size - 1)
      if 2 ≤ size && later.length == size - 1 && later.all isLater then
        (match Text.Utf8.decode (b :: later) with
         | .ok s    => s.toList
         | .error _ => List.replicate size '\uFFFD') ++ shown fuel (rest.drop (size - 1))
      else '\uFFFD' :: shown fuel rest

private def decodeFrom : Nat → List Char → List Char
  | 0, cs => cs
  | _ + 1, [] => []
  | fuel + 1, c :: rest =>
    match Text.percentCodes [] (c :: rest) with
    | ([], _)        => c :: decodeFrom fuel rest
    | (bytes, after) => shown (bytes.length + 1) bytes ++ decodeFrom fuel after

-- Percent codes and the names of hosts are written out as far as that leaves the meaning clear.
def shownText (address : String) : String :=
  let p := split (Text.trimBy Text.isBlank address.toList)
  let p := if !p.host.isEmpty && readableSchemes.contains (String.ofList p.scheme) then
      { p with host := readableHost p.host }
    else p
  let cs := join p
  String.ofList (decodeFrom cs.length cs)

end Outline.Markdown.Address
