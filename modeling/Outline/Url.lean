import Outline.Number.Read
import Outline.Url.Host

namespace Outline

-- The parts of an address, each written in one way.
structure Url where
  scheme    : String
  userInfo  : String
  -- As it is sent, and without brackets.
  host      : String
  port?     : Option Int
  path      : String
  query?    : Option String
  fragment? : Option String
  deriving DecidableEq, Repr

namespace Url

-- The parts of an address as they are written.
structure Parts where
  scheme    : List Char
  userInfo  : List Char
  host      : List Char
  port      : List Char
  path      : List Char
  query?    : Option (List Char)
  fragment? : Option (List Char)

def isSchemeChar (c : Char) : Bool := c.isAlphanum || c == '+' || c == '.' || c == '-'

def cutScheme (cs : List Char) : List Char × List Char :=
  let name := cs.takeWhile isSchemeChar
  let opens := match name with
    | c :: _ => c.isAlpha
    | []     => true
  match cs.drop name.length with
  | ':' :: rest => if opens then (name, rest) else ([], cs)
  | _           => ([], cs)

-- What stands before a sign, and what after it if it is there.
private def cutAt (sign : Char) (cs : List Char) : List Char × Option (List Char) :=
  match cs.dropWhile (· != sign) with
  | []        => (cs, none)
  | _ :: rest => (cs.takeWhile (· != sign), some rest)

-- What stands before the last such sign, and what after it.
private def cutLast (sign : Char) (cs : List Char) : List Char × List Char :=
  match cutAt sign cs.reverse with
  | (after, some before) => (before.reverse, after.reverse)
  | (after, none)        => ([], after.reverse)

private def endsAuthority (c : Char) : Bool := c == '/' || c == '?' || c == '#'

private def cutHost (cs : List Char) : List Char × List Char :=
  let bracketed := (cs.reverse.dropWhile (· != ']')).reverse
  let host := if cs.head? == some '[' && !bracketed.isEmpty then bracketed
    else cs.takeWhile (· != ':')
  match cs.drop host.length with
  | ':' :: port => (host, port)
  | port        => (host, port)

def Parts.ofText (cs : List Char) : Parts :=
  let (scheme, cs) := cutScheme cs
  let (authority, cs) := match cs with
    | '/' :: '/' :: rest => (rest.takeWhile (!endsAuthority ·), rest.dropWhile (!endsAuthority ·))
    | _                  => ([], cs)
  let (cs, fragment?) := cutAt '#' cs
  let (path, query?) := cutAt '?' cs
  let (userInfo, authority) := cutLast '@' authority
  let (host, port) := cutHost authority
  ⟨scheme, userInfo, host, port, path, query?, fragment?⟩

-- The port that a scheme implies.
def impliedPort? : String → Option Int
  | "http"  => some 80
  | "https" => some 443
  | "ftp"   => some 21
  | "ws"    => some 80
  | "wss"   => some 443
  | _       => none

private def portOf (scheme : String) (cs : List Char) : Except Fault (Option Int) :=
  if cs.isEmpty then .ok none
  else match Number.readInt (String.ofList cs) with
    | .ok n    => .ok (if impliedPort? scheme = some n then none else some n)
    | .error _ => .error (.port (String.ofList cs))

-- `done` holds the names on the way, last one first.
private def walk (done : List (List Char)) : List (List Char) → List (List Char)
  | [] => done.reverse
  | name :: rest =>
    if name = ['.'] then walk done rest
    else if name = ['.', '.'] then walk (if done = [[]] then done else done.tail) rest
    else walk (name :: done) rest

-- The path without names that stand for a folder on the way.
def dropDots (path : List Char) : List Char := Text.join '/' (walk [] (Text.split '/' path))

private def escaped (allowed : Char → Bool) (cs : List Char) : String :=
  String.ofList (escape allowed cs)

-- The address of checked parts.
def ofParts (p : Parts) : Except Fault Url := do
  let host ← hostOf p.host
  let port? ← portOf (String.ofList p.scheme) p.port
  let userInfo := escaped inUserInfo p.userInfo
  let hasAuthority := userInfo ≠ "" || host ≠ "" || port?.isSome
  if hasAuthority && !p.path.isEmpty && p.path.head? ≠ some '/' then throw .pathAfterHost
  if !hasAuthority && p.scheme.isEmpty then
    if ['/', '/'].isPrefixOf p.path then throw .doubleSlash
    if p.path.head? = some ':' then throw .leadingColon
  let path := if hasAuthority || !p.scheme.isEmpty then dropDots p.path else p.path
  return {
    scheme    := String.ofList (p.scheme.map Char.toLower)
    userInfo  := userInfo
    host      := host
    port?     := port?
    path      := escaped inPath path
    query?    := p.query?.map (escaped inQuery)
    fragment? := p.fragment?.map (escaped inFragment) }

private def isControl (c : Char) : Bool := c.toNat < 32 || c.toNat = 127

def lengthLimit : Nat := 65536

def read (s : String) : Except Fault Url :=
  let cs := s.toList
  if lengthLimit < cs.length then .error .tooLong
  else match cs.find? isControl with
    | some c => .error (.control c (cs.takeWhile (· ≠ c)).length)
    | none   => ofParts (.ofText cs)

private def bracketed (host : String) : String := if host.toList.contains ':' then "[" ++ host ++ "]" else host

def parts (u : Url) : Parts where
  scheme    := u.scheme.toList
  userInfo  := u.userInfo.toList
  host      := (bracketed u.host).toList
  port      := match u.port? with
    | some n => (toString n).toList
    | none   => []
  path      := u.path.toList
  query?    := u.query?.map String.toList
  fragment? := u.fragment?.map String.toList

def text (u : Url) : String :=
  let authority := (if u.userInfo = "" then "" else u.userInfo ++ "@") ++ bracketed u.host ++
    match u.port? with
    | some n => ":" ++ toString n
    | none   => ""
  (if u.scheme = "" then "" else u.scheme ++ ":") ++
    (if authority = "" then "" else "//" ++ authority) ++ u.path ++
    (match u.query? with
     | some q => "?" ++ q
     | none   => "") ++
    match u.fragment? with
    | some f => "#" ++ f
    | none   => ""

-- The host in its own letters.
def hostName (u : Url) : Except Fault String := shownHost u.host

-- The path in its own letters.
def pathName (u : Url) : String := unescape (if u.path = "" then "/" else u.path)

-- Does the address name a host, and how to speak to it?
def isAbsolute (u : Url) : Bool := u.scheme ≠ "" && u.host ≠ ""

-- What is asked for at an address: one that is not absolute only gives the path and the query.
def request (u : Url) : Url :=
  if u.isAbsolute then u
  else ⟨"", "", "", none, String.ofList ('/' :: u.path.toList.dropWhile (· = '/')), u.query?, none⟩

-- The path up to the first semicolon of its last name, and what follows from there.
private def cutParameters (path : List Char) : List Char × List Char :=
  let last := (path.reverse.takeWhile (· ≠ '/')).reverse
  let tail := last.dropWhile (· ≠ ';')
  (path.take (path.length - tail.length), if tail = [';'] then [] else tail)

-- A semicolon at the end that nothing follows does not count.
private def settled (path : List Char) : List Char :=
  let (path, parameters) := cutParameters path
  path ++ parameters

-- As `walk`, but names before the first one may be left as well.
private def climb (done : List (List Char)) : List (List Char) → List (List Char)
  | [] => done.reverse
  | name :: rest =>
    if name = ['.'] then climb done rest
    else if name = ['.', '.'] then climb done.tail rest
    else climb (name :: done) rest

-- No empty names but the first and the last one.
private def dropEmpty (names : List (List Char)) : List (List Char) :=
  match names with
  | []            => []
  | first :: rest => first :: (rest.dropLast.filter (!·.isEmpty) ++ rest.getLast?.toList)

-- The names of a path that is written from another one on.
private def namesFrom (base path : List Char) : List (List Char) :=
  if path.head? = some '/' then Text.split '/' path
  else
    let folder := Text.split '/' (cutParameters base).1
    dropEmpty ((if folder.getLast? = some [] then folder else folder.dropLast) ++ Text.split '/' path)

def pathFrom (base path : List Char) : List Char :=
  let (path, parameters) := cutParameters path
  let names := namesFrom base path
  let last := names.getLast?.getD []
  let reached := climb [] names ++ if last = ['.'] || last = ['.', '.'] then [[]] else []
  let merged := Text.join '/' reached
  let merged := if merged.head? = some '/' then merged else '/' :: merged
  merged ++ parameters

private def filled? (part? : Option String) : Option (List Char) :=
  (part?.filter (· ≠ "")).map String.toList

-- The address that one without a scheme means at another address.
def resolve (base target : Url) : Except Fault Url :=
  let kept := { base.parts with query? := filled? target.query?, fragment? := filled? target.fragment? }
  if target.host ≠ "" then
    ofParts { target.parts with
      scheme    := kept.scheme
      path      := settled target.path.toList
      query?    := kept.query?
      fragment? := kept.fragment? }
  else if (settled target.path.toList).isEmpty then
    ofParts { kept with path := settled kept.path, query? := kept.query?.or (filled? base.query?) }
  else ofParts { kept with path := pathFrom kept.path target.path.toList }

-- Where a request to an address goes on when its answer sends it to another one. What that one
-- leaves open is as before: the host, all that comes before its path, and the fragment. The hosts
-- of both are compared by their own letters.
def onward (u target : Url) : Except Fault Url := do
  let host ← u.hostName
  let target ←
    if target.scheme ≠ "" && target.host = "" then
      ofParts { target.parts with host := (bracketed host).toList }
    else pure target
  let target ← if target.isAbsolute then pure target else u.resolve target
  let _ ← target.hostName
  match filled? u.fragment?, filled? target.fragment? with
  | some _, none => return { target with fragment? := u.fragment? }
  | _, _         => return target

end Url
end Outline
