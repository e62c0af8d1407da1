import Outline.Yaml.Moment

namespace Outline.Yaml

inductive Tag
  | null
  | truth
  | integer
  | number
  | binary
  | moment
  | text
  | list
  | map
  | set
  -- Lists of maps of one entry each.
  | pairs
  -- The key under which other maps stand, whose entries the map takes over.
  | merge
  -- The key under which the value of a map that is one stands.
  | value
  | unknown
  deriving DecidableEq, Repr

namespace Tag

-- What the names of the common tags begin with.
def commonStart : String := "tag:yaml.org,2002:"

private def commonNames : List (String × Tag) :=
  [("null", null), ("bool", truth), ("int", integer), ("float", number), ("binary", binary),
   ("timestamp", moment), ("str", text), ("seq", list), ("map", map), ("set", set), ("omap", pairs),
   ("pairs", pairs), ("merge", merge), ("value", value)]

def ofName (name : String) : Tag :=
  ((commonNames.map fun (n, t) => (commonStart ++ n, t)).lookup name).getD unknown

private def dropSign : List Char → List Char
  | '+' :: cs => cs
  | '-' :: cs => cs
  | cs        => cs

private def isLowDigit (c : Char) : Bool := '0' ≤ c && c ≤ '5'

-- Groups of sixty: each is a colon and one or two digits below it.
private def isSixties : List Char → Bool
  | [':', d] => d.isDigit
  | [':', t, d] => isLowDigit t && d.isDigit
  | ':' :: d :: ':' :: rest => d.isDigit && isSixties (':' :: rest)
  | ':' :: t :: d :: ':' :: rest => isLowDigit t && d.isDigit && isSixties (':' :: rest)
  | _ => false

private def isDigitOrLowLine (c : Char) : Bool := c.isDigit || c == '_'

private def isInteger (cs : List Char) : Bool :=
  match dropSign cs with
  | ['0'] => true
  | '0' :: 'b' :: rest => !rest.isEmpty && rest.all fun c => c == '0' || c == '1' || c == '_'
  | '0' :: 'x' :: rest => !rest.isEmpty && rest.all fun c => c.isDigit || c == '_' ||
      ('a' ≤ c && c ≤ 'f') || ('A' ≤ c && c ≤ 'F')
  | '0' :: rest => rest.all fun c => ('0' ≤ c && c ≤ '7') || c == '_'
  | c :: rest =>
    let after := rest.dropWhile isDigitOrLowLine
    c.isDigit && (after.isEmpty || isSixties after)
  | [] => false

private def isExponent : List Char → Bool
  | [] => true
  | e :: sign :: d :: rest =>
    (e == 'e' || e == 'E') && (sign == '-' || sign == '+') && d.isDigit && rest.all Char.isDigit
  | _ => false

private def infinities : List (List Char) := [".inf", ".Inf", ".INF"].map String.toList
private def noNumbers : List (List Char) := [".nan", ".NaN", ".NAN"].map String.toList

private def isNumber (cs : List Char) : Bool :=
  noNumbers.contains cs || infinities.contains (dropSign cs) ||
    (match cs with
     | '.' :: d :: rest => d.isDigit && isExponent (rest.dropWhile isDigitOrLowLine)
     | _ => false) ||
    (match dropSign cs with
     | d :: rest =>
       let (sixties, fraction) := (rest.dropWhile isDigitOrLowLine).span (· != '.')
       match fraction with
       | '.' :: places =>
         let after := places.dropWhile isDigitOrLowLine
         d.isDigit && (if sixties.isEmpty then isExponent after
           else isSixties sixties && after.isEmpty)
       | _ => false
     | [] => false)

private def truthWords : List String :=
  ["yes", "Yes", "YES", "no", "No", "NO", "true", "True", "TRUE", "false", "False", "FALSE", "on", "On",
   "ON", "off", "Off", "OFF"]

private def nullWords : List String := ["~", "null", "Null", "NULL"]

private def formOf (s : String) : Tag :=
  if truthWords.contains s then truth
  else if isNumber s.toList then number
  else if isInteger s.toList then integer
  else if s == "<<" then merge
  else if nullWords.contains s then null
  else if (Moment.ofText? s).any Moment.isPlain then moment
  else if s == "=" then value
  else text

-- The kind of plain text, by its form; a line break at the end does not count.
def ofPlain (s : String) : Tag :=
  if s.isEmpty then null
  else match formOf s with
    | text =>
      let cs := s.toList
      if cs.getLast? == some '\n' then formOf (String.ofList cs.dropLast) else text
    | tag => tag

end Tag
end Outline.Yaml
