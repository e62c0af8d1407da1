import Outline.Html.Tree

namespace Outline.Html

private def escaped (c : Char) : List Char :=
  match c with
  | '&' => "&amp;".toList
  | '<' => "&lt;".toList
  | '>' => "&gt;".toList
  | c   => [c]

private def escape (s : String) : List Char := s.toList.flatMap escaped

namespace Attribute

-- Attributes whose values are lists of words.
private def isWordList (element name : String) : Bool :=
  ["class", "accesskey", "dropzone"].contains name ||
    [("a", "rel"), ("a", "rev"), ("link", "rel"), ("link", "rev"), ("td", "headers"), ("th", "headers"),
     ("form", "accept-charset"), ("object", "archive"), ("area", "rel"), ("icon", "sizes"),
     ("iframe", "sandbox"), ("output", "for")].contains (element, name)

private def inQuotes (cs : List Char) : List Char :=
  if !cs.contains '"' then '"' :: cs ++ ['"']
  else if !cs.contains '\'' then '\'' :: cs ++ ['\'']
  else
    let inside := cs.flatMap fun c => if c == '"' then "&quot;".toList else [c]
    '"' :: inside ++ ['"']

private def encoding : List Char := "utf-8".toList

private def opensCharset (before : Option Char) (cs : List Char) : Bool :=
  before.all (fun c => Text.isBlank c || c == ';') && "charset=".toList.isPrefixOf cs

private def withCharset (before : Option Char) : Nat → List Char → List Char
  | 0, cs => cs
  | _ + 1, [] => []
  | fuel + 1, c :: rest =>
    if opensCharset before (c :: rest) then
      let after := ((c :: rest).drop 8).dropWhile (· != ';')
      "charset=".toList ++ encoding ++ withCharset (some ' ') fuel after
    else c :: withCharset (some c) fuel rest

private def shownValue (element : String) (all : List Attribute) (a : Attribute) : String :=
  let value? (name : String) := (all.find? (·.name == name)).map Attribute.value
  if isWordList element a.name then " ".intercalate (Text.words a.value)
  else if element == "meta" && a.name == "charset" then String.ofList encoding
  else if element == "meta" && a.name == "content" && (value? "charset").isNone &&
      (value? "http-equiv").any (fun s => Text.small s == "content-type") then
    let cs := a.value.toList
    String.ofList (withCharset none (cs.length + 1) cs)
  else a.value

private def source (element : String) (all : List Attribute) (a : Attribute) : List Char :=
  ' ' :: a.name.toList ++ '=' :: inQuotes (escape (shownValue element all a))

end Attribute

namespace Tree

-- Attributes in the order of their names.
private def attributesSource (element : String) (attributes : List Attribute) : List Char :=
  (attributes.mergeSort fun a b => a.name ≤ b.name).flatMap (Attribute.source element attributes)

private def textSource (parent : String) (kind : TextKind) (s : String) : List Char :=
  match kind with
  | .shown | .hidden => if parent == "script" || parent == "style" then s.toList else escape s
  | .cdata       => "<![CDATA[".toList ++ s.toList ++ "]]>".toList
  | .comment     => "<!--".toList ++ s.toList ++ "-->".toList
  | .instruction => "<?".toList ++ s.toList ++ ">".toList
  | .declaration => "<?".toList ++ s.toList ++ "?>".toList
  | .doctype     => "<!DOCTYPE ".toList ++ s.toList ++ ">\n".toList

mutual

private def sourceIn (parent : String) : Tree → List Char
  | text kind s => textSource parent kind s
  | element name attributes _ children =>
    let opening := '<' :: name.toList ++ attributesSource name attributes
    if children.isEmpty && emptyNames.contains name then opening ++ ['/', '>']
    else opening ++ '>' :: sourceOfAll name children ++ '<' :: '/' :: name.toList ++ ['>']

private def sourceOfAll (parent : String) : List Tree → List Char
  | []      => []
  | t :: ts => sourceIn parent t ++ sourceOfAll parent ts

end

def source (t : Tree) : String := String.ofList (sourceIn "" t)

end Tree
end Outline.Html
