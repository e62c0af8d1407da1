import Outline.Markdown.Escape
import Outline.Text.Case
import Outline.Text.Trim

namespace Outline.Markdown

-- What labels are compared by: letters without case, and runs of blanks as one space.
def labelKey (cs : List Char) : String :=
  Text.capital (Text.small (Text.collapse (String.ofList cs)))

namespace Link

private def bracketed (done : List Char) : List Char → Option (List Char × List Char)
  | [] => none
  | '\n' :: _ => none
  | '<' :: _ => none
  | '>' :: rest => some (done.reverse, rest)
  | '\\' :: c :: rest => bracketed (c :: '\\' :: done) rest
  | c :: rest => bracketed (c :: done) rest

private def plainEnd (depth : Nat) (done rest : List Char) : Option (List Char × List Char) :=
  if done.isEmpty || depth != 0 then none else some (done.reverse, rest)

private def isControl (c : Char) : Bool := c.toNat < 32 || c.toNat == 127

-- Parentheses in it are balanced, at most 32 deep.
private def plain (depth : Nat) (done : List Char) : List Char → Option (List Char × List Char)
  | [] => plainEnd depth done []
  | '\\' :: c :: rest =>
    if c == ' ' then plainEnd depth done ('\\' :: c :: rest)
    else plain depth (c :: '\\' :: done) rest
  | c :: rest =>
    if c == ' ' || isControl c then plainEnd depth done (c :: rest)
    else if c == '(' then if depth < 32 then plain (depth + 1) (c :: done) rest else none
    else if c == ')' then
      if depth == 0 then plainEnd depth done (c :: rest) else plain (depth - 1) (c :: done) rest
    else plain depth (c :: done) rest

-- The destination that a text begins with, as it is written, and what follows.
def destination? : List Char → Option (List Char × List Char)
  | '<' :: rest => bracketed [] rest
  | cs          => plain 0 [] cs

-- What reading a title comes to: its end, with whether anything stands in it; nothing that is a
-- title; or the end of the text.
inductive TitleRead
  | closed (isEmpty : Bool) (rest : List Char)
  | none
  | unfinished (isEmpty : Bool)

-- Goes on reading a title up to the character that closes it.
def titleRest (close : Char) (isEmpty : Bool) : List Char → TitleRead
  | [] => .unfinished isEmpty
  | '\\' :: _ :: rest => titleRest close false rest
  | c :: rest =>
    if c == close then .closed isEmpty rest
    else if c == '(' && close == ')' then .none
    else titleRest close false rest

-- What closes a title that opens with this character.
def titleClose? : Char → Option Char
  | '"'  => some '"'
  | '\'' => some '\''
  | '('  => some ')'
  | _    => Option.none

-- Reads the title that a text begins with.
def title : List Char → TitleRead
  | c :: rest => match titleClose? c with
    | some close  => titleRest close true rest
    | Option.none => .none
  | [] => .none

private def unsafeSchemes : List String := ["vbscript:", "javascript:", "file:", "data:"]

private def safeData : List String :=
  ["data:image/gif;", "data:image/png;", "data:image/jpeg;", "data:image/webp;"]

-- May a link lead to this address? Addresses that run programs or read files are refused, and
-- inline data other than images.
def isSafe (address : List Char) : Bool :=
  let address := Text.small (Text.trim (String.ofList address))
  !unsafeSchemes.any (·.isPrefixOf address) || safeData.any (·.isPrefixOf address)

-- May a link lead to a destination, as it is written?
def isAllowed (destination : List Char) : Bool := isSafe (unescape destination)

end Link
end Outline.Markdown
