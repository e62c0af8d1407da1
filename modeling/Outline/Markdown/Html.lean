import Outline.Text.Classes

namespace Outline.Markdown.Html

private def isLetter (c : Char) : Bool := c.isAlpha

private def isTagChar (c : Char) : Bool := c.isAlphanum || c == '-'

private def isNameStart (c : Char) : Bool := c.isAlpha || c == '_' || c == ':'

private def isNameChar (c : Char) : Bool :=
  c.isAlphanum || c == ':' || c == '.' || c == '_' || c == '-'

-- Characters of a value without quotes.
private def isBare (c : Char) : Bool :=
  32 < c.toNat && !(c == '"' || c == '\'' || c == '=' || c == '<' || c == '>' || c == '\x60')

private def skipBlanks (cs : List Char) : List Char := cs.dropWhile Text.isBlank

-- What follows the first place where the text says `mark`.
def after? (mark : List Char) : List Char → Option (List Char)
  | [] => if mark.isEmpty then some [] else none
  | c :: rest =>
    if mark.isPrefixOf (c :: rest) then some ((c :: rest).drop mark.length) else after? mark rest

-- The first result along the ends of a text, the shortest end first; `rev` holds what is before
-- the end, last character first. A value without quotes may end before any blank in it.
private def cuts (found : List Char → Option α) (rest : List Char) : List Char → Option α
  | [] => none
  | c :: rev =>
    match if Text.isBlank c then found (c :: rest) else none with
    | some a => some a
    | none   => cuts found (c :: rest) rev

-- The rest of an opening tag: its attributes, each after a blank, and its end.
private def attributes : Nat → List Char → Option (List Char)
  | 0, _ => none
  | fuel + 1, cs =>
    match skipBlanks cs with
    | '>' :: rest => some rest
    | '/' :: '>' :: rest => some rest
    | c :: rest =>
      if (cs.head?.any Text.isBlank) && isNameStart c then
        let named := rest.dropWhile isNameChar
        match skipBlanks named with
        | '=' :: valued =>
          match skipBlanks valued with
          | '"' :: v  => (after? ['"'] v).bind (attributes fuel)
          | '\'' :: v => (after? ['\''] v).bind (attributes fuel)
          | v =>
            let bare := v.takeWhile isBare
            let rest := v.dropWhile isBare
            if bare.isEmpty then none
            else match attributes fuel rest with
              | some r => some r
              | none   => cuts (attributes fuel) rest bare.reverse
        | _ => attributes fuel named
      else none
    | [] => none

def openingTag? (cs : List Char) : Option (List Char) :=
  match cs with
  | '<' :: c :: rest =>
    if isLetter c then attributes (cs.length + 1) (rest.dropWhile isTagChar) else none
  | _ => none

def closingTag? (cs : List Char) : Option (List Char) :=
  match cs with
  | '<' :: '/' :: c :: rest =>
    if isLetter c then
      match skipBlanks (rest.dropWhile isTagChar) with
      | '>' :: rest => some rest
      | _ => none
    else none
  | _ => none

-- The rest of a comment. Two hyphens stand in it only before a character other than `>`.
private def commentRest : Nat → List Char → Option (List Char)
  | 0, _ => none
  | fuel + 1, cs =>
    match cs with
    | '-' :: '-' :: '>' :: rest => some rest
    | '-' :: '-' :: _ :: rest => commentRest fuel rest
    | ['-', '-'] => none
    | '-' :: _ :: rest => commentRest fuel rest
    | _ :: rest => commentRest fuel rest
    | [] => none

def comment? (cs : List Char) : Option (List Char) :=
  match cs with
  | '<' :: '!' :: '-' :: '-' :: '>' :: rest => some rest
  | '<' :: '!' :: '-' :: '-' :: '-' :: '>' :: rest => some rest
  | '<' :: '!' :: '-' :: '-' :: rest => commentRest (rest.length + 1) rest
  | _ => none

private def instruction? : List Char → Option (List Char)
  | '<' :: '?' :: rest => after? ['?', '>'] rest
  | _ => none

private def declaration? : List Char → Option (List Char)
  | '<' :: '!' :: c :: rest => if isLetter c then after? ['>'] rest else none
  | _ => none

private def cdata? : List Char → Option (List Char)
  | '<' :: '!' :: '[' :: 'C' :: 'D' :: 'A' :: 'T' :: 'A' :: '[' :: rest => after? [']', ']', '>'] rest
  | _ => none

-- What follows the markup that the text begins with.
def inline? (cs : List Char) : Option (List Char) :=
  openingTag? cs <|> closingTag? cs <|> comment? cs <|> instruction? cs <|> declaration? cs <|>
    cdata? cs

-- Kinds of blocks of markup, by where they end.
inductive Block
  | verbatim    -- after the closing tag of a verbatim element
  | comment
  | instruction
  | declaration
  | cdata
  | element     -- before a blank line
  | anyTag      -- before a blank line; interrupts no paragraph
  deriving DecidableEq, Repr

private def verbatimNames : List String := ["script", "pre", "style", "textarea"]

private def blockNames : List String := [
  "address", "article", "aside", "base", "basefont", "blockquote", "body", "caption", "center",
  "col", "colgroup", "dd", "details", "dialog", "dir", "div", "dl", "dt", "fieldset",
  "figcaption", "figure", "footer", "form", "frame", "frameset", "h1", "h2", "h3", "h4", "h5",
  "h6", "head", "header", "hr", "html", "iframe", "legend", "li", "link", "main", "menu",
  "menuitem", "nav", "noframes", "ol", "optgroup", "option", "p", "param", "search", "section",
  "summary", "table", "tbody", "td", "tfoot", "th", "thead", "title", "tr", "track", "ul"]

-- Caseless comparison with a small ASCII letter or digit. Two letters beyond ASCII take part: the
-- long s, and the sign for kelvin.
private def sameLetter (small c : Char) : Bool :=
  c.toLower == small || (small == 's' && c == '\u017F') || (small == 'k' && c == '\u212A') ||
    (small == 'i' && (c == '\u0130' || c == '\u0131'))

private def afterName? : List Char → List Char → Option (List Char)
  | [], rest => some rest
  | n :: ns, c :: rest => if sameLetter n c then afterName? ns rest else none
  | _ :: _, [] => none

-- Does the text begin with one of the names, and go on as `ends` says?
private def namedBy (names : List String) (ends : List Char → Bool) (cs : List Char) : Bool :=
  names.any fun n => (afterName? n.toList cs).any ends

private def endsVerbatim : List Char → Bool
  | []     => true
  | c :: _ => Text.isBlank c || c == '>'

private def endsElement : List Char → Bool
  | []              => true
  | '/' :: '>' :: _ => true
  | c :: _          => Text.isBlank c || c == '>'

private def afterSlash : List Char → List Char
  | '/' :: rest => rest
  | cs          => cs

def block? (line : List Char) : Option Block :=
  match line with
  | '<' :: rest =>
    if namedBy verbatimNames endsVerbatim rest then some .verbatim
    else if ['!', '-', '-'].isPrefixOf rest then some .comment
    else if rest.head? == some '?' then some .instruction
    else if rest.head? == some '!' && (rest.drop 1).head?.any Char.isUpper then some .declaration
    else if "![CDATA[".toList.isPrefixOf rest then some .cdata
    else if namedBy blockNames endsElement (afterSlash rest) then some .element
    else if (openingTag? line <|> closingTag? line).any (·.all Text.isBlank) then some .anyTag
    else none
  | _ => none

private def closesVerbatim : List Char → Bool
  | '<' :: '/' :: rest =>
    namedBy verbatimNames (·.head? == some '>') rest || closesVerbatim ('/' :: rest)
  | _ :: rest => closesVerbatim rest
  | []        => false

namespace Block

-- May a block of this kind begin inside a paragraph?
def interrupts : Block → Bool
  | anyTag => false
  | _      => true

def endsIn (line : List Char) : Block → Bool
  | verbatim    => closesVerbatim line
  | comment     => (after? ['-', '-', '>'] line).isSome
  | instruction => (after? ['?', '>'] line).isSome
  | declaration => (after? ['>'] line).isSome
  | cdata       => (after? [']', ']', '>'] line).isSome
  | element     => line.isEmpty
  | anyTag      => line.isEmpty

end Block
end Outline.Markdown.Html
