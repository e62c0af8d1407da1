import Outline.Html.Token
import Outline.Text.Trim

namespace Outline.Html

inductive TextKind
  -- What a reader sees.
  | shown
  -- The content of scripts, style sheets and templates, and notes on pronunciation.
  | hidden
  | cdata
  | comment
  | instruction
  | declaration
  | doctype
  deriving DecidableEq, Repr

inductive Tree
  | text (kind : TextKind) (content : String)
  | element (name : String) (attributes : List Attribute) (position : Position)
      (children : List Tree)

namespace Tree

-- An element that is not closed yet; its children so far stand in reverse.
private structure Open where
  name       : String
  attributes : List Attribute
  position   : Position
  children   : List Tree

private structure Build where
  opens   : List Open
  outside : List Tree
  -- Text that has not been put into the tree, in reverse.
  text?   : Option (List Char)
  -- Empty elements that have been closed at once; their closing tags mean nothing.
  closed  : List String

-- Elements that have no content.
def emptyNames : List String :=
  ["area", "base", "basefont", "bgsound", "br", "col", "command", "embed", "frame", "hr", "image", "img",
   "input", "isindex", "keygen", "link", "menuitem", "meta", "nextid", "param", "source", "spacer",
   "track", "wbr"]

private def hiddenNames : List String := ["rt", "rp", "style", "script", "template"]

private def isPreserving (name : String) : Bool := name == "pre" || name == "textarea"

private def isSpace (c : Char) : Bool :=
  c == ' ' || c == '\n' || c == '\t' || c == '\x0c' || c == '\r'

namespace Build

private def put (t : Tree) (b : Build) : Build :=
  match b.opens with
  | []           => { b with outside := t :: b.outside }
  | o :: outer => { b with opens := { o with children := t :: o.children } :: outer }

-- Text of nothing but spaces is one space, or one line break if it has any.
private def kept (b : Build) (cs : List Char) : List Char :=
  if cs.all isSpace && !b.opens.any (isPreserving ·.name) then
    if cs.contains '\n' then ['\n'] else [' ']
  else cs

private def putText (kind : TextKind) (cs : List Char) (b : Build) : Build :=
  b.put (.text kind (String.ofList (b.kept cs)))

private def flush (b : Build) : Build :=
  match b.text? with
  | none => b
  | some cs =>
    let kind : TextKind := if b.opens.any (hiddenNames.contains ·.name) then .hidden else .shown
    { b with text? := none }.putText kind cs.reverse

private def aside (kind : TextKind) (s : String) (b : Build) : Build := b.flush.putText kind s.toList

-- Closes the innermost element.
private def pop (b : Build) : Build :=
  match b.opens with
  | []         => b
  | o :: outer =>
    { b with opens := outer }.put (.element o.name o.attributes o.position o.children.reverse)

-- Closes the innermost elements up to the first one of a name, if there is one.
private def close (name : String) (b : Build) : Build :=
  match b.opens.findIdx? (·.name == name) with
  | none   => b
  | some n => (List.range (n + 1)).foldl (fun b _ => b.pop) b

private def closing (name : String) (b : Build) : Build :=
  if b.closed.contains name then { b with closed := b.closed.erase name }
  else b.flush.close name

private def setAttribute (a : Attribute) : List Attribute → List Attribute
  | []      => [a]
  | b :: as => if b.name == a.name then a :: as else b :: setAttribute a as

-- Of two attributes with one name the later counts.
private def openElement (tag : Tag.Opening) (position : Position) (b : Build) : Build :=
  let attributes := tag.attributes.foldl (fun as a => setAttribute a as) []
  let b := b.flush
  { b with opens := ⟨tag.name, attributes, position, []⟩ :: b.opens }

private def add (b : Build) : Token → Build
  | .text s => { b with text? := some (s.toList.reverse ++ b.text?.getD []) }
  | .opening tag position =>
    let b := b.openElement tag position
    if tag.isClosed then b.closing tag.name
    else if emptyNames.contains tag.name then
      let b := b.close tag.name
      { b with closed := tag.name :: b.closed }
    else b
  | .closing name  => b.closing name
  | .comment s     => b.aside .comment s
  | .doctype s     => b.aside .doctype s
  | .instruction s => b.aside .instruction s
  | .cdata s       => b.aside .cdata s
  | .declaration s => b.aside .declaration s

private def finish (b : Build) : List Tree :=
  let b := b.flush
  ((List.range b.opens.length).foldl (fun b _ => b.pop) b).outside.reverse

end Build

-- The end of an element closes all that are open in it; of an element that is not open it is passed
-- over.
def ofTokens (ts : List Token) : List Tree :=
  (ts.foldl Build.add ⟨[], [], none, []⟩).finish

mutual

-- The first element whose name satisfies `p`, an outer one before those in it.
def find? (p : String → Bool) : Tree → Option (List Tree)
  | text ..                  => none
  | element name _ _ children => if p name then some children else findIn? p children

-- The children of the first element in some trees whose name satisfies `p`.
def findIn? (p : String → Bool) : List Tree → Option (List Tree)
  | []      => none
  | t :: ts => match find? p t with
    | some children => some children
    | none          => findIn? p ts

end

mutual

def shownPieces : Tree → List String
  | text kind s =>
    let s := if kind == .shown || kind == .cdata then Text.trim s else ""
    if s.isEmpty then [] else [s]
  | element _ _ _ children => shownPiecesIn children

def shownPiecesIn : List Tree → List String
  | []      => []
  | t :: ts => shownPieces t ++ shownPiecesIn ts

end

-- The text that a reader sees in some trees: trimmed pieces with a space between any two.
def shownText (ts : List Tree) : String := " ".intercalate (shownPiecesIn ts)

end Tree
end Outline.Html
