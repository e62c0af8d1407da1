import Outline.Html.Source

namespace Outline.Html

-- The level of a heading element.
def headingDepth? : String → Option Nat
  | "h1" => some 1
  | "h2" => some 2
  | "h3" => some 3
  | "h4" => some 4
  | "h5" => some 5
  | "h6" => some 6
  | _    => none

def isHeading (name : String) : Bool := (headingDepth? name).isSome

-- Elements that only group others.
def isWrapper (name : String) : Bool :=
  ["article", "main", "section", "div", "header", "footer", "body", "html"].contains name

-- Elements that say nothing of the document.
def isSkipped (name : String) : Bool :=
  ["script", "style", "noscript", "template", "nav", "head", "link", "meta"].contains name

-- What an element that is a block stands for.
def blockKind? : String → Option ContentKind
  | "p"          => some .paragraph
  | "ul"         => some .list
  | "ol"         => some .list
  | "dl"         => some .list
  | "pre"        => some .code
  | "blockquote" => some .blockquote
  | "table"      => some .table
  | _            => none

-- The main part of a document: the first of these elements that it has, or all of it.
def root (ts : List Tree) : List Tree :=
  let first? (name : String) := Tree.findIn? (· == name) ts
  (((first? "main").or (first? "article")).or (first? "body")).getD ts

def textNode (kind : TextKind) (s : String) : List Node :=
  match kind with
  | .comment => [.aside ⟨.htmlComment, some (Text.trim s), none⟩]
  | .shown | .hidden =>
    let s := Text.collapse s
    if s = "" then [] else [.content ⟨.text, some s, [], none⟩]
  | _ => []

def headingNode (depth : Nat) (position : Position) (children : List Tree) : Node :=
  let title := Text.collapse (Tree.shownText children)
  .heading ⟨depth, if title = "" then [] else [⟨"text", some title, []⟩], some position⟩

def blockNode (kind : ContentKind) (position : Position) (children : List Tree) : Node :=
  let s := Tree.shownText children
  .content ⟨kind, if s = "" then none else some s, [], some position⟩

-- Are the nodes in an element nodes of the document, rather than the element itself?
def isOpen (name : String) (children : List Tree) : Bool :=
  isWrapper name || ((blockKind? name).isNone && (Tree.findIn? isHeading children).isSome)

mutual

def nodesOf : Tree → List Node
  | .text kind s => textNode kind s
  | .element name attributes position children =>
    if isSkipped name then []
    else if isOpen name children then nodes children
    else match headingDepth? name, blockKind? name with
      | some depth, _ => [headingNode depth position children]
      | none, some kind => [blockNode kind position children]
      | none, none =>
        if name = "hr" then [.aside ⟨.thematicBreak, none, some position⟩]
        else
          let t : Tree := .element name attributes position children
          [.content ⟨.html, some t.source, [], some position⟩]

def nodes : List Tree → List Node
  | []      => []
  | t :: ts => nodesOf t ++ nodes ts

end

def read (text : String) : Except Fault (List Node) := do
  return nodes (root (Tree.ofTokens (← Token.ofText text)))

end Outline.Html
