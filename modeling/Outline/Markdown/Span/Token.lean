import Outline.Markdown.Token
import Outline.Node

namespace Outline.Markdown

inductive SpanKind
  | text
  | escaped -- text that was written with a backslash, a name or a number
  | code
  | softBreak
  | hardBreak
  | html
  | image
  | emphasis
  | strong
  | link
  | strike
  | other (name : String)
  deriving DecidableEq, Repr, Inhabited

structure SpanToken where
  kind    : SpanKind
  nesting : Nesting
  content : String
  deriving DecidableEq, Repr, Inhabited

namespace SpanKind

-- The type of the inline node. Escaped text has one of its own until it is merged.
def name : SpanKind → String
  | text                  => "text"
  | escaped               => "text_special"
  | code                  => "inlineCode"
  | softBreak | hardBreak => "break"
  | html                  => "html"
  | image                 => "image"
  | emphasis              => "emphasis"
  | strong                => "strong"
  | link                  => "link"
  | strike                => "delete"
  | other name            => name

def isText : SpanKind → Bool
  | text | escaped => true
  | _              => false

end SpanKind

namespace SpanToken

def ofText (s : String) : SpanToken := ⟨.text, .alone, s⟩

def leaf (t : SpanToken) : Inline :=
  { kind := t.kind.name, value? := some (if t.kind = .softBreak then "\n" else t.content), children := [] }

-- Texts side by side become one. `done` holds the tokens before, last one first.
private def mergeFrom (done : List SpanToken) : List SpanToken → List SpanToken
  | [] => done.reverse
  | t :: rest =>
    if t.kind.isText && t.nesting == .alone then
      match done with
      | d :: ds =>
        if d.kind = .text && d.nesting == .alone then
          mergeFrom (.ofText (d.content ++ t.content) :: ds) rest
        else mergeFrom (.ofText t.content :: done) rest
      | [] => mergeFrom [.ofText t.content] rest
    else mergeFrom (t :: done) rest

-- The tokens with texts that stand side by side as one.
def merge (ts : List SpanToken) : List SpanToken := mergeFrom [] ts

-- A span that is open: its kind, and the nodes before it, last one first.
structure Open where
  kind   : SpanKind
  before : List Inline

-- The node of an open span whose children are these, last one first.
def Open.close (o : Open) (children : List Inline) : List Inline :=
  { kind := o.kind.name, value? := none, children := children.reverse } :: o.before

-- `around` holds the open spans, innermost first, and `done` the nodes in the innermost one, last
-- one first.
def nestFrom (around : List Open) (done : List Inline) : List SpanToken → List Inline
  | [] => (around.foldl (fun done o => o.close done) done).reverse
  | t :: rest =>
    match t.nesting with
    | .opens => nestFrom (⟨t.kind, done⟩ :: around) [] rest
    | .closes => match around with
      | o :: os => nestFrom os (o.close done) rest
      | []      => nestFrom [] done rest
    | .alone => nestFrom around (t.leaf :: done) rest

-- A closer without an opener says nothing, and what is still open at the end reaches up to it. A limit
-- to how deep spans may be nested is left out.
def nest (ts : List SpanToken) : List Inline := nestFrom [] [] ts

end SpanToken
end Outline.Markdown
