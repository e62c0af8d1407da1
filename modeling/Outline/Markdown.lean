import Outline.Markdown.Block
import Outline.Markdown.Span.Reader

namespace Outline.Markdown

-- A block that no node stands for.
structure UnsupportedBlock where
  name : String
  deriving DecidableEq, Repr

def UnsupportedBlock.message (e : UnsupportedBlock) : String :=
  "Unsupported markdown block " ++ Text.quoted e.name

-- The lines from the first up to the last but one, as a trimmed text; nothing if that is empty.
def sourceText? (lines : List String) (range? : Option (Nat × Nat)) : Option String :=
  match range? with
  | none => none
  | some (first, after) =>
    let s := Text.trim ("\n".intercalate ((lines.drop first).take (after - first)))
    if s = "" then none else some s

namespace Token

def position? (t : Token) : Option Position := t.lines?.map fun (first, _) => ⟨first + 1, 1⟩

end Token

-- The text of a block that is opened by the token before these.
def inlineContent : List Token → String
  | t :: _ => t.content
  | []     => ""

-- Is markup a comment?
def isComment (content : String) : Bool :=
  "<!--".toList.isPrefixOf (content.toList.dropWhile Text.isBlank)

-- The node of the block that a token begins, where `rest` comes after the token. `inline` reads the
-- text of a block, and `lines` are those of the whole text.
def nodeOf (inline : String → List Inline) (lines : List String) (t : Token) (rest : List Token) :
    Except UnsupportedBlock Node :=
  let content (kind : ContentKind) (value? : Option String) (children : List Inline) : Node :=
    .content ⟨kind, value?, children, t.position?⟩
  let aside (kind : AsideKind) (value? : Option String) : Node := .aside ⟨kind, value?, t.position?⟩
  match t.kind, t.nesting with
  | .frontMatter, .alone => .ok (aside .yaml (some t.content))
  | .heading depth, .opens => .ok (.heading ⟨depth, inline (inlineContent rest), t.position?⟩)
  | .paragraph, .opens => .ok (content .paragraph none (inline (inlineContent rest)))
  | .bulletList, .opens | .orderedList, .opens =>
    .ok (content .list (sourceText? lines t.lines?) [])
  | .blockquote, .opens => .ok (content .blockquote (sourceText? lines t.lines?) [])
  | .table, .opens => .ok (content .table (sourceText? lines t.lines?) [])
  | .fence, .alone | .indentedCode, .alone => .ok (content .code (some t.content) [])
  | .html, .alone =>
    .ok (if isComment t.content then aside .htmlComment (some t.content)
      else content .html (some t.content) [])
  | .rule, .alone => .ok (aside .thematicBreak none)
  | _, _ => .error ⟨t.name⟩

-- The nodes of the blocks that stand in no other; `depth` is the number of blocks that are open.
def nodesFrom (inline : String → List Inline) (lines : List String) (depth : Int) :
    List Token → Except UnsupportedBlock (List Node)
  | [] => .ok []
  | t :: rest =>
    if depth = 0 then do
      let node ← nodeOf inline lines t rest
      let after ← nodesFrom inline lines t.nesting.step rest
      return node :: after
    else nodesFrom inline lines (depth + t.nesting.step) rest

-- The nodes of the blocks, in order.
-- What a quote, a list or a table holds is kept as text only, so a heading inside of it makes no
-- section.
def nodes (inline : String → List Inline) (lines : List String) (ts : List Token) :
    Except UnsupportedBlock (List Node) :=
  nodesFrom inline lines 0 ts

def read (text : String) : Except UnsupportedBlock (List Node) :=
  let parsed := Block.read (Line.ofText text)
  nodes (fun content => SpanToken.nest (Span.read parsed.keys content)) (Text.lines text) parsed.tokens

end Outline.Markdown
