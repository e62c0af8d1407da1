import Outline.Fit.Record

namespace Outline

-- Where a node starts; lines and columns count from one.
structure Position where
  line   : Nat
  column : Nat
  deriving DecidableEq, Repr

-- Text, emphasis, a link and the like inside a heading or a block.
structure Inline where
  kind     : String
  value?   : Option String
  children : List Inline
  deriving Repr, Inhabited

structure Heading where
  depth     : Nat
  children  : List Inline
  position? : Option Position
  deriving Repr

inductive ContentKind
  | paragraph
  | list
  | code
  | blockquote
  | table
  | html
  | math
  | text
  deriving DecidableEq, Repr

-- A block that the nearest heading before it owns.
structure Content where
  kind      : ContentKind
  value?    : Option String
  children  : List Inline
  position? : Option Position
  deriving Repr

inductive AsideKind
  | yaml
  | toml
  | thematicBreak
  | definition
  | htmlComment
  deriving DecidableEq, Repr

-- Metadata or presentation.
structure Aside where
  kind      : AsideKind
  value?    : Option String
  position? : Option Position
  deriving Repr

inductive Node
  | heading (h : Heading)
  | content (c : Content)
  | aside (a : Aside)
  deriving Repr

namespace ContentKind

def tags : List (String × ContentKind) :=
  [("paragraph", paragraph), ("list", list), ("code", code), ("blockquote", blockquote),
   ("table", table), ("html", html), ("math", math), ("text", text)]

def name : ContentKind → String
  | paragraph  => "paragraph"
  | list       => "list"
  | code       => "code"
  | blockquote => "blockquote"
  | table      => "table"
  | html       => "html"
  | math       => "math"
  | text       => "text"

theorem lookup_name (k : ContentKind) : tags.lookup k.name = some k := by cases k <;> decide

end ContentKind

namespace AsideKind

def tags : List (String × AsideKind) :=
  [("yaml", yaml), ("toml", toml), ("thematicBreak", thematicBreak), ("definition", definition),
   ("html_comment", htmlComment)]

def name : AsideKind → String
  | yaml          => "yaml"
  | toml          => "toml"
  | thematicBreak => "thematicBreak"
  | definition    => "definition"
  | htmlComment   => "html_comment"

theorem lookup_name (k : AsideKind) : tags.lookup k.name = some k := by cases k <;> decide

end AsideKind

-- The heading's own text: what its text children say, without what is nested deeper.
def Heading.title (h : Heading) : String :=
  Text.trim (String.join (h.children.filterMap fun i => if i.kind = "text" then i.value? else none))

namespace Position

def fit : Value → Fit Position := Fit.record "Position" fun es =>
  Position.mk
    <$> Fit.required ["line"] (Fit.natFrom 1 none) es
    <*> Fit.withDefault ["column"] 1 (Fit.natFrom 1 none) es

end Position

namespace Inline

mutual

def fit : Value → Fit Inline
  | .map es =>
    Inline.mk
      <$> Fit.required ["type"] Fit.text es
      <*> Fit.withDefault ["value"] none (Fit.optional Fit.text) es
      <*> Fit.withDefault ["children"] [] id (fitEntries es)
  | _ => Fit.wrong (.record "InlineNode")

def fitList : Value → Fit (List Inline)
  | .list vs => fitItems 0 vs
  | .set vs  => fitItems 0 vs
  | _        => Fit.wrong .list

def fitItems (index : Nat) : List Value → Fit (List Inline)
  | []      => .ok []
  | v :: vs => Fit.ap (Fit.map List.cons (Fit.under (.item index) (fit v))) (fitItems (index + 1) vs)

-- Every entry as a list of inline nodes, for the one that is asked for.
def fitEntries : List (String × Value) → List (String × Fit (List Inline))
  | []           => []
  | (k, v) :: es => (k, fitList v) :: fitEntries es

end

end Inline

namespace Heading

def fields (es : Fit.Entries) : Fit Heading :=
  Heading.mk
    <$> Fit.required ["depth"] (Fit.natFrom 1 (some 6)) es
    <*> Fit.withDefault ["children"] [] Inline.fitList es
    <*> Fit.withDefault ["position"] none (Fit.optional Position.fit) es

-- A heading where no other node can stand; its `type` may be left out.
def fit : Value → Fit Heading := Fit.record "HeadingNode" fun es =>
  (fun _ h => h) <$> Fit.withDefault ["type"] () (Fit.tag [("heading", ())]) es <*> fields es

end Heading

namespace Content

def fields (kind : Fit ContentKind) (es : Fit.Entries) : Fit Content :=
  Content.mk
    <$> kind
    <*> Fit.withDefault ["value"] none (Fit.optional Fit.text) es
    <*> Fit.withDefault ["children"] [] Inline.fitList es
    <*> Fit.withDefault ["position"] none (Fit.optional Position.fit) es

-- Content where no other node can stand.
def fit : Value → Fit Content := Fit.record "ContentNode" fun es =>
  fields (Fit.required ["type"] (Fit.tag ContentKind.tags) es) es

end Content

def Aside.fields (kind : AsideKind) (es : Fit.Entries) : Fit Aside :=
  Aside.mk kind
    <$> Fit.withDefault ["value"] none (Fit.optional Fit.text) es
    <*> Fit.withDefault ["position"] none (Fit.optional Position.fit) es

namespace Node

-- The `type` of every kind of node.
def tags : List String :=
  "heading" :: ContentKind.tags.map (·.1) ++ AsideKind.tags.map (·.1)

-- The record of a node whose `type` is known.
def fields? (tag : String) (es : Fit.Entries) : Option (Fit Node) :=
  if tag = "heading" then some (Fit.map heading (Heading.fields es))
  else match ContentKind.tags.lookup tag, AsideKind.tags.lookup tag with
    | some kind, _ => some (Fit.map content (Content.fields (.ok kind) es))
    | _, some kind => some (Fit.map aside (Aside.fields kind es))
    | none, none   => none

def fit : Value → Fit Node
  | .map es => match es.lookup "type" with
    | none   => Fit.wrong (.noTag "type")
    | some t => match t with
      | .text tag => match fields? tag es with
        | some node => Fit.under (.field tag) node
        | none      => Fit.wrong (.unknownTag tag "type" tags)
      | t => Fit.wrong (.unknownTag t.shown "type" tags)
  | _ => Fit.wrong .object

end Node
end Outline
