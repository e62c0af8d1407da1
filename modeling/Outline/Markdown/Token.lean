namespace Outline.Markdown

inductive Nesting
  | opens
  | closes
  | alone
  deriving DecidableEq, Repr, Inhabited

namespace Nesting

-- What a token adds to the depth of those after it.
def step : Nesting → Int
  | opens  => 1
  | closes => -1
  | alone  => 0

end Nesting

inductive BlockKind
  | frontMatter
  | heading (depth : Nat)
  | paragraph
  | inline
  | bulletList
  | orderedList
  | listItem
  | blockquote
  | table
  | fence
  | indentedCode
  | html
  | rule
  | other (name : String)
  deriving DecidableEq, Repr

namespace BlockKind

def name : BlockKind → String
  | frontMatter  => "front_matter"
  | heading _    => "heading"
  | paragraph    => "paragraph"
  | inline       => "inline"
  | bulletList   => "bullet_list"
  | orderedList  => "ordered_list"
  | listItem     => "list_item"
  | blockquote   => "blockquote"
  | table        => "table"
  | fence        => "fence"
  | indentedCode => "code_block"
  | html         => "html_block"
  | rule         => "hr"
  | other name   => name

end BlockKind

-- A token, the lines from the first up to the last but one that it stands on, and its text.
structure Token where
  kind    : BlockKind
  nesting : Nesting
  lines?  : Option (Nat × Nat)
  content : String
  deriving DecidableEq, Repr

namespace Token

def name (t : Token) : String :=
  t.kind.name ++ match t.nesting with
    | .opens  => "_open"
    | .closes => "_close"
    | .alone  => ""

-- A block that holds others: the tokens of those between its opening and its closing one.
def around (kind : BlockKind) (first after : Nat) (inner : List Token) : List Token :=
  ⟨kind, .opens, some (first, after), ""⟩ :: inner ++ [⟨kind, .closes, none, ""⟩]

-- A block of text: its opening token, the text, its closing token.
def ofText (kind : BlockKind) (first after : Nat) (content : String) : List Token :=
  around kind first after [⟨.inline, .alone, some (first, after), content⟩]

end Token
end Outline.Markdown
