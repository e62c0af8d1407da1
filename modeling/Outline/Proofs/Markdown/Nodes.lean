import Outline.Proofs.Ends
import Outline.Proofs.Markdown.Nesting

namespace Outline

-- The `type` of a node.
def Node.tag : Node → String
  | heading _ => "heading"
  | content c => c.kind.name
  | aside a   => a.kind.name

def Node.position? : Node → Option Position
  | heading h => h.position?
  | content c => c.position?
  | aside a   => a.position?

namespace Markdown

-- Blocks that hold others, or a text, and that nodes stand for.
inductive BlockKind.Holder : BlockKind → Prop
  | heading {depth} : Holder (heading depth)
  | paragraph       : Holder paragraph
  | bulletList      : Holder bulletList
  | orderedList     : Holder orderedList
  | blockquote      : Holder blockquote
  | table           : Holder table

-- Blocks that consist of one token, and that nodes stand for.
inductive BlockKind.Leaf : BlockKind → Prop
  | frontMatter  : Leaf frontMatter
  | fence        : Leaf fence
  | indentedCode : Leaf indentedCode
  | html         : Leaf html
  | rule         : Leaf rule

namespace Token

-- Nodes stand for the blocks that begin with the token.
inductive Known (t : Token) : Prop
  | opens (h : t.nesting = .opens) (holder : t.kind.Holder)
  | alone (h : t.nesting = .alone) (leaf : t.kind.Leaf)

-- The `type` of these nodes.
def tag? (t : Token) : Option String :=
  match t.kind with
  | .frontMatter  => some "yaml"
  | .heading _    => some "heading"
  | .paragraph    => some "paragraph"
  | .bulletList   => some "list"
  | .orderedList  => some "list"
  | .blockquote   => some "blockquote"
  | .table        => some "table"
  | .fence        => some "code"
  | .indentedCode => some "code"
  | .html         => some (if isComment t.content then "html_comment" else "html")
  | .rule         => some "thematicBreak"
  | .inline       => none
  | .listItem     => none
  | .other _      => none

end Token

-- The node is of the type that the token tells, and stands where the token does.
structure StandsFor (t : Token) (n : Node) : Prop where
  known    : t.Known
  tag      : t.tag? = some n.tag
  depth    : ∀ h, n = .heading h → t.kind = .heading h.depth
  position : n.position? = t.lines?.map fun (first, _) => ⟨first + 1, 1⟩

-- The first block that no node stands for is the one that the fault names.
def FirstUnknown (bs : List Whole) (e : UnsupportedBlock) : Prop :=
  ∃ before b after, bs = before ++ b :: after ∧ (∀ b ∈ before, b.first.Known) ∧ ¬b.first.Known ∧
    e = ⟨b.first.name⟩

variable {inline : String → List Inline} {lines : List String} {t : Token}

theorem nodeOf_known (inline : String → List Inline) (lines : List String) (rest : List Token)
    (h : t.Known) : ∃ n, nodeOf inline lines t rest = .ok n ∧ StandsFor t n := by
  obtain ⟨kind, nesting, lines?, content⟩ := t
  have known := h
  cases h
  case opens opens holder =>
    cases opens
    cases holder
    case heading => exact ⟨_, rfl, known, rfl, by rintro _ ⟨⟩; rfl, rfl⟩
    all_goals exact ⟨_, rfl, known, rfl, nofun, rfl⟩
  case alone alone leaf =>
    cases alone
    cases leaf
    case html =>
      -- A comment is an aside, and other markup is content.
      refine ⟨_, rfl, known, ?tag, ?depth, ?position⟩
      case tag =>
        rw [Token.tag?]
        dsimp only
        split <;> rfl
      case depth    => split <;> nofun
      case position => split <;> rfl
    all_goals exact ⟨_, rfl, known, rfl, nofun, rfl⟩

theorem nodeOf_unknown (rest : List Token) (h : ¬t.Known) :
    nodeOf inline lines t rest = .error ⟨t.name⟩ := by
  obtain ⟨kind, nesting, lines?, content⟩ := t
  cases kind <;> cases nesting
  all_goals
    first
    | rfl
    | exact absurd (.opens rfl (by constructor)) h
    | exact absurd (.alone rfl (by constructor)) h

theorem nodeOf_ends (inline : String → List Inline) (lines : List String) (t : Token)
    (rest : List Token) :
    Ends (StandsFor t) (fun e => ¬t.Known ∧ e = ⟨t.name⟩) (nodeOf inline lines t rest) := by
  by_cases h : t.Known
  case pos =>
    obtain ⟨n, made, stands⟩ := nodeOf_known inline lines rest h
    rwa [made]
  case neg =>
    rw [nodeOf_unknown rest h]
    exact ⟨h, rfl⟩

theorem exists_unknown {bs : List Whole} {e : UnsupportedBlock} (h : FirstUnknown bs e) :
    ∃ b ∈ bs, ¬b.first.Known := by
  obtain ⟨before, b, after, rfl, _, unknown, _⟩ := h
  exact ⟨b, List.mem_append_cons_self, unknown⟩

theorem known_of_standsFor {bs : List Whole} {ns : List Node}
    (h : List.Forall₂ (fun b n => StandsFor b.first n) bs ns) : ∀ b ∈ bs, b.first.Known := by
  induction h
  case nil                => exact List.forall_mem_nil _
  case cons stands _ hi => exact List.forall_mem_cons.mpr ⟨stands.known, hi⟩

theorem nodes_ends (inline : String → List Inline) (lines : List String) (bs : List Whole) :
    Ends (List.Forall₂ (fun b n => StandsFor b.first n) bs) (FirstUnknown bs)
      (nodes inline lines (bs.flatMap Whole.tokens)) := by
  rw [nodes_flatMap]
  have one (b : Whole) := nodeOf_ends inline lines b.first b.rest
  refine (Ends.mapM one bs).imp (fun _ h => h) ?_
  rintro e ⟨before, b, after, parts, fine, unknown, named⟩
  have known (b : Whole) (hb : b ∈ before) : b.first.Known :=
    have ⟨_, stands⟩ := fine b hb
    stands.known
  exact ⟨before, b, after, parts, known, unknown, named⟩

theorem exists_of_known {bs : List Whole} (known : ∀ b ∈ bs, b.first.Known) :
    ∃ ns, nodes inline lines (bs.flatMap Whole.tokens) = .ok ns := by
  cases made : nodes inline lines (bs.flatMap Whole.tokens)
  case ok ns   => exact ⟨ns, rfl⟩
  case error e =>
    obtain ⟨b, mem, unknown⟩ := exists_unknown <| (nodes_ends inline lines bs).of_error made
    exact absurd (known b mem) unknown

-- A list of blocks gives one node for each, in order, whatever is in the blocks. It gives none just if
-- there is a block that no node stands for, and the first such block is named.
theorem nodes_wholes (inline : String → List Inline) (lines : List String) (bs : List Whole) :
    Ends (List.Forall₂ (fun b n => StandsFor b.first n) bs) (FirstUnknown bs)
        (nodes inline lines (bs.flatMap Whole.tokens)) ∧
      ((∃ e, nodes inline lines (bs.flatMap Whole.tokens) = .error e) ↔ ∃ b ∈ bs, ¬b.first.Known) := by
  have ends := nodes_ends inline lines bs
  refine ⟨ends, fun ⟨e, faulty⟩ => exists_unknown (ends.of_error faulty), fun ⟨b, mem, unknown⟩ => ?_⟩
  cases made : nodes inline lines (bs.flatMap Whole.tokens)
  case error e => exact ⟨e, rfl⟩
  case ok ns   => exact absurd (known_of_standsFor (ends.of_ok made) b mem) unknown

end Markdown
end Outline
