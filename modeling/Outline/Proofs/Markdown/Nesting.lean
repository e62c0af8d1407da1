import Mathlib.Init
import Outline.Markdown

namespace Outline.Markdown

-- Every opening token has its closing one.
inductive Balanced : List Token → Prop
  | nil : Balanced []
  | alone {t : Token} (h : t.nesting = .alone) : Balanced [t]
  | around {t t' : Token} {inner} (opens : t.nesting = .opens) (closes : t'.nesting = .closes)
      (h : Balanced inner) : Balanced (t :: inner ++ [t'])
  | append {ts ts'} (h : Balanced ts) (h' : Balanced ts') : Balanced (ts ++ ts')

-- A block that stands in no other: a token that stands alone, or an opening token, all that is in the
-- block, and the closing token.
inductive Whole
  | alone (t : Token) (h : t.nesting = .alone)
  | around (t : Token) (inner : List Token) (t' : Token) (opens : t.nesting = .opens)
      (closes : t'.nesting = .closes) (h : Balanced inner)

namespace Whole

def first : Whole → Token
  | alone t _           => t
  | around t _ _ _ _ _  => t

-- The tokens after the first one.
def rest : Whole → List Token
  | alone _ _               => []
  | around _ inner t' _ _ _ => inner ++ [t']

def tokens (b : Whole) : List Token := b.first :: b.rest

end Whole

-- The tokens after those that stand in the blocks that are open; `depth` is the number of these blocks.
def leave (depth : Int) : List Token → List Token
  | []        => []
  | t :: rest => if depth = 0 then t :: rest else leave (depth + t.nesting.step) rest

variable {inline : String → List Inline} {lines : List String} {ts after : List Token} {depth : Int}

theorem leave_zero (ts : List Token) : leave 0 ts = ts := by
  cases ts <;> rfl

-- The depth comes back to what it was after a balanced run, and not before.
theorem leave_balanced (h : Balanced ts) (inside : 0 < depth) (after : List Token) :
    leave depth (ts ++ after) = leave depth after := by
  induction h generalizing depth after
  case nil => rfl
  case alone t h =>
    rw [List.singleton_append, leave, if_neg (by omega), h]
    simp [Nesting.step]
  case around t t' inner opens closes _ hi =>
    have deeper : 0 < depth + Nesting.opens.step := Int.add_pos_of_pos_of_nonneg inside (by decide)
    have back : depth + Nesting.opens.step + Nesting.closes.step = depth := Int.add_neg_cancel_right ..
    rw [List.append_assoc, List.cons_append, leave, if_neg (by omega), opens, hi deeper,
      List.singleton_append, leave, if_neg (by omega), closes, back]
  case append hi hi' => rw [List.append_assoc, hi inside, hi' inside]

theorem Whole.leave_rest (b : Whole) (after : List Token) :
    leave b.first.nesting.step (b.rest ++ after) = after := by
  cases b
  case alone t h =>
    rw [first, rest, h]
    exact leave_zero after
  case around t inner t' opens closes h =>
    rw [first, rest, opens, List.append_assoc, leave_balanced h (by decide), List.singleton_append, leave,
      if_neg (by decide), closes]
    exact leave_zero after

-- What is in a block makes no node: the nodes go on with the token after the one that closes it.
theorem nodesFrom_eq (inline : String → List Inline) (lines : List String) (depth : Int)
    (ts : List Token) : nodesFrom inline lines depth ts = nodes inline lines (leave depth ts) := by
  induction ts generalizing depth
  case nil => rfl
  case cons t rest hi =>
    by_cases h : depth = 0
    case pos => rw [h, leave_zero, nodes]
    case neg => rw [nodesFrom, if_neg h, hi, leave, if_neg h]

theorem nodes_cons (t : Token) (rest : List Token) : nodes inline lines (t :: rest) = do
    let n ← nodeOf inline lines t rest
    let ns ← nodes inline lines (leave t.nesting.step rest)
    return n :: ns := by
  rw [nodes, nodesFrom, if_pos rfl, nodesFrom_eq]

-- The node that stands for a block.
def Whole.node (inline : String → List Inline) (lines : List String) (b : Whole) :
    Except UnsupportedBlock Node :=
  nodeOf inline lines b.first b.rest

theorem nodeOf_append (b : Whole) (after : List Token) :
    nodeOf inline lines b.first (b.rest ++ after) = b.node inline lines := by
  cases b
  case alone t h =>
    simp only [Whole.node, Whole.first, Whole.rest, nodeOf, h]
    cases t.kind <;> rfl
  case around t inner t' opens closes h =>
    have content : inlineContent (inner ++ [t'] ++ after) = inlineContent (inner ++ [t']) := by
      cases inner <;> rfl
    simp only [Whole.node, Whole.first, Whole.rest, nodeOf, content]

theorem nodes_flatMap (bs : List Whole) :
    nodes inline lines (bs.flatMap Whole.tokens) = bs.mapM (Whole.node inline lines) := by
  induction bs
  case nil => rfl
  case cons b bs hi =>
    rw [List.flatMap_cons, Whole.tokens, List.cons_append, nodes_cons, nodeOf_append, b.leave_rest, hi,
      List.mapM_cons]

end Outline.Markdown
