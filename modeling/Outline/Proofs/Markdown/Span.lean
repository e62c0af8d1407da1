import Mathlib.Init
import Outline.Markdown

namespace Outline.Markdown

-- Text of a block as it is nested: a text, a line break and the like, or a span around others.
inductive Element
  | leaf (kind : SpanKind) (content : String)
  | span (kind : SpanKind) (inner : List Element)

namespace Element

-- The flat form: an opener and a closer around what is in a span.
def tokens : List Element → List SpanToken
  | []                         => []
  | .leaf kind content :: rest => ⟨kind, .alone, content⟩ :: tokens rest
  | .span kind inner :: rest   =>
    ⟨kind, .opens, ""⟩ :: tokens inner ++ ⟨kind, .closes, ""⟩ :: tokens rest

-- The inline nodes: a leaf keeps its content, and a soft line break is a new line.
def nodes : List Element → List Inline
  | []                         => []
  | .leaf kind content :: rest =>
    ⟨kind.name, some (if kind = .softBreak then "\n" else content), []⟩ :: nodes rest
  | .span kind inner :: rest   => ⟨kind.name, none, nodes inner⟩ :: nodes rest

-- The induction on nested text: on what is in the first span, and on what comes after it.
theorem elements_induction {P : List Element → Prop} (nil : P [])
    (leaf : ∀ kind content rest, P rest → P (.leaf kind content :: rest))
    (span : ∀ kind inner rest, P inner → P rest → P (.span kind inner :: rest)) : ∀ es, P es
  | []                         => nil
  | .leaf kind content :: rest =>
    leaf kind content rest (elements_induction nil leaf span rest)
  | .span kind inner :: rest   =>
    span kind inner rest (elements_induction nil leaf span inner) (elements_induction nil leaf span rest)

end Element

namespace SpanKind

-- Tokens of the type of text, before types are mapped.
def IsText (k : SpanKind) : Prop := k = .text ∨ k = .other "text"

instance : DecidablePred IsText := fun k => inferInstanceAs <| Decidable (k = .text ∨ k = .other "text")

-- No other type is mapped to the one of text.
theorem name_eq_text_iff {k : SpanKind} : k.name = "text" ↔ k.IsText := by
  cases k <;> simp [name, IsText]

end SpanKind

namespace SpanToken

-- The number of spans that are open after a token, of those that are open before it. A closer without
-- an opener closes nothing.
def levelAfter (level : Nat) (t : SpanToken) : Nat :=
  match t.nesting with
  | .opens  => level + 1
  | .closes => level - 1
  | .alone  => level

-- What a token says of the title, with so many spans open.
def titleText? (t : SpanToken) (level : Nat) : Option String :=
  if level = 0 ∧ t.nesting = .alone ∧ t.kind.IsText then some t.content else none

-- The texts that stand in no span, where so many spans are open at the start.
def groundTexts (level : Nat) (ts : List SpanToken) : List String :=
  (ts.zip (ts.scanl levelAfter level)).filterMap fun x => x.1.titleText? x.2

-- What a node says of the title.
def nodeText? (i : Inline) : Option String :=
  if i.kind = "text" then i.value? else none

-- The nodes in no span, those of the outermost one that is open left out; last one first.
def ground (around : List Open) (done : List Inline) : List Inline :=
  around.foldl (fun _ o => o.before) done

variable {around : List Open} {done : List Inline} {i : Inline}

theorem nestFrom_tokens (es : List Element) (around : List Open) (done : List Inline)
    (rest : List SpanToken) : nestFrom around done (Element.tokens es ++ rest) =
      nestFrom around ((Element.nodes es).reverse ++ done) rest := by
  induction es using Element.elements_induction generalizing around done rest
  case nil => simp [Element.tokens, Element.nodes]
  case leaf kind content es hi =>
    simp [Element.tokens, Element.nodes, nestFrom, hi, SpanToken.leaf]
  case span kind inner es hi hi' =>
    simp [Element.tokens, Element.nodes, nestFrom, hi, hi', Open.close]

theorem nest_tokens (es : List Element) : nest (Element.tokens es) = Element.nodes es := by
  have all := nestFrom_tokens es [] [] []
  rw [List.append_nil, List.append_nil] at all
  rw [nest, all, nestFrom, List.foldl_nil, List.reverse_reverse]

theorem title_eq (depth : Nat) (children : List Inline) (position? : Option Position) :
    Heading.title ⟨depth, children, position?⟩ = Text.trim (String.join (children.filterMap nodeText?)) :=
  rfl

-- A span says nothing of the title itself.
theorem nodeText?_span (kind : String) (inner : List Inline) : nodeText? ⟨kind, none, inner⟩ = none :=
  ite_self none

theorem titleText?_inside (t : SpanToken) (level : Nat) : t.titleText? (level + 1) = none :=
  if_neg fun h => absurd h.1 (Nat.succ_ne_zero level)

theorem titleText?_of_not_alone {t : SpanToken} (h : t.nesting ≠ .alone) (level : Nat) :
    t.titleText? level = none :=
  if_neg fun ⟨_, alone, _⟩ => h alone

theorem nodeText?_leaf {t : SpanToken} (alone : t.nesting = .alone) :
    nodeText? t.leaf = t.titleText? 0 := by
  have named : t.kind.name = "text" ↔ t.kind.IsText := SpanKind.name_eq_text_iff
  by_cases h : t.kind.IsText
  case neg => simp [nodeText?, titleText?, leaf, named, h]
  case pos =>
    have hard : t.kind ≠ .softBreak := by
      rintro soft
      simp [soft, SpanKind.IsText] at h
    simp [nodeText?, titleText?, leaf, named, h, hard, alone]

theorem filterMap_ground_cons (h : nodeText? i = none) :
    (ground around (i :: done)).filterMap nodeText? = (ground around done).filterMap nodeText? := by
  cases around
  case nil  => exact List.filterMap_cons_none h
  case cons => rfl

-- That spans are left open makes no difference.
theorem filterMap_foldl_close : (around.foldl (fun done o => o.close done) done).filterMap nodeText? =
    (ground around done).filterMap nodeText? := by
  induction around generalizing done
  case nil => rfl
  case cons o os hi =>
    rw [List.foldl_cons, hi, Open.close, filterMap_ground_cons (nodeText?_span ..)]
    rfl

theorem groundTexts_cons (t : SpanToken) (level : Nat) (ts : List SpanToken) :
    groundTexts level (t :: ts) = (t.titleText? level).toList ++ groundTexts (t.levelAfter level) ts := by
  rw [groundTexts, List.scanl_cons, List.zip_cons_cons]
  cases h : t.titleText? level
  case none   => exact List.filterMap_cons_none h
  case some s => exact List.filterMap_cons_some h

-- The number of open spans is the level, and what has been read in no span stays.
theorem filterMap_nestFrom (around : List Open) (done : List Inline) (ts : List SpanToken) :
    (nestFrom around done ts).filterMap nodeText? =
      ((ground around done).filterMap nodeText?).reverse ++ groundTexts around.length ts := by
  induction ts generalizing around done
  case nil =>
    rw [nestFrom, List.filterMap_reverse, filterMap_foldl_close]
    exact (List.append_nil _).symm
  case cons t ts hi =>
    rw [groundTexts_cons]
    cases nesting : t.nesting
    case opens =>
      have silent := titleText?_of_not_alone (t := t) (by simp [nesting]) around.length
      simp only [nestFrom, nesting, hi, levelAfter, silent]
      rfl
    case closes =>
      have silent := titleText?_of_not_alone (t := t) (by simp [nesting]) around.length
      cases around
      case nil       =>
        simp only [nestFrom, nesting, hi, levelAfter, silent]
        rfl
      case cons o os =>
        simp only [nestFrom, nesting, hi, levelAfter, silent, Open.close]
        rw [filterMap_ground_cons (nodeText?_span ..)]
        rfl
    case alone =>
      simp only [nestFrom, nesting, hi, levelAfter, ← List.append_assoc]
      congr 1
      cases around
      case nil       =>
        rw [ground, ground, List.foldl_nil, List.foldl_nil, List.length_nil, ← nodeText?_leaf nesting,
          List.filterMap_cons]
        cases nodeText? t.leaf <;> simp
      case cons o os =>
        rw [List.length_cons, titleText?_inside]
        exact (List.append_nil _).symm

-- Text that is written nested is nested so again. Whether spans are closed or not, the title of a heading
-- is what is said in it outside of all spans.
theorem nest_tokens_title :
    (∀ es, nest (Element.tokens es) = Element.nodes es) ∧
    ∀ ts depth position?, Heading.title ⟨depth, nest ts, position?⟩ =
      Text.trim (String.join (groundTexts 0 ts)) := by
  refine ⟨nest_tokens, fun ts depth position? => ?_⟩
  rw [title_eq, nest, filterMap_nestFrom]
  rfl

-- A closer without an opener does not count, and a span that is left open reaches up to the end.
example : groundTexts 0 [⟨.emphasis, .closes, ""⟩, .ofText "a", ⟨.link, .opens, ""⟩, .ofText "b"] =
    ["a"] := by
  decide

end SpanToken

end Outline.Markdown
