import Mathlib.Data.List.Chain
import Outline.Proofs.Section.Written

namespace Outline

namespace Node

def isAside : Node → Bool
  | aside _ => true
  | _       => false

variable {n : Node} {xs ys : List Node}

theorem not_isHeading_of_isAside (h : n.isAside) : n.isHeading = false := by
  cases n
  case heading => cases h
  all_goals rfl

-- Nodes are accepted one by one.
theorem ofValues_append {vs ws : List Value} (hx : ofValues vs = .ok xs) (hy : ofValues ws = .ok ys) :
    ofValues (vs ++ ws) = .ok (xs ++ ys) := by
  induction vs generalizing xs
  case nil =>
    obtain rfl : [] = xs := Except.ok.inj hx
    exact hy
  case cons v vs hi =>
    cases hv : ofValue v
    case error => simp [ofValues, hv, bind, Except.bind] at hx
    case ok node =>
      cases hvs : ofValues vs
      case error => simp [ofValues, hv, hvs, bind, Except.bind] at hx
      case ok nodes =>
        obtain rfl : node :: nodes = xs := by
          simpa [ofValues, hv, hvs, bind, Except.bind, pure, Except.pure] using hx
        simp [ofValues, hv, hi hvs, bind, Except.bind, pure, Except.pure]

end Node

namespace Section

variable {h : Heading} {xs ys : List Node} {ss ts : List Section}

theorem forest_append_of_not_heading (hx : ∀ x ∈ xs, x.isHeading = false) :
    forest (xs ++ ys) = forest ys := by
  induction xs
  case nil => rfl
  case cons x xs hi =>
    have ⟨hx, hxs⟩ := List.forall_mem_cons.mp hx
    rw [List.cons_append, forest_cons_of_not_heading hx, hi hxs]

theorem forest_of_not_heading (hx : ∀ x ∈ xs, x.isHeading = false) : forest xs = [] := by
  rw [← List.append_nil xs, forest_append_of_not_heading hx, forest_nil]

theorem exists_root (hx : ∃ x ∈ xs, x.isHeading) : ∃ root, (forest xs).getLast? = some root := by
  induction xs
  case nil => simp at hx
  case cons x xs hi =>
    cases x
    case heading => rw [forest, List.getLast?_cons]; exact ⟨_, rfl⟩
    all_goals
      rw [forest_cons_of_not_heading rfl]
      exact hi (by simpa [Node.isHeading] using hx)

theorem flatten_append : flatten (ss ++ ts) = flatten ss ++ flatten ts := by
  induction ss
  case nil          => simp [flatten_nil]
  case cons s ss hi => simp [flatten_cons, hi]

-- The second section is no deeper than the first one.
def NoDeeper (s t : Section) : Prop := t.depth ≤ s.depth

instance : Trans NoDeeper NoDeeper NoDeeper where
  trans h h' := Nat.le_trans h' h

theorem nested_iff_isChain : Nested ss ↔
    ss.IsChain NoDeeper ∧ ∀ s ∈ ss, (∀ t ∈ s.children, s.depth < t.depth) ∧ Nested s.children := by
  rw [List.isChain_iff_pairwise]
  induction ss
  case nil => simp [nested_nil]
  case cons s ss hi =>
    rw [nested_cons, hi, List.pairwise_cons, List.forall_mem_cons]
    tauto

-- Two forests stand side by side as one if the first root of the one is no deeper than the last root
-- of the other.
theorem nested_append_iff (n : Nested ss) (m : Nested ts) : Nested (ss ++ ts) ↔
    ∀ s ∈ ss.getLast?, ∀ t ∈ ts.head?, s.NoDeeper t := by
  have ⟨chain, inner⟩ := nested_iff_isChain.mp n
  have ⟨chain', inner'⟩ := nested_iff_isChain.mp m
  rw [nested_iff_isChain, List.isChain_append]
  constructor
  case mp  => exact fun ⟨⟨_, _, h⟩, _⟩ => h
  case mpr =>
    exact fun h => ⟨⟨chain, chain', h⟩, List.forall_mem_append.mpr ⟨inner, inner'⟩⟩

-- The pieces of the second document go on where those of the first one end, once there is a heading.
theorem flatten_forest_append (hx : ∃ x ∈ xs, x.isHeading) :
    flatten (forest (xs ++ ys)) = flatten (forest xs) ++ ys.filterMap Node.piece? := by
  have hd : xs.dropWhile (!·.isHeading) ≠ [] := by
    simpa [List.dropWhile_eq_nil_iff] using hx
  rw [flatten_forest, flatten_forest, List.dropWhile_append, ← List.filterMap_append]
  simp [hd]

theorem forest_append_iff_nested (hx : ∃ x ∈ xs, x.isHeading) :
    forest (xs ++ ys) = forest xs ++ forest ys ↔
      ys.filterMap Node.piece? = flatten (forest ys) ∧ Nested (forest xs ++ forest ys) := by
  constructor
  case mp =>
    intro h
    have hf := congrArg flatten h
    rw [flatten_forest_append hx, flatten_append] at hf
    exact ⟨List.append_cancel_left hf, h ▸ nested_forest _⟩
  case mpr =>
    intro ⟨hp, n⟩
    refine flatten_inj (nested_forest _) n ?_
    rw [flatten_forest_append hx, flatten_append, hp]

-- The pieces of a document are those of its forest unless the first of them is a block of content.
theorem pieces_eq_iff : ys.filterMap Node.piece? = flatten (forest ys) ↔
    ∀ y ∈ ys.find? (!·.isAside), y.isHeading := by
  induction ys
  case nil => simp [forest_nil, flatten_nil]
  case cons n ys hi =>
    cases n
    case heading h =>
      rw [List.find?_cons_of_pos rfl, flatten_forest]
      simp
    case aside a =>
      rw [List.find?_cons_of_neg (by simp [Node.isAside]), forest_cons_of_not_heading rfl,
        List.filterMap_cons_none rfl, hi]
    case content c =>
      rw [List.find?_cons_of_pos rfl]
      refine iff_of_false (fun h => ?_) (by simp [Node.isHeading])
      have hh : Piece.block c ∈ (flatten (forest (.content c :: ys))).head? := by simp [← h, Node.piece?]
      cases head?_flatten_isHeading _ hh

theorem forest_of_asides (h : ys.find? (!·.isAside) = none) : forest ys = [] :=
  forest_of_not_heading fun y hy => Node.not_isHeading_of_isAside <| by
    simpa using List.find?_eq_none.mp h y hy

theorem head?_forest (hg : ys.find? (!·.isAside) = some (.heading h)) :
    ∃ s ∈ (forest ys).head?, s.depth = h.depth := by
  obtain ⟨-, asides, rest, rfl, ha⟩ := List.find?_eq_some_iff_append.mp hg
  rw [forest_append_of_not_heading fun x hx => Node.not_isHeading_of_isAside <| by simpa using ha x hx,
    forest]
  exact ⟨_, rfl, rfl⟩

-- Two documents, one after the other, have the forests of both, one after the other, exactly if the
-- first one has no heading, so that it has no sections either, or the first node of the second one
-- that is no aside is a heading that closes the last root of the first one.
theorem forest_append_iff {vs ws : List Value} (hx : Node.ofValues vs = .ok xs)
    (hy : Node.ofValues ws = .ok ys) :
    ∃ nodes, Node.ofValues (vs ++ ws) = .ok nodes ∧
      (forest nodes = forest xs ++ forest ys ↔ (∀ x ∈ xs, x.isHeading = false) ∨
        ∀ y ∈ ys.find? (!·.isAside), ∃ root ∈ (forest xs).getLast?, y.closes root.depth) := by
  refine ⟨xs ++ ys, Node.ofValues_append hx hy, ?_⟩
  by_cases hh : ∀ x ∈ xs, x.isHeading = false
  case pos =>
    rw [forest_append_of_not_heading hh, forest_of_not_heading hh]
    exact iff_of_true rfl (.inl hh)
  case neg =>
    have hh' : ∃ x ∈ xs, x.isHeading := by simpa using hh
    rw [or_iff_right hh, forest_append_iff_nested hh', pieces_eq_iff,
      nested_append_iff (nested_forest xs) (nested_forest ys)]
    have ⟨root, hr⟩ := exists_root hh'
    simp only [hr, Option.mem_some_iff, forall_eq', exists_eq_left']
    cases hf : ys.find? (!·.isAside)
    case none   => simp [forest_of_asides hf]
    case some y =>
      cases y
      case heading h =>
        have ⟨s, hs, hd⟩ := head?_forest hf
        simp [Option.mem_def.mp hs, NoDeeper, Node.closes, hd]
      all_goals simp [Node.isHeading, Node.closes]

-- A document that ends below its last root.
def opening : List Node := [
  .content ⟨.paragraph, some "lead", [], none⟩,
  .heading ⟨2, [⟨"text", some "B", []⟩], some ⟨3, 1⟩⟩,
  .heading ⟨4, [⟨"text", some "D", []⟩], none⟩,
  .content ⟨.list, some "d", [], none⟩
]

-- A document that closes that root, after an aside.
def closing : List Node := [
  .aside   ⟨.thematicBreak, none, none⟩,
  .heading ⟨2, [⟨"text", some "E", []⟩], none⟩,
  .heading ⟨3, [⟨"text", some "F", []⟩], none⟩,
  .heading ⟨1, [⟨"text", some "A", []⟩], none⟩
]

-- A document that goes on below that root.
def deeper : List Node := [.heading ⟨3, [⟨"text", some "C", []⟩], none⟩]

theorem getLast?_forest_opening : ((forest opening).getLast?).map depth = some 2 := by
  simp [opening, forest, Node.closes, Node.isHeading]

theorem forest_append_iff_closing :
    Node.ofValues (opening.map Node.data) = .ok opening ∧
    Node.ofValues (closing.map Node.data) = .ok closing ∧
    Node.ofValues (deeper.map Node.data) = .ok deeper ∧
    forest (opening ++ closing) = forest opening ++ forest closing ∧
    forest (opening ++ deeper) ≠ forest opening ++ forest deeper := by
  have ho : Node.ofValues (opening.map Node.data) = .ok opening := rfl
  have hc : Node.ofValues (closing.map Node.data) = .ok closing := rfl
  have hd : Node.ofValues (deeper.map Node.data) = .ok deeper := rfl
  obtain ⟨root, hr, depth⟩ : ∃ root, (forest opening).getLast? = some root ∧ root.depth = 2 := by
    simpa using getLast?_forest_opening
  obtain ⟨nodes, hn, iff⟩ := forest_append_iff ho hc
  obtain ⟨nodes', hn', iff'⟩ := forest_append_iff ho hd
  obtain rfl := Except.ok.inj <| (Node.ofValues_append ho hc).symm.trans hn
  obtain rfl := Except.ok.inj <| (Node.ofValues_append ho hd).symm.trans hn'
  refine ⟨ho, hc, hd, iff.mpr <| .inr ?closes, fun h => ?deeper⟩
  case closes => simp [hr, closing, Node.isAside, Node.closes, depth]
  case deeper =>
    obtain ⟨root', hr', hc⟩ := (iff'.mp h).resolve_left (by decide) _ rfl
    obtain rfl : root = root' := Option.some.inj <| hr.symm.trans hr'
    simp [Node.closes, depth] at hc

end Section
end Outline
