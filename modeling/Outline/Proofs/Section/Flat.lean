import Outline.Node.Data
import Outline.Proofs.Section.Forest

namespace Outline

-- A piece of a flat document: the heading of a section, or a block of content.
inductive Piece
  | heading (title : String) (depth : Nat) (position? : Option Position)
  | block (c : Content)

namespace Node

def heading? : Node → Option Heading
  | heading h => some h
  | _         => none

-- What the flat form keeps of a node.
def piece? : Node → Option Piece
  | heading h => some (.heading h.title h.depth h.position?)
  | content c => some (.block c)
  | aside _   => none

-- Every heading, with the content between it and the next one.
def runs : List Node → List (Heading × List Content)
  | []                 => []
  | .heading h :: rest => (h, (rest.takeWhile (!·.isHeading)).filterMap content?) :: runs rest
  | _ :: rest          => runs rest

variable {h : Heading} {n : Node} {lead inner after rest : List Node}

theorem ofValues_eq_ok {vs : List Value} {nodes : List Node}
    (h : vs.map ofValue = nodes.map .ok) : ofValues vs = .ok nodes := by
  induction vs generalizing nodes
  case nil =>
    obtain rfl : nodes = [] := by simpa using h.symm
    rfl
  case cons v vs hi =>
    cases nodes
    case nil => simp at h
    case cons node nodes =>
      have ⟨hv, hvs⟩ := List.cons.inj h
      simp only [ofValues, hv, hi hvs]
      rfl

theorem exists_nodes {vs : List Value} (h : ∀ v ∈ vs, ∃ node, ofValue v = .ok node) :
    ∃ nodes : List Node, vs.map ofValue = nodes.map .ok := by
  induction vs
  case nil => exact ⟨[], rfl⟩
  case cons v vs hi =>
    have ⟨node, hv⟩ := h v List.mem_cons_self
    have ⟨nodes, hvs⟩ := hi fun w hw => h w (List.mem_cons_of_mem v hw)
    exact ⟨node :: nodes, by simp [hv, hvs]⟩

theorem filterMap_piece? (h : ∀ n ∈ lead, n.isHeading = false) :
    lead.filterMap piece? = (lead.filterMap content?).map .block := by
  induction lead
  case nil => rfl
  case cons n lead hi =>
    have hn := h n List.mem_cons_self
    have hl := hi fun m hm => h m (List.mem_cons_of_mem n hm)
    cases n
    case heading => cases hn
    case content => simpa [List.filterMap_cons, piece?, content?] using hl
    case aside   => simpa [List.filterMap_cons, piece?, content?] using hl

theorem dropWhile_eq_self (h : ∀ n ∈ rest.head?, n.isHeading) :
    rest.dropWhile (!·.isHeading) = rest :=
  (split_append (l := []) (by simp) fun n hn => by simp [h n hn]).2

theorem runs_map_fst (nodes : List Node) :
    (runs nodes).map Prod.fst = nodes.filterMap heading? := by
  induction nodes
  case nil => rfl
  case cons n rest hi => cases n <;> simpa [runs, heading?, List.filterMap_cons] using hi

theorem runs_cons_of_not_heading (h : n.isHeading = false) : runs (n :: rest) = runs rest := by
  cases n
  case heading => simp [isHeading] at h
  all_goals rfl

theorem runs_append_of_not_heading (h : ∀ n ∈ lead, n.isHeading = false) :
    runs (lead ++ rest) = runs rest := by
  induction lead
  case nil => rfl
  case cons n lead hi =>
    rw [List.cons_append, runs_cons_of_not_heading (h n List.mem_cons_self)]
    exact hi fun m hm => h m (List.mem_cons_of_mem n hm)

-- The last run of a stream ends where another one starts.
theorem runs_append (h : ∀ n ∈ rest.head?, n.isHeading) :
    runs (inner ++ rest) = runs inner ++ runs rest := by
  induction inner
  case nil => rfl
  case cons n inner hi =>
    cases n
    case heading =>
      have hr : rest.takeWhile (!·.isHeading) = [] :=
        (split_append (l := []) (by simp) fun n hn => by simp [h n hn]).1
      have ht : (inner ++ rest).takeWhile (!·.isHeading) = inner.takeWhile (!·.isHeading) := by
        rw [List.takeWhile_append, hr]
        split
        case isTrue hl => simp [(List.takeWhile_sublist _).eq_of_length hl]
        case isFalse   => rfl
      simp [runs, hi, ht]
    all_goals simp [runs, hi]

namespace Parts

theorem head?_isHeading (p : Parts h lead inner after) :
    ∀ n ∈ (inner ++ after).head?, n.isHeading := by
  intro n hn
  cases inner
  case nil  => exact isHeading_of_closes (p.after n hn)
  case cons => exact p.opens n hn

theorem runs_eq (p : Parts h lead inner after) :
    runs (.heading h :: (lead ++ (inner ++ after))) =
      (h, lead.filterMap content?) :: (runs inner ++ runs after) := by
  have ht : (lead ++ (inner ++ after)).takeWhile (!·.isHeading) = lead :=
    (split_append (fun n hn => by simp [p.lead n hn])
      fun n hn => by simp [p.head?_isHeading n hn]).1
  have ha : ∀ n ∈ after.head?, n.isHeading := fun n hn => isHeading_of_closes (p.after n hn)
  simp [runs, ht, runs_append_of_not_heading p.lead, runs_append ha]

end Parts
end Node

namespace Section

-- A forest written out: each section's heading, its content, and then the sections below it.
def flatten : List Section → List Piece
  | [] => []
  | ⟨title, depth, position?, content, children⟩ :: rest =>
    .heading title depth position? :: content.map .block ++ flatten children ++ flatten rest

-- The sections of a forest at all depths, each one before those below it.
def preorder : List Section → List Section
  | [] => []
  | ⟨title, depth, position?, content, children⟩ :: rest =>
    ⟨title, depth, position?, content, children⟩ :: preorder children ++ preorder rest

theorem flatten_forest (nodes : List Node) :
    flatten (forest nodes) = (nodes.dropWhile (!·.isHeading)).filterMap Node.piece? := by
  induction nodes using forest_induction
  case nil => simp [forest_nil, flatten]
  case skip n rest hn hi => simp [forest_cons_of_not_heading hn, hn, hi]
  case heading h lead inner after p hi₁ hi₂ =>
    have hl := Node.filterMap_piece? p.lead
    have hn := Node.dropWhile_eq_self p.opens
    have ha := Node.dropWhile_eq_self fun n hn => Node.isHeading_of_closes (p.after n hn)
    simp [forest_heading p, flatten, hi₁, hi₂, hn, ha, hl, Node.piece?]

theorem preorder_forest (nodes : List Node) :
    (preorder (forest nodes)).map (fun s => (s.title, s.depth, s.position?, s.content)) =
      (Node.runs nodes).map fun (h, cs) => (h.title, h.depth, h.position?, cs) := by
  induction nodes using forest_induction
  case nil => simp [forest_nil, preorder, Node.runs]
  case skip n rest hn hi => simp [forest_cons_of_not_heading hn, Node.runs_cons_of_not_heading hn, hi]
  case heading h lead inner after p hi₁ hi₂ =>
    simp [forest_heading p, p.runs_eq, preorder, hi₁, hi₂]

-- A forest has one section for each heading, in the same order.
theorem preorder_forest_headings (nodes : List Node) :
    (preorder (forest nodes)).map (fun s => (s.title, s.depth, s.position?)) =
      (nodes.filterMap Node.heading?).map fun h => (h.title, h.depth, h.position?) := by
  have h := congrArg (List.map fun (title, depth, position?, _) => (title, depth, position?))
    (preorder_forest nodes)
  rw [← Node.runs_map_fst]
  simpa [Function.comp_def] using h

-- A forest holds all that belongs to it, once and in its order. The sections are those of the
-- headings, and each one owns the content that comes after its heading and before the next one.
theorem flatten_forest_ofValues {vs : List Value}
    (h : ∀ v ∈ vs, ∃ node, Node.ofValue v = .ok node) :
    ∃ nodes : List Node,
      vs.map Node.ofValue = nodes.map .ok ∧
      Node.ofValues vs = .ok nodes ∧
      flatten (forest nodes) = (nodes.dropWhile (!·.isHeading)).filterMap Node.piece? ∧
      (preorder (forest nodes)).map (fun s => (s.title, s.depth, s.position?, s.content)) =
        (Node.runs nodes).map fun (h, cs) => (h.title, h.depth, h.position?, cs) := by
  have ⟨nodes, hn⟩ := Node.exists_nodes h
  exact ⟨nodes, hn, Node.ofValues_eq_ok hn, flatten_forest nodes, preorder_forest nodes⟩

-- A document that starts below the top, leaves out a level and ends at the top.
def jumps : List Node := [
  .content ⟨.paragraph, some "lead", [], none⟩,
  .heading ⟨2, [⟨"text", some " B ", []⟩], some ⟨3, 1⟩⟩,
  .aside   ⟨.thematicBreak, none, none⟩,
  .content ⟨.code, some "b", [], none⟩,
  .heading ⟨4, [⟨"text", some "D", []⟩], none⟩,
  .content ⟨.list, some "d", [], none⟩,
  .heading ⟨3, [⟨"text", some "C", []⟩], none⟩,
  .heading ⟨2, [⟨"text", some "E", []⟩], none⟩,
  .heading ⟨1, [⟨"text", some "A", []⟩], none⟩,
  .content ⟨.text, some "a", [], none⟩
]

theorem ofValue_jumps : ∀ v ∈ jumps.map Node.data, ∃ node, Node.ofValue v = .ok node := by
  simp only [jumps, List.map_cons, List.forall_mem_cons]
  refine ⟨⟨_, rfl⟩, ⟨_, rfl⟩, ⟨_, rfl⟩, ⟨_, rfl⟩, ⟨_, rfl⟩, ⟨_, rfl⟩, ⟨_, rfl⟩, ⟨_, rfl⟩, ⟨_, rfl⟩, ⟨_, rfl⟩, ?_⟩
  simp

theorem eq_jumps {nodes : List Node} (h : Node.ofValues (jumps.map Node.data) = .ok nodes) :
    nodes = jumps := by
  have hj : Node.ofValues (jumps.map Node.data) = .ok jumps := rfl
  exact Except.ok.inj <| h.symm.trans hj

theorem flatten_forest_jumps :
    (∀ v ∈ jumps.map Node.data, ∃ node, Node.ofValue v = .ok node) ∧
    flatten (forest jumps) = [
      .heading "B" 2 (some ⟨3, 1⟩), .block ⟨.code, some "b", [], none⟩,
      .heading "D" 4 none, .block ⟨.list, some "d", [], none⟩,
      .heading "C" 3 none, .heading "E" 2 none,
      .heading "A" 1 none, .block ⟨.text, some "a", [], none⟩
    ] ∧
    (preorder (forest jumps)).map (fun s => (s.title, s.content)) = [
      ("B", [⟨.code, some "b", [], none⟩]), ("D", [⟨.list, some "d", [], none⟩]),
      ("C", []), ("E", []), ("A", [⟨.text, some "a", [], none⟩])
    ] := by
  have ⟨nodes, _, hn, hf, hp⟩ := flatten_forest_ofValues ofValue_jumps
  obtain rfl := eq_jumps hn
  have hc := congrArg (List.map fun (title, _, _, content) => (title, content)) hp
  simp only [List.map_map] at hc
  exact ⟨ofValue_jumps, hf.trans rfl, hc.trans rfl⟩

end Section
end Outline
