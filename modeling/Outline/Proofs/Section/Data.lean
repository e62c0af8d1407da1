import Outline.Check.Checker
import Outline.Proofs.Ends
import Outline.Proofs.Node.Data
import Outline.Proofs.Section.Parent
import Outline.Section.Data

namespace Outline

namespace Node

variable {n : Node} {v : Value}

theorem ofValue_data (valid : n.Valid) : ofValue n.data = .ok n := by
  rw [ofValue, fit_data valid]

theorem valid_of_ofValue (h : ofValue v = .ok n) : n.Valid := by
  unfold ofValue at h
  split at h
  case h_1 hf =>
    obtain rfl := Except.ok.inj h
    exact valid_of_fit hf
  case h_2 => cases h

theorem ofValues_eq_mapM (vs : List Value) : ofValues vs = vs.mapM ofValue := by
  induction vs
  case nil          => rfl
  case cons v vs hi => rw [ofValues, hi, List.mapM_cons]

-- Either every value is a node, or the first one that is none is refused.
theorem ofValues_ends (vs : List Value) :
    Ends (fun nodes => vs.map ofValue = nodes.map .ok)
      (fun e => ∃ before v after, vs = before ++ v :: after ∧
        (∀ u ∈ before, ∃ n, ofValue u = .ok n) ∧ ofValue v = .error e)
      (ofValues vs) := by
  rw [ofValues_eq_mapM]
  refine (Ends.mapM (fun v => .self (ofValue v)) vs).imp (fun nodes accepted => ?_) fun _ h => h
  rwa [← List.forall₂_eq_eq_eq, List.forall₂_map_left_iff, List.forall₂_map_right_iff]

theorem valid_of_accepted {vs : List Value} {nodes : List Node} (h : vs.map ofValue = nodes.map .ok) :
    ∀ n ∈ nodes, n.Valid := by
  intro n hn
  have made : .ok n ∈ vs.map ofValue := h ▸ List.mem_map_of_mem hn
  obtain ⟨v, -, made⟩ := List.mem_map.mp made
  exact valid_of_ofValue made

end Node

namespace Section

variable {s : Section} {ss : List Section}

-- The numbers of a section, and of what it holds itself, are those that a document can have.
structure Valid (s : Section) : Prop where
  depth    : Fit.Bounds 1 (some 6) s.depth
  position : ∀ p ∈ s.position?, p.Valid
  content  : ∀ c ∈ s.content, ∀ p ∈ c.position?, p.Valid

-- A forest takes over the numbers of the nodes that it is made of.
theorem valid_forest {nodes : List Node} (valid : ∀ n ∈ nodes, n.Valid) :
    ∀ s ∈ preorder (forest nodes), s.Valid := by
  induction nodes using forest_induction
  case nil => simp [forest_nil, preorder_nil]
  case skip n rest hn hi =>
    rw [forest_cons_of_not_heading hn]
    exact hi (List.forall_mem_cons.mp valid).2
  case heading h lead inner after p hi₁ hi₂ =>
    have ⟨own, rest⟩ := List.forall_mem_cons.mp valid
    have ⟨lead, rest⟩ := List.forall_mem_append.mp rest
    have ⟨inner, after⟩ := List.forall_mem_append.mp rest
    rw [forest_heading p, preorder_cons, List.forall_mem_append, List.forall_mem_append,
      List.forall_mem_singleton]
    refine ⟨⟨own.depth, own.position, fun c hc => ?_⟩, hi₁ inner, hi₂ after⟩
    obtain ⟨n, hn, held⟩ := List.mem_filterMap.mp hc
    have valid := lead n hn
    cases n
    case content =>
      obtain rfl := Option.some.inj held
      exact valid
    all_goals cases held

theorem lookup_fitEntries (key : String) (es : List (String × Value)) :
    (fitEntries es).lookup key = (es.lookup key).map fitList :=
  Fit.lookup_rewritten (g := fun _ => fitList) (by simp [fitEntries]) (by simp [fitEntries]) key es

theorem fit_map (es : List (String × Value)) : fit (.map es) =
    Section.mk
      <$> Fit.required ["title"] Fit.text es
      <*> Fit.required ["depth"] (Fit.natFrom 1 (some 6)) es
      <*> Fit.withDefault ["position"] none (Fit.optional Position.fit) es
      <*> Fit.withDefault ["content"] [] (Fit.list Content.fit) es
      <*> Fit.withDefault ["children"] [] fitList es := by
  rw [fit, Fit.withDefault_id fun key _ => lookup_fitEntries key es]

theorem fit_data (valid : s.Valid) (below : fitItems 0 (dataList s.children) = .ok s.children) :
    fit s.data = .ok s := by
  have title : Fit.text (.text s.title) = .ok s.title := rfl
  have depth := Fit.natFrom_int valid.depth
  have position := Position.optional_fit_data? valid.position
  have content : Fit.list Content.fit (.list (s.content.map Content.data)) = .ok s.content :=
    Fit.items_map 0 fun c hc => Content.fit_data (valid.content c hc)
  have below : fitList (.list (dataList s.children)) = .ok s.children := by rwa [fitList]
  cases s
  rw [data, fit_map, Fit.required_of_lookup rfl title, Fit.required_of_lookup rfl depth,
    Fit.withDefault_of_lookup rfl position, Fit.withDefault_of_lookup rfl content,
    Fit.withDefault_of_lookup rfl below]
  rfl

-- A forest that is written as data is read as the same forest.
theorem fitItems_dataList (valid : ∀ s ∈ preorder ss, s.Valid) (index : Nat) :
    fitItems index (dataList ss) = .ok ss := by
  induction ss using sections_induction generalizing index
  case nil => simp [dataList, fitItems]
  case cons s rest inner after =>
    rw [preorder_cons, List.forall_mem_append, List.forall_mem_append, List.forall_mem_singleton] at valid
    obtain ⟨own, below, beyond⟩ := valid
    simp [dataList, fitItems, fit_data own (inner below 0), after beyond]

-- The forest of nodes that are still data.
def ofValues (vs : List Value) : Except NodeError (List Section) := (Node.ofValues vs).map forest

-- Checks a forest that is still data.
def check (s : Schema) (o : Options) (v : Value) : Fit (Except PatternError (List Diagnostic)) :=
  Fit.map (fun sections => (Checker.ofSchema s o).map (·.diagnostics sections)) (fitList v)

-- Nodes and forests can be passed on as data: nodes that are written down are read as the same nodes,
-- whatever they were read from, and so make the same forest, which is read again from what it is
-- written as and is checked as the nodes are. If there is a value that is no node, then there is no
-- forest, even if the node would not be a part of it.
theorem ofValues_data (vs : List Value) :
    Ends
      (fun nodes =>
        vs.map Node.ofValue = nodes.map .ok ∧
        (nodes.map Node.data).map Node.ofValue = nodes.map .ok ∧
        ofValues vs = .ok (forest nodes) ∧
        ofValues (nodes.map Node.data) = .ok (forest nodes) ∧
        fitList (.list (dataList (forest nodes))) = .ok (forest nodes) ∧
        ∀ s o, check s o (.list (dataList (forest nodes))) = .ok (checkNodes s o nodes))
      (fun e => ofValues vs = .error e ∧ ∃ before v after, vs = before ++ v :: after ∧
        (∀ u ∈ before, ∃ n, Node.ofValue u = .ok n) ∧ Node.ofValue v = .error e)
      (Node.ofValues vs) := by
  cases h : Node.ofValues vs
  case error e => exact ⟨by simp [ofValues, h, Except.map], (Node.ofValues_ends vs).of_error h⟩
  case ok nodes =>
    have accepted := (Node.ofValues_ends vs).of_ok h
    have valid := Node.valid_of_accepted accepted
    have again : (nodes.map Node.data).map Node.ofValue = nodes.map .ok := by
      rw [List.map_map]
      exact List.map_congr_left fun n hn => Node.ofValue_data (valid n hn)
    have rebuilt : fitList (.list (dataList (forest nodes))) = .ok (forest nodes) := by
      rw [fitList, fitItems_dataList (valid_forest valid)]
    refine ⟨accepted, again, ?_, ?_, rebuilt, fun s o => ?_⟩
    case refine_1 => simp [ofValues, h, Except.map]
    case refine_2 => simp [ofValues, Node.ofValues_eq_ok again, Except.map]
    case refine_3 =>
      rw [check, rebuilt, Fit.map_ok, checkNodes]
      cases Checker.ofSchema s o <;> rfl

end Section
end Outline
