import Outline.Proofs.Section.Parent
import Outline.Proofs.Service.Agreement

namespace Outline

theorem length_pick_eq_iff {α : Type} {p : Nat → Prop} [DecidablePred p] {l : List α} :
    (pick p l).length = l.length ↔ ∀ i < l.length, p i := by
  have all : (∀ x ∈ l.zipIdx, p x.2) ↔ ∀ i < l.length, p i := by
    simp [List.forall_mem_iff_getElem]
  have same := List.length_filter_eq_length_iff (p := fun x => decide (p x.2)) (l := l.zipIdx)
  rw [List.length_zipIdx] at same
  simpa [pick, ← all] using same

theorem length_pick_le {α : Type} {p : Nat → Prop} [DecidablePred p] {l : List α} :
    (pick p l).length ≤ l.length := by
  rw [pick, List.length_map, ← List.length_zipIdx (l := l)]
  exact List.length_filter_le ..

-- No number is smaller than one after it just if none is after a smaller one.
theorem forall_noneSmaller_iff {ds : List Nat} :
    (∀ i < ds.length, NoneSmaller ds i) ↔ ds.Pairwise (· ≥ ·) := by
  rw [List.pairwise_iff_getElem]
  constructor
  case mp =>
    intro h j i hj hi less
    simpa [hj, hi] using h i hi j less
  case mpr =>
    intro h i hi j less
    have hj : j < ds.length := by omega
    simpa [hj, hi] using h j i hj hi less

namespace Section

theorem count_eq_length_preorder (sections : List Section) :
    count sections = (preorder sections).length := by
  induction sections using sections_induction
  case nil => rw [preorder_nil, count]; rfl
  case cons s rest hi₁ hi₂ =>
    cases s
    rw [preorder_cons, count, hi₁, hi₂]
    simp

variable (nodes : List Node)

theorem map_depth_preorder_forest :
    (preorder (forest nodes)).map depth = (nodes.filterMap Node.heading?).map Heading.depth := by
  simpa [Function.comp_def] using congrArg (List.map fun x => x.2.1) (preorder_forest_headings nodes)

-- At all depths there is one section for each heading.
theorem count_forest : count (forest nodes) = (nodes.filterMap Node.heading?).length := by
  have depths := congrArg List.length (map_depth_preorder_forest nodes)
  rw [List.length_map, List.length_map] at depths
  rw [count_eq_length_preorder, depths]

-- At the top there is one for each heading before which none is less deep.
theorem length_forest :
    (forest nodes).length = (pick (NoneSmaller ((nodes.filterMap Node.heading?).map Heading.depth))
      (nodes.filterMap Node.heading?)).length := by
  have top := congrArg (List.map depth) (nested_forest nodes).pick_noneSmaller
  rw [pick_map, map_depth_preorder_forest, ← pick_map] at top
  simpa using (congrArg List.length top).symm

-- The number of sections at the top of a document, and what it says of all of them.
structure Tally (nodes : List Node) (number : Nat) : Prop where
  top    : number = (pick (NoneSmaller ((nodes.filterMap Node.heading?).map Heading.depth))
    (nodes.filterMap Node.heading?)).length
  all    : count (forest nodes) = (nodes.filterMap Node.heading?).length
  le     : number ≤ count (forest nodes)
  -- It is the number of all of them just if no heading is deeper than one before it.
  eq_iff : number = count (forest nodes) ↔
    ((nodes.filterMap Node.heading?).map Heading.depth).Pairwise (· ≥ ·)

theorem tally_forest : Tally nodes (forest nodes).length where
  top    := length_forest nodes
  all    := count_forest nodes
  le     := by
    rw [length_forest, count_forest]
    exact length_pick_le
  eq_iff := by
    rw [length_forest, count_forest, length_pick_eq_iff, ← forall_noneSmaller_iff, List.length_map]

end Section

namespace Service

variable {σ : Type} {r : Request} {count : Nat} {diagnostics : List Diagnostic}

theorem check_eq_checked {schema : Except Schema.LoadError Schema}
    (h : check r schema = .checked count diagnostics) :
    ∃ nodes, Document.nodes .markdown r.markdown = .ok nodes ∧ count = (Section.forest nodes).length := by
  unfold check at h
  split at h
  case h_1 => split at h <;> cases h
  case h_2 =>
    dsimp only at h
    split at h
    case h_1 => split at h <;> cases h
    case h_2 => cases h
    case h_3 nodes _ read =>
      cases h
      exact ⟨nodes, read, rfl⟩

theorem validate_eq_checked {send : Web.Send σ} {p : Web.Patience Double} {hosts : List String} {s : σ}
    (h : (validate send p hosts r s).answer = .checked count diagnostics) :
    ∃ schema, check r schema = .checked count diagnostics := by
  unfold validate at h
  split at h
  case h_1 => exact ⟨_, h⟩
  case h_2 =>
    split at h
    case h_1 => exact ⟨_, h⟩
    all_goals cases h

theorem respond_eq_checked {send : Web.Send σ} {general : Outline.Settings} {own : Settings}
    {method path : String} {body : Except BodyError Body} {s : σ}
    (h : (respond send general own method path body s).answer = .checked count diagnostics) :
    ∃ r, body.map (Request.ofBody own.characterLimit general.ruleId) = .ok (.ok r) ∧
      (validate send general.patience own.allowlist r s).answer = .checked count diagnostics := by
  unfold respond at h
  split at h
  case h_1 =>
    unfold answerBody at h
    split at h
    case h_3 =>
      split at h
      case h_1 => cases h
      case h_2 r fits => exact ⟨r, by simp [Except.map, fits], h⟩
    all_goals cases h
  all_goals cases h

-- An answer counts the sections at the top of the document that the request is for.
theorem respond_counts (send : Web.Send σ) (general : Outline.Settings) (own : Settings)
    (method path : String) (body : Except BodyError Body) (s : σ)
    (h : (respond send general own method path body s).answer = .checked count diagnostics) :
    ∃ r nodes, body.map (Request.ofBody own.characterLimit general.ruleId) = .ok (.ok r) ∧
      Document.nodes .markdown r.markdown = .ok nodes ∧ Section.Tally nodes count := by
  have ⟨r, fits, validated⟩ := respond_eq_checked h
  have ⟨schema, checked⟩ := validate_eq_checked validated
  obtain ⟨nodes, read, rfl⟩ := check_eq_checked checked
  exact ⟨r, nodes, fits, read, Section.tally_forest nodes⟩

def nestedText : String := "# A\n\n## B\n"

def nestedBody : Body := .inline nestedText [("sections", .list [])] Options.defaultRuleId false false

theorem nodes_nested : Ends (fun nodes => (Section.forest nodes).length = 1 ∧
    (checkerOf ⟨[], none, none, none⟩ Options.defaultRuleId false false).diagnostics
      (Section.forest nodes) = [] ∧
    (nodes.filterMap Node.heading?).length = 2) (fun _ => False)
      (Document.nodes .markdown nestedText) := by
  decide +kernel

theorem respond_nested :
    (respond Web.unreachable .default .default "POST" "/api/validate" (.ok nestedBody) ()).answer =
      .checked 1 [] := by
  have made : ownSchema [("sections", .list [])] = .ok ⟨[], none, none, none⟩ := by cbv
  obtain ⟨nodes, read⟩ := exists_documentNodes nestedText
  obtain ⟨top, diagnostics, _⟩ := nodes_nested.of_ok read
  rw [nestedBody, respond_inline Web.unreachable _ _ (by decide +kernel), made,
    check_ok ⟨nestedText, .inline [("sections", .list [])], Options.defaultRuleId, false, false⟩ made
      read, top, diagnostics]

theorem respond_counts_nested :
    (respond Web.unreachable .default .default "POST" "/api/validate" (.ok nestedBody) ()).answer =
        .checked 1 [] ∧
      ∃ r nodes, Request.ofBody Settings.default.characterLimit Options.defaultRuleId nestedBody = .ok r ∧
        Document.nodes .markdown r.markdown = .ok nodes ∧ Section.Tally nodes 1 := by
  obtain ⟨r, nodes, fits, read, tally⟩ :=
    respond_counts Web.unreachable .default .default "POST" "/api/validate" (.ok nestedBody) ()
      respond_nested
  exact ⟨respond_nested, r, nodes, Except.ok.inj fits, read, tally⟩

-- One section is answered, although there are two.
theorem not_counts_nested :
    (respond Web.unreachable .default .default "POST" "/api/validate" (.ok nestedBody) ()).answer =
        .checked 1 [] ∧
      ∃ nodes, Document.nodes .markdown nestedText = .ok nodes ∧
        (nodes.filterMap Node.heading?).length = 2 := by
  obtain ⟨nodes, read⟩ := exists_documentNodes nestedText
  obtain ⟨_, _, headings⟩ := nodes_nested.of_ok read
  exact ⟨respond_nested, nodes, read, headings⟩

end Service
end Outline
