import Outline.Proofs.Section.Flat

namespace Outline

-- The items at the places of which `p` holds.
def pick {α : Type} (p : Nat → Prop) [DecidablePred p] (l : List α) : List α :=
  (l.zipIdx.filter fun x => p x.2).map Prod.fst

section

variable {α : Type} {p q : Nat → Prop} [DecidablePred p] [DecidablePred q] {a : α} {l r : List α}

@[simp]
theorem pick_nil : pick p ([] : List α) = [] :=
  rfl

theorem pick_singleton : pick p [a] = if p 0 then [a] else [] := by
  by_cases h : p 0 <;> simp [pick, h]

theorem pick_append : pick p (l ++ r) = pick p l ++ pick (fun i => p (l.length + i)) r := by
  have h : r.zipIdx l.length = r.zipIdx.map fun x => (x.1, l.length + x.2) :=
    List.zipIdx_eq_map_add
  simp [pick, List.zipIdx_append, h, List.filter_map, Function.comp_def]

theorem pick_map {β : Type} {f : α → β} : (pick p l).map f = pick p (l.map f) := by
  simp [pick, List.zipIdx_map, List.filter_map, Function.comp_def]

theorem pick_congr (h : ∀ i < l.length, p i ↔ q i) : pick p l = pick q l := by
  refine congrArg _ <| List.filter_congr fun x hx => ?_
  simpa using h x.2 (by simpa using List.snd_lt_of_mem_zipIdx hx)

theorem pick_eq_nil (h : ∀ i < l.length, ¬p i) : pick p l = [] := by
  simp only [pick, List.map_eq_nil_iff, List.filter_eq_nil_iff]
  intro x hx
  simpa using h x.2 (by simpa using List.snd_lt_of_mem_zipIdx hx)

end

-- No number before the `i`-th one is smaller.
def NoneSmaller (ds : List Nat) (i : Nat) : Prop :=
  ∀ j < i, ds.getD i 0 ≤ ds.getD j 0

-- The `k`-th number is the latest one before the `i`-th one that is smaller.
def LatestSmaller (ds : List Nat) (k i : Nat) : Prop :=
  k < i ∧ ds.getD k 0 < ds.getD i 0 ∧ ∀ j < i, k < j → ds.getD i 0 ≤ ds.getD j 0

instance {ds : List Nat} : DecidablePred (NoneSmaller ds) :=
  fun i => inferInstanceAs <| Decidable (∀ j < i, ds.getD i 0 ≤ ds.getD j 0)

instance {ds : List Nat} {k : Nat} : DecidablePred (LatestSmaller ds k) :=
  fun _ => inferInstanceAs <| Decidable (_ ∧ _ ∧ _)

-- Numbers between the two that are compared are all that counts, so a window onto them is enough.
theorem latestSmaller_window {ds ds' : List Nat} {a k i : Nat}
    (h : ∀ j ≤ i, ds.getD (a + j) 0 = ds'.getD j 0) :
    LatestSmaller ds (a + k) (a + i) ↔ LatestSmaller ds' k i := by
  constructor
  case mp =>
    intro ⟨hk, hd, hn⟩
    rw [h k (by omega), h i (by omega)] at hd
    refine ⟨by omega, hd, fun j hj hkj => ?_⟩
    rw [← h i (by omega), ← h j (by omega)]
    exact hn (a + j) (by omega) (by omega)
  case mpr =>
    intro ⟨hk, hd, hn⟩
    refine ⟨by omega, by rwa [h k (by omega), h i (by omega)], fun j hj hkj => ?_⟩
    obtain ⟨j, rfl⟩ : ∃ j', j = a + j' := ⟨j - a, by omega⟩
    rw [h i (by omega), h j (by omega)]
    exact hn j (by omega) (by omega)

-- The depths of a section, of all below it, and of all after it.
structure Block (d : Nat) (below after : List Nat) : Prop where
  below : ∀ x ∈ below, d < x
  after : ∀ x ∈ after.head?, x ≤ d

namespace Block

variable {d : Nat} {below after : List Nat}

theorem getD_below {i : Nat} (h : i < below.length) :
    ([d] ++ (below ++ after)).getD (1 + i) 0 = below.getD i 0 := by
  simp [Nat.add_comm 1, List.getElem?_append, h]

theorem getD_after {i : Nat} :
    ([d] ++ (below ++ after)).getD (1 + (below.length + i)) 0 = after.getD i 0 := by
  simp [Nat.add_comm 1, List.getElem?_append_right]

theorem lt_getD (b : Block d below after) {i : Nat} (h : i < below.length) : d < below.getD i 0 := by
  simp [h]
  exact b.below _ (List.getElem_mem h)

theorem getD_zero_le (b : Block d below after) : after.getD 0 0 ≤ d := by
  cases after
  case nil  => simp
  case cons => exact b.after _ (by simp)

-- A number is that of the section, of one below it, or of one after it.
theorem place (below : List Nat) (j : Nat) :
    j = 0 ∨ (∃ i < below.length, j = 1 + i) ∨ ∃ i, j = 1 + (below.length + i) := by
  by_cases h₀ : j = 0
  case pos => exact .inl h₀
  case neg =>
    by_cases h₁ : j - 1 < below.length
    case pos => exact .inr <| .inl ⟨j - 1, h₁, by omega⟩
    case neg => exact .inr <| .inr ⟨j - 1 - below.length, by omega⟩

-- What comes after the section starts at a depth that all below the section is beyond.
theorem getD_after_le (b : Block d below after) {i : Nat}
    (h : 0 < i → after.getD i 0 ≤ after.getD 0 0) : after.getD i 0 ≤ d := by
  cases i
  case zero   => exact b.getD_zero_le
  case succ i => exact Nat.le_trans (h (by omega)) b.getD_zero_le

theorem noneSmaller_zero : NoneSmaller ([d] ++ (below ++ after)) 0 :=
  fun _ h => absurd h (Nat.not_lt_zero _)

theorem not_latestSmaller_zero {k : Nat} : ¬LatestSmaller ([d] ++ (below ++ after)) k 0 :=
  fun h => absurd h.1 (Nat.not_lt_zero k)

theorem noneSmaller_below (b : Block d below after) {i : Nat} (h : i < below.length) :
    ¬NoneSmaller ([d] ++ (below ++ after)) (1 + i) := by
  intro hn
  have hd := hn 0 (by omega)
  rw [getD_below h] at hd
  exact absurd (b.lt_getD h) (Nat.not_lt_of_le hd)

theorem noneSmaller_after (b : Block d below after) {i : Nat} :
    NoneSmaller ([d] ++ (below ++ after)) (1 + (below.length + i)) ↔ NoneSmaller after i := by
  constructor
  case mp =>
    intro hn j hj
    have h := hn (1 + (below.length + j)) (by omega)
    rwa [getD_after, getD_after] at h
  case mpr =>
    intro hn j hj
    rw [getD_after]
    have hd := b.getD_after_le (hn 0)
    obtain rfl | ⟨j, h, rfl⟩ | ⟨j, rfl⟩ := place below j
    case inl     => exact hd
    case inr.inl => rw [getD_below h]; exact Nat.le_of_lt <| Nat.lt_of_le_of_lt hd (b.lt_getD h)
    case inr.inr => rw [getD_after]; exact hn j (by omega)

theorem latestSmaller_zero_below (b : Block d below after) {i : Nat} (h : i < below.length) :
    LatestSmaller ([d] ++ (below ++ after)) 0 (1 + i) ↔ NoneSmaller below i := by
  constructor
  case mp =>
    intro ⟨_, _, hn⟩ j hj
    have hl := hn (1 + j) (by omega) (by omega)
    rwa [getD_below h, getD_below (by omega)] at hl
  case mpr =>
    intro hn
    refine ⟨by omega, by rw [getD_below h]; exact b.lt_getD h, fun j hj hk => ?_⟩
    rw [getD_below h]
    obtain rfl | ⟨j, hb, rfl⟩ | ⟨j, rfl⟩ := place below j
    case inl     => omega
    case inr.inl => rw [getD_below hb]; exact hn j (by omega)
    case inr.inr => omega

theorem latestSmaller_below {k i : Nat} (h : i < below.length) :
    LatestSmaller ([d] ++ (below ++ after)) (1 + k) (1 + i) ↔ LatestSmaller below k i :=
  latestSmaller_window fun _ hj => getD_below (Nat.lt_of_le_of_lt hj h)

theorem latestSmaller_after {k i : Nat} :
    LatestSmaller ([d] ++ (below ++ after)) (1 + (below.length + k)) (1 + (below.length + i)) ↔
      LatestSmaller after k i := by
  rw [← Nat.add_assoc, ← Nat.add_assoc]
  exact latestSmaller_window fun _ _ => by rw [Nat.add_assoc, getD_after]

-- Nothing after the section belongs to it or to one below it.
theorem not_latestSmaller_after (b : Block d below after) {k i : Nat} (hk : k < 1 + below.length) :
    ¬LatestSmaller ([d] ++ (below ++ after)) k (1 + (below.length + i)) := by
  intro ⟨_, hlt, hn⟩
  rw [getD_after] at hlt
  have hd : after.getD i 0 ≤ d := by
    refine b.getD_after_le fun hi => ?_
    have h := hn (1 + (below.length + 0)) (by omega) (by omega)
    rwa [getD_after, getD_after] at h
  obtain rfl | ⟨k, h, rfl⟩ | ⟨k, rfl⟩ := place below k
  case inl     => exact absurd hlt (Nat.not_lt_of_le hd)
  case inr.inl =>
    rw [getD_below h] at hlt
    have := b.lt_getD h
    omega
  case inr.inr => omega

end Block

namespace Section

-- Every section is less deep than those right below it, and none is deeper than one before it at
-- its level.
def Nested : List Section → Prop
  | [] => True
  | ⟨_, depth, _, _, children⟩ :: rest =>
    (∀ s ∈ children, depth < s.depth) ∧ (∀ s ∈ rest, s.depth ≤ depth) ∧ Nested children ∧ Nested rest

variable {s : Section} {sections rest : List Section} {d : Nat}

-- The induction on a forest: on the sections below the first one, and on those after it.
theorem sections_induction {P : List Section → Prop} (nil : P [])
    (cons : ∀ s rest, P s.children → P rest → P (s :: rest)) : ∀ sections, P sections
  | [] => nil
  | ⟨_, _, _, _, children⟩ :: rest =>
    cons _ rest (sections_induction nil cons children) (sections_induction nil cons rest)

theorem preorder_nil : preorder [] = [] := by
  simp [preorder]

theorem preorder_cons : preorder (s :: rest) = [s] ++ (preorder s.children ++ preorder rest) := by
  cases s
  simp [preorder]

theorem nested_nil : Nested [] := by
  simp [Nested]

theorem nested_cons : Nested (s :: rest) ↔ (∀ t ∈ s.children, s.depth < t.depth) ∧
    (∀ t ∈ rest, t.depth ≤ s.depth) ∧ Nested s.children ∧ Nested rest := by
  cases s
  simp [Nested]

theorem Nested.lt_depth (n : Nested sections) (h : ∀ s ∈ sections, d < s.depth) :
    ∀ s ∈ preorder sections, d < s.depth := by
  induction sections using sections_induction generalizing d
  case nil => simp [preorder_nil]
  case cons s rest hi₁ hi₂ =>
    have ⟨hc, _, hn, hr⟩ := nested_cons.mp n
    have hd := h s List.mem_cons_self
    intro t ht
    simp only [preorder_cons, List.mem_append, List.mem_singleton] at ht
    obtain rfl | ht | ht := ht
    case inl     => exact hd
    case inr.inl => exact hi₁ hn (fun u hu => Nat.lt_trans hd (hc u hu)) t ht
    case inr.inr => exact hi₂ hr (fun u hu => h u (List.mem_cons_of_mem s hu)) t ht

theorem Nested.block (n : Nested (s :: rest)) :
    Block s.depth ((preorder s.children).map depth) ((preorder rest).map depth) where
  below x hx := by
    have ⟨hc, _, hn, _⟩ := nested_cons.mp n
    have ⟨t, ht, hx⟩ := List.mem_map.mp hx
    exact hx ▸ hn.lt_depth hc t ht
  after x hx := by
    cases rest
    case nil => simp [preorder_nil] at hx
    case cons t rest =>
      have ⟨_, hr, _⟩ := nested_cons.mp n
      obtain rfl : t.depth = x := by simpa [preorder_cons] using hx
      exact hr t List.mem_cons_self

theorem pick_preorder_cons {p : Nat → Prop} [DecidablePred p] :
    pick p (preorder (s :: rest)) = (if p 0 then [s] else []) ++
      (pick (fun i => p (1 + i)) (preorder s.children) ++
        pick (fun i => p (1 + (((preorder s.children).map depth).length + i))) (preorder rest)) := by
  simp only [preorder_cons, pick_append, pick_singleton, List.length_map]
  rfl

theorem map_depth_preorder_cons : (preorder (s :: rest)).map depth =
    [s.depth] ++ ((preorder s.children).map depth ++ (preorder rest).map depth) := by
  simp [preorder_cons]

theorem Nested.pick_noneSmaller (n : Nested sections) :
    pick (NoneSmaller ((preorder sections).map depth)) (preorder sections) = sections := by
  induction sections using sections_induction
  case nil => simp [preorder_nil]
  case cons s rest hi₁ hi₂ =>
    have ⟨_, _, hn, hr⟩ := nested_cons.mp n
    have b := n.block
    rw [pick_preorder_cons]
    simp only [map_depth_preorder_cons, Block.noneSmaller_zero, if_true]
    rw [pick_eq_nil fun i hi => b.noneSmaller_below (by simpa using hi)]
    rw [pick_congr fun i _ => b.noneSmaller_after, hi₂ hr]
    rfl

theorem Nested.pick_latestSmaller (n : Nested sections) {k : Nat} (h : (preorder sections)[k]? = some s) :
    pick (LatestSmaller ((preorder sections).map depth) k) (preorder sections) = s.children := by
  induction sections using sections_induction generalizing k
  case nil => simp [preorder_nil] at h
  case cons t rest hi₁ hi₂ =>
    have ⟨_, _, hn, hr⟩ := nested_cons.mp n
    have b := n.block
    rw [pick_preorder_cons]
    simp only [map_depth_preorder_cons, Block.not_latestSmaller_zero, if_false, List.nil_append]
    obtain rfl | ⟨k, hk, rfl⟩ | ⟨k, rfl⟩ := Block.place ((preorder t.children).map depth) k
    case inl =>
      obtain rfl : t = s := by simpa [preorder_cons] using h
      rw [pick_congr fun i hi => b.latestSmaller_zero_below (by simpa using hi), hn.pick_noneSmaller]
      rw [pick_eq_nil fun i _ => b.not_latestSmaller_after (by omega), List.append_nil]
    case inr.inl =>
      have hs : (preorder t.children)[k]? = some s := by
        rw [List.length_map] at hk
        simpa [preorder_cons, Nat.add_comm 1, List.getElem?_append_left hk] using h
      rw [pick_congr fun i hi => Block.latestSmaller_below (by simpa using hi), hi₁ hn hs]
      rw [pick_eq_nil fun i _ => b.not_latestSmaller_after (by omega), List.append_nil]
    case inr.inr =>
      have hs : (preorder rest)[k]? = some s := by
        simpa [preorder_cons, Nat.add_comm 1, List.getElem?_append_right] using h
      rw [pick_congr fun i _ => Block.latestSmaller_after, hi₂ hr hs]
      rw [pick_eq_nil fun i hi hl => absurd hl.1 ?_, List.nil_append]
      simp only [List.length_map]
      omega

theorem mem_preorder {s : Section} (h : s ∈ sections) : s ∈ preorder sections := by
  induction sections using sections_induction
  case nil => cases h
  case cons t rest _ hi =>
    rw [preorder_cons]
    cases h
    case head   => simp
    case tail h => simp [hi h]

theorem exists_heading {nodes : List Node} {s : Section} (h : s ∈ preorder (forest nodes)) :
    ∃ g, .heading g ∈ nodes ∧ s.title = g.title ∧ s.depth = g.depth := by
  have hs := List.mem_map_of_mem (f := fun s => (s.title, s.depth, s.position?)) h
  rw [preorder_forest_headings] at hs
  have ⟨g, hg, he⟩ := List.mem_map.mp hs
  have ⟨node, hn, hh⟩ := List.mem_filterMap.mp hg
  cases node <;> simp_all [Node.heading?]
  exact ⟨g, hn, by simp_all⟩

theorem nested_forest (nodes : List Node) : Nested (forest nodes) := by
  induction nodes using forest_induction
  case nil => rw [forest_nil]; exact nested_nil
  case skip n rest hn hi => rwa [forest_cons_of_not_heading hn]
  case heading h lead inner after p hi₁ hi₂ =>
    rw [forest_heading p]
    refine nested_cons.mpr ⟨fun s hs => ?_, fun s hs => ?_, hi₁, hi₂⟩
    case refine_1 =>
      have ⟨g, hg, _, hd⟩ := exists_heading (mem_preorder hs)
      simpa [Node.closes, hd] using p.inner _ hg
    case refine_2 =>
      cases after
      case nil => simp [forest_nil] at hs
      case cons node rest =>
        have hc := p.after node rfl
        cases node
        case heading g =>
          -- The next section closes this one, and those after it are no deeper than it.
          have hg : g.depth ≤ h.depth := by simpa [Node.closes] using hc
          obtain ⟨lead, inner, after, rfl, q⟩ := Node.exists_parts g rest
          rw [forest_heading q] at hs hi₂
          cases hs
          case head    => exact hg
          case tail hs => exact Nat.le_trans ((nested_cons.mp hi₂).2.1 s hs) hg
        all_goals simp [Node.closes] at hc

-- In a forest the sections of the headings stand as the depths ask for: below the section of the
-- `k`-th heading are, in order, those of the headings before which the `k`-th one is the latest
-- that is less deep, and at the top are those before which there is none.
theorem forest_parents {vs : List Value} (h : ∀ v ∈ vs, ∃ node, Node.ofValue v = .ok node) :
    ∃ nodes : List Node,
      vs.map Node.ofValue = nodes.map .ok ∧
      Node.ofValues vs = .ok nodes ∧
      let headings := nodes.filterMap Node.heading?
      let depths := headings.map Heading.depth
      let all := preorder (forest nodes)
      all.map (fun s => (s.title, s.depth, s.position?)) =
        headings.map (fun h => (h.title, h.depth, h.position?)) ∧
      forest nodes = pick (NoneSmaller depths) all ∧
      (∀ k s, all[k]? = some s → s.children = pick (LatestSmaller depths k) all) ∧
      Nested (forest nodes) ∧
      ∀ s ∈ all, Text.trim s.title = s.title := by
  have ⟨nodes, hn⟩ := Node.exists_nodes h
  have hh := preorder_forest_headings nodes
  have hd : (nodes.filterMap Node.heading?).map Heading.depth =
      (preorder (forest nodes)).map Section.depth := by
    simpa [Function.comp_def] using congrArg (List.map fun x => x.2.1) hh.symm
  refine ⟨nodes, hn, Node.ofValues_eq_ok hn, hh, ?_, ?_, nested_forest nodes, ?_⟩
  case refine_1 => simp only [hd, (nested_forest nodes).pick_noneSmaller]
  case refine_2 =>
    intro k s hs
    simp only [hd, (nested_forest nodes).pick_latestSmaller hs]
  case refine_3 =>
    intro s hs
    have ⟨g, _, ht, _⟩ := exists_heading hs
    rw [ht]
    exact Text.trim_trim _

theorem forest_parents_jumps :
    (∀ v ∈ jumps.map Node.data, ∃ node, Node.ofValue v = .ok node) ∧
    (preorder (forest jumps)).map title = ["B", "D", "C", "E", "A"] ∧
    (forest jumps).map title = ["B", "E", "A"] ∧
    ∀ s, (preorder (forest jumps))[0]? = some s → s.children.map title = ["D", "C"] := by
  have ⟨nodes, _, hn, hh, hr, hc, _⟩ := forest_parents ofValue_jumps
  obtain rfl := eq_jumps hn
  have ht : (preorder (forest jumps)).map title = ["B", "D", "C", "E", "A"] := by
    have hf := congrArg (List.map Prod.fst) hh
    simp only [List.map_map] at hf
    exact hf.trans rfl
  refine ⟨ofValue_jumps, ht, ?_, fun s hs => ?_⟩
  case refine_1 => rw [hr, pick_map, ht]; decide
  case refine_2 => rw [hc 0 s hs, pick_map, ht]; decide

end Section
end Outline
