import Mathlib.Data.Option.Basic
import Mathlib.Data.Set.Monotone
import Outline.Proofs.Check.Listing
import Outline.Proofs.Section.Flat

namespace Outline

namespace Heading

-- The heading at another depth.
def mapDepth (g : Nat → Nat) (h : Heading) : Heading := { h with depth := g h.depth }

end Heading

namespace Node

def mapDepth (g : Nat → Nat) : Node → Node
  | heading h => heading (h.mapDepth g)
  | n         => n

-- The depths of the headings of a document.
def depths (nodes : List Node) : Set Nat := {d | ∃ h, heading h ∈ nodes ∧ h.depth = d}

variable {g : Nat → Nat} {n : Node} {nodes nodes' : List Node}

@[simp]
theorem isHeading_mapDepth : (n.mapDepth g).isHeading = n.isHeading := by
  cases n <;> rfl

@[simp]
theorem content?_mapDepth : (n.mapDepth g).content? = n.content? := by
  cases n <;> rfl

theorem mapDepth_of_not_heading (h : n.isHeading = false) : n.mapDepth g = n := by
  cases n
  case heading => cases h
  all_goals rfl

theorem depths_subset (h : nodes' ⊆ nodes) : depths nodes' ⊆ depths nodes :=
  fun _ ⟨g, hg, hd⟩ => ⟨g, h hg, hd⟩

theorem closes_mapDepth {d : Nat} (m : StrictMonoOn g (depths nodes)) (hn : n ∈ nodes)
    (hd : d ∈ depths nodes) : (n.mapDepth g).closes (g d) = n.closes d := by
  cases n
  case heading h =>
    have hh : h.depth ∈ depths nodes := ⟨h, hn, rfl⟩
    simp [mapDepth, Heading.mapDepth, closes, m.le_iff_le hh hd]
  all_goals rfl

-- What is below a heading, and what is not, is told by which depths are greater.
theorem Parts.mapDepth {h : Heading} {lead inner after : List Node}
    (m : StrictMonoOn g (depths (.heading h :: (lead ++ (inner ++ after)))))
    (p : Parts h lead inner after) :
    Parts (h.mapDepth g) (lead.map (Node.mapDepth g)) (inner.map (Node.mapDepth g))
      (after.map (Node.mapDepth g)) where
  lead  := by simpa using p.lead
  opens := by simpa using p.opens
  inner := by
    simp only [List.forall_mem_map]
    intro n hn
    exact (closes_mapDepth m (by simp [hn]) ⟨h, List.mem_cons_self, rfl⟩).trans (p.inner n hn)
  after := by
    simp only [List.head?_map, Option.forall_mem_map]
    intro n hn
    have hm : n ∈ after := List.mem_of_mem_head? hn
    exact (closes_mapDepth m (by simp [hm]) ⟨h, List.mem_cons_self, rfl⟩).trans (p.after n hn)

end Node

namespace Section

mutual

def mapDepth (g : Nat → Nat) : Section → Section
  | ⟨title, depth, position?, content, children⟩ =>
    ⟨title, g depth, position?, content, mapDepths g children⟩

-- The same forest, with other depths.
def mapDepths (g : Nat → Nat) : List Section → List Section
  | []      => []
  | s :: ss => s.mapDepth g :: mapDepths g ss

end

variable {g : Nat → Nat} {s : Section} {ss : List Section}

@[simp]
theorem mapDepths_nil : mapDepths g [] = [] := by
  simp [mapDepths]

@[simp]
theorem mapDepths_cons : mapDepths g (s :: ss) = s.mapDepth g :: mapDepths g ss := by
  simp [mapDepths]

@[simp]
theorem title_mapDepth : (s.mapDepth g).title = s.title := by
  cases s
  simp [mapDepth]

@[simp]
theorem position?_mapDepth : (s.mapDepth g).position? = s.position? := by
  cases s
  simp [mapDepth]

@[simp]
theorem content_mapDepth : (s.mapDepth g).content = s.content := by
  cases s
  simp [mapDepth]

@[simp]
theorem children_mapDepth : (s.mapDepth g).children = mapDepths g s.children := by
  cases s
  simp [mapDepth]

theorem isNonEmpty_mapDepth {types : List String} {allowChildren : Bool} :
    (s.mapDepth g).isNonEmpty types allowChildren = s.isNonEmpty types allowChildren := by
  have h : (mapDepths g s.children).isEmpty = s.children.isEmpty := by cases s.children <;> simp
  simp [isNonEmpty, h]

theorem forest_mapDepth {nodes : List Node} (m : StrictMonoOn g (Node.depths nodes)) :
    forest (nodes.map (Node.mapDepth g)) = mapDepths g (forest nodes) := by
  induction nodes using forest_induction
  case nil => simp [forest_nil]
  case skip n rest hn hi =>
    have hm := m.mono <| Node.depths_subset (List.subset_cons_self n rest)
    rw [List.map_cons, forest_cons_of_not_heading (by simpa using hn), forest_cons_of_not_heading hn,
      hi hm]
  case heading h lead inner after p hi₁ hi₂ =>
    have inside : inner ⊆ .heading h :: (lead ++ (inner ++ after)) := fun n hn => by simp [hn]
    have behind : after ⊆ .heading h :: (lead ++ (inner ++ after)) := fun n hn => by simp [hn]
    have hi := m.mono <| Node.depths_subset inside
    have ha := m.mono <| Node.depths_subset behind
    have hl : lead.map (Node.mapDepth g) = lead :=
      (List.map_congr_left fun n hn => Node.mapDepth_of_not_heading (p.lead n hn)).trans lead.map_id
    simp only [List.map_cons, List.map_append, Node.mapDepth]
    rw [forest_heading (p.mapDepth m), forest_heading p, hi₁ hi, hi₂ ha, hl, mapDepths_cons, mapDepth]
    rfl

end Section

-- What is said of a section that has been put at another depth.
def Event.mapDepth (g : Nat → Nat) : Event → Event
  | checked path s => checked path (s.mapDepth g)
  | reported d     => reported d

namespace Check

open Section (mapDepths)

variable {found : Found} {c : Context} {e : Schema.Entry} {g : Nat → Nat}

theorem onMatch_mapDepth {s : Section} :
    onMatch c e (s.mapDepth g) = (onMatch c e s).map (Event.mapDepth g) := by
  by_cases h : e.nonEmpty && !s.isNonEmpty c.contentTypes (c.allowsChildren e) <;>
    simp [onMatch, Section.isNonEmpty_mapDepth, h, Event.mapDepth]

theorem onMiss_mapDepth (s? : Option Section) :
    onMiss c e (s?.map (Section.mapDepth g)) = (onMiss c e s?).map (Event.mapDepth g) := by
  have ho : ∀ s, orderMessage c e (s.mapDepth g) = orderMessage c e s := fun s => by
    dsimp only [orderMessage]
    rw [Section.title_mapDepth]
  cases s? <;> by_cases hr : e.required <;> by_cases hc : c.enforceOrder <;>
    simp [onMiss, hr, hc, ho, Event.mapDepth]

-- No depth is looked at.
theorem level_mapDepths (es : List Schema.Entry) (ss : List Section) :
    level found c es (mapDepths g ss) = (level found c es ss).map (Event.mapDepth g) := by
  induction es using Schema.entries_induction generalizing c ss
  case nil => simp [level]
  case cons e es inner rest =>
    cases ss
    case nil =>
      have missed := onMiss_mapDepth (c := c) (e := e) (g := g) none
      have after := rest (c := c) []
      rw [Section.mapDepths_nil] at after ⊢
      rw [level, List.map_append, ← after, ← missed, Option.map_none]
    case cons s ss =>
      have deeper : below found c e (mapDepths g s.children) =
          (below found c e s.children).map (Event.mapDepth g) := by
        rw [below_eq, below_eq, inner]
      by_cases h : e.accepts found s.title
      case pos => simp [level, h, onMatch_mapDepth, deeper, rest]
      case neg =>
        have missed := onMiss_mapDepth (c := c) (e := e) (g := g) (some s)
        have after := rest (c := c) (s :: ss)
        rw [Section.mapDepths_cons] at after ⊢
        simp only [level, Section.title_mapDepth, h, if_false, List.map_append, ← after, ← missed,
          Option.map_some, Bool.false_eq_true]

end Check

theorem diagnostics_mapDepth {g : Nat → Nat} (out : List Event) :
    (out.map (Event.mapDepth g)).filterMap Event.diagnostic? = out.filterMap Event.diagnostic? := by
  rw [List.filterMap_map]
  exact List.filterMap_congr fun x _ => by cases x <;> rfl

-- Only how depths compare counts. With other depths that compare alike a document has the same
-- forest, and the same is said of it, though of sections at other depths. So nothing else is reported
-- when all headings are put the same number of levels deeper.
theorem checkNodes_mapDepth (nodes : List Node) :
    (∀ g, StrictMonoOn g (Node.depths nodes) →
      Section.forest (nodes.map (Node.mapDepth g)) = Section.mapDepths g (Section.forest nodes) ∧
      ∀ s o,
        (Checker.ofSchema s o).map (·.events (Section.forest (nodes.map (Node.mapDepth g)))) =
          (Checker.ofSchema s o).map
            (fun c => (c.events (Section.forest nodes)).map (Event.mapDepth g)) ∧
        checkNodes s o (nodes.map (Node.mapDepth g)) = checkNodes s o nodes) ∧
    ∀ k s o, checkNodes s o (nodes.map (Node.mapDepth (· + k))) = checkNodes s o nodes := by
  have relative (g : Nat → Nat) (m : StrictMonoOn g (Node.depths nodes)) (c : Checker) :
      c.events (Section.forest (nodes.map (Node.mapDepth g))) =
        (c.events (Section.forest nodes)).map (Event.mapDepth g) := by
    rw [Section.forest_mapDepth m]
    exact Check.level_mapDepths ..
  have reports (g : Nat → Nat) (m : StrictMonoOn g (Node.depths nodes)) (s : Schema) (o : Options) :
      checkNodes s o (nodes.map (Node.mapDepth g)) = checkNodes s o nodes := by
    simp only [checkNodes, Checker.diagnostics, relative g m, diagnostics_mapDepth]
  refine ⟨fun g m => ⟨Section.forest_mapDepth m, fun s o => ⟨?_, reports g m s o⟩⟩, fun k => ?_⟩
  case refine_1 => simp only [relative g m]
  case refine_2 => exact reports _ <| StrictMono.strictMonoOn (fun _ _ h => Nat.add_lt_add_right h k) _

-- Increasing up to the fourth level.
def spread (d : Nat) : Nat := [0, 1, 3, 4, 6].getD d 0

theorem spread_strictMonoOn : StrictMonoOn spread (Node.depths Section.jumps) := by
  have depths : ∀ d ∈ Node.depths Section.jumps, d ∈ [1, 2, 3, 4] := by
    rintro _ ⟨h, hm, rfl⟩
    simp [Section.jumps] at hm
    grind
  have increasing : ∀ a ∈ [1, 2, 3, 4], ∀ b ∈ [1, 2, 3, 4], a < b → spread a < spread b := by decide
  exact fun a ha b hb h => increasing a (depths a ha) b (depths b hb) h

-- The entry `C` stands below `B`, and `A` after it.
def crossed : Schema := {
  sections := [
    ⟨some "B", none, true, true, none, none, some [
      ⟨some "C", none, true, true, none, none, none, none⟩], none⟩,
    ⟨some "A", none, true, false, none, none, none, none⟩]
  enforceOrder?  := some true
  allowChildren? := none
  contentTypes?  := none
}

theorem ofSchema_crossed :
    Checker.ofSchema crossed .default = .ok ⟨crossed, .ofSchema crossed .default⟩ := by
  simp [Checker.ofSchema, Schema.badPattern?, Schema.patterns, crossed]

theorem checkNodes_mapDepth_spread :
    StrictMonoOn spread (Node.depths Section.jumps) ∧
    (Section.preorder (Section.forest (Section.jumps.map (Node.mapDepth spread)))).map Section.depth =
      [3, 6, 4, 3, 1] ∧
    (∃ ds, checkNodes crossed .default (Section.jumps.map (Node.mapDepth spread)) = .ok ds ∧
      ds.map Diagnostic.message = [
        "Missing required section: B > C",
        "Section \"D\" is out of order. Expected \"C\" at B.",
        "Missing required section: A",
        "Section \"E\" is out of order. Expected \"A\" at root level."]) ∧
    ∃ k, 0 < k ∧ checkNodes crossed .default (Section.jumps.map (Node.mapDepth (· + k))) =
      checkNodes crossed .default Section.jumps := by
  have ⟨h, demoted⟩ := checkNodes_mapDepth Section.jumps
  have ⟨forest, run⟩ := h spread spread_strictMonoOn
  have shape : Section.forest Section.jumps = [
      ⟨"B", 2, some ⟨3, 1⟩, [⟨.code, some "b", [], none⟩], [
        ⟨"D", 4, none, [⟨.list, some "d", [], none⟩], []⟩, ⟨"C", 3, none, [], []⟩]⟩,
      ⟨"E", 2, none, [], []⟩, ⟨"A", 1, none, [⟨.text, some "a", [], none⟩], []⟩] := by
    simp [Section.jumps, Section.forest, Node.closes, Node.isHeading]
    and_intros <;> rfl
  refine ⟨spread_strictMonoOn, ?_, ?_, 2, by decide, demoted 2 ..⟩
  case refine_1 => rw [forest, shape]; simp [Section.preorder, Section.mapDepth, spread]
  case refine_2 =>
    rw [(run _ _).2, checkNodes, ofSchema_crossed, shape]
    exact ⟨_, rfl, by decide +kernel⟩

end Outline
