import Mathlib.Data.Set.Function
import Outline.Proofs.Section.Parent

namespace Outline

namespace Piece

def isHeading : Piece → Bool
  | heading .. => true
  | block _    => false

-- Is the piece a heading of at most this depth?
def closes (depth : Nat) : Piece → Bool
  | heading _ d _ => d ≤ depth
  | block _       => false

-- The piece as a node of a document. The text of a heading is its one child.
def node : Piece → Node
  | heading title depth position? => .heading ⟨depth, [⟨"text", some title, []⟩], position?⟩
  | block c                       => .content c

-- Titles are trimmed, and there are six depths.
def Valid : Piece → Prop
  | heading title depth _ => Text.trim title = title ∧ 1 ≤ depth ∧ depth ≤ 6
  | block _               => True

@[simp]
theorem isHeading_heading {title : String} {depth : Nat} {position? : Option Position} :
    (heading title depth position?).isHeading :=
  rfl

@[simp]
theorem isHeading_block {c : Content} : (block c).isHeading = false :=
  rfl

@[simp]
theorem isHeading_node {p : Piece} : p.node.isHeading = p.isHeading := by
  cases p <;> rfl

theorem title_text {title : String} {depth : Nat} {position? : Option Position} :
    Heading.title ⟨depth, [⟨"text", some title, []⟩], position?⟩ = Text.trim title := by
  simp [Heading.title, String.join]

theorem Valid.piece?_node {p : Piece} (h : p.Valid) : p.node.piece? = some p := by
  cases p
  case block   => rfl
  case heading => rw [node, Node.piece?, title_text, h.1]

theorem filterMap_node {pieces : List Piece} (h : ∀ p ∈ pieces, p.Valid) :
    (pieces.map node).filterMap Node.piece? = pieces := by
  induction pieces
  case nil => rfl
  case cons p pieces hi =>
    have hp := (h p List.mem_cons_self).piece?_node
    have hr := hi fun q hq => h q (List.mem_cons_of_mem p hq)
    simp [hp, hr]

end Piece

-- A flat document that starts with a heading.
structure Stream (pieces : List Piece) : Prop where
  opens : ∀ p ∈ pieces.head?, p.isHeading
  valid : ∀ p ∈ pieces, p.Valid

namespace Section

-- A forest that a document can have.
structure Sound (sections : List Section) : Prop where
  nested  : Nested sections
  trimmed : ∀ s ∈ preorder sections, Text.trim s.title = s.title
  depth   : ∀ s ∈ preorder sections, 1 ≤ s.depth ∧ s.depth ≤ 6

variable {s : Section} {sections sections' rest : List Section} {d : Nat}

theorem flatten_nil : flatten [] = [] := by
  simp [flatten]

theorem flatten_cons : flatten (s :: rest) = .heading s.title s.depth s.position? ::
    (s.content.map .block ++ (flatten s.children ++ flatten rest)) := by
  cases s
  simp [flatten]

theorem head?_flatten_isHeading : ∀ p ∈ (flatten sections).head?, p.isHeading := by
  cases sections
  case nil  => simp [flatten_nil]
  case cons => simp [flatten_cons]

theorem head?_flatten_append :
    ∀ p ∈ (flatten sections ++ flatten sections').head?, p.isHeading := by
  cases sections
  case nil  => simpa [flatten_nil] using head?_flatten_isHeading
  case cons => simp [flatten_cons]

-- The headings of the flat form are those of the sections.
theorem heading_mem_flatten {title : String} {depth : Nat} {position? : Option Position} :
    .heading title depth position? ∈ flatten sections ↔
      ∃ s ∈ preorder sections, s.title = title ∧ s.depth = depth ∧ s.position? = position? := by
  induction sections using sections_induction
  case nil => simp [flatten_nil, preorder_nil]
  case cons s rest hi₁ hi₂ =>
    simp [flatten_cons, preorder_cons, hi₁, hi₂, or_and_right, exists_or, eq_comm]

theorem Nested.not_closes (n : Nested sections) (h : ∀ s ∈ sections, d < s.depth) :
    ∀ p ∈ flatten sections, p.closes d = false := by
  intro p hp
  cases p
  case block   => rfl
  case heading =>
    have ⟨t, ht, _, hd, _⟩ := heading_mem_flatten.mp hp
    simpa [Piece.closes, ← hd] using n.lt_depth h t ht

theorem Nested.head?_closes (n : Nested (s :: rest)) :
    ∀ p ∈ (flatten rest).head?, p.closes s.depth := by
  cases rest
  case nil       => simp [flatten_nil]
  case cons t ts => simpa [flatten_cons, Piece.closes] using (nested_cons.mp n).2.1 t List.mem_cons_self

-- Two lists that are put together where a test fails for the first time come apart there again.
theorem append_inj_of_test {α : Type} {p : α → Bool} {l r l' r' : List α} (hl : ∀ a ∈ l, p a)
    (hr : ∀ a ∈ r.head?, p a = false) (hl' : ∀ a ∈ l', p a) (hr' : ∀ a ∈ r'.head?, p a = false)
    (h : l ++ r = l' ++ r') : l = l' ∧ r = r' := by
  have s := Node.split_append hl hr
  have s' := Node.split_append hl' hr'
  rw [h] at s
  exact ⟨s.1.symm.trans s'.1, s.2.symm.trans s'.2⟩

-- The flat form of a forest tells the forest: the content of its first section ends at the next
-- heading, and what is below the section at the next heading that is not deeper.
theorem flatten_inj (n : Nested sections) (m : Nested sections')
    (h : flatten sections = flatten sections') : sections = sections' := by
  induction sections using sections_induction generalizing sections'
  case nil =>
    cases sections'
    case nil  => rfl
    case cons => simp [flatten_nil, flatten_cons] at h
  case cons s rest hi₁ hi₂ =>
    cases sections'
    case nil => simp [flatten_nil, flatten_cons] at h
    case cons t rest' =>
      have ⟨hd, _, hn, hr⟩ := nested_cons.mp n
      have ⟨hd', _, hn', hr'⟩ := nested_cons.mp m
      rw [flatten_cons, flatten_cons] at h
      have ⟨hh, hf⟩ := List.cons.inj h
      obtain ⟨title_eq, depth_eq, position_eq⟩ := Piece.heading.inj hh
      have ⟨hc, hb⟩ := append_inj_of_test (p := (!·.isHeading)) (by simp)
        (by simpa using head?_flatten_append) (by simp) (by simpa using head?_flatten_append) hf
      have ⟨hi, ha⟩ := append_inj_of_test (p := (!·.closes s.depth))
        (by simpa using hn.not_closes hd) (by simpa using n.head?_closes)
        (by simpa [depth_eq] using hn'.not_closes hd') (by simpa [depth_eq] using m.head?_closes) hb
      have content_eq : s.content = t.content :=
        (List.map_inj_right fun _ _ => Piece.block.inj).mp hc
      have children_eq := hi₁ hn hn' hi
      obtain rfl := hi₂ hr hr' ha
      cases s
      cases t
      simp_all

-- Any document whose pieces are those of a forest has that forest.
theorem forest_eq_of_pieces {nodes : List Node} (n : Nested sections)
    (o : ∀ node ∈ nodes.head?, node.isHeading) (h : nodes.filterMap Node.piece? = flatten sections) :
    forest nodes = sections := by
  refine flatten_inj (nested_forest nodes) n ?_
  rw [flatten_forest, Node.dropWhile_eq_self o, h]

theorem Sound.stream (s : Sound sections) : Stream (flatten sections) where
  opens := head?_flatten_isHeading
  valid p hp := by
    cases p
    case block   => trivial
    case heading =>
      have ⟨t, ht, hp⟩ := heading_mem_flatten.mp hp
      obtain ⟨rfl, rfl, rfl⟩ := hp
      exact ⟨s.trimmed t ht, s.depth t ht⟩

end Section

namespace Stream

open Section

variable {pieces : List Piece}

theorem head?_isHeading (s : Stream pieces) : ∀ n ∈ (pieces.map Piece.node).head?, n.isHeading := by
  intro n hn
  obtain ⟨p, hp, rfl⟩ : ∃ p ∈ pieces.head?, p.node = n := by simpa using hn
  simpa using s.opens p hp

theorem flatten_forest_node (s : Stream pieces) :
    flatten (forest (pieces.map Piece.node)) = pieces := by
  rw [flatten_forest, Node.dropWhile_eq_self s.head?_isHeading, Piece.filterMap_node s.valid]

theorem sound (s : Stream pieces) : Sound (forest (pieces.map Piece.node)) := by
  have hv : ∀ t ∈ preorder (forest (pieces.map Piece.node)),
      (Piece.heading t.title t.depth t.position?).Valid := by
    intro t ht
    refine s.valid _ ?_
    rw [← s.flatten_forest_node]
    exact heading_mem_flatten.mpr ⟨t, ht, rfl, rfl, rfl⟩
  exact ⟨nested_forest _, fun t ht => (hv t ht).1, fun t ht => (hv t ht).2⟩

end Stream

namespace Section

theorem Sound.forest_flatten {sections : List Section} (s : Sound sections) :
    forest ((flatten sections).map Piece.node) = sections :=
  forest_eq_of_pieces s.nested s.stream.head?_isHeading <| Piece.filterMap_node s.stream.valid

-- A forest that is written out flat and read again is the same forest, and a flat document that is
-- read and written out again is the same document. So forests and flat documents that start with a
-- heading correspond.
theorem bijOn_flatten :
    (∀ sections, Sound sections → forest ((flatten sections).map Piece.node) = sections) ∧
    (∀ pieces, Stream pieces → flatten (forest (pieces.map Piece.node)) = pieces) ∧
    Set.BijOn flatten {sections | Sound sections} {pieces | Stream pieces} := by
  refine ⟨fun _ s => s.forest_flatten, fun _ s => s.flatten_forest_node, ?maps, ?inj, ?surj⟩
  case maps => exact fun _ s => s.stream
  case inj  => exact fun _ s _ s' h => flatten_inj s.nested s'.nested h
  case surj => exact fun pieces s => ⟨forest (pieces.map Piece.node), s.sound, s.flatten_forest_node⟩

-- A forest with a level left out, a title twice and a section without a title.
def branches : List Section := [
  ⟨"B", 2, some ⟨3, 1⟩, [⟨.code, some "b", [], none⟩], [
    ⟨"D", 4, none, [⟨.list, some "d", [], none⟩], []⟩,
    ⟨"", 3, none, [], []⟩]⟩,
  ⟨"B", 2, none, [], []⟩,
  ⟨"A", 1, none, [⟨.text, some "a", [], none⟩], []⟩
]

theorem sound_branches : Sound branches where
  nested  := by simp [branches, Nested]
  trimmed := by
    simp only [branches, preorder]
    decide
  depth   := by simp [branches, preorder]

theorem bijOn_flatten_branches :
    Sound branches ∧ Stream (flatten branches) ∧
    forest ((flatten branches).map Piece.node) = branches ∧
    flatten (forest ((flatten branches).map Piece.node)) = flatten branches := by
  have ⟨hs, hp, hb⟩ := bijOn_flatten
  have stream := hb.mapsTo sound_branches
  exact ⟨sound_branches, stream, hs _ sound_branches, hp _ stream⟩

end Section
end Outline
