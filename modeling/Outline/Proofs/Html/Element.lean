import Mathlib.Data.List.Lex
import Outline.Html

namespace Outline.Html

-- An element of a document. Its place is the index of the tree at the top that it belongs to, and so on
-- down to its own index. In the lexicographic order of places an element comes before those in it, and
-- all of these before what follows it. `above` are the names of the elements that it stands in, the
-- outermost one first.
structure Element where
  place    : List Nat
  above    : List String
  name     : String
  position : Position
  children : List Tree

namespace Element

inductive In : Element → List Tree → Prop
  | here {ts name attributes position children} {i : Nat}
      (h : ts[i]? = some (.element name attributes position children)) :
    In ⟨[i], [], name, position, children⟩ ts
  | inside {ts name attributes position children e} {i : Nat}
      (h : ts[i]? = some (.element name attributes position children)) (inner : In e children) :
    In { e with place := i :: e.place, above := name :: e.above } ts

-- The element as one in the first tree, which is an element of the name.
def under (name : String) (e : Element) : Element :=
  { e with place := 0 :: e.place, above := name :: e.above }

-- The element as one in the trees after the first one.
def next (e : Element) : Element :=
  { e with place := e.place.modifyHead (· + 1) }

end Element

mutual

def Tree.elements : Tree → List Element
  | .text ..                          => []
  | .element name _ position children =>
    ⟨[0], [], name, position, children⟩ :: (elements children).map (.under name)

-- All elements, in the order of the document.
def elements : List Tree → List Element
  | []      => []
  | t :: ts => t.elements ++ (elements ts).map .next

end

-- The induction on trees: on what is in the first one, and on what comes after it.
theorem trees_induction {P : List Tree → Prop} (nil : P [])
    (text : ∀ kind s rest, P rest → P (.text kind s :: rest))
    (element : ∀ name attributes position children rest, P children → P rest →
      P (.element name attributes position children :: rest)) : ∀ ts, P ts
  | []                                                 => nil
  | .text kind s :: rest                               =>
    text kind s rest (trees_induction nil text element rest)
  | .element name attributes position children :: rest =>
    element name attributes position children rest (trees_induction nil text element children)
      (trees_induction nil text element rest)

namespace Element

variable {e e' : Element} {t : Tree} {ts rest children : List Tree} {name : String}
variable {attributes : List Attribute} {position : Position}

theorem In.place_ne_nil (h : e.In ts) : e.place ≠ [] := by
  cases h <;> simp

theorem not_in_nil : ¬e.In [] := by
  rintro (⟨h⟩ | ⟨h, _⟩) <;> simp at h

theorem In.next (h : e.In rest) (t : Tree) : e.next.In (t :: rest) := by
  cases h
  case here h         => exact .here h
  case inside inner h => exact .inside h inner

-- An element in some trees is the first tree, or in it, or in the trees after it.
theorem in_cons_iff : e.In (t :: rest) ↔
    (∃ name attributes position children, t = .element name attributes position children ∧
      (e = ⟨[0], [], name, position, children⟩ ∨
        ∃ inner : Element, inner.In children ∧ inner.under name = e)) ∨
    ∃ after : Element, after.In rest ∧ after.next = e := by
  constructor
  case mp =>
    intro h
    cases h
    case here name attributes position children i h =>
      cases i
      case zero   => exact .inl ⟨name, attributes, position, children, Option.some.inj h, .inl rfl⟩
      case succ i => exact .inr ⟨_, .here h, rfl⟩
    case inside name attributes position children e i inner h =>
      cases i
      case zero   =>
        exact .inl ⟨name, attributes, position, children, Option.some.inj h, .inr ⟨e, inner, rfl⟩⟩
      case succ i => exact .inr ⟨_, .inside h inner, rfl⟩
  case mpr =>
    rintro (⟨name, attributes, position, children, rfl, rfl | ⟨inner, h, rfl⟩⟩ | ⟨after, h, rfl⟩)
    · exact .here rfl
    · exact .inside rfl h
    · exact h.next t

theorem in_text_iff {kind : TextKind} {s : String} :
    e.In (.text kind s :: rest) ↔ ∃ after : Element, after.In rest ∧ after.next = e := by
  simp [in_cons_iff]

theorem in_element_iff : e.In (.element name attributes position children :: rest) ↔
    e = ⟨[0], [], name, position, children⟩ ∨
      (∃ inner : Element, inner.In children ∧ inner.under name = e) ∨
      ∃ after : Element, after.In rest ∧ after.next = e := by
  rw [in_cons_iff, ← or_assoc]
  refine or_congr_left ⟨?_, fun h => ⟨name, attributes, position, children, rfl, h⟩⟩
  rintro ⟨_, _, _, _, ⟨⟩, h⟩
  exact h

end Element

theorem elements_text (kind : TextKind) (s : String) (rest : List Tree) :
    elements (.text kind s :: rest) = (elements rest).map .next :=
  rfl

theorem elements_element (name : String) (attributes : List Attribute) (position : Position)
    (children rest : List Tree) : elements (.element name attributes position children :: rest) =
      ⟨[0], [], name, position, children⟩ :: (elements children).map (.under name) ++
        (elements rest).map .next :=
  rfl

theorem mem_elements {e : Element} {ts : List Tree} : e ∈ elements ts ↔ e.In ts := by
  induction ts using trees_induction generalizing e
  case nil => exact iff_of_false List.not_mem_nil Element.not_in_nil
  case text kind s rest hi => simp [elements_text, Element.in_text_iff, hi]
  case element name attributes position children rest hi hi' =>
    simp [elements_element, Element.in_element_iff, hi, hi']

namespace Element

variable {e e' : Element} {ts : List Tree} {name : String}

-- The one element comes before the other.
def Before (e e' : Element) : Prop := e.place < e'.place

theorem Before.under (h : e.Before e') (name : String) : (e.under name).Before (e'.under name) :=
  List.cons_lt_cons_self.mpr h

theorem Before.next (h : e.Before e') : e.next.Before e'.next := by
  unfold Before Element.next at *
  cases hp : e.place <;> cases hp' : e'.place
  case cons.cons => simpa [hp, hp', List.cons_lt_cons_iff] using h
  all_goals simp_all

theorem before_next {i : List Nat} (first : e.place = 0 :: i) (isIn : e'.In ts) : e.Before e'.next := by
  unfold Before Element.next
  cases hp : e'.place
  case nil  => exact absurd hp isIn.place_ne_nil
  case cons => simp [first, List.cons_lt_cons_iff]

theorem before_under (first : e.place = [0]) (isIn : e'.In ts) (name : String) :
    e.Before (e'.under name) := by
  unfold Before Element.under
  cases hp : e'.place
  case nil  => exact absurd hp isIn.place_ne_nil
  case cons => simp [first]

end Element

-- Each element is listed once, before those that come after it.
theorem elements_pairwise (ts : List Tree) : (elements ts).Pairwise Element.Before := by
  induction ts using trees_induction
  case nil => exact .nil
  case text kind s rest hi => exact hi.map _ fun _ _ h => h.next
  case element name attributes position children rest hi hi' =>
    rw [elements_element, List.cons_append, List.pairwise_cons, List.pairwise_append]
    refine ⟨?own, hi.map _ fun _ _ h => h.under name, hi'.map _ fun _ _ h => h.next, ?after⟩
    case own   =>
      intro e mem
      obtain mem | mem := List.mem_append.mp mem
      · obtain ⟨inner, isIn, rfl⟩ := List.mem_map.mp mem
        exact Element.before_under rfl (mem_elements.mp isIn) name
      · obtain ⟨after, isIn, rfl⟩ := List.mem_map.mp mem
        exact Element.before_next rfl (mem_elements.mp isIn)
    case after =>
      simp only [List.forall_mem_map]
      intro e _ e' mem
      exact Element.before_next rfl (mem_elements.mp mem)

-- The first element of a name.
structure First (ts : List Tree) (name : String) (e : Element) : Prop where
  isIn  : e.In ts
  named : e.name = name
  first : ∀ e' : Element, e'.In ts → e'.name = name → e' = e ∨ e.Before e'

theorem findIn?_eq (p : String → Bool) (ts : List Tree) :
    Tree.findIn? p ts = ((elements ts).find? (p ·.name)).map Element.children := by
  induction ts using trees_induction
  case nil => rfl
  case text kind s rest hi =>
    rw [elements_text, List.find?_map, Tree.findIn?, Tree.find?, hi, Option.map_map]
    rfl
  case element name attributes position children rest hi hi' =>
    rw [elements_element, Tree.findIn?, Tree.find?, hi, hi', List.cons_append]
    cases named : p name
    case true  => simp [named]
    case false =>
      simp only [List.find?_cons, named, List.find?_append, List.find?_map]
      have inner : ((fun e : Element => p e.name) ∘ .under name) = (p ·.name) := rfl
      have after : ((fun e : Element => p e.name) ∘ .next) = (p ·.name) := rfl
      rw [inner, after]
      cases (elements children).find? (p ·.name) <;> cases (elements rest).find? (p ·.name) <;> rfl

theorem isSome_findIn?_iff {p : String → Bool} {ts : List Tree} :
    (Tree.findIn? p ts).isSome ↔ ∃ e : Element, e.In ts ∧ p e.name := by
  simp [findIn?_eq, mem_elements]

theorem exists_first {name : String} {ts children : List Tree}
    (h : Tree.findIn? (· == name) ts = some children) : ∃ e, First ts name e ∧ e.children = children := by
  rw [findIn?_eq] at h
  obtain ⟨e, found, rfl⟩ := Option.map_eq_some_iff.mp h
  obtain ⟨named, before, after, parts, others⟩ := List.find?_eq_some_iff_append.mp found
  have order := elements_pairwise ts
  rw [parts, List.pairwise_append, List.pairwise_cons] at order
  refine ⟨e, ⟨mem_elements.mp (List.mem_of_find?_eq_some found), by simpa using named, ?_⟩, rfl⟩
  intro e' isIn named'
  have mem := mem_elements.mpr isIn
  rw [parts] at mem
  obtain mem | mem := List.mem_append.mp mem
  · have other := others e' mem
    simp [named'] at other
  · obtain rfl | mem := List.mem_cons.mp mem
    · exact .inl rfl
    · exact .inr <| order.2.1.1 e' mem

theorem name_ne_of_findIn? {name : String} {ts : List Tree} (h : Tree.findIn? (· == name) ts = none)
    {e : Element} (isIn : e.In ts) : e.name ≠ name := by
  rw [findIn?_eq, Option.map_eq_none_iff, List.find?_eq_none] at h
  simpa using h e (mem_elements.mpr isIn)

end Outline.Html
