import Mathlib.Data.List.TakeWhile
import Outline.Section.Forest

namespace Outline

namespace Node

variable {h : Heading} {d : Nat} {n : Node} {lead inner after : List Node}

@[simp]
theorem isHeading_heading : (heading h).isHeading :=
  rfl

theorem isHeading_of_closes (hc : n.closes d) : n.isHeading := by
  cases n <;> simp_all [closes, isHeading]

theorem not_closes (hn : n.isHeading = false) : n.closes d = false := by
  cases hc : n.closes d
  case false => rfl
  case true  => simp [isHeading_of_closes hc] at hn

-- A test that holds up to the point where two lists meet finds that point.
theorem split_append {α : Type} {p : α → Bool} {l r : List α} (hl : ∀ a ∈ l, p a)
    (hr : ∀ a ∈ r.head?, p a = false) :
    (l ++ r).takeWhile p = l ∧ (l ++ r).dropWhile p = r := by
  rw [List.takeWhile_append_of_pos hl, List.dropWhile_append_of_pos hl]
  cases r
  case nil      => simp
  case cons a r => simp [hr a (by simp)]

-- What follows a heading: `lead` up to the next heading, then `inner` up to the first heading that
-- is not deeper, and the rest.
structure Parts (h : Heading) (lead inner after : List Node) : Prop where
  lead  : ∀ n ∈ lead, n.isHeading = false
  opens : ∀ n ∈ inner.head?, n.isHeading
  inner : ∀ n ∈ inner, n.closes h.depth = false
  after : ∀ n ∈ after.head?, n.closes h.depth

theorem exists_parts (h : Heading) (rest : List Node) :
    ∃ lead inner after, rest = lead ++ (inner ++ after) ∧ Parts h lead inner after := by
  let own := rest.takeWhile (!·.closes h.depth)
  refine ⟨own.takeWhile (!·.isHeading), own.dropWhile (!·.isHeading),
    rest.dropWhile (!·.closes h.depth), by simp [own, ← List.append_assoc], ?_⟩
  constructor
  case lead =>
    intro n hn
    simpa using List.mem_takeWhile_imp hn
  case opens =>
    intro n hn
    have := List.head?_dropWhile_not (!·.isHeading) own
    simpa [Option.mem_def.mp hn] using this
  case inner =>
    intro n hn
    simpa using List.mem_takeWhile_imp <| List.dropWhile_subset _ hn
  case after =>
    intro n hn
    have := List.head?_dropWhile_not (!·.closes h.depth) rest
    simpa [Option.mem_def.mp hn] using this

namespace Parts

theorem not_closes_of_mem (p : Parts h lead inner after) (hn : n ∈ lead ++ inner) :
    n.closes h.depth = false := by
  cases List.mem_append.mp hn
  case inl hn => exact not_closes (p.lead n hn)
  case inr hn => exact p.inner n hn

theorem split_closes (p : Parts h lead inner after) :
    (lead ++ (inner ++ after)).takeWhile (!·.closes h.depth) = lead ++ inner ∧
      (lead ++ (inner ++ after)).dropWhile (!·.closes h.depth) = after := by
  rw [← List.append_assoc]
  exact split_append (fun n hn => by simp [p.not_closes_of_mem hn]) fun n hn => by simp [p.after n hn]

theorem split_isHeading (p : Parts h lead inner after) :
    (lead ++ inner).takeWhile (!·.isHeading) = lead ∧
      (lead ++ inner).dropWhile (!·.isHeading) = inner :=
  split_append (fun n hn => by simp [p.lead n hn]) fun n hn => by simp [p.opens n hn]

end Parts
end Node

namespace Section

open Node (Parts)

theorem forest_nil : forest [] = [] := by
  rw [forest]

theorem forest_cons_of_not_heading {n : Node} {rest : List Node} (h : n.isHeading = false) :
    forest (n :: rest) = forest rest := by
  cases n
  case heading => simp [Node.isHeading] at h
  all_goals rw [forest]; simp

theorem forest_heading {h : Heading} {lead inner after : List Node} (p : Parts h lead inner after) :
    forest (.heading h :: (lead ++ (inner ++ after))) =
      ⟨h.title, h.depth, h.position?, lead.filterMap Node.content?, forest inner⟩ :: forest after := by
  rw [forest, p.split_closes.1, p.split_closes.2, p.split_isHeading.1, p.split_isHeading.2]

-- The induction that goes with `forest`.
theorem forest_induction {P : List Node → Prop} (nil : P [])
    (skip : ∀ n rest, n.isHeading = false → P rest → P (n :: rest))
    (heading : ∀ h lead inner after, Parts h lead inner after → P inner → P after →
      P (.heading h :: (lead ++ (inner ++ after))))
    (nodes : List Node) : P nodes := by
  induction hl : nodes.length using Nat.strongRecOn generalizing nodes
  case ind _ hi =>
    cases nodes
    case nil => exact nil
    case cons node rest =>
      cases node
      case heading h =>
        obtain ⟨lead, inner, after, rfl, p⟩ := Node.exists_parts h rest
        refine heading h lead inner after p (hi _ ?_ inner rfl) (hi _ ?_ after rfl)
        all_goals simp at hl; omega
      all_goals exact skip _ rest rfl (hi _ (by simp at hl; omega) rest rfl)

end Section
end Outline
