import Mathlib.Data.List.Basic
import Outline.Proofs.Check.Alignment
import Outline.Proofs.Schema.Entries

namespace Outline

namespace Schema

theorem sizeOf_children_lt {e : Entry} {es below : List Entry} (he : e ∈ es)
    (h : e.children? = some below) : sizeOf below < sizeOf es := by
  have hl := List.sizeOf_lt_of_mem he
  cases e
  simp_all
  omega

-- What holds of a level if it holds of the levels below its entries holds of every level.
theorem levels_induction {P : List Entry → Prop}
    (level : ∀ es, (∀ e ∈ es, ∀ below, e.children? = some below → P below) → P es)
    (es : List Entry) : P es :=
  level es fun _ he below h =>
    have := sizeOf_children_lt he h
    levels_induction level below
termination_by sizeOf es

end Schema

namespace Check

open Schema (Entry)

-- The section has nothing of what its entry wants it to be filled with.
def IsEmpty (c : Context) (e : Entry) (s : Section) : Prop :=
  e.nonEmpty ∧ (∀ b ∈ s.content, b.kind.name ∉ c.contentTypes) ∧
    ¬(c.allowsChildren e ∧ s.children ≠ [])

instance {c : Context} {e : Entry} {s : Section} : Decidable (IsEmpty c e s) :=
  inferInstanceAs <| Decidable (_ ∧ _)

def matched (c : Context) (e : Entry) (s : Section) : List Event :=
  .checked (c.path ++ e.name) s ::
    if IsEmpty c e s then [.reported ⟨emptyMessage c e, s.position?, c.ruleId⟩] else []

def missing (c : Context) (e : Entry) : List Event :=
  if e.required then [.reported ⟨missingMessage c e, none, c.ruleId⟩] else []

-- What is said of the section that stands where an entry is missed, if there is one.
def misplaced (c : Context) (e : Entry) (ss : List Section) (i : Nat) : List Event :=
  if h : c.enforceOrder ∧ i < ss.length then
    [.reported ⟨orderMessage c e ss[i], ss[i].position?, c.ruleId⟩]
  else []

mutual

-- All that is said at a level and below it: one share for each entry, in the order of the entries.
-- The greedy assignment `js` decides which entries are matched, and with which sections.
inductive Listing (found : Found) : Context → List Entry → List Section → List Event → Prop
  | intro {c es ss} {js : List Nat} {share : Nat → List Event}
      (greedy : Greedy found es ss js)
      (hit  : ∀ {i j : Nat} {e s}, js[i]? = some j → es[j]? = some e → ss[i]? = some s →
        EntryListing found c e s (share j))
      (miss : ∀ {j : Nat} {e}, j ∉ js → es[j]? = some e →
        share j = missing c e ++ misplaced c e ss (js.countP (· < j))) :
      Listing found c es ss ((List.range es.length).flatMap share)

-- All that is said of a matched entry and below it.
inductive EntryListing (found : Found) : Context → Entry → Section → List Event → Prop
  | leaf {c e s} (h : e.children? = none) : EntryListing found c e s (matched c e s)
  | node {c e s es below} (h : e.children? = some es)
      (listing : Listing found (c.descend e) es s.children below) :
      EntryListing found c e s (matched c e s ++ below)

end

variable {found : Found} {c : Context} {e : Entry} {s : Section}
variable {es : List Entry} {ss : List Section}

theorem onMatch_eq_matched : onMatch c e s = matched c e s := by
  have h : (e.nonEmpty && !s.isNonEmpty c.contentTypes (c.allowsChildren e)) = true ↔ IsEmpty c e s := by
    cases ha : c.allowsChildren e <;> simp [IsEmpty, Section.isNonEmpty, ha]
  simp [onMatch, matched, h]

theorem onMiss_eq {i : Nat} : onMiss c e ss[i]? = missing c e ++ misplaced c e ss i := by
  by_cases hi : i < ss.length
  case pos => cases ho : c.enforceOrder <;> simp [onMiss, missing, misplaced, hi, ho]
  case neg => simp [onMiss, missing, misplaced, hi]

theorem below_of_none (h : e.children? = none) : below found c e ss = [] := by
  cases e
  subst h
  simp [below, belowAll]

theorem below_of_some (h : e.children? = some es) :
    below found c e ss = level found (c.descend e) es ss := by
  cases e
  subst h
  simp [below, belowAll]

theorem below_eq : below found c e ss = level found (c.descend e) e.inner ss := by
  cases h : e.children?
  case none => simp [below_of_none h, Entry.inner, h, level]
  case some => simp [below_of_some h, Entry.inner, h]

theorem flatMap_range {α β : Type} (f : α → List β) (l : List α) :
    (List.range l.length).flatMap (fun k => l[k]?.elim [] f) = l.flatMap f := by
  induction l
  case nil => rfl
  case cons a l hi => simp [List.range_succ_eq_map, List.flatMap_map, ← hi]

-- The share of one entry in what a level says.
def share (found : Found) (c : Context) (es : List Entry) (ss : List Section) (k : Nat) : List Event :=
  (turns found 0 0 es ss)[k]?.elim [] (·.events found c)

theorem level_eq_shares :
    level found c es ss = (List.range es.length).flatMap (share found c es ss) := by
  rw [level_eq_turns 0 0, ← flatMap_range, turns_length]
  rfl

theorem share_hit {i j : Nat} (hj : (chosen found es ss)[i]? = some j) (he : es[j]? = some e)
    (hs : ss[i]? = some s) : share found c es ss j = matched c e s ++ below found c e s.children := by
  simp [share, turns_hit 0 0 hj he hs, onMatch_eq_matched]

theorem share_miss {j : Nat} (hj : j ∉ chosen found es ss) (he : es[j]? = some e) :
    share found c es ss j =
      missing c e ++ misplaced c e ss ((chosen found es ss).countP (· < j)) := by
  simp [share, turns_miss 0 0 hj he, onMiss_eq]

theorem entryListing_eq {out : List Event}
    (hi : ∀ es out, e.children? = some es → Listing found (c.descend e) es s.children out →
      level found (c.descend e) es s.children = out)
    (h : EntryListing found c e s out) : matched c e s ++ below found c e s.children = out := by
  cases h
  case leaf h   => simp [below_of_none h]
  case node h l => rw [below_of_some h, hi _ _ h l]

theorem entryListing_of_children
    (hi : ∀ es, e.children? = some es →
      Listing found (c.descend e) es s.children (level found (c.descend e) es s.children)) :
    EntryListing found c e s (matched c e s ++ below found c e s.children) := by
  cases h : e.children?
  case none => simpa [below_of_none h] using EntryListing.leaf h
  case some => simpa [below_of_some h] using EntryListing.node h (hi _ h)

theorem eq_level_of_listing {out : List Event} (h : Listing found c es ss out) :
    level found c es ss = out := by
  induction es using Schema.levels_induction generalizing c ss out
  case level es hi =>
    cases h
    case intro js f g hit miss =>
      obtain rfl := g.unique (chosen_greedy found es ss)
      rw [level_eq_shares]
      refine List.flatMap_congr fun j hj => ?_
      have he := List.getElem?_eq_getElem (List.mem_range.mp hj)
      by_cases hm : j ∈ chosen found es ss
      case neg => rw [share_miss hm he, miss hm he]
      case pos =>
        have ⟨i, hj⟩ := List.mem_iff_getElem?.mp hm
        have ⟨s, _, hs, _⟩ := g.accepts hj
        rw [share_hit hj he hs]
        exact entryListing_eq (fun _ _ h => hi _ (List.mem_of_getElem? he) _ h) (hit hj he hs)

theorem level_listing (found : Found) (c : Context) (es : List Entry) (ss : List Section) :
    Listing found c es ss (level found c es ss) := by
  induction es using Schema.levels_induction generalizing c ss
  case level es hi =>
    rw [level_eq_shares]
    refine .intro (chosen_greedy found es ss) ?hit share_miss
    intro i j e s hj he hs
    rw [share_hit hj he hs]
    exact entryListing_of_children fun _ h => hi e (List.mem_of_getElem? he) _ h _ _

-- What is said at a level and below it is its listing, and nothing else is.
theorem listing_iff (found : Found) (c : Context) (es : List Entry) (ss : List Section)
    (out : List Event) : Listing found c es ss out ↔ level found c es ss = out where
  mp h  := eq_level_of_listing h
  mpr h := h ▸ level_listing found c es ss

end Check
end Outline
