import Outline.Check.Checker

namespace Outline.Schema

namespace Entry

-- The entries below an entry.
def inner (e : Entry) : List Entry := e.children?.getD []

def title (e : Entry) : String := e.title?.getD ""

-- The entry is told by its title alone.
structure Titled (e : Entry) : Prop where
  nonEmpty  : e.title ≠ ""
  trimmed   : Text.trim e.title = e.title
  noPattern : e.titlePattern? = none

namespace Titled

variable {e : Entry}

theorem title?_eq (t : e.Titled) : e.title? = some e.title := by
  cases h : e.title?
  case none => exact absurd (by simp [title, h]) t.nonEmpty
  case some => simp [title, h]

theorem name_eq (t : e.Titled) : e.name = e.title := by
  simp [name, t.title?_eq, t.nonEmpty]

theorem accepts_iff (t : e.Titled) {found : Found} {title : String} :
    e.accepts found title ↔ title = e.title := by
  simp [accepts, t.noPattern, t.title?_eq, Option.filter, t.nonEmpty]

end Titled
end Entry

-- The induction on entries: on those below the first one, and on those after it.
theorem entries_induction {P : List Entry → Prop} (nil : P [])
    (cons : ∀ e rest, P e.inner → P rest → P (e :: rest)) : ∀ es, P es
  | [] => nil
  | ⟨_, _, _, _, _, _, none, _⟩ :: rest => cons _ rest nil (entries_induction nil cons rest)
  | ⟨_, _, _, _, _, _, some below, _⟩ :: rest =>
    cons _ rest (entries_induction nil cons below) (entries_induction nil cons rest)

theorem patterns_cons (e : Entry) (es : List Entry) :
    patterns (e :: es) = e.titlePattern?.toList ++ patterns e.inner ++ patterns es := by
  obtain ⟨_, _, _, _, _, _, _ | below, _⟩ := e <;> simp [patterns, Entry.inner]

-- Entries that are told by their titles alone, with different titles at each level, and not nested
-- more than `n` levels deep.
inductive Titled : Nat → List Entry → Prop
  | nil {n} : Titled n []
  | cons {n e es} (own : e.Titled) (distinct : ∀ e' ∈ es, e'.title ≠ e.title)
      (inner : Titled n e.inner) (rest : Titled (n + 1) es) : Titled (n + 1) (e :: es)

theorem titled_cons {n : Nat} {e : Entry} {es : List Entry} (t : Titled n (e :: es)) :
    e.Titled ∧ (∀ e' ∈ es, e'.title ≠ e.title) ∧ (∃ m, Titled m e.inner) ∧ Titled n es := by
  cases t with
  | cons own distinct inner rest => exact ⟨own, distinct, ⟨_, inner⟩, rest⟩

theorem Titled.patterns_eq_nil {n : Nat} {es : List Entry} (t : Titled n es) : patterns es = [] := by
  induction t
  case nil                     => simp [patterns]
  case cons own _ _ _ inner rest => simp [patterns_cons, own.noPattern, inner, rest]

-- An entry where it stands in a schema.
structure Spot where
  -- The index of the entry at its level, then those of the entries above it, the nearest one first.
  place : List Nat
  -- The titles of the entries above it, each followed by an arrow.
  path  : String
  entry : Entry

namespace Spot

def level (x : Spot) : Nat := x.place.length

-- The place of the entry that this one stands right below, or nothing at the top.
def above (x : Spot) : List Nat := x.place.tail

end Spot

-- Entries in order, each one before those below it. The first one has this index at its level.
def spotsFrom (above : List Nat) (path : String) (index : Nat) : List Entry → List Spot
  | [] => []
  | e@⟨_, _, _, _, _, _, children?, _⟩ :: es =>
    ⟨index :: above, path, e⟩ ::
      ((match children? with
        | some below => spotsFrom (index :: above) (path ++ e.title ++ " > ") 0 below
        | none       => []) ++
      spotsFrom above path (index + 1) es)

def spots (s : Schema) : List Spot := spotsFrom [] "" 0 s.sections

section

variable {above : List Nat} {path : String} {index : Nat} {e : Entry} {es : List Entry}

theorem spotsFrom_nil : spotsFrom above path index [] = [] := by
  simp [spotsFrom]

theorem spotsFrom_cons : spotsFrom above path index (e :: es) = ⟨index :: above, path, e⟩ ::
    (spotsFrom (index :: above) (path ++ e.title ++ " > ") 0 e.inner ++
      spotsFrom above path (index + 1) es) := by
  obtain ⟨_, _, _, _, _, _, _ | below, _⟩ := e <;> simp [spotsFrom, Entry.inner]

theorem forall_spotsFrom_cons {P : Spot → Prop} :
    (∀ x ∈ spotsFrom above path index (e :: es), P x) ↔ P ⟨index :: above, path, e⟩ ∧
      (∀ x ∈ spotsFrom (index :: above) (path ++ e.title ++ " > ") 0 e.inner, P x) ∧
      ∀ x ∈ spotsFrom above path (index + 1) es, P x := by
  rw [spotsFrom_cons, List.forall_mem_cons, List.forall_mem_append]

theorem Titled.forall_spots {n : Nat} (t : Titled n es) : ∀ x ∈ spotsFrom above path index es,
    x.entry.Titled ∧ above.length < x.level ∧ x.level ≤ above.length + n := by
  induction t generalizing above path index
  case nil => simp [spotsFrom_nil]
  case cons own _ _ _ inner rest =>
    refine forall_spotsFrom_cons.mpr ⟨⟨own, ?_, ?_⟩, fun x hx => ?_, rest⟩
    case refine_1 => simp [Spot.level]
    case refine_2 => simp [Spot.level]
    case refine_3 =>
      have ⟨own, hl, hu⟩ := inner x hx
      rw [List.length_cons] at hl hu
      exact ⟨own, by omega, by omega⟩

end

end Outline.Schema
