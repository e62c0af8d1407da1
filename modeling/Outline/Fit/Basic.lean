import Outline.Value

namespace Outline

-- A step into a value: to the entry of a map, or to an item of a list.
inductive Step
  | field (name : String)
  | item (index : Nat)
  deriving DecidableEq, Repr

inductive Fault
  | missing
  | text
  | textBytes
  | textLength (most : Int)
  | truth
  | truthText
  | integer
  | integerText
  | integerFraction
  | integerSize
  | finite
  | atLeast (bound : Nat)
  | atMost (bound : Nat)
  | list
  | textSet
  | record (name : String)
  | object
  | dictionary
  | oneOf (tags : List String)
  | noTag (key : String)
  | unknownTag (tag key : String) (tags : List String)
  | json
  | rule (text : String)
  deriving DecidableEq, Repr

structure Issue where
  path  : List Step
  fault : Fault
  deriving DecidableEq, Repr

-- Combining two fits keeps what is wrong with both. A limit to how deep data may be nested is left out.
inductive Fit (α : Type)
  | ok (result : α)
  | bad (issues : List Issue)
  deriving Repr

namespace Fit

def map (f : α → β) : Fit α → Fit β
  | ok a  => ok (f a)
  | bad e => bad e

def ap : Fit (α → β) → Fit α → Fit β
  | ok f,  ok a   => ok (f a)
  | ok _,  bad e  => bad e
  | bad e, ok _   => bad e
  | bad e, bad e' => bad (e ++ e')

instance : Functor Fit where
  map := map

instance : Applicative Fit where
  pure  := ok
  seq f x := ap f (x ())

-- Goes on with the result of a fit.
def andThen (x : Fit α) (f : α → Fit β) : Fit β :=
  match x with
  | ok a  => f a
  | bad e => bad e

-- One thing is wrong, with the value itself.
def wrong (fault : Fault) : Fit α := bad [⟨[], fault⟩]

-- The fit of a part, seen from the whole.
def under (step : Step) : Fit α → Fit α
  | ok a  => ok a
  | bad e => bad (e.map fun i => { i with path := step :: i.path })

def toOption : Fit α → Option α
  | ok a  => some a
  | bad _ => none

def issues : Fit α → List Issue
  | ok _  => []
  | bad e => e

@[simp] theorem map_ok (f : α → β) (a : α) : map f (ok a) = ok (f a) := rfl
@[simp] theorem ap_ok (f : α → β) (a : α) : ap (ok f) (ok a) = ok (f a) := rfl
@[simp] theorem under_ok (step : Step) (a : α) : under step (ok a) = ok a := rfl

theorem ap_eq_ok_iff {f : Fit (α → β)} {x : Fit α} {b : β} :
    ap f x = ok b ↔ ∃ g a, f = ok g ∧ x = ok a ∧ g a = b := by
  cases f <;> cases x <;> simp [ap]

theorem map_eq_ok_iff {f : α → β} {x : Fit α} {b : β} : map f x = ok b ↔ ∃ a, x = ok a ∧ f a = b := by
  cases x <;> simp [map]

theorem under_eq_ok_iff {step : Step} {x : Fit α} {a : α} : under step x = ok a ↔ x = ok a := by
  cases x <;> simp [under]

end Fit
end Outline
