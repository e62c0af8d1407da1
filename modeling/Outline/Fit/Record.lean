import Outline.Fit.Scalar

namespace Outline.Fit

-- `null` for nothing.
def optional (f : Value → Fit α) : Value → Fit (Option α)
  | .null => ok none
  | v     => (f v).map some

-- Every item on its own.
def items (f : Value → Fit α) (index : Nat) : List Value → Fit (List α)
  | []      => ok []
  | v :: vs => ap (map List.cons (under (.item index) (f v))) (items f (index + 1) vs)

def list (f : Value → Fit α) : Value → Fit (List α)
  | .list vs => items f 0 vs
  | .set vs  => items f 0 vs
  | _        => wrong .list

-- Puts a text into an ascending list, once.
def insertText (s : String) : List String → List String
  | [] => [s]
  | t :: ts => if s = t then t :: ts else if s < t then s :: t :: ts else t :: insertText s ts

-- A set of texts as an ascending list.
def sortTexts (ts : List String) : List String := ts.foldr insertText []

def textSet : Value → Fit (List String)
  | .list vs => (items text 0 vs).map sortTexts
  | .set vs  => (items text 0 vs).map sortTexts
  | _        => wrong .textSet

abbrev Entries := List (String × Value)

-- The entry under the first of the keys that there is one for.
def find? (entries : List (String × β)) : List String → Option (String × β)
  | []          => none
  | key :: keys => match entries.lookup key with
    | some v => some (key, v)
    | none   => find? entries keys

def required (keys : List String) (f : β → Fit α) (entries : List (String × β)) : Fit α :=
  match find? entries keys with
  | some (key, v) => under (.field key) (f v)
  | none          => under (.field (keys.headD "")) (wrong .missing)

-- A field with a value for when it is not there.
def withDefault (keys : List String) (default : α) (f : β → Fit α) (entries : List (String × β)) :
    Fit α :=
  match find? entries keys with
  | some (key, v) => under (.field key) (f v)
  | none          => ok default

theorem withDefault_eq_ok_iff {key : String} {default a : α} {f : β → Fit α}
    {entries : List (String × β)} :
    withDefault [key] default f entries = ok a ↔
      (entries.lookup key = none ∧ default = a) ∨ ∃ v, entries.lookup key = some v ∧ f v = ok a := by
  cases h : entries.lookup key <;> simp [withDefault, find?, h, under_eq_ok_iff]

-- A map, as a record of the given name.
def record (name : String) (f : Entries → Fit α) : Value → Fit α
  | .map entries => f entries
  | _            => wrong (.record name)

end Outline.Fit
