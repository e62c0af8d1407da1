import Outline.Number.Double
import Outline.Text.Quoted

namespace Outline

-- Decoded data of no fixed shape. A map holds its entries in the order of their first appearance,
-- and none under keys that are not text, as these cannot be asked for. Dates and times are kept
-- without their content, as nothing accepts them.
inductive Value
  | null
  | bool (b : Bool)
  | int (i : Int)
  | float (x : Double)
  | text (s : String)
  | bytes (bs : List UInt8)
  | moment
  | pair (first second : Value)
  | list (items : List Value)
  | set (items : List Value)
  | map (entries : List (String × Value))
  deriving Repr, Inhabited

namespace Value

-- Sets the entry under a key; a key that is there keeps its place.
def put (key : String) (value : Value) : List (String × Value) → List (String × Value)
  | [] => [(key, value)]
  | (k, v) :: rest => if k = key then (k, value) :: rest else (k, v) :: put key value rest

theorem lookup_put_self (key : String) (value : Value) (entries : List (String × Value)) :
    (put key value entries).lookup key = some value := by
  induction entries with
  | nil => simp [put]
  | cons e es ih =>
    obtain ⟨k, v⟩ := e
    by_cases h : k = key
    · simp [put, h]
    · simp [put, h, List.lookup_cons, ih, show (key == k) = false by simpa using Ne.symm h]

theorem lookup_put_of_ne {key other : String} (h : key ≠ other) (value : Value)
    (entries : List (String × Value)) :
    (put key value entries).lookup other = entries.lookup other := by
  have ho : (other == key) = false := by simpa using Ne.symm h
  induction entries with
  | nil => simp [put, List.lookup_cons, ho]
  | cons e es ih =>
    obtain ⟨k, v⟩ := e
    by_cases hk : k = key
    · simp [put, hk, List.lookup_cons, ho]
    · simp [put, hk, List.lookup_cons, ih]

theorem mem_of_lookup {key : String} {v : Value} {es : List (String × Value)}
    (h : es.lookup key = some v) :
    (key, v) ∈ es := by
  have ⟨_, _, hes, _⟩ := List.lookup_eq_some_iff.mp h
  simp [hes]

theorem forall_put {P : Value → Prop} {key : String} {v : Value} {es : List (String × Value)}
    (hv : P v) (h : ∀ e ∈ es, P e.2) : ∀ e ∈ put key v es, P e.2 := by
  induction es
  case nil => simpa [put] using hv
  case cons e es hi =>
    have ⟨he, hes⟩ := List.forall_mem_cons.mp h
    by_cases hk : e.1 = key
    case pos => simpa [put, hk] using ⟨hv, fun a b => hes (a, b)⟩
    case neg => simpa [put, hk] using ⟨he, fun a b => hi hes (a, b)⟩

def entries? : Value → Option (List (String × Value))
  | map entries => some entries
  | _           => none

-- How messages show a value.
mutual

def quoted : Value → String
  | null     => "None"
  | bool b   => if b then "True" else "False"
  | int i    => toString i
  | float x  => x.text
  | text s   => Text.quoted s
  | bytes _  => "b''"
  | moment   => "datetime"
  | pair a b => "(" ++ a.quoted ++ ", " ++ b.quoted ++ ")"
  | list vs  => "[" ++ ", ".intercalate (quotedItems vs) ++ "]"
  | set vs   => "set([" ++ ", ".intercalate (quotedItems vs) ++ "])"
  | map es   => "\x7b" ++ ", ".intercalate (quotedEntries es) ++ "\x7d"

def quotedItems : List Value → List String
  | []      => []
  | v :: vs => v.quoted :: quotedItems vs

def quotedEntries : List (String × Value) → List String
  | []           => []
  | (k, v) :: es => (Text.quoted k ++ ": " ++ v.quoted) :: quotedEntries es

end

-- As `quoted`, but text stands for itself.
def shown : Value → String
  | text s => s
  | v      => v.quoted

end Value
end Outline
