import Outline.Schema

namespace Outline.Schema

namespace Description

-- The en dash and the em dash.
def isDash (c : Char) : Bool := c == '\u2013' || c == '\u2014'

def plain (cs : List Char) : List Char := cs.map fun c => if isDash c then '-' else c

-- The stored form of a description.
def normalize (dropCommas : Bool) (s : String) : String :=
  let cs := plain s.toList
  String.ofList (if dropCommas then cs.filter (· != ',') else cs)

theorem not_isDash_of_mem_normalize {dropCommas : Bool} {s : String} {c : Char}
    (h : c ∈ (normalize dropCommas s).toList) : isDash c = false := by
  have h : c ∈ plain s.toList := by
    cases dropCommas
    · simpa [normalize] using h
    · have h := by simpa [normalize] using h
      exact h.1
  obtain ⟨d, -, rfl⟩ := List.mem_map.1 h
  split
  · decide
  · rename_i hd
    exact Bool.eq_false_iff.2 hd

theorem comma_not_mem_normalize (s : String) : ',' ∉ (normalize true s).toList := by
  simp [normalize]

end Description

-- The descriptions of sections that are still data, at all depths.
mutual

-- A section as data, with its description and those below it in their stored form.
def normalizeEntry (dropCommas : Bool) : Value → Value
  | .map es => .map (normalizeFields dropCommas es)
  | v       => v

def normalizeEntries (dropCommas : Bool) : List Value → List Value
  | []      => []
  | v :: vs => normalizeEntry dropCommas v :: normalizeEntries dropCommas vs

def normalizeFields (dropCommas : Bool) : List (String × Value) → List (String × Value)
  | []           => []
  | (k, v) :: es => (k, normalizeField dropCommas k v) :: normalizeFields dropCommas es

-- The value of one field: text under `description`, a list under `children`.
def normalizeField (dropCommas : Bool) (key : String) : Value → Value
  | .text s  => if key = "description" then .text (Description.normalize dropCommas s) else .text s
  | .list vs => if key = "children" then .list (normalizeEntries dropCommas vs) else .list vs
  | v        => v

end

end Outline.Schema
