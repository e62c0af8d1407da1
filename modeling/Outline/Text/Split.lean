import Outline.Text.Trim

namespace Outline.Text

-- The parts of a text before, between and after its separators.
def split (separator : Char) : List Char → List (List Char)
  | [] => [[]]
  | c :: cs =>
    if c = separator then [] :: split separator cs
    else match split separator cs with
      | []            => [[c]]
      | first :: rest => (c :: first) :: rest

-- The parts with a separator between each two.
def join (separator : Char) : List (List Char) → List Char
  | []          => []
  | [part]      => part
  | part :: rest => part ++ separator :: join separator rest

theorem split_ne_nil (separator : Char) (cs : List Char) : split separator cs ≠ [] := by
  fun_cases split separator cs <;> simp

theorem join_split (separator : Char) (cs : List Char) : join separator (split separator cs) = cs := by
  induction cs with
  | nil => rfl
  | cons c cs ih =>
    have hne := split_ne_nil separator cs
    by_cases h : c = separator
    · subst h
      cases hs : split c cs with
      | nil => exact absurd hs hne
      | cons first rest =>
        rw [hs] at ih
        simp [split, hs, join, ih]
    · cases hs : split separator cs with
      | nil => exact absurd hs hne
      | cons first rest =>
        rw [hs] at ih
        cases rest with
        | nil => simpa [split, hs, h, join] using ih
        | cons second rest => simpa [split, hs, h, join] using ih

-- The items of a list that is written with commas: trimmed, and without the empty ones.
def items (s : String) : List String :=
  ((split ',' s.toList).map fun part => trim (String.ofList part)).filter (· ≠ "")

end Outline.Text
