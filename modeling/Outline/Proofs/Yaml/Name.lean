import Mathlib.Data.List.TakeWhile
import Outline.Proofs.Yaml.Scalar
import Outline.Yaml.Name

namespace Outline.Yaml.Name

open Cursor

variable {α : Type}

theorem require_reads {c c' : Cursor} {x : Except Fault (α × Cursor)} (p : Char → Bool)
    (h : Reads c x) : Reads c (require p c' >>= fun _ => x) := by
  unfold require
  split
  · exact h
  · trivial

theorem word_reads (c : Cursor) : Reads c (word c) := by
  unfold word
  extract_lets name
  split
  · trivial
  · exact advance_follows ..

theorem anchor_reads (c : Cursor) : Reads c (anchor c) :=
  Reads.mono ((word_reads c.next).bind fun _ c' => require_reads _ <| Follows.refl c') <| next_follows c

theorem handle_reads (c : Cursor) : Reads c (handle c) := by
  fun_cases handle
  case case1 => exact next_follows c
  case case2 => exact advance_follows ..
  all_goals trivial

theorem tagTextFrom_reads (done : List Char) (fuel : Nat) (c : Cursor) :
    Reads c (tagTextFrom done fuel c) := by
  fun_induction tagTextFrom
  case case3 => exact Follows.refl _
  case case4 hi => exact hi.mono <| advance_follows ..
  case case6 hi => exact hi.mono <| next_follows _
  all_goals trivial

theorem tagText_reads (c : Cursor) : Reads c (tagText c) :=
  tagTextFrom_reads ..

theorem tag_ends (c : Cursor) : Ends (·.2.2.Follows c) (Fault.ShowsIn c.rest) (tag c) := by
  unfold tag
  extract_lets finish withHandle
  have finished {handle? : Option String} {text : String} {c₁ : Cursor} (h : c₁.Follows c) :
      Ends (·.2.2.Follows c) (Fault.ShowsIn c.rest) (finish (handle?, text, c₁)) := by
    dsimp only [finish]
    unfold require
    split
    · exact h
    · trivial
  have handled (r : String × Cursor) (h : r.2.Follows c) :
      Ends (·.2.2.Follows c) (Fault.ShowsIn c.rest) (withHandle r) :=
    Ends.bind ((tagText_reads r.2).mono h) fun _ h₂ => finished h₂
  split
  case h_1 =>
    refine Ends.bind ((tagText_reads _).mono <| advance_follows 2 c) fun r h₁ => ?_
    dsimp only
    split
    · exact finished <| (next_follows r.2).trans h₁
    · trivial
  case h_2 =>
    split
    · exact finished <| next_follows c
    · split
      · exact Ends.bind (handle_reads c) handled
      · exact handled ("!", c.next) <| next_follows c

theorem number_reads (c : Cursor) : Reads c (number c) := by
  fun_cases number
  case case1 => trivial
  case case2 => exact advance_follows ..
  case case3 digits hne e he =>
    have inside : digits <:+: c.rest := (List.takeWhile_prefix _).isInfix
    have all : ∀ d ∈ digits, d.isDigit := fun d hd => List.mem_takeWhile_imp hd
    have long := (Number.readInt_of_digits all (by simpa using hne)).of_error he
    exact long.mono inside

theorem skipSpaces_follows (c : Cursor) : (skipSpaces c).Follows c :=
  skip_follows ..

theorem version_reads (c : Cursor) : Reads c (version c) := by
  refine Reads.mono (.bind (number_reads _) fun major c₁ => ?_) <| skipSpaces_follows c
  dsimp only
  split
  · trivial
  · refine Reads.mono (.bind (number_reads _) fun _ c₂ => ?_) <| next_follows c₁
    exact require_reads _ <| Follows.refl c₂

theorem handleMeaning_reads (c : Cursor) : Reads c (handleMeaning c) := by
  refine Reads.mono (.bind (handle_reads _) fun name c₁ => ?_) <| skipSpaces_follows c
  dsimp only
  split
  · trivial
  · refine Reads.mono (.bind (tagText_reads _) fun _ c₂ => ?_) <| skipSpaces_follows c₁
    exact require_reads _ <| Follows.refl c₂

theorem directive_reads (c : Cursor) : Reads c (directive c) := by
  refine Reads.mono (.bind (word_reads _) fun name c₁ => require_reads _ ?_) <| next_follows c
  extract_lets finish
  have line (d : Directive) (c₂ : Cursor) : Reads c₂ (finish (d, c₂)) := by
    dsimp only [finish]
    split
    case h_1 hl => exact restOfLine?_follows hl
    case h_2    => trivial
  split
  · exact (version_reads c₁).bind line
  · exact (handleMeaning_reads c₁).bind line
  · exact (line _ _).mono <| skip_follows ..

end Outline.Yaml.Name
