import Mathlib.Init
import Outline.Check.Checker
import Outline.Proofs.Ends
import Outline.Schema.Load

namespace Outline

-- All patterns of a schema can be read.
def Schema.Ready (t : Schema) : Prop := t.badPattern? = none

theorem Checker.ofSchema_ready {t : Schema} (h : t.Ready) (o : Options) :
    ofSchema t o = .ok ⟨t, .ofSchema t o⟩ := by
  unfold ofSchema
  rw [h]

namespace Schema

theorem ofValue_ready (dropCommas : Bool) (v : Value) :
    Ends Ready (fun _ => True) (ofValue dropCommas v) := by
  unfold ofValue
  split
  case h_2 => trivial
  case h_1 =>
    split
    case h_1 => trivial
    case h_2 =>
      split
      case h_1   => trivial
      case h_2 h => exact h

end Schema
end Outline
