import Mathlib
import Outline.Proofs.Json.Reader
import Outline.Proofs.Yaml
import Outline.Schema.Load

namespace Outline.Schema

-- The schema that data fits, whether or not its patterns can be read.
def Fits (dropCommas : Bool) (v : Value) (t : Schema) : Prop :=
  ∃ es vs, v.entries? = some es ∧ sections? v = some vs ∧
    fit (.map (normalizeTop dropCommas es vs)) = .ok t

theorem ofValue_fits (dropCommas : Bool) (v : Value) :
    Ends (Fits dropCommas v)
      (fun r => ∀ e, r = .pattern e → ∃ t, Fits dropCommas v t ∧ t.badPattern? = some e)
      (ofValue dropCommas v) := by
  unfold ofValue
  split
  case h_2 => exact nofun
  case h_1 es vs hes hvs =>
    split
    case h_1 => exact nofun
    case h_2 t ht =>
      have fits : Fits dropCommas v t := ⟨es, vs, hes, hvs, ht⟩
      split
      case h_1 e he => rintro e ⟨⟩; exact ⟨t, fits, he⟩
      case h_2      => exact fits

variable {format : Format} {dropCommas : Bool} {s : String}

end Outline.Schema
