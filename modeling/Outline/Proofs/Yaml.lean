import Outline.Proofs.Yaml.Content
import Outline.Proofs.Yaml.Node
import Outline.Proofs.Yaml.Token
import Outline.Yaml

namespace Outline.Yaml

-- The text of one of the scalars that are written in a text does not say what its tag promises.
def Misfits (s : String) (f : Fault) : Prop :=
  ∃ root n, Node.ofTokens? (Token.ofText s.toList) = .ok (some root) ∧ root.Holds n ∧ n.Fails f

-- What stops the reading of a text, its form apart, shows in the text or lies in a scalar.
theorem read_ends (s : String) :
    Ends Value.Decoded (fun f => f.ShowsIn s.toList ∨ Misfits s f) (read s) := by
  unfold read
  split
  case isTrue => exact .inl trivial
  case isFalse =>
    have nodes := Node.ofTokens?_ends (Token.ofText s.toList)
    cases h : Node.ofTokens? (Token.ofText s.toList)
    case error f =>
      rcases nodes.of_error h with rfl | hf
      · exact .inl trivial
      · exact .inl <| Token.broken_mem_ofText hf
    case ok n? =>
      cases n?
      case none => exact Value.Decoded.null
      case some root =>
        refine (Node.value_ends root).imp (fun _ hv => hv) ?_
        rintro f (rfl | ⟨n, hn, hf⟩)
        · exact .inl trivial
        · exact .inr ⟨root, n, h, hn, hf⟩

end Outline.Yaml
