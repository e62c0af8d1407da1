import Mathlib.Init
import Outline.Proofs.Ends
import Outline.Schema.Location
import Outline.Url

namespace Outline.Url

theorem ofParts_ends (p : Parts) :
    Ends (fun u => u.scheme = String.ofList (p.scheme.map Char.toLower)) (fun _ => True)
      (ofParts p) := by
  unfold ofParts
  refine (Ends.always _).bind fun host _ => (Ends.always _).bind fun port? _ => ?_
  refine .ite (fun _ => trivial) fun _ => .ite (fun _ => ?_) fun _ => rfl
  exact .ite (fun _ => trivial) fun _ => .ite (fun _ => trivial) fun _ => rfl

theorem read_eq_ok {s : String} {u : Url} (h : read s = .ok u) : ofParts (.ofText s.toList) = .ok u := by
  simp only [read] at h
  split at h
  case isTrue => contradiction
  case isFalse =>
    split at h
    case h_1 => contradiction
    case h_2 => exact h

theorem ofText_scheme (cs : List Char) : (Parts.ofText cs).scheme = (cutScheme cs).1 := rfl

theorem cutScheme_web {s : String} (h : isWebAddress s) : (cutScheme s.toList).1 ≠ [] := by
  simp only [isWebAddress, Bool.or_eq_true, List.isPrefixOf_iff_prefix] at h
  obtain ⟨rest, h⟩ | ⟨rest, h⟩ := h
  case inl => simp [← h, cutScheme, isSchemeChar]
  case inr => simp [← h, cutScheme, isSchemeChar]

-- What is asked for at an address of the web that names a host is the address.
theorem request_eq {s : String} {u : Url} (web : isWebAddress s) (h : read s = .ok u)
    (host : u.host ≠ "") : u.request = u := by
  have scheme := (ofParts_ends _).of_ok <| read_eq_ok h
  have isAbsolute : u.isAbsolute := by
    simpa [Url.isAbsolute, host, scheme, ofText_scheme] using cutScheme_web web
  simp [request, isAbsolute]

end Outline.Url
