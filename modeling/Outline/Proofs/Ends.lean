import Mathlib.Data.List.Forall2

namespace Outline

variable {α β ε ε' : Type}

-- A step that may fail ends well, with a result of one kind, or with a fault of another kind.
def Ends (ok : α → Prop) (bad : ε → Prop) : Except ε α → Prop
  | .ok a    => ok a
  | .error e => bad e

namespace Ends

variable {ok ok' : α → Prop} {next : β → Prop} {bad bad' : ε → Prop} {x : Except ε α}

instance [DecidablePred ok] [DecidablePred bad] : Decidable (Ends ok bad x) :=
  match x with
  | .ok a    => inferInstanceAs <| Decidable (ok a)
  | .error e => inferInstanceAs <| Decidable (bad e)

theorem of_ok {a : α} (h : Ends ok bad x) (hx : x = .ok a) : ok a := by
  rwa [hx] at h

theorem of_error {e : ε} (h : Ends ok bad x) (hx : x = .error e) : bad e := by
  rwa [hx] at h

theorem always (x : Except ε α) : Ends (fun _ => True) (fun _ => True) x := by
  cases x <;> trivial

theorem self (x : Except ε α) : Ends (x = .ok ·) (x = .error ·) x := by
  cases x <;> rfl

theorem imp (h : Ends ok bad x) (hok : ∀ a, ok a → ok' a) (hbad : ∀ e, bad e → bad' e) :
    Ends ok' bad' x := by
  cases x
  case ok a    => exact hok a h
  case error e => exact hbad e h

-- What is left of a text is left of every longer one that ends in it.
theorem suffix {x : Except ε (α × List Char)} {cs cs' : List Char} (h : Ends (·.2 <:+ cs) bad x)
    (hs : cs <:+ cs') : Ends (·.2 <:+ cs') bad x :=
  h.imp (fun _ hr => hr.trans hs) fun _ he => he

theorem bind {f : α → Except ε β} (h : Ends ok bad x) (hf : ∀ a, ok a → Ends next bad (f a)) :
    Ends next bad (x >>= f) := by
  cases x
  case ok a    => exact hf a h
  case error e => exact h

theorem ite {c : Prop} [Decidable c] {y : Except ε α} (hx : c → Ends ok bad x)
    (hy : ¬c → Ends ok bad y) : Ends ok bad (if c then x else y) := by
  split
  case isTrue h  => exact hx h
  case isFalse h => exact hy h

theorem map {f : α → β} (h : Ends (fun a => next (f a)) bad x) : Ends next bad (x.map f) := by
  cases x <;> exact h

theorem mapError {f : ε → ε'} {bad : ε' → Prop} (h : Ends ok (fun e => bad (f e)) x) :
    Ends ok bad (x.mapError f) := by
  cases x <;> exact h

-- One step for each item: either all end well, or one with a fault after others that do.
theorem mapM {R : α → β → Prop} {bad : α → ε → Prop} {f : α → Except ε β}
    (h : ∀ a, Ends (R a) (bad a) (f a)) (as : List α) :
    Ends (List.Forall₂ R as)
      (fun e => ∃ before a after, as = before ++ a :: after ∧ (∀ b ∈ before, ∃ r, R b r) ∧ bad a e)
      (as.mapM f) := by
  induction as
  case nil => exact .nil
  case cons a as hi =>
    rw [List.mapM_cons]
    cases own : f a
    case error e => exact ⟨[], a, as, rfl, nofun, (h a).of_error own⟩
    case ok r =>
      have first := (h a).of_ok own
      cases rest : as.mapM f
      case ok rs => exact .cons first (hi.of_ok rest)
      case error e =>
        obtain ⟨before, b, after, rfl, fine, bad⟩ := hi.of_error rest
        exact ⟨a :: before, b, after, rfl, List.forall_mem_cons.mpr ⟨⟨r, first⟩, fine⟩, bad⟩

end Ends
end Outline
