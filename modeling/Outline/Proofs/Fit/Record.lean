import Mathlib.Data.List.Sort
import Mathlib.Data.String.Basic
import Outline.Fit.Record

namespace Outline.Fit

variable {α β : Type}

-- Each text once, the smaller ones first.
def Ascending (ts : List String) : Prop := ts.Pairwise (· < ·)

section

variable {s t : String} {ts us : List String}

theorem mem_insertText : t ∈ insertText s ts ↔ t = s ∨ t ∈ ts := by
  induction ts
  case nil => simp [insertText]
  case cons u us hi =>
    unfold insertText
    split
    case isTrue h => simp [h]
    case isFalse =>
      split
      case isTrue  => simp
      case isFalse => simp [hi, or_left_comm]

theorem mem_sortTexts : t ∈ sortTexts ts ↔ t ∈ ts := by
  induction ts
  case nil          => simp [sortTexts]
  case cons u us hi => simp [sortTexts, mem_insertText, ← hi]

theorem Ascending.insertText (h : Ascending ts) : Ascending (insertText s ts) := by
  induction ts
  case nil => simp [Fit.insertText, Ascending]
  case cons t ts hi =>
    have ⟨least, after⟩ := List.pairwise_cons.mp h
    unfold Fit.insertText
    split
    case isTrue => exact h
    case isFalse ne =>
      split
      case isTrue lt =>
        exact List.pairwise_cons.mpr
          ⟨List.forall_mem_cons.mpr ⟨lt, fun u hu => lt_trans lt <| least u hu⟩, h⟩
      case isFalse ge =>
        refine List.pairwise_cons.mpr ⟨fun u hu => ?_, hi after⟩
        rcases mem_insertText.mp hu with rfl | hu
        · exact lt_of_le_of_ne (not_lt.mp ge) (Ne.symm ne)
        · exact least u hu

theorem sortTexts_ascending (ts : List String) : Ascending (sortTexts ts) := by
  induction ts
  case nil     => exact .nil
  case cons hi => exact hi.insertText

-- In whatever order the texts of a set are listed, and however often.
theorem sortTexts_eq (h : Ascending us) (same : ∀ t, t ∈ ts ↔ t ∈ us) : sortTexts ts = us :=
  List.Pairwise.eq_of_mem_iff (sortTexts_ascending ts) h fun t => mem_sortTexts.trans (same t)

theorem textSet_ascending {v : Value} (h : textSet v = .ok ts) : Ascending ts := by
  unfold textSet at h
  split at h
  case h_3 => contradiction
  all_goals
    obtain ⟨us, -, rfl⟩ := map_eq_ok_iff.mp h
    exact sortTexts_ascending us

end

theorem andThen_eq_ok_iff {x : Fit α} {f : α → Fit β} {b : β} :
    andThen x f = .ok b ↔ ∃ a, x = .ok a ∧ f a = .ok b := by
  cases x <;> simp [andThen]

section

variable {f : β → Fit α} {a default : α} {key : String} {keys : List String} {v : β}
variable {entries : List (String × β)}

theorem items_map {f : Value → Fit α} {g : α → Value} {l : List α} (index : Nat)
    (h : ∀ a ∈ l, f (g a) = .ok a) : items f index (l.map g) = .ok l := by
  induction l generalizing index
  case nil => simp [items]
  case cons a l hi =>
    have ⟨ha, hl⟩ := List.forall_mem_cons.mp h
    simp [items, ha, hi _ hl]

theorem textSet_of_texts {ts us : List String} (h : Ascending us) (same : ∀ t, t ∈ ts ↔ t ∈ us) :
    textSet (.list (ts.map .text)) = .ok us := by
  rw [textSet, items_map (f := text) (g := .text) 0 fun _ _ => rfl, map_ok, sortTexts_eq h same]

theorem eq_ok_of_optional {f : Value → Fit α} {v : Value} (h : optional f v = .ok (some a)) :
    f v = .ok a := by
  unfold optional at h
  split at h
  case h_1 => cases h
  case h_2 =>
    obtain ⟨_, h, ha⟩ := map_eq_ok_iff.mp h
    rwa [← Option.some.inj ha]

theorem find?_of_lookup (h : entries.lookup key = some v) :
    find? entries (key :: keys) = some (key, v) := by
  simp [find?, h]

-- The first of the keys counts.
theorem required_of_lookup (h : entries.lookup key = some v) (hv : f v = .ok a) :
    required (key :: keys) f entries = .ok a := by
  simp [required, find?_of_lookup h, hv]

theorem withDefault_of_lookup (h : entries.lookup key = some v) (hv : f v = .ok a) :
    withDefault (key :: keys) default f entries = .ok a := by
  simp [withDefault, find?_of_lookup h, hv]

theorem exists_of_required (h : required keys f entries = .ok a) : ∃ v, f v = .ok a := by
  unfold required at h
  split at h
  case h_1 => exact ⟨_, under_eq_ok_iff.mp h⟩
  case h_2 => cases h

theorem eq_default_or_of_withDefault (h : withDefault keys default f entries = .ok a) :
    a = default ∨ ∃ v, f v = .ok a := by
  unfold withDefault at h
  split at h
  case h_1 => exact .inr ⟨_, under_eq_ok_iff.mp h⟩
  case h_2 =>
    cases h
    exact .inl rfl

end

end Outline.Fit
