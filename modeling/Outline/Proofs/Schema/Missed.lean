import Outline.Proofs.Schema.Entries

namespace Outline.Schema

-- With an entry, the one right above it is kept as well.
def ParentClosed (K : List Nat → Prop) (xs : List Spot) : Prop :=
  ∀ x ∈ xs, x.above ≠ [] → K x.place → K x.above

namespace Spot

-- What is reported of a required section that is missing.
def missed (ruleId : String) (x : Spot) : Diagnostic :=
  ⟨"Missing required section: " ++ x.path ++ x.entry.title ++ x.entry.suffix, none, ruleId⟩

@[simp]
theorem message_missed {ruleId : String} {x : Spot} : (x.missed ruleId).message =
    "Missing required section: " ++ x.path ++ x.entry.title ++ x.entry.suffix :=
  rfl

-- A required entry is left out, and not as part of one above it.
def IsMissed (K : List Nat → Prop) (x : Spot) : Prop :=
  x.entry.required ∧ ¬K x.place ∧ (x.above = [] ∨ K x.above)

instance {K : List Nat → Prop} [DecidablePred K] : DecidablePred (IsMissed K) :=
  fun _ => inferInstanceAs <| Decidable (_ ∧ _ ∧ _)

end Spot

-- All that is reported of the entries that are left out.
def missed (ruleId : String) (K : List Nat → Prop) [DecidablePred K] (xs : List Spot) :
    List Diagnostic :=
  (xs.filter (·.IsMissed K)).map (·.missed ruleId)

variable {K : List Nat → Prop} {above : List Nat} {path : String} {index : Nat}
variable {e : Entry} {es : List Entry}

theorem parentClosed_cons (h : ParentClosed K (spotsFrom above path index (e :: es))) :
    (above ≠ [] → K (index :: above) → K above) ∧
    ParentClosed K (spotsFrom (index :: above) (path ++ e.title ++ " > ") 0 e.inner) ∧
    ParentClosed K (spotsFrom above path (index + 1) es) :=
  forall_spotsFrom_cons.mp h

-- Of what stands below an entry that is left out, nothing is kept.
theorem not_kept_below (hc : ParentClosed K (spotsFrom above path index es)) (ha : above ≠ [])
    (hk : ¬K above) :
    ∀ x ∈ spotsFrom above path index es, ¬K x.place ∧ x.above ≠ [] ∧ ¬K x.above := by
  induction es using entries_induction generalizing above path index
  case nil => simp [spotsFrom_nil]
  case cons e es hi₁ hi₂ =>
    have ⟨h, inner, rest⟩ := parentClosed_cons hc
    have hn : ¬K (index :: above) := fun hx => hk (h ha hx)
    exact forall_spotsFrom_cons.mpr
      ⟨⟨hn, ha, hk⟩, hi₁ inner (List.cons_ne_nil _ _) hn, hi₂ rest ha hk⟩

variable [DecidablePred K] {ruleId : String} {x : Spot} {xs ys : List Spot}

theorem missed_cons : missed ruleId K (x :: xs) =
    (if x.IsMissed K then [x.missed ruleId] else []) ++ missed ruleId K xs := by
  by_cases h : x.IsMissed K <;> simp [missed, h]

theorem missed_append : missed ruleId K (xs ++ ys) = missed ruleId K xs ++ missed ruleId K ys := by
  simp [missed]

theorem missed_eq_nil (h : ∀ x ∈ xs, ¬x.IsMissed K) : missed ruleId K xs = [] := by
  simpa [missed] using h

theorem missed_keep (kept : K (index :: above)) :
    missed ruleId K (spotsFrom above path index (e :: es)) =
      missed ruleId K (spotsFrom (index :: above) (path ++ e.title ++ " > ") 0 e.inner) ++
        missed ruleId K (spotsFrom above path (index + 1) es) := by
  have own : ¬Spot.IsMissed K ⟨index :: above, path, e⟩ := fun h => h.2.1 kept
  rw [spotsFrom_cons, missed_cons, missed_append, if_neg own, List.nil_append]

-- If an entry is left out, then it alone is missed, and nothing of what is below it.
theorem missed_skip (left : ¬K (index :: above)) (top : above = [] ∨ K above)
    (closed : ParentClosed K (spotsFrom above path index (e :: es))) :
    missed ruleId K (spotsFrom above path index (e :: es)) =
      (if e.required then [Spot.missed ruleId ⟨index :: above, path, e⟩] else []) ++
        missed ruleId K (spotsFrom above path (index + 1) es) := by
  have own : Spot.IsMissed K ⟨index :: above, path, e⟩ ↔ e.required :=
    ⟨fun h => h.1, fun h => ⟨h, left, top⟩⟩
  have inner : missed ruleId K
      (spotsFrom (index :: above) (path ++ e.title ++ " > ") 0 e.inner) = [] := by
    refine missed_eq_nil fun x hx h => ?_
    have hn := not_kept_below (parentClosed_cons closed).2.1 (List.cons_ne_nil _ _) left x hx
    exact h.2.2.elim hn.2.1 hn.2.2
  rw [spotsFrom_cons, missed_cons, missed_append, inner, List.nil_append]
  simp only [own]

end Outline.Schema
