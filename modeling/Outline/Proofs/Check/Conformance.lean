import Outline.Proofs.Check.Listing

namespace Outline.Check

open Schema (Entry)

-- A level conforms to its entries if no required one is left out, sections and entries stand side by
-- side where order is enforced, no section is empty that must not be, and the levels below conform.
inductive Conforms (found : Found) : Context → List Entry → List Section → Prop
  | intro {c es ss} {js : List Nat}
      (greedy  : Greedy found es ss js)
      (present : ∀ {j : Nat} {e}, j ∉ js → es[j]? = some e → ¬e.required)
      (ordered : c.enforceOrder → ∀ k < min ss.length es.length, Accepts found es ss k k)
      (filled  : ∀ {i j : Nat} {e s}, js[i]? = some j → es[j]? = some e → ss[i]? = some s →
        ¬IsEmpty c e s)
      (below   : ∀ {i j : Nat} {e s es'}, js[i]? = some j → es[j]? = some e → ss[i]? = some s →
        e.children? = some es' → Conforms found (c.descend e) es' s.children) :
      Conforms found c es ss

variable {found : Found} {c : Context} {e : Entry} {s : Section}
variable {es : List Entry} {ss : List Section}

theorem matched_reports_nothing :
    (matched c e s).filterMap Event.diagnostic? = [] ↔ ¬IsEmpty c e s := by
  by_cases h : IsEmpty c e s <;> simp [matched, h, Event.diagnostic?, List.filterMap_cons]

theorem missing_reports_nothing :
    (missing c e).filterMap Event.diagnostic? = [] ↔ ¬e.required := by
  by_cases h : e.required <;> simp [missing, h, Event.diagnostic?]

theorem misplaced_reports_nothing {i : Nat} :
    (misplaced c e ss i).filterMap Event.diagnostic? = [] ↔ (c.enforceOrder → ss.length ≤ i) := by
  by_cases h : c.enforceOrder ∧ i < ss.length
  case pos => simp [misplaced, h, Event.diagnostic?]
  case neg =>
    simp only [misplaced, h, dif_neg, not_false_eq_true, List.filterMap_nil, true_iff]
    exact fun ho => Nat.le_of_not_lt fun hi => h ⟨ho, hi⟩

theorem share_hit_reports_nothing {i j : Nat} (hj : (chosen found es ss)[i]? = some j)
    (he : es[j]? = some e) (hs : ss[i]? = some s) :
    (share found c es ss j).filterMap Event.diagnostic? = [] ↔
      ¬IsEmpty c e s ∧ (below found c e s.children).filterMap Event.diagnostic? = [] := by
  rw [share_hit hj he hs, List.filterMap_append, List.append_eq_nil_iff, matched_reports_nothing]

theorem share_miss_reports_nothing {j : Nat} (hj : j ∉ chosen found es ss) (he : es[j]? = some e) :
    (share found c es ss j).filterMap Event.diagnostic? = [] ↔
      ¬e.required ∧ (c.enforceOrder → ss.length ≤ (chosen found es ss).countP (· < j)) := by
  rw [share_miss hj he, List.filterMap_append, List.append_eq_nil_iff, missing_reports_nothing,
    misplaced_reports_nothing]

-- A level reports nothing if that is so for the share of each entry.
theorem reports_nothing_iff_shares :
    (level found c es ss).filterMap Event.diagnostic? = [] ↔
      (∀ {i j : Nat} {e s}, (chosen found es ss)[i]? = some j → es[j]? = some e → ss[i]? = some s →
        ¬IsEmpty c e s ∧ (below found c e s.children).filterMap Event.diagnostic? = []) ∧
      ∀ {j : Nat} {e}, j ∉ chosen found es ss → es[j]? = some e →
        ¬e.required ∧ (c.enforceOrder → ss.length ≤ (chosen found es ss).countP (· < j)) := by
  have hs : (level found c es ss).filterMap Event.diagnostic? = [] ↔
      ∀ j < es.length, (share found c es ss j).filterMap Event.diagnostic? = [] := by
    simp [level_eq_shares, List.filterMap_flatMap]
  rw [hs]
  constructor
  case mp =>
    intro h
    have hl : ∀ {j : Nat} {e}, es[j]? = some e → j < es.length :=
      fun he => (List.getElem?_eq_some_iff.mp he).1
    exact ⟨fun hj he hs => (share_hit_reports_nothing hj he hs).mp <| h _ (hl he),
      fun hj he => (share_miss_reports_nothing hj he).mp <| h _ (hl he)⟩
  case mpr =>
    intro ⟨hit, miss⟩ j hj
    have he := List.getElem?_eq_getElem hj
    by_cases hm : j ∈ chosen found es ss
    case pos =>
      have ⟨i, hi⟩ := List.mem_iff_getElem?.mp hm
      have ⟨s, _, hs, _⟩ := (chosen_greedy found es ss).accepts hi
      exact (share_hit_reports_nothing hi he hs).mpr (hit hi he hs)
    case neg => exact (share_miss_reports_nothing hm he).mpr (miss hm he)

-- No entry is missed while there are sections left exactly if each section is expected by the entry
-- at its own place. The first entry that is not has a section beside it when it is missed.
theorem no_section_at_misses_iff :
    (∀ j < es.length, j ∉ chosen found es ss → ss.length ≤ (chosen found es ss).countP (· < j)) ↔
      ∀ k < min ss.length es.length, Accepts found es ss k k := by
  induction es generalizing ss
  case nil => simp
  case cons e es hi =>
    cases ss
    case nil => simp
    case cons s ss =>
      by_cases h : e.accepts found s.title
      case pos =>
        simp only [chosen, h, if_true, List.length_cons, Nat.add_min_add_right, Nat.forall_lt_succ_left',
          Accepts.head, Accepts.tail_left, Accepts.tail_right, true_and]
        rw [← hi]
        simp [List.countP_map, Function.comp_def]
      case neg =>
        -- Both sides fail at the first entry.
        refine iff_of_false (fun hn => ?missed) (fun ha => ?accepts)
        case missed =>
          have hl := hn 0 (by simp) (by simp [chosen, h])
          simp at hl
        case accepts => exact h <| Accepts.head.mp <| ha 0 (by simp)

theorem conforms_of_reports_nothing (h : (level found c es ss).filterMap Event.diagnostic? = []) :
    Conforms found c es ss := by
  induction es using Schema.levels_induction generalizing c ss
  case level es hi =>
    have ⟨hit, miss⟩ := reports_nothing_iff_shares.mp h
    refine .intro (chosen_greedy found es ss) ?present ?ordered ?filled ?below
    case present => exact fun hj he => (miss hj he).1
    case ordered =>
      intro ho
      refine no_section_at_misses_iff.mp fun j hj hm => ?_
      exact (miss hm (List.getElem?_eq_getElem hj)).2 ho
    case filled => exact fun hj he hs => (hit hj he hs).1
    case below =>
      intro i j e s es' hj he hs hc
      have hb := (hit hj he hs).2
      rw [below_of_some hc] at hb
      exact hi e (List.mem_of_getElem? he) es' hc hb

theorem reports_nothing_of_conforms (h : Conforms found c es ss) :
    (level found c es ss).filterMap Event.diagnostic? = [] := by
  induction h
  case intro c es ss js g present ordered filled _ hi =>
    obtain rfl := g.unique (chosen_greedy found es ss)
    refine reports_nothing_iff_shares.mpr ⟨fun {_ _ e s} hj he hs => ⟨filled hj he hs, ?below⟩,
      fun hj he => ⟨present hj he, fun ho => ?ordered⟩⟩
    case below =>
      cases hc : e.children?
      case none     => simp [below_of_none hc]
      case some es' => rw [below_of_some hc]; exact hi hj he hs hc
    case ordered =>
      exact no_section_at_misses_iff.mpr (ordered ho) _ (List.getElem?_eq_some_iff.mp he).1 hj

-- Nothing is reported at a level and below it exactly if the sections conform to the entries.
theorem reports_nothing_iff_conforms (found : Found) (c : Context) (es : List Entry)
    (ss : List Section) :
    (level found c es ss).filterMap Event.diagnostic? = [] ↔ Conforms found c es ss where
  mp  := conforms_of_reports_nothing
  mpr := reports_nothing_of_conforms

end Outline.Check
