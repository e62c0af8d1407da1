import Mathlib.Data.List.Perm.Subperm
import Outline.Proofs.Check.Listing

namespace Outline

namespace Section

-- What messages say of a section that is not where it belongs.
structure SameHeading (s t : Section) : Prop where
  title     : s.title = t.title
  position? : s.position? = t.position?

theorem SameHeading.refl (s : Section) : s.SameHeading s :=
  ⟨rfl, rfl⟩

-- The section has content of its own that is of one of the types.
def IsFilled (types : List String) (s : Section) : Prop :=
  ∃ b ∈ s.content, b.kind.name ∈ types

end Section

-- The path and the title of a match.
def Event.heading? : Event → Option (String × String)
  | .checked path s => some (path, s.title)
  | .reported _     => none

-- The same is reported, and the matches have the same paths and titles.
structure Agree (out out' : List Event) : Prop where
  diagnostics_eq : out.filterMap Event.diagnostic? = out'.filterMap Event.diagnostic?
  headings_eq    : out.filterMap Event.heading? = out'.filterMap Event.heading?

namespace Agree

variable {out out' more more' : List Event}

theorem refl : Agree out out :=
  ⟨rfl, rfl⟩

theorem append (h : Agree out out') (m : Agree more more') : Agree (out ++ more) (out' ++ more') where
  diagnostics_eq := by simp [h.diagnostics_eq, m.diagnostics_eq]
  headings_eq    := by simp [h.headings_eq, m.headings_eq]

theorem flatMap {α : Type} {l : List α} {f g : α → List Event} (h : ∀ a ∈ l, Agree (f a) (g a)) :
    Agree (l.flatMap f) (l.flatMap g) := by
  induction l
  case nil => exact refl
  case cons a l hi =>
    simp only [List.flatMap_cons]
    exact append (h a List.mem_cons_self) (hi fun b hb => h b (List.mem_cons_of_mem a hb))

end Agree

namespace Check

open Schema (Entry)
open Section (SameHeading)

-- Entries cannot tell the two lists of sections apart. They look at the headings of as many sections
-- as there are entries. Of a section that is matched they see whether it is filled and whether it has
-- deeper sections at all, and these themselves only through the entries below.
inductive Alike (found : Found) (types : List String) :
    List Entry → List Section → List Section → Prop
  | intro {es ss ts} {js : List Nat}
      (greedy   : Greedy found es ss js)
      (headings : ∀ k < es.length, Option.Rel SameHeading ss[k]? ts[k]?)
      (filled   : ∀ {i j : Nat} {e s t}, js[i]? = some j → es[j]? = some e → ss[i]? = some s →
        ts[i]? = some t → (s.IsFilled types ↔ t.IsFilled types))
      (bare     : ∀ {i j : Nat} {e s t}, js[i]? = some j → es[j]? = some e → ss[i]? = some s →
        ts[i]? = some t → (s.children = [] ↔ t.children = []))
      (below    : ∀ {i j : Nat} {e s t es'}, js[i]? = some j → es[j]? = some e → ss[i]? = some s →
        ts[i]? = some t → e.children? = some es' → Alike found types es' s.children t.children) :
      Alike found types es ss ts

variable {found : Found} {types : List String} {c : Context} {e : Entry} {s t : Section}
variable {es : List Entry} {ss ts : List Section} {js : List Nat}

-- Which entries are matched is told by the titles of as many sections as there are entries.
theorem chosen_eq_of_headings (h : ∀ k < es.length, Option.Rel SameHeading ss[k]? ts[k]?) :
    chosen found es ss = chosen found es ts := by
  induction es generalizing ss ts
  case nil => rfl
  case cons e es hi =>
    have first := h 0 (Nat.succ_pos _)
    cases ss <;> cases ts
    case nil.nil  => rfl
    case nil.cons => nomatch first
    case cons.nil => nomatch first
    case cons.cons s ss t ts =>
      obtain ⟨title, -⟩ : SameHeading s t := by simpa using first
      have rest : chosen found es ss = chosen found es ts :=
        hi fun k hk => by simpa using h (k + 1) (Nat.succ_lt_succ hk)
      have same : chosen found es (s :: ss) = chosen found es (t :: ts) :=
        hi fun k hk => h k (Nat.lt_succ_of_lt hk)
      simp only [chosen, title, rest, same]

-- No section is matched with an entry that stands further up than the section itself.
theorem le_of_getElem? (h : js.Pairwise (· < ·)) {i j : Nat} (hj : js[i]? = some j) : i ≤ j := by
  induction i generalizing j
  case zero => exact Nat.zero_le j
  case succ i hi =>
    have ⟨hs, hsj⟩ := List.getElem?_eq_some_iff.mp hj
    have hlt := List.pairwise_iff_getElem.mp h i (i + 1) (Nat.lt_of_succ_lt hs) hs (Nat.lt_succ_self i)
    exact Nat.succ_le_of_lt <| hsj ▸ Nat.lt_of_le_of_lt (hi (List.getElem?_eq_getElem _)) hlt

-- Before an entry that is missed, no more sections are matched than there are entries before it.
theorem countP_lt_le (h : js.Pairwise (· < ·)) (j : Nat) : js.countP (· < j) ≤ j := by
  have nodup : (js.filter (· < j)).Nodup := (h.imp Nat.ne_of_lt).filter _
  have sub : js.filter (· < j) ⊆ List.range j := fun q hq => by simpa using (List.mem_filter.mp hq).2
  have le := (List.subperm_of_subset nodup sub).length_le
  rwa [← List.countP_eq_length_filter, List.length_range] at le

theorem onMiss_eq_of_heading {s? t? : Option Section} (h : Option.Rel SameHeading s? t?) :
    onMiss c e s? = onMiss c e t? := by
  cases h
  case none => rfl
  case some h =>
    dsimp only [onMiss, orderMessage]
    rw [h.title, h.position?]

theorem isEmpty_iff : IsEmpty c e s ↔
    e.nonEmpty ∧ ¬s.IsFilled c.contentTypes ∧ ¬(c.allowsChildren e ∧ s.children ≠ []) := by
  simp [IsEmpty, Section.IsFilled]

theorem matched_agree (heading : s.SameHeading t)
    (filled : s.IsFilled c.contentTypes ↔ t.IsFilled c.contentTypes)
    (bare : s.children = [] ↔ t.children = []) : Agree (matched c e s) (matched c e t) := by
  have empty : IsEmpty c e s ↔ IsEmpty c e t := by rw [isEmpty_iff, isEmpty_iff, filled, ne_eq, bare]
  have checked : Agree [.checked (c.path ++ e.name) s] [.checked (c.path ++ e.name) t] :=
    ⟨rfl, by simp [Event.heading?, heading.title]⟩
  simp only [matched, empty, heading.position?]
  exact checked.append .refl

theorem below_agree
    (h : ∀ es', e.children? = some es' →
      Agree (level found (c.descend e) es' ss) (level found (c.descend e) es' ts)) :
    Agree (below found c e ss) (below found c e ts) := by
  cases he : e.children?
  case none     => rw [below_of_none he, below_of_none he]; exact .refl
  case some es' => rw [below_of_some he, below_of_some he]; exact h es' he

theorem level_agree (h : Alike found c.contentTypes es ss ts) :
    Agree (level found c es ss) (level found c es ts) := by
  generalize ht : c.contentTypes = types at h
  induction h generalizing c
  case intro es ss ts js g headings filled bare _ hi =>
    subst ht
    obtain rfl := g.unique (chosen_greedy found es ss)
    have same : chosen found es ss = chosen found es ts := chosen_eq_of_headings headings
    rw [level_eq_shares, level_eq_shares]
    refine Agree.flatMap fun j hj => ?_
    have he := List.getElem?_eq_getElem (List.mem_range.mp hj)
    by_cases hm : j ∈ chosen found es ss
    case neg =>
      have hk : (chosen found es ss).countP (· < j) < es.length :=
        Nat.lt_of_le_of_lt (countP_lt_le g.ascending j) (List.mem_range.mp hj)
      rw [share_miss hm he, share_miss (same ▸ hm) he, ← same, ← onMiss_eq, ← onMiss_eq,
        onMiss_eq_of_heading (headings _ hk)]
      exact .refl
    case pos =>
      have ⟨i, hi'⟩ := List.mem_iff_getElem?.mp hm
      have ⟨s, _, hs, _⟩ := g.accepts hi'
      have ⟨t, _, ht, _⟩ := (chosen_greedy found es ts).accepts (same ▸ hi')
      have hk : i < es.length :=
        Nat.lt_of_le_of_lt (le_of_getElem? g.ascending hi') (List.mem_range.mp hj)
      have heading : s.SameHeading t := by simpa [hs, ht] using headings i hk
      rw [share_hit hi' he hs, share_hit (same ▸ hi') he ht]
      refine (matched_agree heading (filled hi' he hs ht) (bare hi' he hs ht)).append ?_
      exact below_agree fun es' hc => hi hi' he hs ht hc rfl

namespace Alike

theorem refl (found : Found) (types : List String) (es : List Entry) (ss : List Section) :
    Alike found types es ss ss := by
  induction es using Schema.levels_induction generalizing ss
  case level es hi =>
    refine .intro (chosen_greedy found es ss) (fun k _ => ?headings) ?filled ?bare ?below
    case headings => cases ss[k]? <;> simp [SameHeading.refl]
    case filled   => rintro _ _ _ _ _ - - hs ht; rw [Option.some.inj <| hs.symm.trans ht]
    case bare     => rintro _ _ _ _ _ - - hs ht; rw [Option.some.inj <| hs.symm.trans ht]
    case below =>
      rintro _ _ e s t es' - he hs ht hc
      obtain rfl : s = t := Option.some.inj <| hs.symm.trans ht
      exact hi e (List.mem_of_getElem? he) es' hc _

-- Nothing but the heading counts of a section that is not matched.
theorem of_matched (greedy : Greedy found es ss js)
    (headings : ∀ k < es.length, Option.Rel SameHeading ss[k]? ts[k]?)
    (same : ∀ k < js.length, ss[k]? = ts[k]?) : Alike found types es ss ts := by
  have eq : ∀ {i j : Nat} {s t}, js[i]? = some j → ss[i]? = some s → ts[i]? = some t → s = t := by
    intro i j s t hj hs ht
    rw [same i (List.getElem?_eq_some_iff.mp hj).1, ht] at hs
    exact (Option.some.inj hs).symm
  refine .intro greedy headings ?filled ?bare ?below
  case filled => intro _ _ _ _ _ hj _ hs ht; rw [eq hj hs ht]
  case bare   => intro _ _ _ _ _ hj _ hs ht; rw [eq hj hs ht]
  case below  => intro _ _ _ _ _ _ hj _ hs ht _; rw [eq hj hs ht]; exact refl ..

end Alike

-- What is said at a level, and below it, depends on no more of the sections than entries can see.
-- Sections beyond the number of entries do not count, and of a section that is not matched neither
-- its content nor what is below it.
theorem agree_of_alike (found : Found) (c : Context) (es : List Entry) (ss ts : List Section) :
    (Alike found c.contentTypes es ss ts → Agree (level found c es ss) (level found c es ts)) ∧
    ∀ js, Greedy found es ss js →
      (∀ k < es.length, Option.Rel SameHeading ss[k]? ts[k]?) →
      (∀ k < js.length, ss[k]? = ts[k]?) → Agree (level found c es ss) (level found c es ts) :=
  ⟨level_agree, fun _ g headings same => level_agree <| .of_matched g headings same⟩

-- The level below the first entry has no entries, so that only its being there is seen.
def twoSteps : List Entry := [
  ⟨some "A", none, true, true, some true, none, some [], none⟩,
  ⟨some "B", none, true, false, none, none, none, none⟩]

def brief : List Section := [
  ⟨"A", 1, none, [], [⟨"X", 2, none, [], []⟩]⟩, ⟨"Z", 1, some ⟨4, 1⟩, [], []⟩]

def lengthy : List Section := [
  ⟨"A", 1, none, [⟨.math, none, [], none⟩], [⟨"Y", 3, none, [], []⟩, ⟨"X", 2, none, [], []⟩]⟩,
  ⟨"Z", 2, some ⟨4, 1⟩, [⟨.text, some "z", [], none⟩], [⟨"B", 3, none, [], []⟩]⟩,
  ⟨"B", 1, none, [], []⟩]

theorem alike_lengthy : Alike (fun _ _ => false) ["code"] twoSteps brief lengthy := by
  have first : ∀ {i j : Nat} {e s t}, [0][i]? = some j → twoSteps[j]? = some e → brief[i]? = some s →
      lengthy[i]? = some t → twoSteps[0]? = some e ∧ brief[0]? = some s ∧ lengthy[0]? = some t := by
    intro i j e s t hj he hs ht
    have ⟨hi, hj⟩ := List.getElem?_eq_some_iff.mp hj
    obtain rfl : i = 0 := Nat.lt_one_iff.mp hi
    obtain rfl : 0 = j := hj
    exact ⟨he, hs, ht⟩
  have greedy : Greedy (fun _ _ => false) twoSteps brief [0] := chosen_greedy _ twoSteps brief
  refine .intro greedy ?headings ?filled ?bare ?below
  case headings =>
    intro k hk
    match k with
    | 0 => exact .some ⟨rfl, rfl⟩
    | 1 => exact .some ⟨rfl, rfl⟩
  case filled =>
    intro i j e s t hj he hs ht
    obtain ⟨-, rfl, rfl⟩ : _ ∧ _ = s ∧ _ = t := by simpa [brief, lengthy] using first hj he hs ht
    simp [Section.IsFilled, ContentKind.name]
  case bare =>
    intro i j e s t hj he hs ht
    obtain ⟨-, rfl, rfl⟩ : _ ∧ _ = s ∧ _ = t := by simpa [brief, lengthy] using first hj he hs ht
    simp
  case below =>
    intro i j e s t es' hj he hs ht hc
    obtain ⟨rfl, -, -⟩ : _ = e ∧ _ ∧ _ := by simpa [twoSteps] using first hj he hs ht
    obtain rfl : [] = es' := by simpa using hc
    exact .of_matched .nil_left (by simp) (by simp)

-- The section that is not matched is told apart by its content and by what is below it.
def strayFilled : List Section := [
  ⟨"A", 1, none, [], [⟨"X", 2, none, [], []⟩]⟩,
  ⟨"Z", 2, some ⟨4, 1⟩, [⟨.text, some "z", [], none⟩], [⟨"B", 3, none, [], []⟩]⟩]

theorem agree_of_alike_lengthy :
    Alike (fun _ _ => false) ["code"] twoSteps brief lengthy ∧
    ((level (fun _ _ => false) ⟨"", true, false, ["code"], "r"⟩ twoSteps brief).filterMap
      Event.diagnostic?).map Diagnostic.message =
      ["Missing required section: B", "Section \"Z\" is out of order. Expected \"B\" at root level."] ∧
    Agree (level (fun _ _ => false) ⟨"", true, false, ["code"], "r"⟩ twoSteps brief)
      (level (fun _ _ => false) ⟨"", true, false, ["code"], "r"⟩ twoSteps lengthy) ∧
    Greedy (fun _ _ => false) twoSteps brief [0] ∧
    Agree (level (fun _ _ => false) ⟨"", true, false, ["code"], "r"⟩ twoSteps brief)
      (level (fun _ _ => false) ⟨"", true, false, ["code"], "r"⟩ twoSteps strayFilled) := by
  have greedy : Greedy (fun _ _ => false) twoSteps brief [0] := chosen_greedy _ twoSteps brief
  have headings : ∀ k < twoSteps.length, Option.Rel SameHeading brief[k]? strayFilled[k]? := by
    intro k hk
    match k with
    | 0 => exact .some ⟨rfl, rfl⟩
    | 1 => exact .some ⟨rfl, rfl⟩
  have same : ∀ k < [0].length, brief[k]? = strayFilled[k]? := by
    intro k hk
    match k with
    | 0 => rfl
  exact ⟨alike_lengthy, by decide +kernel, (agree_of_alike _ _ _ _ _).1 alike_lengthy, greedy,
    (agree_of_alike _ _ _ _ _).2 [0] greedy headings same⟩

end Check
end Outline
