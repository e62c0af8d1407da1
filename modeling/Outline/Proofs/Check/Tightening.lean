import Outline.Check.Checker
import Outline.Proofs.Check.Listing

namespace Outline

namespace Schema

-- The second entry asks its section for no less than the first one. It sets what the first one sets.
structure Entry.Stricter (e e' : Entry) : Prop where
  title         : e'.title? = e.title?
  titlePattern  : e'.titlePattern? = e.titlePattern?
  required      : e.required ≤ e'.required
  nonEmpty      : e.nonEmpty ≤ e'.nonEmpty
  allowChildren : Option.Rel (· ≥ ·) e.allowChildren? e'.allowChildren?
  enforceOrder  : Option.Rel (· ≤ ·) e.enforceOrder? e'.enforceOrder?
  children      : e'.children?.isSome = e.children?.isSome
  description   : e'.description? = e.description?

-- The same entries at every level, each one no less strict.
inductive Tightens : List Entry → List Entry → Prop
  | nil : Tightens [] []
  | cons {e e' es es'} (own : e.Stricter e') (inner : Tightens e.inner e'.inner)
      (rest : Tightens es es') : Tightens (e :: es) (e' :: es')

namespace Entry.Stricter

variable {e e' : Entry}

theorem name_eq (h : e.Stricter e') : e'.name = e.name := by
  simp [name, h.title, h.titlePattern]

theorem suffix_eq (h : e.Stricter e') : e'.suffix = e.suffix := by
  simp [suffix, h.description]

theorem accepts_eq (h : e.Stricter e') {found : Found} {title : String} :
    e'.accepts found title = e.accepts found title := by
  simp [accepts, h.title, h.titlePattern]

end Entry.Stricter

theorem Tightens.patterns_eq {es es' : List Entry} (t : Tightens es es') :
    patterns es' = patterns es := by
  induction t
  case nil                    => rfl
  case cons own _ _ inner rest => simp [patterns_cons, own.titlePattern, inner, rest]

end Schema

-- The second level is checked at least as strictly as the first one, at the same place.
structure Context.Stricter (c c' : Context) : Prop where
  path          : c'.path = c.path
  enforceOrder  : c.enforceOrder ≤ c'.enforceOrder
  allowChildren : c.allowChildren ≥ c'.allowChildren
  contentTypes  : c'.contentTypes ⊆ c.contentTypes
  ruleId        : c'.ruleId = c.ruleId

-- Among what the second output says is all that the first one says, and it says no more of matches.
structure Extends (out out' : List Event) : Prop where
  sublist    : out.Sublist out'
  matches_eq : out.filterMap Event.match? = out'.filterMap Event.match?

namespace Extends

variable {out out' more more' : List Event} {p p' : Prop} [Decidable p] [Decidable p']

theorem refl : Extends out out :=
  ⟨.refl out, rfl⟩

theorem append (h : Extends out out') (m : Extends more more') :
    Extends (out ++ more) (out' ++ more') where
  sublist    := h.sublist.append m.sublist
  matches_eq := by simp [h.matches_eq, m.matches_eq]

-- A report that is made in more cases.
theorem report_if (d : Diagnostic) (h : p → p') :
    Extends (if p then [.reported d] else []) (if p' then [.reported d] else []) := by
  by_cases hp : p
  case pos => simpa [hp, h hp] using refl
  case neg =>
    by_cases hp' : p'
    case pos => simp only [hp, hp', if_false, if_true]; exact ⟨List.nil_sublist _, rfl⟩
    case neg => simpa [hp, hp'] using refl

end Extends

theorem getD_rel {r : Bool → Bool → Prop} {a a' : Option Bool} {b b' : Bool}
    (h : Option.Rel r a a') (hb : r b b') : r (a.getD b) (a'.getD b') := by
  cases h
  case some h => exact h
  case none   => exact hb

namespace Check

open Schema (Entry Tightens)

variable {c c' : Context} {e e' : Entry} {s : Section}

theorem allowsChildren_ge (hc : c.Stricter c') (he : e.Stricter e') :
    c.allowsChildren e ≥ c'.allowsChildren e' :=
  getD_rel he.allowChildren hc.allowChildren

theorem descend_stricter (hc : c.Stricter c') (he : e.Stricter e') :
    (c.descend e).Stricter (c'.descend e') where
  path          := by simp [Context.descend, hc.path, he.name_eq]
  enforceOrder  := getD_rel he.enforceOrder hc.enforceOrder
  allowChildren := allowsChildren_ge hc he
  contentTypes  := hc.contentTypes
  ruleId        := hc.ruleId

theorem isEmpty_of_stricter (hc : c.Stricter c') (he : e.Stricter e') (h : IsEmpty c e s) :
    IsEmpty c' e' s := by
  have ⟨hn, hb, hs⟩ := h
  refine ⟨he.nonEmpty hn, fun b hm ht => hb b hm (hc.contentTypes ht), fun ⟨ha, hne⟩ => ?_⟩
  exact hs ⟨allowsChildren_ge hc he ha, hne⟩

theorem matched_extends (hc : c.Stricter c') (he : e.Stricter e') :
    Extends (matched c e s) (matched c' e' s) := by
  have hm : emptyMessage c' e' = emptyMessage c e := by
    unfold emptyMessage
    rw [hc.path, he.name_eq, he.suffix_eq]
  simp only [matched, hm, hc.path, hc.ruleId, he.name_eq]
  have checked : Extends [.checked (c.path ++ e.name) s] [.checked (c.path ++ e.name) s] := .refl
  exact checked.append <| .report_if _ <| isEmpty_of_stricter hc he

theorem onMiss_extends (hc : c.Stricter c') (he : e.Stricter e') {current? : Option Section} :
    Extends (onMiss c e current?) (onMiss c' e' current?) := by
  have hm : missingMessage c' e' = missingMessage c e := by
    unfold missingMessage
    rw [hc.path, he.name_eq, he.suffix_eq]
  have ho : ∀ s, orderMessage c' e' s = orderMessage c e s := by
    intro s
    unfold orderMessage Context.place
    rw [hc.path, he.name_eq, he.suffix_eq]
  simp only [onMiss, hm, ho, hc.ruleId]
  refine .append (.report_if _ fun h => he.required h) ?_
  cases current?
  case none => exact .refl
  case some => exact .report_if _ fun h => hc.enforceOrder h

theorem level_extends {found : Found} {es es' : List Entry} {ss : List Section}
    (hc : c.Stricter c') (t : Tightens es es') :
    Extends (level found c es ss) (level found c' es' ss) := by
  induction t generalizing c c' ss
  case nil => exact .refl
  case cons e e' es es' he _ _ inner rest =>
    cases ss
    case nil => exact .append (onMiss_extends hc he) (rest hc)
    case cons s ss =>
      simp only [level, he.accepts_eq, onMatch_eq_matched, below_eq]
      by_cases h : e.accepts found s.title
      case pos =>
        simp only [h, if_true]
        exact .append (.append (matched_extends hc he) (inner (descend_stricter hc he))) (rest hc)
      case neg =>
        simp only [h]
        exact .append (onMiss_extends hc he) (rest hc)

end Check

open Schema (Tightens)

-- What is asked for in the second run is no less strict than what is asked for in the first one.
structure Stricter (s s' : Schema) (o o' : Options) : Prop where
  entries              : Tightens s.sections s'.sections
  enforceOrder         : Option.Rel (· ≤ ·) s.enforceOrder? s'.enforceOrder?
  allowChildren        : Option.Rel (· ≥ ·) s.allowChildren? s'.allowChildren?
  defaultEnforceOrder  : o.enforceOrder ≤ o'.enforceOrder
  defaultAllowChildren : o.allowChildren ≥ o'.allowChildren
  contentTypes         : (Context.ofSchema s' o').contentTypes ⊆ (Context.ofSchema s o).contentTypes
  ruleId               : o'.ruleId = o.ruleId

namespace Stricter

variable {s s' : Schema} {o o' : Options}

theorem context (h : Stricter s s' o o') :
    (Context.ofSchema s o).Stricter (Context.ofSchema s' o') where
  path          := rfl
  enforceOrder  := getD_rel h.enforceOrder h.defaultEnforceOrder
  allowChildren := getD_rel h.allowChildren h.defaultAllowChildren
  contentTypes  := h.contentTypes
  ruleId        := h.ruleId

theorem badPattern?_eq (h : Stricter s s' o o') : s'.badPattern? = s.badPattern? := by
  simp [Schema.badPattern?, h.entries.patterns_eq]

end Stricter

-- A stricter checker is made if and only if the other one is. It reports all that the other one
-- reports, in the same order, and matches the same sections.
theorem sublist_diagnostics_of_stricter {s s' : Schema} {o o' : Options} (h : Stricter s s' o o') :
    (∀ e, Checker.ofSchema s o = .error e ↔ Checker.ofSchema s' o' = .error e) ∧
    ∀ c, Checker.ofSchema s o = .ok c → ∃ c', Checker.ofSchema s' o' = .ok c' ∧ ∀ forest,
      (c.diagnostics forest).Sublist (c'.diagnostics forest) ∧
      (c.events forest).filterMap Event.match? = (c'.events forest).filterMap Event.match? := by
  rw [Checker.ofSchema, Checker.ofSchema, h.badPattern?_eq]
  cases s.badPattern?
  case some e => simp
  case none =>
    refine ⟨by simp, fun c hc => ?_⟩
    obtain rfl := Except.ok.inj hc
    refine ⟨_, rfl, fun forest => ?_⟩
    have x : Extends (Checker.events ⟨s, .ofSchema s o⟩ forest)
        (Checker.events ⟨s', .ofSchema s' o'⟩ forest) :=
      Check.level_extends h.context h.entries
    exact ⟨x.sublist.filterMap _, x.matches_eq⟩

def lenient : Schema := {
  sections := [
    ⟨some "A", none, false, false, some true, some false,
      some [⟨some "B", none, false, true, none, none, none, none⟩,
        ⟨some "C", none, false, false, none, none, none, none⟩], none⟩,
    ⟨some "D", none, true, false, none, none, none, none⟩]
  enforceOrder?  := none
  allowChildren? := none
  contentTypes?  := none
}

def demanding : Schema := {
  sections := [
    ⟨some "A", none, false, true, some false, some true,
      some [⟨some "B", none, true, true, none, none, none, none⟩,
        ⟨some "C", none, false, false, none, none, none, none⟩], none⟩,
    ⟨some "D", none, true, false, none, none, none, none⟩]
  enforceOrder?  := none
  allowChildren? := none
  contentTypes?  := some ["code"]
}

theorem stricter_demanding : Stricter lenient demanding .default .default where
  entries :=
    .cons ⟨rfl, rfl, by decide, by decide, .some (by decide), .some (by decide), rfl, rfl⟩
      (.cons ⟨rfl, rfl, by decide, by decide, .none, .none, rfl, rfl⟩ .nil
        (.cons ⟨rfl, rfl, by decide, by decide, .none, .none, rfl, rfl⟩ .nil .nil))
      (.cons ⟨rfl, rfl, by decide, by decide, .none, .none, rfl, rfl⟩ .nil .nil)
  enforceOrder         := .none
  allowChildren        := .none
  defaultEnforceOrder  := by decide
  defaultAllowChildren := by decide
  contentTypes         := by decide
  ruleId               := rfl

-- A document without `B` and `D`, and with nothing in `A` but a deeper section.
def sparse : List Section := [⟨"A", 1, none, [], [⟨"C", 2, none, [], []⟩]⟩]

theorem ofSchema_lenient :
    Checker.ofSchema lenient .default = .ok ⟨lenient, .ofSchema lenient .default⟩ := by
  simp [Checker.ofSchema, Schema.badPattern?, Schema.patterns, lenient]

theorem ofSchema_demanding :
    Checker.ofSchema demanding .default = .ok ⟨demanding, .ofSchema demanding .default⟩ := by
  simp [Checker.ofSchema, Schema.badPattern?, Schema.patterns, demanding]

theorem sublist_diagnostics_of_stricter_sparse :
    Stricter lenient demanding .default .default ∧
    ∃ c c', Checker.ofSchema lenient .default = .ok c ∧
      Checker.ofSchema demanding .default = .ok c' ∧
      (c.diagnostics sparse).map Diagnostic.message = ["Missing required section: D"] ∧
      (c'.diagnostics sparse).map Diagnostic.message = [
        "Section \"A\" must not be empty.",
        "Missing required section: A > B",
        "Section \"C\" is out of order. Expected \"B\" at A.",
        "Missing required section: D"] ∧
      (c.diagnostics sparse).Sublist (c'.diagnostics sparse) ∧
      (c.events sparse).filterMap Event.match? = (c'.events sparse).filterMap Event.match? := by
  have h := (sublist_diagnostics_of_stricter stricter_demanding).2 _ ofSchema_lenient
  obtain ⟨c', hc', h⟩ := h
  obtain rfl := Except.ok.inj <| ofSchema_demanding.symm.trans hc'
  exact ⟨stricter_demanding, _, _, ofSchema_lenient, hc', by decide +kernel, by decide +kernel,
    h sparse⟩

end Outline
