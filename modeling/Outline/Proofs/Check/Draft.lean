import Outline.Proofs.Check.Conformance
import Outline.Proofs.Schema.Missed
import Outline.Proofs.Section.Written

namespace Outline

open Schema (Entry Spot Titled ParentClosed spotsFrom missed)

-- A heading and a paragraph for an entry.
structure Drafted (x : Spot) (h : Heading) (b : Content) : Prop where
  depth : h.depth = x.level
  title : h.title = x.entry.title
  kind  : b.kind = .paragraph

-- A document that has a section with one paragraph for each entry.
inductive Draft : List Spot → List Node → Prop
  | nil : Draft [] []
  | cons {x xs h b nodes} (own : Drafted x h b) (rest : Draft xs nodes) :
      Draft (x :: xs) (.heading h :: .content b :: nodes)

namespace Draft

variable {xs ys : List Spot} {nodes : List Node}

theorem exists_of_trimmed (h : ∀ x ∈ xs, Text.trim x.entry.title = x.entry.title) :
    ∃ nodes, Draft xs nodes := by
  induction xs
  case nil => exact ⟨[], .nil⟩
  case cons x xs hi =>
    have ⟨hx, hxs⟩ := List.forall_mem_cons.mp h
    have ⟨nodes, d⟩ := hi hxs
    have own : Drafted x ⟨x.level, [⟨"text", some x.entry.title, []⟩], none⟩
        ⟨.paragraph, none, [], none⟩ :=
      ⟨rfl, Piece.title_text.trans hx, rfl⟩
    exact ⟨_, .cons own d⟩

theorem of_append (d : Draft (xs ++ ys) nodes) :
    ∃ front back, nodes = front ++ back ∧ Draft xs front ∧ Draft ys back := by
  induction xs generalizing nodes
  case nil => exact ⟨[], nodes, rfl, .nil, d⟩
  case cons x xs hi =>
    cases d
    case cons h b nodes own rest =>
      obtain ⟨front, back, rfl, hf, hb⟩ := hi rest
      exact ⟨.heading h :: .content b :: front, back, rfl, .cons own hf, hb⟩

theorem head?_isHeading (d : Draft xs nodes) : ∀ node ∈ nodes.head?, node.isHeading := by
  cases d <;> simp

theorem stream (d : Draft xs nodes) (h : ∀ x ∈ xs, 1 ≤ x.level ∧ x.level ≤ 6) :
    Stream (nodes.filterMap Node.piece?) := by
  constructor
  case opens => cases d <;> simp [Node.piece?]
  case valid =>
    induction d
    case nil => simp
    case cons x xs g b nodes own _ hi =>
      obtain ⟨hx, hxs⟩ := List.forall_mem_cons.mp h
      have valid : (Piece.heading g.title g.depth g.position?).Valid :=
        ⟨Text.trim_trim _, own.depth ▸ hx.1, own.depth ▸ hx.2⟩
      exact List.forall_mem_cons.mpr ⟨valid, List.forall_mem_cons.mpr ⟨trivial, hi hxs⟩⟩

end Draft

-- Order is not enforced at any level that has entries.
inductive Unordered : Context → List Entry → Prop
  | nil {c} : Unordered c []
  | cons {c e es} (off : c.enforceOrder = false) (inner : Unordered (c.descend e) e.inner)
      (rest : Unordered c es) : Unordered c (e :: es)

-- Sections that stand as the entries that are kept do.
inductive Mirrors (K : List Nat → Prop) : List Nat → Nat → List Entry → List Section → Prop
  | nil {above index} : Mirrors K above index [] []
  | keep {above index e es s ss b} (kept : K (index :: above)) (depth : s.depth = above.length + 1)
      (title : s.title = e.title) (content : s.content = [b]) (kind : b.kind = .paragraph)
      (inner : Mirrors K (index :: above) 0 e.inner s.children)
      (rest : Mirrors K above (index + 1) es ss) : Mirrors K above index (e :: es) (s :: ss)
  | skip {above index e es ss} (left : ¬K (index :: above))
      (rest : Mirrors K above (index + 1) es ss) : Mirrors K above index (e :: es) ss

variable {K : List Nat → Prop} {above : List Nat} {path : String} {index n : Nat}
variable {c : Context} {e : Entry} {es : List Entry} {s : Section} {ss : List Section}

theorem unordered_cons : Unordered c (e :: es) ↔
    c.enforceOrder = false ∧ Unordered (c.descend e) e.inner ∧ Unordered c es where
  mp u := by
    cases u
    case cons off inner rest => exact ⟨off, inner, rest⟩
  mpr := fun ⟨off, inner, rest⟩ => .cons off inner rest

-- The sections of a draft.
theorem Draft.exists_mirrors [DecidablePred K] {nodes : List Node}
    (hc : ParentClosed K (spotsFrom above path index es))
    (d : Draft ((spotsFrom above path index es).filter (K ·.place)) nodes) :
    ∃ ss, Mirrors K above index es ss ∧ nodes.filterMap Node.piece? = Section.flatten ss := by
  induction es using Schema.entries_induction generalizing above path index nodes
  case nil =>
    simp only [Schema.spotsFrom_nil, List.filter_nil] at d
    cases d
    exact ⟨[], .nil, by simp [Section.flatten_nil]⟩
  case cons e es hi₁ hi₂ =>
    have ⟨_, inner, rest⟩ := Schema.parentClosed_cons hc
    rw [Schema.spotsFrom_cons, List.filter_cons, List.filter_append] at d
    by_cases hk : K (index :: above)
    case pos =>
      simp only [hk, decide_true, if_true] at d
      cases d
      case cons h b nodes own d =>
        obtain ⟨front, back, rfl, hf, hb⟩ := d.of_append
        have ⟨below, m₁, h₁⟩ := hi₁ inner hf
        have ⟨after, m₂, h₂⟩ := hi₂ rest hb
        refine ⟨⟨h.title, h.depth, h.position?, [b], below⟩ :: after,
          .keep hk own.depth own.title rfl own.kind m₁ m₂, ?_⟩
        simp [Section.flatten_cons, Node.piece?, h₁, h₂]
    case neg =>
      have hn := Schema.not_kept_below inner (List.cons_ne_nil _ _) hk
      have hf : (spotsFrom (index :: above) (path ++ e.title ++ " > ") 0 e.inner).filter
          (K ·.place) = [] := by
        simpa using fun x hx => (hn x hx).1
      simp only [hk, decide_false, hf, List.nil_append] at d
      have ⟨ss, m, h⟩ := hi₂ rest d
      exact ⟨ss, .skip hk m, h⟩

namespace Mirrors

theorem depth_eq (m : Mirrors K above index es ss) : ∀ s ∈ ss, s.depth = above.length + 1 := by
  induction m
  case nil                       => simp
  case keep depth _ _ _ _ _ _ hi => exact List.forall_mem_cons.mpr ⟨depth, hi⟩
  case skip hi                   => exact hi

theorem nested (m : Mirrors K above index es ss) : Section.Nested ss := by
  induction m
  case nil => exact Section.nested_nil
  case keep depth _ _ _ inner rest hi₁ hi₂ =>
    refine Section.nested_cons.mpr ⟨fun t ht => ?_, fun t ht => ?_, hi₁, hi₂⟩
    case refine_1 => simp [depth, inner.depth_eq t ht]
    case refine_2 => simp [depth, rest.depth_eq t ht]
  case skip hi => exact hi

theorem exists_title (m : Mirrors K above index es ss) : ∀ s ∈ ss, ∃ e ∈ es, s.title = e.title := by
  induction m
  case nil => simp
  case keep e _ _ _ _ _ _ title _ _ _ _ _ hi =>
    intro t ht
    cases ht
    case head => exact ⟨e, List.mem_cons_self, title⟩
    case tail ht =>
      have ⟨e', he, ht⟩ := hi t ht
      exact ⟨e', List.mem_cons_of_mem _ he, ht⟩
  case skip hi =>
    intro t ht
    have ⟨e', he, ht⟩ := hi t ht
    exact ⟨e', List.mem_cons_of_mem _ he, ht⟩

end Mirrors

namespace Check

variable {found : Found}

theorem reports_cons_hit (h : e.accepts found s.title) (filled : ¬IsEmpty c e s) :
    (level found c (e :: es) (s :: ss)).filterMap Event.diagnostic? =
      (level found (c.descend e) e.inner s.children).filterMap Event.diagnostic? ++
        (level found c es ss).filterMap Event.diagnostic? := by
  have hl : level found c (e :: es) (s :: ss) =
      matched c e s ++ level found (c.descend e) e.inner s.children ++ level found c es ss := by
    simp [level, h, onMatch_eq_matched, below_eq]
  rw [hl, List.filterMap_append, List.filterMap_append, matched_reports_nothing.mpr filled,
    List.nil_append]

theorem reports_cons_miss (h : ∀ s ∈ ss.head?, ¬e.accepts found s.title)
    (off : c.enforceOrder = false) : (level found c (e :: es) ss).filterMap Event.diagnostic? =
      (if e.required then [⟨missingMessage c e, none, c.ruleId⟩] else []) ++
        (level found c es ss).filterMap Event.diagnostic? := by
  have hl : level found c (e :: es) ss = onMiss c e ss.head? ++ level found c es ss := by
    cases ss
    case nil  => simp [level]
    case cons => simp_all [level]
  have hm : (onMiss c e ss.head?).filterMap Event.diagnostic? =
      if e.required then [⟨missingMessage c e, none, c.ruleId⟩] else [] := by
    by_cases hr : e.required <;> cases ss <;> simp [onMiss, off, hr, Event.diagnostic?]
  rw [hl, List.filterMap_append, hm]

theorem not_isEmpty_of_paragraph {b : Content} (content : s.content = [b])
    (kind : b.kind = .paragraph) (types : "paragraph" ∈ c.contentTypes) : ¬IsEmpty c e s := by
  intro h
  refine h.2.1 b (by simp [content]) ?_
  rwa [kind]

theorem path_descend (h : e.Titled) : (c.descend e).path = c.path ++ e.title ++ " > " := by
  simp [Context.descend, Context.arrow, h.name_eq]

end Check

open Check

theorem missed_of_titled (h : e.Titled) {place : List Nat} :
    Spot.missed c.ruleId ⟨place, c.path, e⟩ = ⟨missingMessage c e, none, c.ruleId⟩ := by
  unfold Spot.missed missingMessage
  rw [h.name_eq]

-- What makes a level of a draft one where nothing but missing entries can be reported. An entry that
-- is kept passes it on to the level below, and every entry to those after it.
structure Drafting (K : List Nat → Prop) (c : Context) (above : List Nat) (index : Nat)
    (es : List Entry) : Prop where
  titled : ∃ n, Titled n es
  types  : "paragraph" ∈ c.contentTypes
  top    : above = [] ∨ K above
  closed : ParentClosed K (spotsFrom above c.path index es)
  -- Nothing can be out of order, for it is not enforced or nothing is left out.
  order  : Unordered c es ∨ ∀ x ∈ spotsFrom above c.path index es, K x.place

namespace Drafting

theorem own (d : Drafting K c above index (e :: es)) : e.Titled := by
  obtain ⟨_, t⟩ := d.titled
  exact (Schema.titled_cons t).1

theorem distinct (d : Drafting K c above index (e :: es)) : ∀ e' ∈ es, e'.title ≠ e.title := by
  obtain ⟨_, t⟩ := d.titled
  exact (Schema.titled_cons t).2.1

theorem off (d : Drafting K c above index (e :: es)) (left : ¬K (index :: above)) :
    c.enforceOrder = false := by
  cases d.order
  case inl u => exact (unordered_cons.mp u).1
  case inr k => exact absurd (Schema.forall_spotsFrom_cons.mp k).1 left

theorem inner (d : Drafting K c above index (e :: es)) (kept : K (index :: above)) :
    Drafting K (c.descend e) (index :: above) 0 e.inner where
  titled := by
    obtain ⟨_, t⟩ := d.titled
    exact (Schema.titled_cons t).2.2.1
  types  := d.types
  top    := .inr kept
  closed := path_descend d.own ▸ (Schema.parentClosed_cons d.closed).2.1
  order  := path_descend d.own ▸
    d.order.imp (fun u => (unordered_cons.mp u).2.1) fun k => (Schema.forall_spotsFrom_cons.mp k).2.1

theorem rest (d : Drafting K c above index (e :: es)) : Drafting K c above (index + 1) es where
  titled := by
    obtain ⟨n, t⟩ := d.titled
    exact ⟨n, (Schema.titled_cons t).2.2.2⟩
  types  := d.types
  top    := d.top
  closed := (Schema.parentClosed_cons d.closed).2.2
  order  :=
    d.order.imp (fun u => (unordered_cons.mp u).2.2) fun k => (Schema.forall_spotsFrom_cons.mp k).2.2

end Drafting

theorem Mirrors.reports [DecidablePred K] {found : Found} (m : Mirrors K above index es ss)
    (d : Drafting K c above index es) : (level found c es ss).filterMap Event.diagnostic? =
      missed c.ruleId K (spotsFrom above c.path index es) := by
  induction m generalizing c
  case nil => simp [level, Schema.spotsFrom_nil, missed]
  case keep e es s ss b kept _ title content kind _ _ hi₁ hi₂ =>
    have accepted : e.accepts found s.title := d.own.accepts_iff.mpr title
    rw [reports_cons_hit accepted (not_isEmpty_of_paragraph content kind d.types),
      Schema.missed_keep kept, hi₁ (d.inner kept), hi₂ d.rest, path_descend d.own]
    rfl
  case skip e es ss left rest hi =>
    -- The section beside the entry is that of another one, which has another title.
    have others : ∀ s ∈ ss.head?, ¬e.accepts found s.title := by
      intro s hs ha
      obtain ⟨e', he, ht⟩ := rest.exists_title s (List.mem_of_mem_head? hs)
      exact d.distinct e' he (ht ▸ d.own.accepts_iff.mp ha)
    rw [reports_cons_miss others (d.off left), Schema.missed_skip left d.top d.closed, hi d.rest,
      missed_of_titled d.own]

theorem checkNodes_of_titled {s : Schema} (t : Titled n s.sections) (o : Options)
    (nodes : List Node) : checkNodes s o nodes =
      .ok (Checker.diagnostics ⟨s, .ofSchema s o⟩ (Section.forest nodes)) := by
  have hb : s.badPattern? = none := by simp [Schema.badPattern?, t.patterns_eq_nil]
  simp only [checkNodes, Checker.ofSchema, hb]
  rfl

-- A document can be drafted after a schema, with some of the entries and what is below them left
-- out. It is then reported to miss just the required ones of these, each by itself: what is below
-- them is not reported, nor is anything else. If nothing is left out, nothing is reported, even if
-- order is enforced.
theorem checkNodes_draft [DecidablePred K] {s : Schema} {o : Options}
    (titled : Titled 6 s.sections) (types : "paragraph" ∈ (Context.ofSchema s o).contentTypes)
    (closed : ParentClosed K s.spots) :
    (∃ nodes, Draft (s.spots.filter (K ·.place)) nodes) ∧
    ∀ nodes, Draft (s.spots.filter (K ·.place)) nodes →
      Stream (nodes.filterMap Node.piece?) ∧
      (Unordered (.ofSchema s o) s.sections →
        checkNodes s o nodes = .ok (missed o.ruleId K s.spots)) ∧
      ((∀ x ∈ s.spots, K x.place) → checkNodes s o nodes = .ok []) := by
  have spots : ∀ x ∈ s.spots.filter (K ·.place),
      x.entry.Titled ∧ 0 < x.level ∧ x.level ≤ 0 + 6 :=
    fun x hx => titled.forall_spots x (List.mem_of_mem_filter hx)
  refine ⟨Draft.exists_of_trimmed fun x hx => (spots x hx).1.trimmed, fun nodes draft => ?_⟩
  have ⟨sections, m, hp⟩ := draft.exists_mirrors closed
  have reports : Unordered (.ofSchema s o) s.sections ∨ (∀ x ∈ s.spots, K x.place) →
      checkNodes s o nodes = .ok (missed o.ruleId K s.spots) := by
    intro order
    rw [checkNodes_of_titled titled,
      Section.forest_eq_of_pieces m.nested draft.head?_isHeading hp]
    exact congrArg _ <| m.reports ⟨⟨6, titled⟩, types, .inl rfl, closed, order⟩
  refine ⟨draft.stream fun x hx => ?_, fun u => reports (.inl u), fun k => ?_⟩
  case refine_1 => exact ⟨(spots x hx).2.1, by simpa using (spots x hx).2.2⟩
  case refine_2 => rw [reports (.inr k), Schema.missed_eq_nil fun x hx hm => hm.2.1 (k x hx)]

-- The entries of `A` are `B` and `C`, the one of `C` is `D`, and the one of `E` is `F`.
def manual : Schema := {
  sections := [
    ⟨some "A", none, true, true, none, none, some [
      ⟨some "B", none, true, true, none, none, none, none⟩,
      ⟨some "C", none, true, false, none, none, some [
        ⟨some "D", none, true, false, none, none, none, none⟩], some "why"⟩], none⟩,
    ⟨some "E", none, false, false, none, none, some [
      ⟨some "F", none, true, false, none, none, none, none⟩], none⟩,
    ⟨some "G", none, true, false, none, none, none, none⟩]
  enforceOrder?  := none
  allowChildren? := none
  contentTypes?  := none
}

-- All but `A` and `B` is left out.
def Early (place : List Nat) : Prop := place ∈ [[0], [0, 0]]

instance : DecidablePred Early :=
  fun place => inferInstanceAs <| Decidable (place ∈ _)

def early : List Node := [
  .heading ⟨1, [⟨"text", some "A", []⟩], some ⟨1, 1⟩⟩,
  .content ⟨.paragraph, some "a", [], some ⟨2, 1⟩⟩,
  .heading ⟨2, [⟨"strong", none, []⟩, ⟨"text", some " B ", []⟩], none⟩,
  .content ⟨.paragraph, none, [], none⟩
]

theorem titled_manual : Titled 6 manual.sections :=
  .cons ⟨by decide, by decide, rfl⟩ (by decide)
    (.cons ⟨by decide, by decide, rfl⟩ (by decide) .nil <|
      .cons ⟨by decide, by decide, rfl⟩ (by decide)
        (.cons ⟨by decide, by decide, rfl⟩ (by decide) .nil .nil) .nil) <|
    .cons ⟨by decide, by decide, rfl⟩ (by decide)
      (.cons ⟨by decide, by decide, rfl⟩ (by decide) .nil .nil) <|
    .cons ⟨by decide, by decide, rfl⟩ (by decide) .nil .nil

theorem unordered_manual : Unordered (.ofSchema manual .default) manual.sections :=
  .cons rfl (.cons rfl .nil <| .cons rfl (.cons rfl .nil .nil) .nil) <|
    .cons rfl (.cons rfl .nil .nil) <| .cons rfl .nil .nil

theorem parentClosed_manual : ParentClosed Early manual.spots := by
  simp [ParentClosed, Schema.spots, manual, spotsFrom, Spot.above, Early]

theorem draft_early : Draft (manual.spots.filter (Early ·.place)) early := by
  simp only [Schema.spots, manual, spotsFrom, Early]
  exact .cons ⟨rfl, by decide, rfl⟩ <| .cons ⟨rfl, by decide, rfl⟩ .nil

theorem missed_manual : (missed Options.defaultRuleId Early manual.spots).map Diagnostic.message = [
    "Missing required section: A > C - why", "Missing required section: G"] := by
  simp [missed, Schema.spots, manual, spotsFrom, Schema.Entry.title, Schema.Entry.suffix,
    Spot.IsMissed, Spot.above, Early]

theorem checkNodes_draft_early :
    Titled 6 manual.sections ∧ ParentClosed Early manual.spots ∧
    Draft (manual.spots.filter (Early ·.place)) early ∧
    Unordered (.ofSchema manual .default) manual.sections ∧
    ∃ ds, checkNodes manual .default early = .ok ds ∧ ds.map Diagnostic.message = [
      "Missing required section: A > C - why", "Missing required section: G"] := by
  have types : "paragraph" ∈ (Context.ofSchema manual .default).contentTypes := by decide
  have h := (checkNodes_draft titled_manual types parentClosed_manual).2 early draft_early
  exact ⟨titled_manual, parentClosed_manual, draft_early, unordered_manual, _,
    h.2.1 unordered_manual, missed_manual⟩

end Outline
