import Outline.Proofs.Schema.Data

namespace Outline.Schema

-- The same entries, with other descriptions.
mutual

def Entry.mapDescriptions (g : String → String) : Entry → Entry
  | ⟨title?, titlePattern?, required, nonEmpty, allowChildren?, enforceOrder?, children?,
      description?⟩ =>
    ⟨title?, titlePattern?, required, nonEmpty, allowChildren?, enforceOrder?,
      mapDescriptionsBelow g children?, description?.map g⟩

def Entry.mapDescriptionsBelow (g : String → String) : Option (List Entry) → Option (List Entry)
  | some es => some (mapAllDescriptions g es)
  | none    => none

def Entry.mapAllDescriptions (g : String → String) : List Entry → List Entry
  | []      => []
  | e :: es => e.mapDescriptions g :: mapAllDescriptions g es

end

-- The same schema, with every description at every depth put through `g`.
def mapDescriptions (g : String → String) (s : Schema) : Schema :=
  { s with sections := Entry.mapAllDescriptions g s.sections }

variable {g : String → String} {dropCommas : Bool} {v : Value} {vs : List Value}
variable {es : List (String × Value)}

namespace Entry

theorem mapAllDescriptions_eq (es : List Entry) : mapAllDescriptions g es = es.map (mapDescriptions g) := by
  induction es
  case nil     => simp [mapAllDescriptions]
  case cons hi => simp [mapAllDescriptions, hi]

theorem inner_mapDescriptions (e : Entry) :
    (e.mapDescriptions g).inner = mapAllDescriptions g e.inner := by
  obtain ⟨_, _, _, _, _, _, _ | below, _⟩ := e <;>
    simp [mapDescriptions, mapDescriptionsBelow, mapAllDescriptions, inner]

theorem patterns_mapAllDescriptions (es : List Entry) :
    patterns (mapAllDescriptions g es) = patterns es := by
  induction es using entries_induction
  case nil => simp [mapAllDescriptions]
  case cons e es inner rest =>
    rw [mapAllDescriptions, patterns_cons, patterns_cons, inner_mapDescriptions, inner, rest]
    cases e
    simp [mapDescriptions]

theorem withDefault_fitEntries {key : String} (es : List (String × Value)) :
    Fit.withDefault [key] none id (fitEntries es) = Fit.withDefault [key] none fitList? es :=
  Fit.withDefault_id fun key _ => lookup_fitEntries key es

theorem normalizeField_of_ne {key : String} (description : key ≠ "description") (children : key ≠ "children")
    (v : Value) : normalizeField dropCommas key v = v := by
  cases v <;> simp [normalizeField, description, children]

-- The fields that are no descriptions and hold none.
theorem withDefault_normalizeFields {α : Type} {keys : List String} {default : α} {f : Value → Fit α}
    (h : ∀ key ∈ keys, key ≠ "description" ∧ key ≠ "children") :
    Fit.withDefault keys default f (normalizeFields dropCommas es) = Fit.withDefault keys default f es := by
  refine (Fit.withDefault_rewritten (m := id) (g := normalizeField dropCommas) rfl ?_ ?_).trans <| id_map _
  · exact fun key _ => lookup_normalizeFields key es
  · intro key hk v _
    rw [normalizeField_of_ne (h key hk).1 (h key hk).2, id_map]

-- An entry that is rewritten as data fits as it does otherwise, and so do the entries below it. What
-- is wrong with it is the same, at the same place.
structure Fitting (dropCommas : Bool) (v : Value) : Prop where
  own   : fit (normalizeEntry dropCommas v) =
    mapDescriptions (Description.normalize dropCommas) <$> fit v
  below : fitList? (normalizeField dropCommas "children" v) =
    mapDescriptionsBelow (Description.normalize dropCommas) <$> fitList? v

theorem text_normalizeField (plain : v.Plain) :
    Fit.optional Fit.text (normalizeField dropCommas "description" v) =
      Option.map (Description.normalize dropCommas) <$> Fit.optional Fit.text v := by
  cases plain <;> simp [normalizeField, Fit.optional, Fit.text, Fit.wrong, Fit.map, Functor.map]

theorem fitItems_normalizeEntries (h : ∀ v ∈ vs, Fitting dropCommas v) (index : Nat) :
    fitItems index (normalizeEntries dropCommas vs) =
      mapAllDescriptions (Description.normalize dropCommas) <$> fitItems index vs := by
  have all : normalizeEntries dropCommas vs = vs.map (normalizeEntry dropCommas) := by
    clear h
    induction vs
    case nil     => simp [normalizeEntries]
    case cons hi => simp [normalizeEntries, hi]
  rw [all, fitItems_eq_items, fitItems_eq_items, Fit.items_rewritten fun v hv => (h v hv).own]
  simp only [funext mapAllDescriptions_eq]

theorem fit_normalizeFields (entries : ∀ e ∈ es, e.2.Plain ∧ Fitting dropCommas e.2) :
    fit (.map (normalizeFields dropCommas es)) =
      mapDescriptions (Description.normalize dropCommas) <$> fit (.map es) := by
  have description :
      Fit.withDefault ["description"] none (Fit.optional Fit.text) (normalizeFields dropCommas es) =
        Option.map (Description.normalize dropCommas) <$>
          Fit.withDefault ["description"] none (Fit.optional Fit.text) es := by
    refine Fit.withDefault_rewritten (by rfl) (fun key _ => lookup_normalizeFields key es)
      fun key hk v hv => ?_
    obtain rfl := List.mem_singleton.mp hk
    exact text_normalizeField (entries _ <| Value.mem_of_lookup hv).1
  have below : Fit.withDefault ["children"] none fitList? (normalizeFields dropCommas es) =
      mapDescriptionsBelow (Description.normalize dropCommas) <$>
        Fit.withDefault ["children"] none fitList? es := by
    refine Fit.withDefault_rewritten (by rfl) (fun key _ => lookup_normalizeFields key es)
      fun key hk v hv => ?_
    obtain rfl := List.mem_singleton.mp hk
    exact (entries _ <| Value.mem_of_lookup hv).2.below
  rw [fit, fit, withDefault_fitEntries, withDefault_fitEntries, description, below]
  simp (disch := decide) only [withDefault_normalizeFields]
  simp only [map_seq, seq_map_assoc, Functor.map_map]
  rfl

theorem fitList?_normalizeEntries (h : ∀ v ∈ vs, Fitting dropCommas v) :
    fitList? (.list (normalizeEntries dropCommas vs)) =
      mapDescriptionsBelow (Description.normalize dropCommas) <$> fitList? (.list vs) := by
  rw [fitList?, fitList?, fitItems_normalizeEntries h]
  cases fitItems 0 vs <;> simp [Functor.map, Fit.map, mapDescriptionsBelow]

theorem fitting_of_plain (plain : v.Plain) : Fitting dropCommas v := by
  induction plain
  case map es plain hi =>
    refine ⟨?_, rfl⟩
    rw [normalizeEntry]
    exact fit_normalizeFields fun e he => ⟨plain e he, hi e he⟩
  case list vs _ hi =>
    refine ⟨rfl, ?_⟩
    rw [normalizeField, if_pos rfl]
    exact fitList?_normalizeEntries hi
  case text =>
    refine ⟨rfl, ?_⟩
    rw [normalizeField, if_neg (by decide)]
    rfl
  all_goals exact ⟨rfl, rfl⟩

end Entry

theorem fit_normalizeTop (items : ∀ v ∈ vs, v.Plain) (sections : es.lookup "sections" = some (.list vs)) :
    fit (.map (normalizeTop dropCommas es vs)) =
      mapDescriptions (Description.normalize dropCommas) <$> fit (.map es) := by
  have list : Entry.fitList (.list (normalizeEntries dropCommas vs)) =
      Entry.mapAllDescriptions (Description.normalize dropCommas) <$> Entry.fitList (.list vs) := by
    simp only [Entry.fitList, Fit.list, ← fitItems_eq_items]
    exact Entry.fitItems_normalizeEntries (fun v hv => Entry.fitting_of_plain (items v hv)) 0
  have own : Fit.required ["sections"] Entry.fitList (normalizeTop dropCommas es vs) =
      Entry.mapAllDescriptions (Description.normalize dropCommas) <$>
        Fit.required ["sections"] Entry.fitList es := by
    refine Fit.required_rewritten (g := fun _ _ => .list (normalizeEntries dropCommas vs)) ?_ ?_
    all_goals
      intro key hk
      obtain rfl := List.mem_singleton.mp hk
      rw [sections]
    case refine_1 => exact Value.lookup_put_self ..
    case refine_2 =>
      rintro _ ⟨⟩
      exact list
  have others {α : Type} {keys : List String} {default : α} {f : Value → Fit α} (h : "sections" ∉ keys) :
      Fit.withDefault keys default f (normalizeTop dropCommas es vs) = Fit.withDefault keys default f es := by
    refine (Fit.withDefault_rewritten (m := id) (g := fun _ v => v) rfl (fun key hk => ?_) ?_).trans <|
      id_map _
    · rw [normalizeTop, Value.lookup_put_of_ne (ne_of_mem_of_not_mem hk h).symm, Option.map_id']
    · exact fun key _ v _ => (id_map _).symm
  simp only [fit, Fit.record, own]
  simp (disch := decide) only [others]
  simp only [map_seq, Functor.map_map]
  rfl

theorem badPattern?_mapDescriptions (s : Schema) : (s.mapDescriptions g).badPattern? = s.badPattern? := by
  simp only [badPattern?, mapDescriptions, Entry.patterns_mapAllDescriptions]

-- A schema that fits is accepted if its patterns can be read.
def judge : Fit Schema → Except Refusal Schema
  | .bad issues => .error (.invalid issues)
  | .ok s => match s.badPattern? with
    | some e => .error (.pattern e)
    | none   => .ok s

theorem ofValue_eq_judge (plain : v.Plain) (hv : sections? v = some vs) :
    ofValue dropCommas v =
      (judge (fit v)).map (mapDescriptions (Description.normalize dropCommas)) := by
  obtain ⟨es, rfl, hes⟩ := sections?_eq_some hv
  have items : ∀ v ∈ vs, v.Plain := by
    cases plain.of_lookup hes
    assumption
  simp only [ofValue, Value.entries?, hv, fit_normalizeTop items hes]
  cases h : fit (.map es)
  case bad => simp [Functor.map, Fit.map, judge, Except.map]
  case ok s =>
    simp only [Functor.map, Fit.map, judge, badPattern?_mapDescriptions]
    cases s.badPattern? <;> rfl

-- Data is judged as it is, whatever its descriptions are: the same data makes a schema, and otherwise
-- the same things are wrong with it, at the same places, or the same pattern cannot be read. Of the
-- schema that is made, only the descriptions are other ones.
theorem ofValue_iff_fit (dropCommas : Bool) (plain : v.Plain) (hv : sections? v = some vs) :
    (∀ t, ofValue dropCommas v = .ok t ↔
      ∃ s, fit v = .ok s ∧ s.Ready ∧ s.mapDescriptions (Description.normalize dropCommas) = t) ∧
    (∀ issues, ofValue dropCommas v = .error (.invalid issues) ↔ fit v = .bad issues) ∧
    (∀ e, ofValue dropCommas v = .error (.pattern e) ↔ ∃ s, fit v = .ok s ∧ s.badPattern? = some e) := by
  rw [ofValue_eq_judge plain hv]
  cases fit v
  case bad => simp [judge, Except.map]
  case ok s =>
    cases h : s.badPattern? <;> simp [judge, h, Except.map, Ready]

-- An entry that is no map, a description that is no text, and a word that is no truth value below a
-- description that is rewritten.
def crookedValue : Value :=
  .map [("sections", .list [.int 5, .map [("description", .list []),
    ("children", .list [.map [("description", .text "x–y, z"), ("required", .text "maybe")]])]])]

def crookedIssues : List Issue := [
  ⟨[.field "sections", .item 0], .record "SchemaSection"⟩,
  ⟨[.field "sections", .item 1, .field "children", .item 0, .field "required"], .truthText⟩,
  ⟨[.field "sections", .item 1, .field "description"], .text⟩
]

theorem crookedValue_plain : crookedValue.Plain := by
  have inner : (Value.map [("description", .text "x–y, z"), ("required", .text "maybe")]).Plain :=
    .map <| by simp [Value.Plain.text]
  refine .map <| List.forall_mem_singleton.mpr <| .list <| List.forall_mem_cons.mpr ⟨.int, ?_⟩
  refine List.forall_mem_singleton.mpr <| .map <| List.forall_mem_cons.mpr ⟨.list nofun, ?_⟩
  exact List.forall_mem_singleton.mpr <| .list <| List.forall_mem_singleton.mpr inner

theorem ofValue_iff_fit_crooked :
    (laxValue.Plain ∧ (sections? laxValue).isSome ∧ ofValue true laxValue = .ok laxSchema) ∧
    crookedValue.Plain ∧ (sections? crookedValue).isSome ∧
    fit crookedValue = .bad crookedIssues ∧ ofValue true crookedValue = .error (.invalid crookedIssues) := by
  have ⟨lax, _, _⟩ := ofValue_iff_fit true laxValue_plain rfl
  have ⟨_, crooked, _⟩ := ofValue_iff_fit true crookedValue_plain rfl
  have made : ∃ s, fit laxValue = .ok s ∧ s.mapDescriptions (Description.normalize true) = laxSchema :=
    ⟨_, by cbv, by cbv⟩
  obtain ⟨s, made, same⟩ := made
  have ready : s.Ready := by
    rw [Ready, ← badPattern?_mapDescriptions (g := Description.normalize true), same]
    exact laxSchema_ready
  have issues : fit crookedValue = .bad crookedIssues := by cbv
  exact ⟨⟨laxValue_plain, rfl, (lax _).mpr ⟨s, made, ready, same⟩⟩,
    crookedValue_plain, rfl, issues, (crooked _).mpr issues⟩

end Outline.Schema
