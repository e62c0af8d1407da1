import Outline.Proofs.Fit.Rewriting
import Outline.Proofs.Schema.Entries
import Outline.Proofs.Schema.Failure

namespace Outline.Schema

-- The descriptions of entries, an entry's own before those below it.
def descriptions : List Entry → List String
  | [] => []
  | ⟨_, _, _, _, _, _, children?, description?⟩ :: es =>
    description?.toList ++
      (match children? with
       | some below => descriptions below
       | none       => []) ++
      descriptions es

theorem descriptions_cons (e : Entry) (es : List Entry) :
    descriptions (e :: es) = e.description?.toList ++ descriptions e.inner ++ descriptions es := by
  obtain ⟨_, _, _, _, _, _, _ | below, _⟩ := e <;> simp [descriptions, Entry.inner]

namespace Description

-- No dash stands in a description, and no comma if they are dropped.
def IsNormal (dropCommas : Bool) (s : String) : Prop :=
  ∀ c ∈ s.toList, ¬isDash c ∧ (dropCommas → c ≠ ',')

theorem normalize_isNormal (dropCommas : Bool) (s : String) :
    IsNormal dropCommas (normalize dropCommas s) := by
  refine fun c hc => ⟨by simp [not_isDash_of_mem_normalize hc], ?_⟩
  rintro rfl rfl
  exact comma_not_mem_normalize s hc

-- What is kept of a value as a description. Only text is put into its normal form.
def stored? (dropCommas : Bool) : Value → Option String
  | .text s   => some (normalize dropCommas s)
  | .bytes bs => (Text.Utf8.decode bs).toOption
  | _         => none

end Description

-- A value stands as the description of a section, at some depth of sections that are still data.
inductive Describes (w : Value) : List Value → Prop
  | here {vs es} (he : .map es ∈ vs) (hw : es.lookup "description" = some w) : Describes w vs
  | inside {vs es inner} (he : .map es ∈ vs) (hi : es.lookup "children" = some (.list inner))
      (h : Describes w inner) : Describes w vs

theorem describes_nil {w : Value} : ¬Describes w [] := by
  rintro (⟨he, _⟩ | ⟨he, _, _⟩) <;> contradiction

theorem describes_cons {w v : Value} {vs : List Value} : Describes w (v :: vs) ↔
    (∃ es, v = .map es ∧ (es.lookup "description" = some w ∨
      ∃ inner, es.lookup "children" = some (.list inner) ∧ Describes w inner)) ∨ Describes w vs := by
  constructor
  case mp =>
    rintro (⟨he, hw⟩ | ⟨he, hi, h⟩) <;> rcases List.mem_cons.mp he with rfl | he
    · exact .inl ⟨_, rfl, .inl hw⟩
    · exact .inr <| .here he hw
    · exact .inl ⟨_, rfl, .inr ⟨_, hi, h⟩⟩
    · exact .inr <| .inside he hi h
  case mpr =>
    rintro (⟨es, rfl, hw | ⟨inner, hi, h⟩⟩ | ⟨he, hw⟩ | ⟨he, hi, h⟩)
    · exact .here (List.mem_cons_self ..) hw
    · exact .inside (List.mem_cons_self ..) hi h
    · exact .here (List.mem_cons_of_mem _ he) hw
    · exact .inside (List.mem_cons_of_mem _ he) hi h

namespace Entry

variable {dropCommas : Bool} {es : List (String × Value)} {vs : List Value} {v : Value} {e : Entry}

theorem lookup_normalizeFields (key : String) (es : List (String × Value)) :
    (normalizeFields dropCommas es).lookup key = (es.lookup key).map (normalizeField dropCommas key) :=
  Fit.lookup_rewritten (by simp [normalizeFields]) (by simp [normalizeFields]) key es

theorem lookup_fitEntries (key : String) (es : List (String × Value)) :
    (fitEntries es).lookup key = (es.lookup key).map fitList? :=
  Fit.lookup_rewritten (g := fun _ => fitList?) (by simp [fitEntries]) (by simp [fitEntries]) key es

theorem fit_eq_ok (h : fit v = .ok e) : ∃ es, v = .map es ∧
    Fit.withDefault ["children"] none id (fitEntries es) = .ok e.children? ∧
    Fit.withDefault ["description"] none (Fit.optional Fit.text) es = .ok e.description? := by
  unfold fit at h
  split at h
  case h_2 => contradiction
  case h_1 es =>
    obtain ⟨_, _, h₇, description, rfl⟩ := Fit.ap_eq_ok_iff.mp h
    obtain ⟨_, _, h₆, children, rfl⟩ := Fit.ap_eq_ok_iff.mp h₇
    obtain ⟨_, _, h₅, -, rfl⟩ := Fit.ap_eq_ok_iff.mp h₆
    obtain ⟨_, _, h₄, -, rfl⟩ := Fit.ap_eq_ok_iff.mp h₅
    obtain ⟨_, _, h₃, -, rfl⟩ := Fit.ap_eq_ok_iff.mp h₄
    obtain ⟨_, _, h₂, -, rfl⟩ := Fit.ap_eq_ok_iff.mp h₃
    obtain ⟨_, _, h₁, -, rfl⟩ := Fit.ap_eq_ok_iff.mp h₂
    obtain ⟨_, -, rfl⟩ := Fit.map_eq_ok_iff.mp h₁
    exact ⟨es, rfl, children, description⟩

theorem eq_stored? {d? : Option String}
    (h : Fit.optional Fit.text (normalizeField dropCommas "description" v) = .ok d?) :
    d? = Description.stored? dropCommas v := by
  cases v
  case null  => simpa [normalizeField, Fit.optional, Description.stored?] using h.symm
  case text  => simpa [normalizeField, Fit.optional, Fit.text, Description.stored?] using h.symm
  case bytes bs =>
    cases hb : Text.Utf8.decode bs
    case ok =>
      simpa [normalizeField, Fit.optional, Fit.text, Description.stored?, Except.toOption, hb]
        using h.symm
    case error => simp [normalizeField, Fit.optional, Fit.text, Fit.wrong, Fit.map, hb] at h
  all_goals simp [normalizeField, Fit.optional, Fit.text, Fit.wrong, Fit.map] at h

theorem description?_eq {d? : Option String}
    (h : Fit.withDefault ["description"] none (Fit.optional Fit.text)
      (normalizeFields dropCommas es) = .ok d?) :
    d? = (es.lookup "description").bind (Description.stored? dropCommas) := by
  rw [Fit.withDefault_eq_ok_iff, lookup_normalizeFields] at h
  cases hv : es.lookup "description"
  case none   => simpa [hv, eq_comm] using h
  case some v => exact eq_stored? <| by simpa [hv] using h

theorem fitItems_cons_eq_ok {index : Nat} {es : List Entry} (h : fitItems index (v :: vs) = .ok es) :
    ∃ e rest, fit v = .ok e ∧ fitItems (index + 1) vs = .ok rest ∧ e :: rest = es := by
  obtain ⟨_, rest, head, tail, rfl⟩ := Fit.ap_eq_ok_iff.mp h
  obtain ⟨e, he, rfl⟩ := Fit.map_eq_ok_iff.mp head
  exact ⟨e, rest, Fit.under_eq_ok_iff.mp he, tail, rfl⟩

theorem fitItems_of_keys {index : Nat} {es : List Entry} (keys : ∀ v ∈ vs, Yaml.Node.canBeKey v)
    (h : fitItems index vs = .ok es) : es = [] := by
  cases vs
  case nil => simpa [fitItems, eq_comm] using h
  case cons v vs =>
    have ⟨_, _, he, _⟩ := fitItems_cons_eq_ok h
    obtain ⟨_, rfl, _⟩ := fit_eq_ok he
    have := keys _ (List.mem_cons_self ..)
    contradiction

theorem inner_eq (hes : (Value.map es).Decoded)
    (h : Fit.withDefault ["children"] none id
      (fitEntries (normalizeFields dropCommas es)) = .ok e.children?) :
    (∃ inner, es.lookup "children" = some (.list inner) ∧
      fitItems 0 (normalizeEntries dropCommas inner) = .ok e.inner) ∨
    (e.inner = [] ∧ ∀ inner, es.lookup "children" ≠ some (.list inner)) := by
  rw [Fit.withDefault_eq_ok_iff, lookup_fitEntries, lookup_normalizeFields] at h
  cases hv : es.lookup "children"
  case none =>
    have h : none = e.children? := by simpa [hv] using h
    exact .inr ⟨by simp [inner, ← h], by simp⟩
  case some v =>
    have h : fitList? (normalizeField dropCommas "children" v) = .ok e.children? := by
      simpa [hv] using h
    cases v
    case null =>
      have h : none = e.children? := by simpa [normalizeField, fitList?] using h
      exact .inr ⟨by simp [inner, ← h], by simp⟩
    case list vs =>
      obtain ⟨below, hi, hb⟩ := Fit.map_eq_ok_iff.mp h
      exact .inl ⟨vs, rfl, by simpa [inner, ← hb] using hi⟩
    case set vs =>
      obtain ⟨below, hi, hb⟩ := Fit.map_eq_ok_iff.mp h
      have keys : ∀ w ∈ vs, Yaml.Node.canBeKey w := by
        cases hes.of_lookup hv
        assumption
      exact .inr ⟨by simpa [inner, ← hb] using fitItems_of_keys keys hi, by simp⟩
    all_goals contradiction

theorem fit_normalizeEntry_eq_ok (hv : v.Decoded) (h : fit (normalizeEntry dropCommas v) = .ok e) :
    ∃ es, v = .map es ∧
      e.description? = (es.lookup "description").bind (Description.stored? dropCommas) ∧
      ((∃ inner, es.lookup "children" = some (.list inner) ∧ (Value.list inner).Decoded ∧
        fitItems 0 (normalizeEntries dropCommas inner) = .ok e.inner) ∨
      (e.inner = [] ∧ ∀ inner, es.lookup "children" ≠ some (.list inner))) := by
  obtain ⟨fields, hf, children, description⟩ := fit_eq_ok h
  cases v
  case map es =>
    obtain rfl : normalizeFields dropCommas es = fields := by simpa [normalizeEntry] using hf
    refine ⟨es, rfl, description?_eq description, (inner_eq hv children).imp_left ?_⟩
    exact fun ⟨inner, hi, hinner⟩ => ⟨inner, hi, hv.of_lookup hi, hinner⟩
  all_goals contradiction

end Entry

open Entry

-- A description of the schema comes from a value that stands as one in the data, and the other way
-- round. The induction is on the entries that the sections have become.
theorem mem_descriptions_iff {dropCommas : Bool} {d : String} {es : List Entry} :
    ∀ {vs : List Value} {index : Nat}, (∀ v ∈ vs, v.Decoded) →
      fitItems index (normalizeEntries dropCommas vs) = .ok es →
      (d ∈ descriptions es ↔ ∃ w, Describes w vs ∧ Description.stored? dropCommas w = some d) := by
  induction es using entries_induction
  case nil =>
    intro vs _ _ h
    cases vs
    case nil  => simp [descriptions, describes_nil]
    case cons =>
      have ⟨_, _, _, _, h⟩ := fitItems_cons_eq_ok h
      contradiction
  case cons e es below after =>
    intro vs _ hd h
    cases vs
    case nil => simp [normalizeEntries, fitItems] at h
    case cons v vs =>
      have ⟨hv, hvs⟩ := List.forall_mem_cons.mp hd
      obtain ⟨e, es, he, hes, heq⟩ := fitItems_cons_eq_ok h
      obtain ⟨rfl, rfl⟩ := List.cons.inj heq
      obtain ⟨fields, rfl, own, inner⟩ := fit_normalizeEntry_eq_ok hv he
      have hinner : d ∈ descriptions e.inner ↔ ∃ w inner,
          fields.lookup "children" = some (.list inner) ∧ Describes w inner ∧
          Description.stored? dropCommas w = some d := by
        rcases inner with ⟨inner, hi, hd, hinner⟩ | ⟨hn, hi⟩
        · cases hd with
          | list items => simp [below items hinner, hi]
        · simp [hn, descriptions, hi]
      have hown : d ∈ e.description?.toList ↔ ∃ w, fields.lookup "description" = some w ∧
          Description.stored? dropCommas w = some d := by
        simp [own, Option.bind_eq_some_iff]
      rw [descriptions_cons, List.mem_append, List.mem_append, hown, hinner, after hvs hes]
      simp only [describes_cons, Value.map.injEq, exists_eq_left']
      grind

theorem fitItems_eq_items (index : Nat) (vs : List Value) :
    fitItems index vs = Fit.items Entry.fit index vs := by
  induction vs generalizing index
  case nil => simp [fitItems, Fit.items]
  case cons hi => simp [fitItems, Fit.items, hi]

theorem sections?_eq_some {v : Value} {vs : List Value} (h : sections? v = some vs) :
    ∃ es, v = .map es ∧ es.lookup "sections" = some (.list vs) := by
  unfold sections? at h
  split at h
  case h_2 => contradiction
  case h_1 es =>
    split at h
    case h_2    => contradiction
    case h_1 hl => exact ⟨es, rfl, by simpa [← Option.some.inj h] using hl⟩

theorem Fits.sections {dropCommas : Bool} {v : Value} {t : Schema} (h : Fits dropCommas v t) :
    ∃ vs, sections? v = some vs ∧ fitItems 0 (normalizeEntries dropCommas vs) = .ok t.sections := by
  obtain ⟨es, vs, -, hvs, h⟩ := h
  obtain ⟨_, _, h₃, -, rfl⟩ := Fit.ap_eq_ok_iff.mp h
  obtain ⟨_, _, h₂, -, rfl⟩ := Fit.ap_eq_ok_iff.mp h₃
  obtain ⟨_, _, h₁, -, rfl⟩ := Fit.ap_eq_ok_iff.mp h₂
  obtain ⟨_, hs, rfl⟩ := Fit.map_eq_ok_iff.mp h₁
  rw [Fit.required, Fit.find?, normalizeTop, Value.lookup_put_self] at hs
  exact ⟨vs, hvs, fitItems_eq_items .. ▸ Fit.under_eq_ok_iff.mp hs⟩

theorem Describes.plain {w : Value} {vs : List Value} (h : Describes w vs) (hp : ∀ v ∈ vs, v.Plain) :
    w.Plain := by
  induction h
  case here he hw => exact (hp _ he).of_lookup hw
  case inside he hi h hp' =>
    cases (hp _ he).of_lookup hi with
    | list items => exact hp' items

theorem decoded_of_plain {v : Value} (h : v.Plain) : v.Decoded := by
  induction h
  case null      => exact .null
  case bool      => exact .bool
  case int       => exact .int
  case float     => exact .float
  case text      => exact .text
  case list _ hi => exact .list hi
  case map _ hi  => exact .map hi

theorem decode_decoded {format : Format} {s : String} {v : Value} (h : decode format s = .ok v) :
    v.Decoded ∧ (format = .json → v.Plain) := by
  have ends : Ends (fun v => v.Decoded ∧ (format = .json → v.Plain)) (fun _ => True)
      (decode format s) := by
    cases format
    case yaml =>
      exact Ends.mapError <| (Yaml.read_ends s).imp (fun _ hv => ⟨hv, nofun⟩) fun _ _ => trivial
    case json =>
      refine Ends.mapError <| (Json.read_ends s).imp (fun _ hv => ?_) fun _ _ => trivial
      exact ⟨decoded_of_plain hv, fun _ => hv⟩
  exact ends.of_ok h

namespace Description

variable {format : Format} {dropCommas : Bool} {s : String} {v : Value} {t : Schema}

theorem stored?_isNormal {w : Value} {d : String} (h : stored? dropCommas w = some d) :
    IsNormal dropCommas d ∨ ∃ bs, w = .bytes bs ∧ Text.Utf8.decode bs = .ok d := by
  cases w
  case text s =>
    obtain rfl : normalize dropCommas s = d := by simpa [stored?] using h
    exact .inl <| normalize_isNormal _ _
  case bytes bs =>
    cases hb : Text.Utf8.decode bs
    case ok    => exact .inr ⟨bs, rfl, by simpa [stored?, Except.toOption, hb] using h⟩
    case error => simp [stored?, Except.toOption, hb] at h
  all_goals contradiction

-- Every description of a schema is in its normal form, unless it is written as bytes, which are taken
-- as they are. The text of the schema says nothing as bytes in JSON.
theorem isNormal_iff_bytes (reads : decode format s = .ok v) (made : ofValue dropCommas v = .ok t) :
    ∃ vs, sections? v = some vs ∧
      (∀ d, d ∈ descriptions t.sections ↔ ∃ w, Describes w vs ∧ stored? dropCommas w = some d) ∧
      ((∀ d ∈ descriptions t.sections, IsNormal dropCommas d) ↔
        ∀ bs d, Describes (.bytes bs) vs → Text.Utf8.decode bs = .ok d → IsNormal dropCommas d) ∧
      (format = .json → ∀ d ∈ descriptions t.sections, IsNormal dropCommas d) := by
  have ⟨decoded, plain⟩ := decode_decoded reads
  have ⟨vs, hvs, fit⟩ := ((ofValue_fits ..).of_ok made).sections
  obtain ⟨es, rfl, hes⟩ := sections?_eq_some hvs
  have items : ∀ v ∈ vs, v.Decoded := by
    cases decoded.of_lookup hes
    assumption
  have origin (d : String) := mem_descriptions_iff (d := d) items fit
  have apart (d : String) (hd : d ∈ descriptions t.sections) :
      IsNormal dropCommas d ∨ ∃ bs, Describes (.bytes bs) vs ∧ Text.Utf8.decode bs = .ok d := by
    have ⟨w, hw, hs⟩ := (origin d).mp hd
    rcases stored?_isNormal hs with normal | ⟨bs, rfl, hb⟩
    · exact .inl normal
    · exact .inr ⟨bs, hw, hb⟩
  refine ⟨vs, hvs, origin, ⟨fun normal bs d hbs hd => ?inBytes, fun normal d hd => ?all⟩,
    fun isJson d hd => ?json⟩
  case inBytes => exact normal d <| (origin d).mpr ⟨_, hbs, by simp [stored?, hd, Except.toOption]⟩
  case all => exact (apart d hd).elim id fun ⟨bs, hbs, hb⟩ => normal bs d hbs hb
  case json =>
    have items : ∀ v ∈ vs, v.Plain := by
      cases (plain isJson).of_lookup hes
      assumption
    exact (apart d hd).resolve_right fun ⟨_, hbs, _⟩ => nomatch hbs.plain items

-- A description one level down, with a dash and a comma.
def dashText : String :=
  "\x7b\"sections\":[\x7b\"title\":\"A\",\"children\":[\x7b\"title\":\"B\",\"description\":\"x–y, z\"\x7d]\x7d]\x7d"

def dashValue : Value :=
  .map [("sections", .list [.map [("title", .text "A"),
    ("children", .list [.map [("title", .text "B"), ("description", .text "x–y, z")]])]])]

def dashSchema : Schema where
  sections       := [⟨some "A", none, false, false, none, none,
    some [⟨some "B", none, false, false, none, none, none, some "x-y z"⟩], none⟩]
  enforceOrder?  := none
  allowChildren? := none
  contentTypes?  := none

theorem isNormal_iff_bytes_dash :
    decode .json dashText = .ok dashValue ∧ ofValue true dashValue = .ok dashSchema ∧
    ∃ vs, sections? dashValue = some vs ∧
      (∀ d, d ∈ descriptions dashSchema.sections ↔ ∃ w, Describes w vs ∧ stored? true w = some d) ∧
      ((∀ d ∈ descriptions dashSchema.sections, IsNormal true d) ↔
        ∀ bs d, Describes (.bytes bs) vs → Text.Utf8.decode bs = .ok d → IsNormal true d) ∧
      (Format.json = .json → ∀ d ∈ descriptions dashSchema.sections, IsNormal true d) := by
  have reads : decode .json dashText = .ok dashValue := by cbv
  have made : ofValue true dashValue = .ok dashSchema := by cbv
  exact ⟨reads, made, isNormal_iff_bytes reads made⟩

-- A dash that is written as bytes is kept.
def dashBytes : String := "sections:\n- title: Overview\n  description: !!binary 4oCT\n"

theorem dashBytes_not_isNormal :
    ¬Ends (fun t => ∀ d ∈ descriptions t.sections, IsNormal true d) (fun _ => True)
      (ofText .yaml true dashBytes) := by
  have tokens : Yaml.Token.ofText dashBytes.toList =
      [.blockMap, .key, .text "sections" true, .value, .entry,
        .blockMap, .key, .text "title" true, .value, .text "Overview" true,
        .key, .text "description" true, .value, .tag (some "!!") "binary", .text "4oCT" true,
        .blockEnd, .blockEnd] := by
    cbv
  have reads : Yaml.read dashBytes = .ok (.map [("sections", .list [.map
      [("title", .text "Overview"), ("description", .bytes [0xE2, 0x80, 0x93])]])]) := by
    unfold Yaml.read
    rw [tokens]
    rfl
  have noMark : dropMark dashBytes = dashBytes := by decide +kernel
  have loads : ofText .yaml true dashBytes =
      .ok ⟨[⟨some "Overview", none, false, false, none, none, none, some "–"⟩], none, none, none⟩ := by
    simp only [ofText, decode, noMark, reads]
    cbv
  rw [loads]
  intro normal
  exact (normal "–" (by simp [descriptions]) '–' (by decide)).1 (by decide)

end Description

end Outline.Schema
