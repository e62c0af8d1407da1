import Outline.Proofs.Node.Data
import Outline.Proofs.Schema.Description
import Outline.Proofs.Schema.Ready
import Outline.Schema.Data

namespace Outline

section

variable {b? : Option Bool}

theorem truth_bool {b : Bool} : Fit.truth (.bool b) = .ok b := rfl

theorem optional_truthData : Fit.optional Fit.truth (truthData b?) = .ok b? := by
  cases b? <;> rfl

-- Texts in any order, or `null` for none.
def textsData : Option (List String) → Value
  | some ts => .list (ts.map .text)
  | none    => .null

theorem optional_textsData {ts? us? : Option (List String)}
    (ascending : ∀ us, us? = some us → Fit.Ascending us)
    (same : Option.Rel (fun ts us => ∀ t, t ∈ ts ↔ t ∈ us) ts? us?) :
    Fit.optional Fit.textSet (textsData ts?) = .ok us? := by
  cases same
  case none => rfl
  case some ts us same =>
    exact Fit.map_eq_ok_iff.mpr ⟨us, Fit.textSet_of_texts (ascending us rfl) same, rfl⟩

end

namespace Schema

variable {dropCommas : Bool} {e : Entry} {es : List Entry}

namespace Description

variable {s : String}

theorem IsNormal.of_dropped (h : IsNormal true s) (dropCommas : Bool) : IsNormal dropCommas s :=
  fun c hc => ⟨(h c hc).1, fun _ => (h c hc).2 rfl⟩

theorem normalize_eq_self (h : IsNormal dropCommas s) : normalize dropCommas s = s := by
  have dashes : plain s.toList = s.toList := by
    refine (List.map_congr_left fun c hc => ?_).trans <| List.map_id _
    simp [(h c hc).1]
  have commas : dropCommas → s.toList.filter (· != ',') = s.toList := fun drop =>
    List.filter_eq_self.mpr fun c hc => by simpa using (h c hc).2 drop
  cases dropCommas
  case false => simp [normalize, dashes]
  case true  => simp [normalize, dashes, commas]

end Description

open Description (IsNormal)

section

variable {key : String} {s? : Option String} {b? : Option Bool}

theorem normalizeField_textData (h : key ≠ "description") :
    normalizeField dropCommas key (textData s?) = textData s? := by
  cases s? <;> simp [textData, normalizeField, h]

theorem normalizeField_description (h : ∀ s, s? = some s → IsNormal dropCommas s) :
    normalizeField dropCommas "description" (textData s?) = textData s? := by
  cases s?
  case none   => simp [textData, normalizeField]
  case some s => simp [textData, normalizeField, Description.normalize_eq_self (h s rfl)]

theorem normalizeField_bool {b : Bool} : normalizeField dropCommas key (.bool b) = .bool b := by
  simp [normalizeField]

theorem normalizeField_truthData :
    normalizeField dropCommas key (truthData b?) = truthData b? := by
  cases b? <;> simp [truthData, normalizeField]

end

namespace Entry

theorem normalizeField_dataList?
    (h : normalizeEntries dropCommas (dataList e.inner) = dataList e.inner) :
    normalizeField dropCommas "children" (dataList? e.children?) = dataList? e.children? := by
  cases hc : e.children?
  case none => simp [dataList?, normalizeField]
  case some => simpa [dataList?, normalizeField, inner, hc] using h

theorem normalizeEntry_data (own : ∀ d, e.description? = some d → IsNormal dropCommas d)
    (below : normalizeEntries dropCommas (dataList e.inner) = dataList e.inner) :
    normalizeEntry dropCommas e.data = e.data := by
  have children := normalizeField_dataList? below
  have description := normalizeField_description own
  cases e
  rw [data, normalizeEntry]
  simp (disch := decide) only [normalizeFields, normalizeField_textData, normalizeField_truthData,
    normalizeField_bool, children, description]

theorem normalizeEntries_dataList (h : ∀ d ∈ descriptions es, IsNormal dropCommas d) :
    normalizeEntries dropCommas (dataList es) = dataList es := by
  induction es using entries_induction
  case nil => simp [dataList, normalizeEntries]
  case cons e es inner rest =>
    rw [descriptions_cons, List.forall_mem_append, List.forall_mem_append] at h
    obtain ⟨⟨own, below⟩, after⟩ := h
    rw [dataList, normalizeEntries, normalizeEntry_data (by simpa using own) (inner below), rest after]

theorem fitList?_dataList? (h : fitItems 0 (dataList e.inner) = .ok e.inner) :
    fitList? (dataList? e.children?) = .ok e.children? := by
  cases hc : e.children?
  case none => simp [dataList?, fitList?]
  case some =>
    rw [inner, hc] at h
    rw [dataList?, fitList?]
    exact Fit.map_eq_ok_iff.mpr ⟨_, h, rfl⟩

theorem fit_data (below : fitItems 0 (dataList e.inner) = .ok e.inner) : fit e.data = .ok e := by
  have children := fitList?_dataList? below
  cases e
  rw [data, fit, Fit.withDefault_of_lookup rfl optional_textData,
    Fit.withDefault_of_lookup rfl optional_textData, Fit.withDefault_of_lookup rfl truth_bool,
    Fit.withDefault_of_lookup rfl truth_bool, Fit.withDefault_of_lookup rfl optional_truthData,
    Fit.withDefault_of_lookup rfl optional_truthData, Fit.withDefault_of_lookup rfl optional_textData,
    Fit.withDefault_of_lookup (f := id) (by rw [lookup_fitEntries]; rfl) children]
  rfl

theorem fitItems_dataList (index : Nat) (es : List Entry) : fitItems index (dataList es) = .ok es := by
  induction es using entries_induction generalizing index
  case nil => simp [dataList, fitItems]
  case cons e es inner rest => simp [dataList, fitItems, fit_data (inner 0), rest]

end Entry

-- What loading makes of a schema: its descriptions are in their normal form, its types of content in
-- order, and its patterns can be read.
structure Settled (dropCommas : Bool) (s : Schema) : Prop where
  descriptions : ∀ d ∈ descriptions s.sections, IsNormal dropCommas d
  contentTypes : ∀ ts, s.contentTypes? = some ts → Fit.Ascending ts
  ready        : s.Ready

-- The schema written as data. The types of content that it has are written in any order.
inductive Writes (s : Schema) : Value → Prop
  | intro {types? : Option (List String)}
      (same : Option.Rel (fun ts us => ∀ t, t ∈ ts ↔ t ∈ us) types? s.contentTypes?) :
      Writes s ({ s with contentTypes? := types? } : Schema).data

variable {s : Schema} {v w : Value}

theorem writes_data (s : Schema) : s.Writes s.data :=
  have same : Option.Rel (fun ts us => ∀ t, t ∈ ts ↔ t ∈ us) s.contentTypes? s.contentTypes? := by
    cases s.contentTypes? <;> constructor; simp
  .intro same

theorem Fits.contentTypes (h : Fits dropCommas v s) (ts : List String)
    (hs : s.contentTypes? = some ts) : Fit.Ascending ts := by
  obtain ⟨es, vs, -, -, h⟩ := h
  obtain ⟨_, types?, h₃, types, rfl⟩ := Fit.ap_eq_ok_iff.mp h
  obtain ⟨_, _, h₂, -, rfl⟩ := Fit.ap_eq_ok_iff.mp h₃
  obtain ⟨_, _, h₁, -, rfl⟩ := Fit.ap_eq_ok_iff.mp h₂
  obtain ⟨_, -, rfl⟩ := Fit.map_eq_ok_iff.mp h₁
  obtain rfl : types? = some ts := hs
  rcases Fit.eq_default_or_of_withDefault types with h | ⟨w, h⟩
  · contradiction
  · exact Fit.textSet_ascending <| Fit.eq_ok_of_optional h

theorem Fits.descriptions (h : Fits dropCommas v s) (plain : v.Plain) :
    ∀ d ∈ descriptions s.sections, IsNormal dropCommas d := by
  have ⟨vs, hvs, fit⟩ := h.sections
  obtain ⟨es, rfl, hes⟩ := sections?_eq_some hvs
  have items : ∀ v ∈ vs, v.Plain := by
    cases plain.of_lookup hes
    assumption
  intro d hd
  have ⟨w, hw, hs⟩ := (mem_descriptions_iff (fun v hv => decoded_of_plain (items v hv)) fit).mp hd
  rcases Description.stored?_isNormal hs with normal | ⟨_, rfl, _⟩
  · exact normal
  · exact nomatch hw.plain items

theorem Fits.ofValue_eq (h : Fits dropCommas v s) (ready : s.Ready) : ofValue dropCommas v = .ok s := by
  obtain ⟨es, vs, hes, hvs, fit⟩ := h
  have ready : s.badPattern? = none := ready
  simp [ofValue, hes, hvs, fit, ready]

namespace Settled

theorem of_ofValue (plain : v.Plain) (made : ofValue dropCommas v = .ok s) : Settled dropCommas s where
  descriptions := ((ofValue_fits ..).of_ok made).descriptions plain
  contentTypes := ((ofValue_fits ..).of_ok made).contentTypes
  ready        := (ofValue_ready ..).of_ok made

theorem of_dropped (h : Settled true s) (dropCommas : Bool) : Settled dropCommas s :=
  { h with descriptions := fun d hd => (h.descriptions d hd).of_dropped dropCommas }

theorem fit_data (h : Settled dropCommas s) {types? : Option (List String)}
    (same : Option.Rel (fun ts us => ∀ t, t ∈ ts ↔ t ∈ us) types? s.contentTypes?) :
    fit ({ s with contentTypes? := types? } : Schema).data = .ok s := by
  have sections : Entry.fitList (.list (Entry.dataList s.sections)) = .ok s.sections :=
    (fitItems_eq_items ..).symm.trans <| Entry.fitItems_dataList 0 s.sections
  have types := optional_textsData h.contentTypes same
  rw [data, fit, Fit.record, Fit.required_of_lookup rfl sections,
    Fit.withDefault_of_lookup rfl optional_truthData, Fit.withDefault_of_lookup rfl optional_truthData,
    Fit.withDefault_of_lookup rfl types]
  rfl

theorem fits (h : Settled dropCommas s) (hw : s.Writes w) : Fits dropCommas w s := by
  obtain ⟨same⟩ := hw
  refine ⟨_, Entry.dataList s.sections, rfl, rfl, ?_⟩
  rw [normalizeTop, Entry.normalizeEntries_dataList h.descriptions]
  exact h.fit_data same

theorem ofValue_eq (h : Settled dropCommas s) (hw : s.Writes w) : ofValue dropCommas w = .ok s :=
  (h.fits hw).ofValue_eq h.ready

end Settled

-- A schema that is made from data is made again from what it is written as. If commas are dropped, it
-- has none, so that it is made again whether they are dropped or not.
theorem ofValue_writes (plain : v.Plain) (made : ofValue dropCommas v = .ok s) :
    s.Writes s.data ∧ ∀ w, s.Writes w →
      ofValue dropCommas w = .ok s ∧ (dropCommas → ∀ drop, ofValue drop w = .ok s) := by
  have settled := Settled.of_ofValue plain made
  refine ⟨writes_data s, fun w hw => ⟨settled.ofValue_eq hw, ?_⟩⟩
  rintro rfl drop
  exact (settled.of_dropped drop).ofValue_eq hw

-- Both keys of a field, words and numbers for truth values, and types of content out of order.
def laxValue : Value :=
  .map [("sections", .list [.map [("title", .text "A"), ("required", .int 1),
      ("non_empty", .text "Yes"), ("description", .text "x–y, z"),
      ("children", .list [.map [("title_pattern", .text "("), ("titlePattern", .text "^b"),
        ("enforce_order", .text "off")]])]]),
    ("content_node_types", .list [.text "table", .text "code", .text "table"])]

def laxSchema : Schema where
  sections       := [⟨some "A", none, true, true, none, none,
    some [⟨none, some "^b", false, false, none, some false, none, none⟩], some "x-y z"⟩]
  enforceOrder?  := none
  allowChildren? := none
  contentTypes?  := some ["code", "table"]

theorem laxSchema_ready : laxSchema.Ready := by
  have ps : patterns laxSchema.sections = ["^b"] := by simp [patterns, laxSchema]
  rw [Ready, badPattern?, ps]
  decide +kernel

theorem laxValue_plain : laxValue.Plain := by
  have inner : (Value.list [.map [("title_pattern", .text "("), ("titlePattern", .text "^b"),
      ("enforce_order", .text "off")]]).Plain :=
    .list <| List.forall_mem_singleton.mpr <| .map <| by simp [Value.Plain.text]
  refine .map <| List.forall_mem_cons.mpr ⟨.list <| List.forall_mem_singleton.mpr <| .map ?_, ?_⟩
  · simp [Value.Plain.text, Value.Plain.int, inner]
  · exact List.forall_mem_singleton.mpr <| .list <| by simp [Value.Plain.text]

-- The types of content of the schema written the other way round.
def laxTurned : Value := ({ laxSchema with contentTypes? := some ["table", "code"] } : Schema).data

theorem ofValue_writes_lax :
    laxValue.Plain ∧ ofValue true laxValue = .ok laxSchema ∧
    ofValue true laxSchema.data = .ok laxSchema ∧ ofValue false laxTurned = .ok laxSchema := by
  have made : ofValue true laxValue = .ok laxSchema := by
    refine Fits.ofValue_eq ⟨_, _, rfl, rfl, ?_⟩ laxSchema_ready
    cbv
  obtain ⟨own, again⟩ := ofValue_writes laxValue_plain made
  have turned := again laxTurned <| .intro <| .some <| by simp [or_comm]
  exact ⟨laxValue_plain, made, (again _ own).1, turned.2 rfl false⟩

end Schema
end Outline
