import Outline.Node.Data
import Outline.Proofs.Fit.Record
import Outline.Proofs.Fit.Rewriting
import Outline.Section.Forest

namespace Outline

namespace Fit

variable {low n : Nat} {high? : Option Nat} {v : Value}

-- The numbers that are asked for.
def Bounds (low : Nat) (high? : Option Nat) (n : Nat) : Prop := low ≤ n ∧ ∀ high ∈ high?, n ≤ high

theorem natFrom_int (h : Bounds low high? n) : natFrom low high? (.int n) = .ok n := by
  obtain ⟨least, most⟩ := h
  cases high?
  case none => simp [natFrom, int, andThen, Int.not_lt.mpr (Int.ofNat_le.mpr least)]
  case some high =>
    have most : n ≤ high := most high rfl
    simp [natFrom, int, andThen, Int.not_lt.mpr (Int.ofNat_le.mpr least),
      Int.not_lt.mpr (Int.ofNat_le.mpr most)]

theorem bounds_of_natFrom (h : natFrom low high? v = .ok n) : Bounds low high? n := by
  obtain ⟨i, -, h⟩ := andThen_eq_ok_iff.mp h
  cases high?
  case none =>
    dsimp only at h
    split at h
    case isTrue => cases h
    case isFalse least =>
      obtain rfl := Fit.ok.inj h
      exact ⟨by omega, nofun⟩
  case some high =>
    dsimp only at h
    split at h
    case isTrue => cases h
    case isFalse most =>
      split at h
      case isTrue => cases h
      case isFalse least =>
        obtain rfl := Fit.ok.inj h
        refine ⟨by omega, ?_⟩
        rintro _ ⟨⟩
        omega

end Fit

theorem optional_textData {s? : Option String} : Fit.optional Fit.text (textData s?) = .ok s? := by
  cases s? <;> rfl

namespace Position

-- Lines and columns count from one.
structure Valid (p : Position) : Prop where
  line   : 1 ≤ p.line
  column : 1 ≤ p.column

variable {p : Position} {p? : Option Position} {v : Value}

theorem fit_data (valid : p.Valid) : fit p.data = .ok p := by
  have line : Fit.natFrom 1 none (.int p.line) = .ok p.line := Fit.natFrom_int ⟨valid.line, nofun⟩
  have column : Fit.natFrom 1 none (.int p.column) = .ok p.column := Fit.natFrom_int ⟨valid.column, nofun⟩
  rw [data, fit, Fit.record, Fit.required_of_lookup rfl line, Fit.withDefault_of_lookup rfl column]
  rfl

theorem optional_fit_data? (valid : ∀ p ∈ p?, p.Valid) : Fit.optional fit (data? p?) = .ok p? := by
  cases p?
  case none => rfl
  case some p =>
    exact Fit.map_eq_ok_iff.mpr ⟨p, fit_data (valid p rfl), rfl⟩

theorem valid_of_fit (h : fit v = .ok p) : p.Valid := by
  unfold fit Fit.record at h
  split at h
  case h_2 => cases h
  case h_1 =>
    obtain ⟨_, column, line, columns, rfl⟩ := Fit.ap_eq_ok_iff.mp h
    obtain ⟨_, lines, rfl⟩ := Fit.map_eq_ok_iff.mp line
    obtain ⟨_, lines⟩ := Fit.exists_of_required lines
    refine ⟨(Fit.bounds_of_natFrom lines).1, ?_⟩
    rcases Fit.eq_default_or_of_withDefault columns with rfl | ⟨_, columns⟩
    · exact Nat.le_refl 1
    · exact (Fit.bounds_of_natFrom columns).1

theorem valid_of_withDefault {keys : List String} {es : Fit.Entries}
    (h : Fit.withDefault keys none (Fit.optional fit) es = .ok p?) : ∀ p ∈ p?, p.Valid := by
  rintro p rfl
  rcases Fit.eq_default_or_of_withDefault h with h | ⟨_, h⟩
  · cases h
  · exact valid_of_fit <| Fit.eq_ok_of_optional h

end Position

namespace Inline

-- The induction on inline nodes: on those in the first one, and on those after it.
theorem inlines_induction {P : List Inline → Prop} (nil : P [])
    (cons : ∀ i rest, P i.children → P rest → P (i :: rest)) : ∀ is, P is
  | [] => nil
  | ⟨_, _, children⟩ :: rest =>
    cons _ rest (inlines_induction nil cons children) (inlines_induction nil cons rest)

theorem lookup_fitEntries (key : String) (es : List (String × Value)) :
    (fitEntries es).lookup key = (es.lookup key).map fitList :=
  Fit.lookup_rewritten (g := fun _ => fitList) (by simp [fitEntries]) (by simp [fitEntries]) key es

theorem fit_map (es : List (String × Value)) : fit (.map es) =
    Inline.mk
      <$> Fit.required ["type"] Fit.text es
      <*> Fit.withDefault ["value"] none (Fit.optional Fit.text) es
      <*> Fit.withDefault ["children"] [] fitList es := by
  rw [fit, Fit.withDefault_id fun key _ => lookup_fitEntries key es]

theorem fit_data {i : Inline} (below : fitItems 0 (dataList i.children) = .ok i.children) :
    fit i.data = .ok i := by
  obtain ⟨kind, value?, children⟩ := i
  have type : Fit.text (.text kind) = .ok kind := rfl
  have below : fitList (.list (dataList children)) = .ok children := by rwa [fitList]
  rw [data, fit_map, Fit.required_of_lookup rfl type, Fit.withDefault_of_lookup rfl optional_textData,
    Fit.withDefault_of_lookup rfl below]
  rfl

theorem fitItems_dataList (index : Nat) (is : List Inline) : fitItems index (dataList is) = .ok is := by
  induction is using inlines_induction generalizing index
  case nil => simp [dataList, fitItems]
  case cons i is inner rest => simp [dataList, fitItems, fit_data (inner 0), rest]

theorem fitList_dataList (is : List Inline) : fitList (.list (dataList is)) = .ok is := by
  rw [fitList, fitItems_dataList]

end Inline

structure Heading.Valid (h : Heading) : Prop where
  depth    : Fit.Bounds 1 (some 6) h.depth
  position : ∀ p ∈ h.position?, p.Valid

-- The numbers of a node are those that a node of a document can have.
def Node.Valid : Node → Prop
  | heading h => h.Valid
  | content c => ∀ p ∈ c.position?, p.Valid
  | aside a   => ∀ p ∈ a.position?, p.Valid

namespace Heading

variable {h : Heading} {es : Fit.Entries}

theorem fields_data (valid : h.Valid) (data : h.data = .map es) : fields es = .ok h := by
  have depth := Fit.natFrom_int valid.depth
  have position := Position.optional_fit_data? valid.position
  cases h
  cases data
  rw [fields, Fit.required_of_lookup rfl depth,
    Fit.withDefault_of_lookup rfl (Inline.fitList_dataList _), Fit.withDefault_of_lookup rfl position]
  rfl

theorem valid_of_fields (h' : fields es = .ok h) : h.Valid := by
  obtain ⟨_, _, h₂, position, rfl⟩ := Fit.ap_eq_ok_iff.mp h'
  obtain ⟨_, _, h₁, -, rfl⟩ := Fit.ap_eq_ok_iff.mp h₂
  obtain ⟨_, depth, rfl⟩ := Fit.map_eq_ok_iff.mp h₁
  have ⟨_, depth⟩ := Fit.exists_of_required depth
  exact ⟨Fit.bounds_of_natFrom depth, Position.valid_of_withDefault position⟩

end Heading

namespace Content

variable {c : Content} {es : Fit.Entries}

theorem fields_data (valid : ∀ p ∈ c.position?, p.Valid) (data : c.data = .map es) :
    fields (.ok c.kind) es = .ok c := by
  have position := Position.optional_fit_data? valid
  cases c
  cases data
  rw [fields, Fit.withDefault_of_lookup rfl optional_textData,
    Fit.withDefault_of_lookup rfl (Inline.fitList_dataList _), Fit.withDefault_of_lookup rfl position]
  rfl

theorem fit_data (valid : ∀ p ∈ c.position?, p.Valid) : fit c.data = .ok c := by
  have kind : Fit.tag ContentKind.tags (.text c.kind.name) = .ok c.kind := by
    simp [Fit.tag, ContentKind.lookup_name]
  rw [data, fit, Fit.record, Fit.required_of_lookup rfl kind]
  exact fields_data valid rfl

theorem valid_of_fields {kind : Fit ContentKind} (h : fields kind es = .ok c) :
    ∀ p ∈ c.position?, p.Valid := by
  obtain ⟨_, _, h₃, position, rfl⟩ := Fit.ap_eq_ok_iff.mp h
  obtain ⟨_, _, h₂, -, rfl⟩ := Fit.ap_eq_ok_iff.mp h₃
  obtain ⟨_, _, h₁, -, rfl⟩ := Fit.ap_eq_ok_iff.mp h₂
  obtain ⟨_, -, rfl⟩ := Fit.map_eq_ok_iff.mp h₁
  exact Position.valid_of_withDefault position

end Content

namespace Aside

variable {a : Aside} {es : Fit.Entries}

theorem fields_data (valid : ∀ p ∈ a.position?, p.Valid) (data : a.data = .map es) :
    fields a.kind es = .ok a := by
  have position := Position.optional_fit_data? valid
  cases a
  cases data
  rw [fields, Fit.withDefault_of_lookup rfl optional_textData, Fit.withDefault_of_lookup rfl position]
  rfl

theorem valid_of_fields {kind : AsideKind} (h : fields kind es = .ok a) : ∀ p ∈ a.position?, p.Valid := by
  obtain ⟨_, _, h₁, position, rfl⟩ := Fit.ap_eq_ok_iff.mp h
  obtain ⟨_, -, rfl⟩ := Fit.map_eq_ok_iff.mp h₁
  exact Position.valid_of_withDefault position

end Aside

namespace Node

variable {es : Fit.Entries} {n : Node} {v : Value}

-- Each kind of node is told by its own `type`.
theorem fields?_heading : fields? "heading" es = some (Fit.map heading (Heading.fields es)) :=
  rfl

theorem fields?_content (kind : ContentKind) :
    fields? kind.name es = some (Fit.map content (Content.fields (.ok kind) es)) := by
  cases kind <;> rfl

theorem fields?_aside (kind : AsideKind) :
    fields? kind.name es = some (Fit.map aside (Aside.fields kind es)) := by
  cases kind <;> rfl

theorem fit_of_fields? {tag : String} (type : es.lookup "type" = some (.text tag))
    (fields : fields? tag es = some (.ok n)) : fit (.map es) = .ok n := by
  simp [fit, type, fields]

theorem fit_data (valid : n.Valid) : fit n.data = .ok n := by
  cases n
  case heading h => exact fit_of_fields? rfl (by rw [fields?_heading, h.fields_data valid rfl]; rfl)
  case content c => exact fit_of_fields? rfl (by rw [fields?_content, c.fields_data valid rfl]; rfl)
  case aside a   => exact fit_of_fields? rfl (by rw [fields?_aside, a.fields_data valid rfl]; rfl)

theorem valid_of_fields? {tag : String} (h : fields? tag es = some (.ok n)) : n.Valid := by
  unfold fields? at h
  split at h
  case isTrue =>
    obtain ⟨_, fields, rfl⟩ := Fit.map_eq_ok_iff.mp <| Option.some.inj h
    exact Heading.valid_of_fields fields
  case isFalse =>
    split at h
    case h_1 =>
      obtain ⟨_, fields, rfl⟩ := Fit.map_eq_ok_iff.mp <| Option.some.inj h
      exact Content.valid_of_fields fields
    case h_2 =>
      obtain ⟨_, fields, rfl⟩ := Fit.map_eq_ok_iff.mp <| Option.some.inj h
      exact Aside.valid_of_fields fields
    case h_3 => cases h

theorem exists_fields? (h : fit v = .ok n) : ∃ tag es, v = .map es ∧ fields? tag es = some (.ok n) := by
  unfold fit at h
  split at h
  case h_2 => cases h
  case h_1 es =>
    split at h
    case h_1 => cases h
    case h_2 =>
      split at h
      case h_2 => cases h
      case h_1 tag _ =>
        split at h
        case h_2 => cases h
        case h_1 hf =>
          rw [Fit.under_eq_ok_iff] at h
          exact ⟨tag, es, rfl, h ▸ hf⟩

theorem valid_of_fit (h : fit v = .ok n) : n.Valid :=
  have ⟨_, _, _, h⟩ := exists_fields? h
  valid_of_fields? h

end Node
end Outline
