import Outline.Proofs.Check.Path
import Outline.Proofs.Check.Patterns
import Outline.Proofs.Section.Parent
import Outline.Proofs.Text.Lines

namespace Outline

open Schema (Entry At)
open Text (Unbroken)

namespace Schema.Entry

variable {e : Entry}

-- The text is one of those that are written in the entry.
def Writes (e : Entry) (text : String) : Prop :=
  e.title? = some text ∨ e.titlePattern? = some text ∨ e.description? = some text

theorem writes_name (h : e.name ≠ "") : e.Writes e.name := by
  cases ht : e.title? <;> cases hp : e.titlePattern? <;> grind [Entry.name, Writes]

-- What a message quotes of an entry is written there, unless it is nothing at all.
theorem writes_of_mem {text : String} (h : text ∈ e.name :: e.description?.toList) (ne : text ≠ "") :
    e.Writes text := by
  obtain rfl | described := List.mem_cons.mp h
  · exact writes_name ne
  · exact .inr <| .inr <| by simpa using described

theorem unbroken_suffix : Unbroken e.suffix ↔ ∀ text ∈ e.description?.toList, Unbroken text := by
  cases h : e.description?
  case none => simp [suffix, h, Unbroken]
  case some text =>
    by_cases empty : text = ""
    case pos => simp [suffix, h, empty]
    case neg =>
      have between : Unbroken " - " := by decide
      simp [suffix, h, empty, between]

end Schema.Entry

theorem Schema.unbroken_placeOf {above : List Entry} :
    Unbroken (placeOf above) ↔ ∀ name ∈ above.map Entry.name, Unbroken name := by
  by_cases top : above = []
  case pos =>
    have root : Unbroken "root level" := by decide
    simp [placeOf, top, root]
  case neg => rw [placeOf, if_neg top, Text.unbroken_intercalate (by decide)]

theorem Context.Tells.unbroken_path {top c : Context} {above : List Entry} (t : top.Tells above c) :
    Unbroken c.path ↔ ∀ name ∈ above.map Entry.name, Unbroken name := by
  have between : Unbroken arrow := by decide
  simp [t.path, Text.unbroken_join, between]

theorem Section.preorder_children_subset {s : Section} {sections : List Section} (h : s ∈ sections) :
    preorder s.children ⊆ preorder sections := by
  induction sections using sections_induction
  case nil => cases h
  case cons t rest _ hi =>
    rw [preorder_cons]
    cases h
    case head   => simp
    case tail h => exact fun u hu => by simp [hi h hu]

namespace Check

-- One thing that is reported of an entry, or of a section that stands beside it.
inductive Remark
  | unfilled (e : Entry) (s : Section)
  | missing (e : Entry)
  | misplaced (e : Entry) (s : Section)

namespace Remark

def diagnostic (c : Context) : Remark → Diagnostic
  | unfilled e s  => ⟨emptyMessage c e, s.position?, c.ruleId⟩
  | missing e     => ⟨missingMessage c e, none, c.ruleId⟩
  | misplaced e s => ⟨orderMessage c e s, s.position?, c.ruleId⟩

-- What the message quotes of the schema and of the document, besides the names of the entries above.
def quoted : Remark → List String
  | unfilled e _  => e.name :: e.description?.toList
  | missing e     => e.name :: e.description?.toList
  | misplaced e s => s.title :: e.name :: e.description?.toList

variable {top c : Context} {above : List Entry} {e : Entry} {s : Section}

theorem message_unfilled : ((unfilled e s).diagnostic c).message =
    "Section \"" ++ c.path ++ e.name ++ "\" must not be empty." ++ e.suffix :=
  rfl

theorem message_missing : ((missing e).diagnostic c).message =
    "Missing required section: " ++ c.path ++ e.name ++ e.suffix :=
  rfl

theorem message_misplaced (t : top.Tells above c) : ((misplaced e s).diagnostic c).message =
    "Section \"" ++ s.title ++ "\" is out of order. Expected \"" ++ e.name ++ "\" at " ++
      Schema.placeOf above ++ "." ++ e.suffix := by
  rw [← t.place]
  rfl

-- A message is on one line just if all that it quotes is.
theorem unbroken_message (t : top.Tells above c) (r : Remark) :
    Unbroken (r.diagnostic c).message ↔ ∀ text ∈ above.map Entry.name ++ r.quoted, Unbroken text := by
  rw [List.forall_mem_append]
  cases r
  case unfilled e s =>
    have words : Unbroken "Section \"" ∧ Unbroken "\" must not be empty." := by simp [Unbroken]
    simp only [message_unfilled, Text.unbroken_append, words, t.unbroken_path, e.unbroken_suffix, quoted,
      List.forall_mem_cons, and_assoc, true_and]
  case missing e =>
    have words : Unbroken "Missing required section: " := by simp [Unbroken]
    simp only [message_missing, Text.unbroken_append, words, t.unbroken_path, e.unbroken_suffix, quoted,
      List.forall_mem_cons, and_assoc, true_and]
  case misplaced e s =>
    have words : Unbroken "Section \"" ∧ Unbroken "\" is out of order. Expected \"" ∧
        Unbroken "\" at " ∧ Unbroken "." := by
      simp [Unbroken]
    simp only [message_misplaced t, Text.unbroken_append, words, Schema.unbroken_placeOf, e.unbroken_suffix,
      quoted, List.forall_mem_cons, and_assoc, and_left_comm, true_and]

end Remark

namespace Turn

variable {found : Found} {c : Context} {l : Level} {t : Turn} {r : Remark} {d : Diagnostic} {text : String}

-- What a turn reports itself.
def remarks (c : Context) : Turn → List Remark
  | hit _ _ e s         => if IsEmpty c e s then [.unfilled e s] else []
  | miss _ _ e current? =>
    (if e.required then [.missing e] else []) ++
      if c.enforceOrder then current?.toList.map (.misplaced e) else []

theorem reported_mem_own : .reported d ∈ t.own c ↔ ∃ r ∈ t.remarks c, r.diagnostic c = d := by
  cases t
  case hit i j e s =>
    by_cases empty : IsEmpty c e s <;>
      simp [own, onMatch_eq_matched, matched, remarks, empty, Remark.diagnostic, eq_comm]
  case miss i j e current? =>
    cases current? <;> cases required : e.required <;> cases order : c.enforceOrder <;>
      simp [own, onMiss, remarks, required, order, Remark.diagnostic, eq_comm]

-- A turn quotes its own entry, and the section beside it.
theorem quoted_at (turn : t ∈ l.turns found) (remark : r ∈ t.remarks c) (quoted : text ∈ r.quoted) :
    (∃ (j : Nat) (e : Entry), l.entries[j]? = some e ∧ text ∈ e.name :: e.description?.toList) ∨
      ∃ s ∈ l.sections, s.title = text := by
  have place := turns_at turn
  cases t
  case hit i j e s =>
    obtain ⟨_, rfl⟩ : _ ∧ r = .unfilled e s := by simpa [remarks] using remark
    exact .inl ⟨j, e, place.2, quoted⟩
  case miss i j e current? =>
    obtain ⟨_, rfl⟩ | ⟨_, s, rfl, rfl⟩ :
        (_ ∧ r = .missing e) ∨ _ ∧ ∃ s, current? = some s ∧ .misplaced e s = r := by
      simpa [remarks] using remark
    · exact .inl ⟨j, e, place.2, quoted⟩
    · obtain rfl | quoted := List.mem_cons.mp quoted
      · exact .inr ⟨s, List.mem_of_getElem? place.1, rfl⟩
      · exact .inl ⟨j, e, place.2, quoted⟩

end Turn

namespace Level

variable (found : Found)

-- A text that stands in something that is reported in the check of a level.
inductive Quotes (top : Level) (text : String) : Prop
  | intro {above : List Entry} {l : Level} {t : Turn} {r : Remark} (reached : top.Reaches found above l)
      (turn : t ∈ l.turns found) (remark : r ∈ t.remarks l.context)
      (quoted : text ∈ above.map Entry.name ++ r.quoted)

variable {found} {top l : Level} {above : List Entry} {text : String}

theorem reported_mem_events {d : Diagnostic} : .reported d ∈ top.events found ↔
    ∃ above l, top.Reaches found above l ∧ ∃ t ∈ l.turns found, ∃ r ∈ t.remarks l.context,
      r.diagnostic l.context = d := by
  simp only [mem_events_iff, Turn.reported_mem_own]

theorem ruleId_of_reported {d : Diagnostic} (root : top.context.path = "")
    (said : .reported d ∈ top.events found) : d.ruleId = top.context.ruleId := by
  obtain ⟨above, l, reached, t, _, r, _, rfl⟩ := reported_mem_events.mp said
  have told := reached.tells (.refl root)
  cases r <;> exact told.ruleId

-- What is reported is on one line each just if all the texts in it are.
theorem unbroken_messages (root : top.context.path = "") :
    (∀ d, .reported d ∈ top.events found → Unbroken d.message) ↔
      ∀ text, top.Quotes found text → Unbroken text := by
  constructor
  case mp =>
    rintro h text ⟨reached, turn, remark, quoted⟩
    have t := reached.tells (.refl root)
    have message := h _ <| reported_mem_events.mpr ⟨_, _, reached, _, turn, _, remark, rfl⟩
    exact (Remark.unbroken_message t _).mp message text quoted
  case mpr =>
    rintro h d said
    obtain ⟨above, l, reached, t, turn, r, remark, rfl⟩ := reported_mem_events.mp said
    have told := reached.tells (.refl root)
    exact (Remark.unbroken_message told _).mpr fun text quoted => h text ⟨reached, turn, remark, quoted⟩

-- The entries that a check comes to are entries of the schema, and so are those above them.
theorem Reaches.exists_at {e : Entry} (h : top.Reaches found above l)
    (he : e ∈ above ∨ ∃ path, At l.entries path e) : ∃ path, At top.entries path e := by
  induction h
  case here => exact he.resolve_left List.not_mem_nil
  case inside top last i j e' s below above hit children _ hi =>
    have place : top.entries[j]? = some e' := (turns_at hit).2
    have inner : e'.inner = below := by simp [Entry.inner, children]
    by_cases same : e = e'
    case pos => exact ⟨[j], .here (same ▸ place)⟩
    case neg =>
      obtain ⟨path, deeper⟩ := hi <| he.imp_left fun h => (List.mem_cons.mp h).resolve_left same
      exact ⟨j :: path, .inside place (inner ▸ deeper)⟩

theorem Reaches.preorder_subset (h : top.Reaches found above l) :
    Section.preorder l.sections ⊆ Section.preorder top.sections := by
  induction h
  case here => exact List.Subset.refl _
  case inside hit _ _ hi =>
    exact fun s hs => Section.preorder_children_subset (List.mem_of_getElem? (turns_at hit).1) (hi hs)

-- A text that is quoted is written in the schema, or it is a title of the document.
theorem Quotes.origin (q : top.Quotes found text) (ne : text ≠ "") :
    (∃ path e, At top.entries path e ∧ e.Writes text) ∨
      ∃ s ∈ Section.preorder top.sections, s.title = text := by
  obtain ⟨reached, turn, remark, quoted⟩ := q
  obtain named | quoted := List.mem_append.mp quoted
  · obtain ⟨e, he, rfl⟩ := List.mem_map.mp named
    obtain ⟨path, place⟩ := reached.exists_at (.inl he)
    exact .inl ⟨path, e, place, Entry.writes_name ne⟩
  · obtain ⟨j, e, own, written⟩ | ⟨s, hs, title⟩ := Turn.quoted_at turn remark quoted
    · obtain ⟨path, place⟩ := reached.exists_at (.inr ⟨[j], .here own⟩)
      exact .inl ⟨path, e, place, Entry.writes_of_mem written ne⟩
    · exact .inr ⟨s, reached.preorder_subset (Section.mem_preorder hs), title⟩

end Level
end Check
end Outline
