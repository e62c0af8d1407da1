import Mathlib
import Outline.Proofs.Check.Wording
import Outline.Report.Reporter

namespace Outline

open Text (Unbroken)

namespace Console

-- The text consists of these lines, each with a line feed at its end.
structure Lines (text : String) (lines : List String) : Prop where
  joined   : String.join (lines.map (· ++ "\n")) = text
  unbroken : ∀ line ∈ lines, Unbroken line

-- Where a diagnostic is, in front of its message.
def address (path : String) (d : Diagnostic) : String :=
  path ++ ":" ++ toString ((d.position?.map Position.line).getD 0) ++ ":" ++
    toString ((d.position?.map Position.column).getD 0) ++ ": "

-- The rule that it is of, behind the message.
def signature (d : Diagnostic) : String := " [" ++ d.ruleId ++ "]"

-- The line of a diagnostic begins with where it is, and ends with the rule that it is of.
structure Shows (path : String) (d : Diagnostic) (line : String) : Prop where
  opens  : (address path d).toList <+: line.toList
  closes : (signature d).toList <:+ line.toList

-- The diagnostics of all reports, each with the path of its own one.
def filed (reports : List Report) : List (String × Diagnostic) :=
  reports.flatMap fun r => r.diagnostics.map (r.path, ·)

-- The text has one line for each diagnostic, in order, and nothing else.
def OneEach (reports : List Report) (text : String) : Prop :=
  ∃ lines, Lines text lines ∧ List.Forall₂ (fun (path, d) => Shows path d) (filed reports) lines

-- What is written of reports.
def written (reports : List Report) : String :=
  (Reporter.ofFormat .console).opening ++ ((Reporter.ofFormat .console).replay reports).1

-- What is written of a diagnostic before the line feed.
def body (x : String × Diagnostic) : String := address x.1 x.2 ++ x.2.message ++ signature x.2

variable {text : String} {lines bodies : List String} {reports : List Report} {x : String × Diagnostic}

theorem line_eq_body (path : String) : line path = fun d => body (path, d) ++ "\n" := by
  funext d
  cases h : d.position? <;> simp [line, body, address, signature, h, String.append_assoc] <;> rfl

theorem written_eq_join (reports : List Report) :
    written reports = String.join (((filed reports).map body).map (· ++ "\n")) := by
  have emit (path : String) : Reporter.emit ⟨.console, path⟩ = line path := rfl
  have start : (Reporter.ofFormat .console).opening = "" := rfl
  rw [written, start, Reporter.ofFormat, Reporter.replay_text]
  simp [emit, filed, line_eq_body, List.map_flatMap, Function.comp_def]

theorem shows_body (x : String × Diagnostic) : Shows x.1 x.2 (body x) where
  opens  := by simp [body]
  closes := by simp [body, -List.append_assoc]

theorem unbroken_body (path : Unbroken x.1) (rule : Unbroken x.2.ruleId) :
    Unbroken (body x) ↔ Unbroken x.2.message := by
  have words : Unbroken ":" ∧ Unbroken ": " ∧ Unbroken " [" ∧ Unbroken "]" := by decide
  simp [body, address, signature, path, rule, words, Text.unbroken_repr]

-- Of as many parts as there are lines, none goes over more than one line.
theorem Lines.unbroken_of_length (h : Lines (String.join (bodies.map (· ++ "\n"))) lines)
    (length : bodies.length = lines.length) : ∀ part ∈ bodies, Unbroken part := by
  have within := Text.count_eq_zero_iff.mpr (Text.unbroken_join.mpr h.unbroken)
  have counts := congrArg (·.toList.count '\n') h.joined
  simp only [Text.count_join, within, length] at counts
  exact Text.unbroken_join.mp (Text.count_eq_zero_iff.mp (by omega))

-- Reports are written with one line each just if no message has a line feed in it.
theorem oneEach_iff (paths : ∀ r ∈ reports, Unbroken r.path)
    (rules : ∀ r ∈ reports, ∀ d ∈ r.diagnostics, Unbroken d.ruleId) :
    OneEach reports (written reports) ↔ ∀ r ∈ reports, ∀ d ∈ r.diagnostics, Unbroken d.message := by
  have bodies : (∀ part ∈ (filed reports).map body, Unbroken part) ↔
      ∀ r ∈ reports, ∀ d ∈ r.diagnostics, Unbroken d.message := by
    simp only [filed, List.map_flatMap, List.map_map, List.forall_mem_flatMap, List.forall_mem_map]
    refine forall₂_congr fun r hr => forall₂_congr fun d hd => ?_
    exact unbroken_body (paths r hr) (rules r hr d hd)
  rw [written_eq_join, ← bodies]
  constructor
  case mp =>
    rintro ⟨lines, h, shows⟩
    exact h.unbroken_of_length <| by simpa using shows.length_eq
  case mpr =>
    intro unbroken
    refine ⟨_, ⟨rfl, unbroken⟩, ?_⟩
    exact List.forall₂_map_right_iff.mpr <| List.forall₂_same.mpr fun x _ => shows_body x

end Console

namespace Checker

variable {c : Checker} {forest : List Section} {d : Diagnostic}

-- The level that the check of a document begins with.
def top (c : Checker) (forest : List Section) : Check.Level := ⟨c.context, c.schema.sections, forest⟩

-- The reports of documents, each told by its path.
def reports (c : Checker) (documents : List (String × List Node)) : List Report :=
  documents.map fun (path, nodes) => ⟨path, c.diagnostics (Section.forest nodes)⟩

theorem mem_diagnostics : d ∈ c.diagnostics forest ↔ .reported d ∈ (c.top forest).events Pattern.isFound := by
  rw [diagnostics, List.mem_filterMap]
  constructor
  case mp =>
    rintro ⟨event, said, same⟩
    cases event <;> cases same
    exact said
  case mpr => exact fun said => ⟨_, said, rfl⟩

end Checker

namespace Console

open Schema (At)

-- The reports on documents are written with one line for each diagnostic just if every message is on
-- one line, and so just if every text is that is quoted in one. These are titles, patterns and
-- descriptions of the schema, and titles of the document.
theorem oneEach_iff_quotes {dropCommas : Bool} {v : Value} {schema : Schema}
    (accepted : Schema.ofValue dropCommas v = .ok schema) (o : Options) (rule : Unbroken o.ruleId)
    (documents : List (String × List Node)) (paths : ∀ x ∈ documents, Unbroken x.1) :
    ∃ c, Checker.ofSchema schema o = .ok c ∧
      (OneEach (c.reports documents) (written (c.reports documents)) ↔
        ∀ r ∈ c.reports documents, ∀ d ∈ r.diagnostics, Unbroken d.message) ∧
      (OneEach (c.reports documents) (written (c.reports documents)) ↔ ∀ x ∈ documents, ∀ text,
        (c.top (Section.forest x.2)).Quotes Pattern.isFound text → Unbroken text) ∧
      ∀ x ∈ documents, ∀ text, (c.top (Section.forest x.2)).Quotes Pattern.isFound text → ¬Unbroken text →
        (∃ path e, At schema.sections path e ∧ e.Writes text) ∨
          ∃ h : Heading, .heading h ∈ x.2 ∧ h.title = text := by
  let c : Checker := ⟨schema, .ofSchema schema o⟩
  have made := Checker.ofSchema_ready ((Schema.ofValue_ready dropCommas v).of_ok accepted) o
  have messages : OneEach (c.reports documents) (written (c.reports documents)) ↔
      ∀ r ∈ c.reports documents, ∀ d ∈ r.diagnostics, Unbroken d.message := by
    refine oneEach_iff (List.forall_mem_map.mpr paths) <| List.forall_mem_map.mpr fun x _ d hd => ?_
    rw [Check.Level.ruleId_of_reported rfl (Checker.mem_diagnostics.mp hd)]
    exact rule
  refine ⟨c, made, messages, messages.trans ?quotes, ?origin⟩
  case quotes =>
    simp only [Checker.reports, List.forall_mem_map, Checker.mem_diagnostics]
    exact forall₂_congr fun x _ => Check.Level.unbroken_messages rfl
  case origin =>
    intro x _ text quotes broken
    have ne : text ≠ "" := by
      rintro rfl
      exact broken (by decide)
    obtain schemaText | ⟨s, hs, title⟩ := quotes.origin ne
    · exact .inl schemaText
    · obtain ⟨h, heading, same, _⟩ := Section.exists_heading hs
      exact .inr ⟨h, heading, same ▸ title⟩

def blockValue : Value :=
  .map [("sections", .list [.map [("title", .text "Overview"), ("required", .bool true),
    ("description", .text "What the service does\n")]])]

def blockSchema : Schema where
  sections       := [⟨some "Overview", none, true, false, none, none, none, some "What the service does\n"⟩]
  enforceOrder?  := none
  allowChildren? := none
  contentTypes?  := none

def blockDocuments : List (String × List Node) :=
  [("doc.md", [.heading ⟨1, [⟨"text", some "Overview", []⟩], some ⟨1, 1⟩⟩]), ("empty.md", [])]

theorem blockSchema_made : Schema.ofValue true blockValue = .ok blockSchema := by cbv

def blockChecker : Checker := ⟨blockSchema, .ofSchema blockSchema .default⟩

theorem blockChecker_made : Checker.ofSchema blockSchema .default = .ok blockChecker :=
  Checker.ofSchema_ready ((Schema.ofValue_ready true blockValue).of_ok blockSchema_made) .default

theorem blockPaths : ∀ x ∈ blockDocuments, Unbroken x.1 := by
  simp only [blockDocuments, List.forall_mem_cons]
  decide

theorem blockReports : blockChecker.reports blockDocuments = [⟨"doc.md", []⟩, ⟨"empty.md",
    [⟨"Missing required section: Overview - What the service does\n", none, "docschema-structure"⟩]⟩] := by
  decide +kernel

theorem oneEach_iff_quotes_block :
    Schema.ofValue true blockValue = .ok blockSchema ∧ Unbroken Options.default.ruleId ∧
      (∀ x ∈ blockDocuments, Unbroken x.1) ∧
      ∃ c, Checker.ofSchema blockSchema .default = .ok c ∧
        (OneEach (c.reports blockDocuments) (written (c.reports blockDocuments)) ↔
          ∀ x ∈ blockDocuments, ∀ text,
            (c.top (Section.forest x.2)).Quotes Pattern.isFound text → Unbroken text) := by
  have rule : Unbroken Options.default.ruleId := by decide
  obtain ⟨c, made, _, lines, _⟩ := oneEach_iff_quotes blockSchema_made .default rule blockDocuments blockPaths
  exact ⟨blockSchema_made, rule, blockPaths, c, made, lines⟩

-- Two lines are written of the one thing that is reported.
theorem not_oneEach_block :
    Schema.ofValue true blockValue = .ok blockSchema ∧ Unbroken Options.default.ruleId ∧
      (∀ x ∈ blockDocuments, Unbroken x.1) ∧
      ∃ c, Checker.ofSchema blockSchema .default = .ok c ∧
        written (c.reports blockDocuments) =
          "empty.md:0:0: Missing required section: Overview - What the service does\n [docschema-structure]\n" ∧
        ¬OneEach (c.reports blockDocuments) (written (c.reports blockDocuments)) := by
  refine ⟨blockSchema_made, by decide, blockPaths, blockChecker, blockChecker_made, ?_⟩
  rw [blockReports]
  refine ⟨by decide +kernel, fun lines => ?_⟩
  have message := (oneEach_iff (by decide) (by decide)).mp lines
  revert message
  decide

end Console
end Outline
