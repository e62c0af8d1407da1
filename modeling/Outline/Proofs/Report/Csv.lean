import Mathlib.Data.List.Basic
import Outline.Report.Reporter

namespace Outline
namespace Csv

-- Where a reader of records is.
inductive Place
  | fresh
  | bare
  | quoted
  -- After a quote in quotes, which ends the field unless another one follows.
  | closed

-- A reader of records. Commas part the fields of a record, and a line feed ends it. In quotes these
-- stand for themselves, and a quote is written twice.
structure Reader where
  place   : Place
  field   : List Char
  fields  : List String
  records : List (List String)

namespace Reader

def start : Reader := ⟨.fresh, [], [], []⟩

def add (r : Reader) (place : Place) (c : Char) : Reader :=
  { r with place := place, field := r.field ++ [c] }

def endField (r : Reader) : Reader :=
  { r with place := .fresh, field := [], fields := r.fields ++ [String.ofList r.field] }

def endRecord (r : Reader) : Reader :=
  ⟨.fresh, [], [], r.records ++ [r.endField.fields]⟩

-- There is none after a quote in a field without quotes, nor after text behind a field in quotes.
def next (r : Reader) (c : Char) : Option Reader :=
  match r.place, c with
  | .quoted, '"'  => some { r with place := .closed }
  | .quoted, c    => some (r.add .quoted c)
  | .closed, '"'  => some (r.add .quoted '"')
  | .fresh,  '"'  => some { r with place := .quoted }
  | _,       ','  => some r.endField
  | _,       '\n' => some r.endRecord
  | .closed, _    => none
  | .bare,   '"'  => none
  | _,       c    => some (r.add .bare c)

-- The records of a text that has been read. The last one need not be ended.
def finish (r : Reader) : Option (List (List String)) :=
  match r.place, r.fields with
  | .quoted, _ => none
  | .fresh, [] => some r.records
  | _,      _  => some r.endRecord.records

end Reader

-- The records that a text says.
def records? (s : String) : Option (List (List String)) :=
  (s.toList.foldlM Reader.next .start).bind Reader.finish

open Reader

variable {r : Reader} {fields : List String} {rows : List (List String)}

theorem foldlM_next_doubled (h : r.place = .quoted) (cs : List Char) :
    (cs.flatMap fun c => if c = '"' then ['"', '"'] else [c]).foldlM next r =
      some { r with field := r.field ++ cs } := by
  induction cs generalizing r
  case nil => simp
  case cons c cs hi =>
    simp only [List.flatMap_cons, List.foldlM_append]
    have step : (if c = '"' then ['"', '"'] else [c]).foldlM next r = some (r.add .quoted c) := by
      obtain ⟨place, field, fields, records⟩ := r
      obtain rfl : place = .quoted := h
      by_cases hc : c = '"'
      case pos => subst hc; rfl
      case neg => simp [hc, next]
    rw [step]
    exact (hi rfl).trans (by simp [add, h])

-- A field is read as it was before it was put in quotes.
theorem foldlM_next_field (h : r.place = .fresh) (s : String) :
    (field s).toList.foldlM next r = some { r with place := .closed, field := r.field ++ s.toList } := by
  obtain ⟨place, cs, fields, records⟩ := r
  obtain rfl : place = .fresh := h
  have opens : next ⟨.fresh, cs, fields, records⟩ '"' = some ⟨.quoted, cs, fields, records⟩ := rfl
  have closes (cs : List Char) :
      next ⟨.quoted, cs, fields, records⟩ '"' = some ⟨.closed, cs, fields, records⟩ := rfl
  have inside := foldlM_next_doubled (r := ⟨.quoted, cs, fields, records⟩) rfl s.toList
  simp [field, opens, closes, inside]

theorem foldlM_next_record (h : fields ≠ []) (before : List String) (done : List (List String)) :
    (record fields).toList.foldlM next ⟨.fresh, [], before, done⟩ =
      some ⟨.fresh, [], [], done ++ [before ++ fields]⟩ := by
  induction fields generalizing before
  case nil => contradiction
  case cons s rest hi =>
    have first := foldlM_next_field (r := ⟨.fresh, [], before, done⟩) rfl s
    cases rest
    case nil =>
      have ends : next ⟨.closed, s.toList, before, done⟩ '\n' =
          some ⟨.fresh, [], [], done ++ [before ++ [s]]⟩ := by
        simp [next, endRecord, endField]
      simp_all [record]
    case cons t rest =>
      have parts : next ⟨.closed, s.toList, before, done⟩ ',' =
          some ⟨.fresh, [], before ++ [s], done⟩ := by
        simp [next, endField]
      have others := hi (List.cons_ne_nil t rest) (before ++ [s])
      have whole : (record (s :: t :: rest)).toList =
          (field s).toList ++ ',' :: (record (t :: rest)).toList := by
        simp [record]
      simp [whole, first, parts, others]

-- Records with a field at least are read back one by one.
theorem records?_records (h : ∀ row ∈ rows, row ≠ []) :
    records? (String.join (rows.map record)) = some rows := by
  have reads (done : List (List String)) :
      ((rows.map record).flatMap String.toList).foldlM next ⟨.fresh, [], [], done⟩ =
        some ⟨.fresh, [], [], done ++ rows⟩ := by
    induction rows generalizing done
    case nil => simp
    case cons row rows hi =>
      have ⟨first, others⟩ := List.forall_mem_cons.mp h
      simp [foldlM_next_record first, hi others]
  simp only [records?, start, String.toList_join, reads []]
  rfl

theorem Column.named?_name (c : Column) : Column.named? c.name = some c := by
  cases c <;> rfl

-- What a record says of a diagnostic under the name of a column.
def cell (path severity : String) (d : Diagnostic) : String → String
  | "file"     => path
  | "line"     => toString ((d.position?.map Position.line).getD 0)
  | "column"   => toString ((d.position?.map Position.column).getD 0)
  | "reason"   => d.message
  | "ruleId"   => d.ruleId
  | "severity" => severity
  | _          => ""

theorem cell_name (path severity : String) (d : Diagnostic) (c : Column) :
    cell path severity d c.name = c.value path severity d := by
  cases c <;> rfl

-- The names that are left when positions are to be left out.
def kept (includePosition : Bool) (names : List String) : List String :=
  names.filter fun name => includePosition || !(["line", "column"].contains name)

theorem kept_names (includePosition : Bool) (cs : List Column) :
    kept includePosition (cs.map Column.name) =
      (cs.filter fun c => includePosition || !c.isPosition).map Column.name := by
  have names : (fun name => includePosition || !(["line", "column"].contains name)) ∘ Column.name =
      fun c => includePosition || !c.isPosition := by
    funext c
    cases c <;> rfl
  rw [kept, List.filter_map, names]

-- The records of a report: one for each diagnostic, with what it says under the names.
def recordsOf (names : List String) (severity : String) (r : Report) : List (List String) :=
  r.diagnostics.map fun d => names.map (cell r.path severity d)

theorem write_eq (l : Layout) (reports : List Report) :
    l.write reports = String.join ((l.columns.map Column.name ::
      reports.flatMap (recordsOf (l.columns.map Column.name) l.severity)).map record) := by
  have rows (r : Report) : r.diagnostics.map (l.row r.path) =
      (recordsOf (l.columns.map Column.name) l.severity r).map record := by
    simp [recordsOf, Layout.row, cell_name, Function.comp_def]
  simp [Layout.write, Layout.header, Layout.rows, rows, List.map_flatMap]

-- What a summary says of a report that so many records of the report in full are of.
def summaryRecord (r : Report) (count : Nat) : List String :=
  [r.path, toString count, if count = 0 then "ok" else "violations"]

theorem summary_eq (count : Report → Nat) (h : ∀ r, count r = r.diagnostics.length)
    (reports : List Report) :
    summary reports = String.join ((["file", "violations", "status"] ::
      reports.map fun r => summaryRecord r (count r)).map record) := by
  have ok (r : Report) : (r.ok = true) = (r.diagnostics.length = 0) := by
    simp [Report.ok]
  simp [summary, summaryPieces, summaryRecord, h, ok, Function.comp_def]

theorem exists_columns {names : List String}
    (known : ∀ name ∈ names, name ∈ Column.all.map Column.name) :
    ∃ cs : List Column, names = cs.map Column.name := by
  induction names
  case nil => exact ⟨[], rfl⟩
  case cons name names hi =>
    have ⟨first, others⟩ := List.forall_mem_cons.mp known
    have ⟨c, _, hc⟩ := List.mem_map.mp first
    have ⟨cs, hcs⟩ := hi others
    exact ⟨c :: cs, by simp [hc, hcs]⟩

theorem ofNames_names (cs : List Column) (includePosition : Bool) (severity : String) :
    Layout.ofNames (cs.map Column.name) includePosition severity =
      .ok ⟨cs.filter fun c => includePosition || !c.isPosition, severity⟩ := by
  simp [Layout.ofNames, Column.named?_name, List.filterMap_map, Function.comp_def, List.filter_map]

-- A text of comma-separated values is read back as the names of the columns that are kept, and a
-- record for each diagnostic of each report, in order. The summary of the same reports counts these
-- records.
theorem records?_reports {names : List String} {includePosition : Bool}
    (known : ∀ name ∈ names, name ∈ Column.all.map Column.name)
    (nonempty : kept includePosition names ≠ []) (severity : String) (reports : List Report) :
    ∃ l, Layout.ofNames names includePosition severity = .ok l ∧
      records? ((Reporter.ofFormat (.csv l)).opening ++ ((Reporter.ofFormat (.csv l)).replay reports).1) =
        some (kept includePosition names ::
          reports.flatMap (recordsOf (kept includePosition names) severity)) ∧
      records? (summary reports) = some (["file", "violations", "status"] ::
        reports.map fun r =>
          summaryRecord r (recordsOf (kept includePosition names) severity r).length) := by
  obtain ⟨cs, rfl⟩ := exists_columns known
  rw [kept_names] at nonempty ⊢
  let l : Layout := ⟨cs.filter fun c => includePosition || !c.isPosition, severity⟩
  refine ⟨l, ofNames_names .., ?report, ?summary⟩
  case report =>
    have written : (Reporter.ofFormat (.csv l)).opening ++
        ((Reporter.ofFormat (.csv l)).replay reports).1 = l.write reports := by
      rw [Reporter.ofFormat, Reporter.replay_text]
      rfl
    rw [written, write_eq]
    refine records?_records <| List.forall_mem_cons.mpr ⟨nonempty, fun row hrow => ?_⟩
    obtain ⟨r, _, hrow⟩ := List.mem_flatMap.mp hrow
    obtain ⟨d, _, rfl⟩ := List.mem_map.mp hrow
    simpa [l] using nonempty
  case summary =>
    rw [summary_eq (fun r => (recordsOf (l.columns.map Column.name) severity r).length)
      (fun r => by simp [recordsOf])]
    exact records?_records <| by simp [summaryRecord]

-- Two documents, one without violations; a column that is asked for twice, and two that are left out.
def quotedReports : List Report :=
  [⟨"a,b.md", [⟨"Say \"x\",\r\nor y", some ⟨3, 1⟩, "rule\n"⟩, ⟨"", none, "\""⟩]⟩, ⟨"c.md", []⟩]

theorem records?_reports_quoted :
    (∀ name ∈ ["reason", "line", "file", "reason", "column"], name ∈ Column.all.map Column.name) ∧
    kept false ["reason", "line", "file", "reason", "column"] ≠ [] ∧
    ∃ l, Layout.ofNames ["reason", "line", "file", "reason", "column"] false "warning" = .ok l ∧
      records? ((Reporter.ofFormat (.csv l)).opening ++
        ((Reporter.ofFormat (.csv l)).replay quotedReports).1) =
        some (kept false ["reason", "line", "file", "reason", "column"] ::
          quotedReports.flatMap
            (recordsOf (kept false ["reason", "line", "file", "reason", "column"]) "warning")) ∧
      records? (summary quotedReports) = some (["file", "violations", "status"] ::
        quotedReports.map fun r => summaryRecord r
          (recordsOf (kept false ["reason", "line", "file", "reason", "column"]) "warning" r).length) := by
  have known : ∀ name ∈ ["reason", "line", "file", "reason", "column"],
      name ∈ Column.all.map Column.name := by
    decide
  have nonempty : kept false ["reason", "line", "file", "reason", "column"] ≠ [] := by decide
  exact ⟨known, nonempty, records?_reports known nonempty "warning" quotedReports⟩

end Csv
end Outline
