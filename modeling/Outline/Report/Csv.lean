import Outline.Diagnostic

namespace Outline.Csv

def field (s : String) : String :=
  "\"" ++ String.ofList (s.toList.flatMap fun c => if c = '"' then ['"', '"'] else [c]) ++ "\""

-- A record without fields is a line feed alone.
def record (fields : List String) : String := ",".intercalate (fields.map field) ++ "\n"

inductive Column
  | file
  | line
  | column
  | reason
  | ruleId
  | severity
  deriving DecidableEq, Repr

namespace Column

def all : List Column := [file, line, column, reason, ruleId, severity]

def name : Column → String
  | file     => "file"
  | line     => "line"
  | column   => "column"
  | reason   => "reason"
  | ruleId   => "ruleId"
  | severity => "severity"

def named? (s : String) : Option Column := all.find? (·.name = s)

def isPosition : Column → Bool
  | line | column => true
  | _ => false

-- What a record holds for a diagnostic; zero stands for no position.
def value (path severity : String) (d : Diagnostic) : Column → String
  | .file     => path
  | .line     => toString ((d.position?.map Position.line).getD 0)
  | .column   => toString ((d.position?.map Position.column).getD 0)
  | .reason   => d.message
  | .ruleId   => d.ruleId
  | .severity => severity

end Column

-- Names that are no columns.
structure UnknownColumns where
  names : List String
  deriving DecidableEq, Repr

def UnknownColumns.message (e : UnknownColumns) : String :=
  "Unknown CSV columns: " ++ ", ".intercalate e.names

-- Which columns are written, and what stands in the one for the severity.
structure Layout where
  columns  : List Column
  severity : String
  deriving DecidableEq, Repr

namespace Layout

def defaultSeverity : String := "warning"

-- The columns of these names, unless positions are to be left out.
def ofNames (names : List String) (includePosition : Bool) (severity : String) :
    Except UnknownColumns Layout :=
  match names.filter fun n => (Column.named? n).isNone with
  | [] => .ok
    { columns  := (names.filterMap Column.named?).filter fun c => includePosition || !c.isPosition
      severity := severity }
  | unknown => .error ⟨unknown⟩

def header (l : Layout) : String := record (l.columns.map Column.name)

def row (l : Layout) (path : String) (d : Diagnostic) : String :=
  record (l.columns.map (Column.value path l.severity d))

-- A row for each diagnostic of each report.
def rows (l : Layout) (reports : List Report) : String :=
  String.join (reports.flatMap fun r => r.diagnostics.map (l.row r.path))

def write (l : Layout) (reports : List Report) : String := l.header ++ l.rows reports

end Layout

-- A record for each document, with the number of its violations.
def summaryPieces (reports : List Report) : List String :=
  record ["file", "violations", "status"] :: reports.map fun r =>
    record [r.path, toString r.diagnostics.length, if r.ok then "ok" else "violations"]

def summary (reports : List Report) : String := String.join (summaryPieces reports)

end Outline.Csv
