import Outline.Report.Console
import Outline.Report.Csv

namespace Outline

inductive ReportFormat
  | console
  | csv (layout : Csv.Layout)
  deriving DecidableEq, Repr

structure Reporter where
  format : ReportFormat
  path   : String
  deriving DecidableEq, Repr

namespace Reporter

-- A reporter before any document was begun.
def ofFormat (format : ReportFormat) : Reporter := ⟨format, "<input>"⟩

-- What is written before anything is reported.
def opening (r : Reporter) : String :=
  match r.format with
  | .console    => ""
  | .csv layout => layout.header

def begin (r : Reporter) (path : String) : Reporter := { r with path := path }

def emit (r : Reporter) (d : Diagnostic) : String :=
  match r.format with
  | .console    => Console.line r.path d
  | .csv layout => layout.row r.path d

-- What is written of reports, piece by piece, and the reporter after them.
def pieces (r : Reporter) : List Report → List String × Reporter
  | [] => ([], r)
  | report :: rest =>
    let r := r.begin report.path
    let (more, last) := pieces r rest
    (report.diagnostics.map r.emit ++ more, last)

def replay (r : Reporter) (reports : List Report) : String × Reporter :=
  (String.join (r.pieces reports).1, (r.pieces reports).2)

theorem pieces_eq (format : ReportFormat) (path : String) (reports : List Report) :
    ((⟨format, path⟩ : Reporter).pieces reports).1 =
      reports.flatMap fun r => r.diagnostics.map (emit ⟨format, r.path⟩) := by
  induction reports generalizing path with
  | nil            => rfl
  | cons _ rest ih => simp [pieces, begin, ih]

-- Each diagnostic is written under the document that it belongs to, whatever was begun before.
theorem replay_text (format : ReportFormat) (path : String) (reports : List Report) :
    ((⟨format, path⟩ : Reporter).replay reports).1 =
      String.join (reports.flatMap fun r => r.diagnostics.map (emit ⟨format, r.path⟩)) := by
  rw [replay, pieces_eq]

end Reporter
end Outline
