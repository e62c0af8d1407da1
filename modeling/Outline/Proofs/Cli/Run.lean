import Mathlib
import Outline.Cli.Run
import Outline.Proofs.Files
import Outline.Proofs.Report.Csv
import Outline.Proofs.Schema.Ready
import Outline.Proofs.Text.Lines
import Outline.Proofs.Text.Mark

namespace Outline.Cli

variable {σ : Type}

-- The columns that are asked for.
def Arguments.layout (a : Arguments) : Csv.Layout where
  columns  := (a.columns.filterMap Csv.Column.named?).filter fun c => !a.noPosition || !c.isPosition
  severity := Csv.Layout.defaultSeverity

section

variable (settings : Settings) (send : Web.Send σ) (fs : Files) (a : Arguments) (s : σ)

-- Why a run says nothing of the documents.
inductive Fails : Failure → Prop
  -- There is no such column.
  | columns {name} (isCsv : a.format = .csv) (mem : name ∈ a.columns)
      (unknown : ∀ c : Csv.Column, c.name ≠ name) :
      Fails (.columns ⟨a.columns.filter fun name => (Csv.Column.named? name).isNone⟩)
  | schema {e} (h : (loadSchema send settings.patience fs a s).1.value = .error e) :
      Fails (.schema e)
  | document {name e} (mem : name ∈ a.files)
      (h : Document.load fs (.ofPath (.ofText name)) (.ofText name) = .error e) :
      Fails (.document e)

end

variable {settings : Settings} {send : Web.Send σ} {fs : Files} {a : Arguments} {s : σ}
variable {reports : List Report}

end Outline.Cli
