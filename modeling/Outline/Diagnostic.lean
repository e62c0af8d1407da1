import Outline.Node.Data

namespace Outline

-- One violation; without a position it concerns what is not there.
structure Diagnostic where
  message   : String
  position? : Option Position
  ruleId    : String
  deriving DecidableEq, Repr

structure Report where
  path        : String
  diagnostics : List Diagnostic
  deriving DecidableEq, Repr

namespace Diagnostic

def fit : Value → Fit Diagnostic := Fit.record "Diagnostic" fun es =>
  Diagnostic.mk
    <$> Fit.required ["message"] Fit.text es
    <*> Fit.withDefault ["position"] none (Fit.optional Position.fit) es
    <*> Fit.required ["ruleId", "rule_id"] Fit.text es

def data (d : Diagnostic) : Value :=
  .map [("message", .text d.message), ("position", Position.data? d.position?),
        ("ruleId", .text d.ruleId)]

end Diagnostic

namespace Report

def ok (r : Report) : Bool := r.diagnostics.isEmpty

def fit : Value → Fit Report := Fit.record "ValidationReport" fun es =>
  Report.mk
    <$> Fit.required ["path"] Fit.text es
    <*> Fit.withDefault ["diagnostics"] [] (Fit.list Diagnostic.fit) es

end Report
end Outline
