import Outline.Diagnostic

namespace Outline.Console

-- Without a position, a diagnostic is at line and column zero.
def line (path : String) (d : Diagnostic) : String :=
  let (line, column) := match d.position? with
    | some p => (p.line, p.column)
    | none   => (0, 0)
  path ++ s!":{line}:{column}: " ++ d.message ++ " [" ++ d.ruleId ++ "]\n"

def write (reports : List Report) : String :=
  String.join (reports.flatMap fun r => r.diagnostics.map (line r.path))

end Outline.Console
