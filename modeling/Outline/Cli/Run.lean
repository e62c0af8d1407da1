import Outline.Check.Log
import Outline.Cli.Arguments
import Outline.Document
import Outline.Log
import Outline.Report.Reporter
import Outline.Schema.Load

namespace Outline.Cli

-- Why documents could not be checked or reported on.
inductive Failure
  | columns (e : Csv.UnknownColumns)
  | schema (e : Schema.LoadError)
  | document (e : Document.Error)
  -- There is no such place to write to.
  | place (e : Files.Error)
  -- What was found cannot be written down.
  | encoding (e : Text.Utf8.Unencodable)
  deriving DecidableEq, Repr

namespace Failure

def message : Failure → String
  | columns e  => e.message
  | schema e   => e.message
  | document e => e.message
  | place e    => if e.fault.isOfFile then "Cannot write report: " ++ e.message else e.message
  | encoding e => e.message

-- The others break off the run.
def isReported : Failure → Bool
  | columns _  => true
  | schema e   => e.isReported
  | document e => e.isReported
  | place e    => e.fault.isOfFile
  | encoding _ => false

end Failure

inductive Verdict
  | conforming
  | violations
  | failed
  | aborted (e : Failure)
  deriving DecidableEq, Repr

def Verdict.exitCode : Verdict → Nat
  | conforming => 0
  | violations => 1
  | failed     => 2
  | aborted _  => 1

structure Result (σ : Type) where
  verdict  : Verdict
  output   : String
  -- The log, and then why the run failed if it did.
  log      : List String
  error?   : Option String
  files    : Files
  fetched? : Option (Web.Fetched σ Double)

-- Results beside what is logged on the way to them.
structure Logged (α : Type) where
  value   : α
  entries : List Log.Entry

private def retryNotes (address : String) : List (Web.Step Double) → List Log.Entry
  | .asked o :: .slept d :: steps =>
    ⟨Log.debug, "docschema.http_utils", "Fetch of " ++ address ++ " failed (" ++ o.trouble ++
      "), retrying in " ++ d.fixed 2 ++ "s"⟩ :: retryNotes address steps
  | _ => []

private def loaded (message : String) : Log.Entry := ⟨Log.debug, "docschema.schema_loader", message⟩

variable {σ : Type}

-- The schema that is asked for, and how it was fetched if it was.
def loadSchema (send : Web.Send σ) (p : Web.Patience Double) (fs : Files) (a : Arguments) (s : σ) :
    Logged (Except Schema.LoadError Schema) × Option (Web.Fetched σ Double) :=
  match Schema.Location.ofText a.schema with
  | .file path =>
    let schema := Schema.load fs (!a.keepCommas) path
    let entries := match schema with
      | .error (.unreadable ..) => []
      | _                       => [loaded ("Loaded schema from " ++ path.text)]
    (⟨schema, entries⟩, none)
  | .web address =>
    let (schema, fetched) := Schema.fetch send true p none (!a.keepCommas) address s
    let entries := match fetched.result with
      | .ok _    => [loaded ("Fetched schema from " ++ address)]
      | .error _ => []
    (⟨schema, retryNotes address fetched.steps ++ entries⟩, some fetched)

private def checkNote (message : String) : Log.Entry := ⟨Log.debug, "docschema.validator", message⟩

private def note (level : Int) (message : String) : Log.Entry := ⟨level, "docschema.cli", message⟩

def checkDocument (c : Checker) (fs : Files) (name : String) :
    Except Document.Error (Logged Report) := do
  let path := Path.ofText name
  let nodes ← Document.load fs (.ofPath path) path
  let forest := Section.forest nodes
  let events := c.events forest
  let diagnostics := events.filterMap Event.diagnostic?
  return ⟨⟨path.text, diagnostics⟩,
    (events.flatMap Event.logLines).map checkNote ++
      [checkNote s!"Validated {forest.length} top-level sections, {diagnostics.length} diagnostics",
       note Log.debug (path.text ++ s!": {diagnostics.length} diagnostic(s)")]⟩

def checkDocuments (c : Checker) (fs : Files) :
    List String → Logged (Except Document.Error (List Report))
  | [] => ⟨.ok [], []⟩
  | name :: names =>
    match checkDocument c fs name with
    | .error e => ⟨.error e, []⟩
    | .ok r    =>
      let more := checkDocuments c fs names
      ⟨more.value.map (r.value :: ·), r.entries ++ more.entries⟩

-- What the caller of a check asks for.
def optionsOf (settings : Settings) (a : Arguments) : Options where
  ruleId        := a.ruleId
  enforceOrder  := a.enforceOrder
  allowChildren := a.allowChildren
  contentTypes? := some (match a.contentTypes? with
    | some (t :: ts) => Fit.sortTexts (t :: ts)
    | _              => settings.contentTypes)

def formatOf (a : Arguments) : Except Failure ReportFormat :=
  match a.format with
  | .console => .ok .console
  | .csv     => ((Csv.Layout.ofNames a.columns (!a.noPosition) Csv.Layout.defaultSeverity).map
      ReportFormat.csv).mapError .columns

-- What is found out before anything is written.
structure Findings (σ : Type) where
  reports  : Except Failure (ReportFormat × List Report)
  entries  : List Log.Entry
  fetched? : Option (Web.Fetched σ Double)

-- Reads and checks everything, and writes nothing.
def examine (settings : Settings) (send : Web.Send σ) (fs : Files) (a : Arguments) (s : σ) : Findings σ :=
  match formatOf a with
  | .error e => ⟨.error e, [], none⟩
  | .ok format =>
    let (schema, fetched?) := loadSchema send settings.patience fs a s
    match schema.value.bind fun schema =>
        (Checker.ofSchema schema (optionsOf settings a)).mapError fun e => .schema (.refused (.pattern e)) with
    | .error e => ⟨.error (.schema e), schema.entries, fetched?⟩
    | .ok c    =>
      let checked := checkDocuments c fs a.files
      ⟨(checked.value.map (format, ·)).mapError .document, schema.entries ++ checked.entries, fetched?⟩

def reportPieces (format : ReportFormat) (reports : List Report) : List String :=
  let r := Reporter.ofFormat format
  r.opening :: (r.pieces reports).1

-- What there is after a text is written to the output or to a file.
structure Delivered where
  output : String
  files  : Files
  -- What stopped the writing, if anything did.
  stop?  : Option Text.Utf8.Unencodable

-- Writes where it is asked for. A hyphen asks for the output, of which the encoding is left open.
def deliver (destination : String) (pieces : List String) (fs : Files) : Except Files.Error Delivered :=
  if destination = "-" then .ok ⟨String.join pieces, fs, none⟩
  else (fs.write destination pieces).map fun (fs, stop?) => ⟨"", fs, stop?⟩

-- Writes the summary, if one is asked for.
def deliverSummary (destination? : Option String) (reports : List Report) (fs : Files) :
    Except Files.Error (Files × Option Text.Utf8.Unencodable) :=
  match destination?.filter (· ≠ "") with
  | some destination => fs.write destination (Csv.summaryPieces reports)
  | none             => .ok (fs, none)

private def closing (reports : List Report) : Log.Entry :=
  note Log.info s!"Validated {reports.length} document(s), {(reports.filter (!·.ok)).length} with violations"

-- What is left by a run that cannot go on.
def Failure.result (e : Failure) (output : String) (log : List String) (fs : Files)
    (fetched? : Option (Web.Fetched σ Double)) : Result σ :=
  if e.isReported then ⟨.failed, output, log, some e.message, fs, fetched?⟩
  else ⟨.aborted e, output, log, none, fs, fetched?⟩

def run (settings : Settings) (send : Web.Send σ) (fs : Files) (a : Arguments) (s : σ) : Result σ :=
  let level := if a.verbose then Log.debug else (Log.Wish.name settings.logLevel).level
  let found := examine settings send fs a s
  let log := Log.shown level found.entries
  match found.reports with
  | .error e => e.result "" log fs found.fetched?
  | .ok (format, reports) =>
    match deliver a.output (reportPieces format reports) fs with
    | .error e => (Failure.place e).result "" log fs found.fetched?
    | .ok ⟨output, written, some e⟩ => (Failure.encoding e).result output log written found.fetched?
    | .ok ⟨output, written, none⟩ =>
      match deliverSummary a.summary? reports written with
      | .error e => (Failure.place e).result output log written found.fetched?
      | .ok (written, some e) => (Failure.encoding e).result output log written found.fetched?
      | .ok (written, none) =>
        let verdict := if reports.all Report.ok then Verdict.conforming else .violations
        ⟨verdict, output, log ++ Log.shown level [closing reports], none, written, found.fetched?⟩

end Outline.Cli
