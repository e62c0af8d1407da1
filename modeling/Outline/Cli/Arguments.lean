import Outline.Cli.Flag
import Outline.Report.Csv
import Outline.Settings

namespace Outline.Cli

-- How a report is written.
inductive ReportKind
  | console
  | csv
  deriving DecidableEq, Repr

namespace ReportKind

def named : List (String × ReportKind) := [("console", console), ("csv", csv)]

def name : ReportKind → String
  | console => "console"
  | csv     => "csv"

end ReportKind

structure Arguments where
  files         : List String
  schema        : String
  format        : ReportKind
  output        : String
  columns       : List String
  noPosition    : Bool
  summary?      : Option String
  ruleId        : String
  enforceOrder  : Bool
  allowChildren : Bool
  contentTypes? : Option (List String)
  keepCommas    : Bool
  verbose       : Bool
  deriving DecidableEq, Repr

-- Why a command line is not carried out.
inductive Stop
  | help
  | usage (e : UsageError)
  deriving DecidableEq, Repr

namespace Arguments

-- What holds where nothing is asked for.
def default (s : Settings) : Arguments where
  files         := []
  schema        := s.schemaPath
  format        := .console
  output        := "-"
  columns       := Csv.Column.all.map Csv.Column.name
  noPosition    := false
  summary?      := none
  ruleId        := s.ruleId
  enforceOrder  := false
  allowChildren := false
  contentTypes? := none
  keepCommas    := false
  verbose       := false

-- Sets what a flag with a value asks for.
def assign (a : Arguments) (f : Flag) (value : String) : Except Stop Arguments :=
  match f with
  | .schema       => .ok { a with schema := value }
  | .format       => match ReportKind.named.lookup value with
    | some kind => .ok { a with format := kind }
    | none      => .error (.usage (.badChoice f value (ReportKind.named.map Prod.fst)))
  | .output       => .ok { a with output := value }
  | .columns      => .ok { a with columns := Text.items value }
  | .summary      => .ok { a with summary? := some value }
  | .ruleId       => .ok { a with ruleId := value }
  | .contentTypes => .ok { a with contentTypes? := some (Text.items value) }
  | _             => .ok a

-- Sets what a flag without a value asks for.
def switch (a : Arguments) (f : Flag) : Except Stop Arguments :=
  match f with
  | .help          => .error .help
  | .noPosition    => .ok { a with noPosition := true }
  | .enforceOrder  => .ok { a with enforceOrder := true }
  | .allowChildren => .ok { a with allowChildren := true }
  | .keepCommas    => .ok { a with keepCommas := true }
  | .verbose       => .ok { a with verbose := true }
  | _              => .ok a

-- The flags in one word: some that take no value, and a last one, with its value if that stands in
-- the word as well.
structure Cluster where
  switches : List Flag
  last     : Flag
  value?   : Option String

private def isShort (name : String) : Bool := (name.toList.drop 1).head? ≠ some '-'

-- The flags in a word from `f` on, which is followed by `more` in it.
private def clusterFrom (f : Flag) (short : Bool) (more : List Char) : Except UsageError Cluster :=
  if f.takesValue then .ok ⟨[], f, some (String.ofList more)⟩
  else match more with
    | [] => .error (.needlessValue f "")
    | c :: rest =>
      match if short then Flag.named.lookup (String.ofList ['-', c]) else none with
      | none   => .error (.needlessValue f (String.ofList (c :: rest)))
      | some g =>
        if rest.isEmpty then .ok ⟨[f], g, none⟩
        else (clusterFrom g short rest).map fun k => { k with switches := f :: k.switches }

private def clusterOf (f : Flag) (name : String) (value? : Option String) : Except UsageError Cluster :=
  match value? with
  | none       => .ok ⟨[], f, none⟩
  | some value => clusterFrom f (isShort name) value.toList

-- What has been taken, and what is left over.
structure Taken where
  arguments : Arguments
  -- Do further texts belong to the documents?
  opened    : Bool
  leftOver  : List String

private def takeText (t : Taken) (s : String) : Taken :=
  if t.arguments.files.isEmpty || t.opened then
    { t with arguments := { t.arguments with files := t.arguments.files ++ [s] }, opened := true }
  else { t with leftOver := t.leftOver ++ [s] }

private def takeSwitches (a : Arguments) (fs : List Flag) : Except Stop Arguments := fs.foldlM switch a

private def takeAll (t : Taken) : List Word → Except Stop Taken
  | [] => .ok t
  | .text s :: rest => takeAll (takeText t s) rest
  | .separator :: rest =>
    if t.opened || (t.arguments.files.isEmpty && !rest.isEmpty) then takeAll { t with opened := true } rest
    else takeAll { t with leftOver := t.leftOver ++ ["--"] } rest
  | .unknown s :: rest => takeAll { t with opened := false, leftOver := t.leftOver ++ [s] } rest
  | .flag f name value? :: rest =>
    match clusterOf f name value? with
    | .error e => .error (.usage e)
    | .ok k =>
      if !k.last.takesValue then
        match takeSwitches t.arguments (k.switches ++ [k.last]) with
        | .error e => .error e
        | .ok a    => takeAll { t with arguments := a, opened := false } rest
      else match k.value?, rest with
        | some value, rest =>
          match (takeSwitches t.arguments k.switches).bind (assign · k.last value) with
          | .error e => .error e
          | .ok a    => takeAll { t with arguments := a, opened := false } rest
        | none, .text value :: rest =>
          match (takeSwitches t.arguments k.switches).bind (assign · k.last value) with
          | .error e => .error e
          | .ok a    => takeAll { t with arguments := a, opened := false } rest
        | none, _ => .error (.usage (.noValue k.last))

-- What the words of a command line ask for.
def ofTexts (s : Settings) (words : List String) : Except Stop Arguments := do
  let t ← takeAll ⟨default s, false, []⟩ (← (Word.ofTexts words).mapError .usage)
  if t.arguments.files.isEmpty then throw (.usage .noFiles)
  if !t.leftOver.isEmpty then throw (.usage (.unknown t.leftOver))
  return t.arguments

end Arguments
end Outline.Cli
