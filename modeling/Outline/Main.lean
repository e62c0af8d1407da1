import Outline.Cli.Run

namespace Outline.Cli

private def environment : IO Settings.Environment := do
  let pairs ← Settings.variableNames.filterMapM fun name => do
    return (← IO.getEnv name).map fun value => (name, value)
  return fun name => pairs.lookup name

-- What stands at a path: a file, a folder, or nothing.
private def look (path : String) : IO (Option (String × Option (List UInt8))) := do
  try
    let content ← IO.FS.readBinFile path
    return some (path, some content.toList)
  catch e =>
    match e with
    | .noFileOrDirectory .. => return none
    | _                     => return some (path, none)

-- A path and those of the folders on the way to it.
private def way (path : String) : List String :=
  let p := Path.ofText path
  (List.range p.names.length).map fun n => ({ p with names := p.names.take (n + 1) } : Path).text

private def snapshot (paths : List String) : IO Files := do
  let found ← (paths.flatMap way).eraseDups.filterMapM look
  return .ofList found

private def pathsOf (a : Arguments) : List String :=
  let schema := match Schema.Location.ofText a.schema with
    | .file p => [p.text]
    | .web _  => []
  schema ++ a.files ++ [a.output] ++ a.summary?.toList

private def complain (lines : List String) : IO Unit := do
  for line in lines do IO.eprintln line

private def usage : String :=
  "usage: docschema " ++ " ".intercalate (Flag.all.map fun f => "[" ++ f.label ++ "]") ++ " files"

private def carryOut (settings : Settings) (a : Arguments) : IO UInt32 := do
  let fs ← snapshot (pathsOf a)
  let r := run settings Web.unreachable fs a ()
  for (path, content) in fs.since r.files do
    IO.FS.writeBinFile path ⟨content.toArray⟩
  IO.print r.output
  complain r.log
  match r.verdict with
  | .aborted e => complain [e.message]
  | _          => complain (r.error?.map ("Error: " ++ ·)).toList
  return r.verdict.exitCode.toUInt32

def program (words : List String) : IO UInt32 := do
  match Settings.ofEnvironment (← environment) with
  | .error e =>
    complain [e.message]
    return 1
  | .ok settings =>
    match Arguments.ofTexts settings words with
    | .ok a             => carryOut settings a
    | .error .help      =>
      IO.println usage
      return 0
    | .error (.usage e) =>
      complain [usage, "docschema: error: " ++ e.message]
      return 2

end Outline.Cli

def main (words : List String) : IO UInt32 := Outline.Cli.program words
