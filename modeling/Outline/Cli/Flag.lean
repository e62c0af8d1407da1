import Outline.Text.Quoted

namespace Outline.Cli

inductive Flag
  | help
  | schema
  | format
  | output
  | columns
  | noPosition
  | summary
  | ruleId
  | enforceOrder
  | allowChildren
  | contentTypes
  | keepCommas
  | verbose
  deriving DecidableEq, Repr

namespace Flag

def all : List Flag :=
  [help, schema, format, output, columns, noPosition, summary, ruleId, enforceOrder, allowChildren,
   contentTypes, keepCommas, verbose]

def names : Flag → List String
  | help          => ["-h", "--help"]
  | schema        => ["-s", "--schema"]
  | format        => ["--format"]
  | output        => ["-o", "--output"]
  | columns       => ["--columns"]
  | noPosition    => ["--no-position"]
  | summary       => ["--summary"]
  | ruleId        => ["--rule-id"]
  | enforceOrder  => ["--enforce-order"]
  | allowChildren => ["--allow-children"]
  | contentTypes  => ["--content-types"]
  | keepCommas    => ["--keep-commas"]
  | verbose       => ["-v", "--verbose"]

def takesValue : Flag → Bool
  | schema | format | output | columns | summary | ruleId | contentTypes => true
  | help | noPosition | enforceOrder | allowChildren | keepCommas | verbose => false

def label (f : Flag) : String := "/".intercalate f.names

def named : List (String × Flag) := all.flatMap fun f => f.names.map fun name => (name, f)

end Flag

inductive UsageError
  | ambiguous (word : String) (names : List String)
  | noValue (f : Flag)
  | needlessValue (f : Flag) (value : String)
  | badChoice (f : Flag) (value : String) (choices : List String)
  | noFiles
  | unknown (words : List String)
  deriving DecidableEq, Repr

namespace UsageError

private def argument (f : Flag) (what : String) : String := "argument " ++ f.label ++ ": " ++ what

def message : UsageError → String
  | ambiguous word names        =>
    "ambiguous option: " ++ word ++ " could match " ++ ", ".intercalate names
  | noValue f                   => argument f "expected one argument"
  | needlessValue f value       => argument f ("ignored explicit argument " ++ Text.quoted value)
  | badChoice f value choices   => argument f ("invalid choice: " ++ Text.quoted value ++
      " (choose from " ++ ", ".intercalate (choices.map Text.quoted) ++ ")")
  | noFiles                     => "the following arguments are required: files"
  | unknown words               => "unrecognized arguments: " ++ " ".intercalate words

end UsageError

-- What a word of a command line is.
inductive Word
  | text (s : String)
  -- Under which name, and with which value in the same word.
  | flag (f : Flag) (name : String) (value? : Option String)
  | unknown (s : String)
  -- Every word after it is text.
  | separator
  deriving DecidableEq, Repr

namespace Word

-- What stands before the first equals sign, and what after it.
private def cutValue (cs : List Char) : List Char × Option String :=
  match cs.dropWhile (· != '=') with
  | []        => (cs, none)
  | _ :: rest => (cs.takeWhile (· != '='), some (String.ofList rest))

-- The flags that a word may mean, with the names that it may be short for.
private def meanings (cs : List Char) : List (Flag × String × Option String) :=
  if ['-', '-'].isPrefixOf cs then
    let (start, value?) := cutValue cs
    Flag.named.filterMap fun (name, f) =>
      if start.isPrefixOf name.toList then some (f, name, value?) else none
  else
    Flag.named.filterMap fun (name, f) =>
      if name.toList = cs.take 2 then some (f, name, some (String.ofList (cs.drop 2)))
      else if cs.isPrefixOf name.toList then some (f, name, none)
      else none

private def isNegativeNumber (cs : List Char) : Bool :=
  match cs with
  | '-' :: rest =>
    let digits := rest.takeWhile Text.isDigit
    match rest.drop digits.length with
    | []            => !digits.isEmpty
    | '.' :: places => !places.isEmpty && places.all Text.isDigit
    | _             => false
  | _ => false

-- What a word is when no separator came before it.
def ofText (s : String) : Except UsageError Word :=
  let cs := s.toList
  let (start, value?) := cutValue cs
  if cs.head? ≠ some '-' then .ok (text s)
  else match Flag.named.lookup s, Flag.named.lookup (String.ofList start) with
    | some f, _         => .ok (flag f s none)
    | none,   some f    => if cs.length = 1 then .ok (text s) else .ok (flag f (String.ofList start) value?)
    | none,   none      =>
      if cs.length = 1 then .ok (text s)
      else match meanings cs with
        | [(f, name, value?)] => .ok (flag f name value?)
        | []                  =>
          .ok (if isNegativeNumber cs || cs.contains ' ' then text s else unknown s)
        | several             => .error (.ambiguous s (several.map fun m => m.2.1))

def ofTexts : List String → Except UsageError (List Word)
  | []      => .ok []
  | s :: ss =>
    if s = "--" then .ok (separator :: ss.map text)
    else do
      let w ← ofText s
      return w :: (← ofTexts ss)

end Word
end Outline.Cli
