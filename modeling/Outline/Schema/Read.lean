import Outline.Json.Reader
import Outline.Schema.OfValue
import Outline.Text.Utf8
import Outline.Yaml

namespace Outline

-- The ways to write a schema.
inductive Format
  | yaml
  | json
  deriving DecidableEq, Repr

def Format.ofName? : String → Option Format
  | "yaml" => some yaml
  | "json" => some json
  | _      => none

def Yaml.Fault.message : Yaml.Fault → String
  | .malformed     => "Malformed YAML schema"
  | .codePoint     => "chr() arg not in range(0x110000)"
  | .codePointSize => "Python int too large to convert to C int"
  | .number e      => e.message
  | .truth word    => Text.quoted word
  | .noNumber      => "string index out of range"
  | .weight        => "int too large to convert to float"
  | .momentOfMap   => "expected string or bytes-like object, got 'list'"
  | .noMoment      => "'NoneType' object has no attribute 'groupdict'"
  | .moment text   => text

namespace Schema

inductive Failure
  | notText (e : Text.Utf8.Error)
  | unknownFormat (name : String)
  | json (e : Json.Error)
  | yaml (f : Yaml.Fault)
  | refused (r : Refusal)
  deriving DecidableEq, Repr

def Failure.message : Failure → String
  | notText e          => "Schema is not valid UTF-8: " ++ e.message
  | unknownFormat name => "Unknown schema source " ++ Text.quoted name
  | json e             => match e with
    | .malformed .. => "Malformed JSON schema: " ++ e.message
    | .number _     => e.message
  | yaml f             => f.message
  | refused r          => r.message

-- A mark that may stand before a text.
def dropMark (s : String) : String :=
  match s.toList with
  | '\uFEFF' :: cs => String.ofList cs
  | _              => s

def decode (format : Format) (s : String) : Except Failure Value :=
  match format with
  | .yaml => (Yaml.read s).mapError .yaml
  | .json => (Json.read s).mapError .json

def ofText (format : Format) (dropCommas : Bool) (s : String) : Except Failure Schema := do
  (ofValue dropCommas (← decode format (dropMark s))).mapError .refused

-- The schema that a text says in a format that is told by its name.
def ofNamed (name : String) (dropCommas : Bool) (s : String) : Except Failure Schema :=
  match Format.ofName? name with
  | some format => ofText format dropCommas s
  | none        => .error (.unknownFormat name)

def textOf (bs : List UInt8) : Except Failure String := (Text.Utf8.decode bs).mapError .notText

end Schema
end Outline
