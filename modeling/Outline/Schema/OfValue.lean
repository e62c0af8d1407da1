import Outline.Check.Checker
import Outline.Fit.Message
import Outline.Schema.Description

namespace Outline

def PatternError.message (e : PatternError) : String :=
  match e.error with
  | .malformed .. =>
    "Invalid titlePattern " ++ Text.quoted e.pattern ++ ": " ++ e.error.message e.pattern
  | other => other.message e.pattern

namespace Schema

inductive Refusal
  | noSections
  | invalid (issues : List Issue)
  | pattern (e : PatternError)
  deriving DecidableEq, Repr

def Refusal.message : Refusal → String
  | noSections     => "Invalid schema: Must define \"sections\" array"
  | invalid issues => "Invalid schema: " ++ issueCount issues
  | pattern e      => e.message

-- The list of sections of a map that has one.
def sections? : Value → Option (List Value)
  | .map es => match es.lookup "sections" with
    | some (.list vs) => some vs
    | _               => none
  | _ => none

-- The entries of a schema with every description in its stored form.
def normalizeTop (dropCommas : Bool) (es : List (String × Value)) (sections : List Value) :
    List (String × Value) :=
  Value.put "sections" (.list (normalizeEntries dropCommas sections)) es

def ofValue (dropCommas : Bool) (v : Value) : Except Refusal Schema :=
  match v.entries?, sections? v with
  | some es, some vs =>
    match fit (.map (normalizeTop dropCommas es vs)) with
    | .bad issues => .error (.invalid issues)
    | .ok s => match s.badPattern? with
      | some e => .error (.pattern e)
      | none   => .ok s
  | _, _ => .error .noSections

end Schema
end Outline
