import Outline.Check.Context
import Outline.Number.Read
import Outline.Text.Split
import Outline.Web.Fetch

namespace Outline

structure Settings where
  schemaPath   : String
  ruleId       : String
  -- Kinds of content that fill a section, in ascending order.
  contentTypes : List String
  -- In seconds, for one request.
  timeout      : Double
  patience     : Web.Patience Double
  userAgent    : String
  logLevel     : String
  deriving DecidableEq, Repr

namespace Settings

def default : Settings where
  schemaPath   := "./doc-structure-schema.yaml"
  ruleId       := Options.defaultRuleId
  contentTypes := Options.defaultContentTypes
  timeout      := .ofInt 10
  patience     := ⟨2, .ofRatio false 1 2⟩
  userAgent    := "docschema/0.1"
  logLevel     := "WARNING"

abbrev Environment := String → Option String

-- A variable in its read form.
def readVariable (env : Environment) (name : String) (default : α)
    (read : String → Except Number.Error α) : Except Number.Error α :=
  match env name with
  | some s => read s
  | none   => .ok default

-- The kinds in a list with commas; an empty text lists none.
def contentTypesOf (s? : Option String) : List String :=
  match s?.filter (· ≠ "") with
  | some s => Fit.sortTexts (Text.items s)
  | none   => default.contentTypes

-- The variables that are looked at.
def variableNames : List String :=
  ["DOCSCHEMA_SCHEMA_PATH", "DOCSCHEMA_RULE_ID", "DOCSCHEMA_CONTENT_NODE_TYPES",
   "DOCSCHEMA_FETCH_TIMEOUT_S", "DOCSCHEMA_FETCH_MAX_RETRIES", "DOCSCHEMA_FETCH_BACKOFF_S",
   "DOCSCHEMA_USER_AGENT", "DOCSCHEMA_LOG_LEVEL"]

def ofEnvironment (env : Environment) : Except Number.Error Settings := do
  let timeout ← readVariable env "DOCSCHEMA_FETCH_TIMEOUT_S" default.timeout Number.readDouble
  let retries ← readVariable env "DOCSCHEMA_FETCH_MAX_RETRIES" default.patience.retries Number.readInt
  let backoff ← readVariable env "DOCSCHEMA_FETCH_BACKOFF_S" default.patience.backoff Number.readDouble
  return {
    schemaPath   := (env "DOCSCHEMA_SCHEMA_PATH").getD default.schemaPath
    ruleId       := (env "DOCSCHEMA_RULE_ID").getD default.ruleId
    contentTypes := contentTypesOf (env "DOCSCHEMA_CONTENT_NODE_TYPES")
    timeout      := timeout
    patience     := ⟨retries, backoff⟩
    userAgent    := (env "DOCSCHEMA_USER_AGENT").getD default.userAgent
    logLevel     := (env "DOCSCHEMA_LOG_LEVEL").getD default.logLevel }

end Settings
end Outline
