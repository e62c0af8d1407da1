import Outline.Fit.Message
import Outline.Fit.Record
import Outline.Json.Reader
import Outline.Schema.Location
import Outline.Web.MediaType

namespace Outline.Service

-- A body as far as its content type tells how to read it.
inductive Body
  | empty
  | data (v : Value)
  | opaqueBytes
  deriving Repr

-- Why a body cannot be read.
abbrev BodyError := Json.Error

namespace Body

-- A body without content is empty, whatever its type.
def ofText (contentType text : String) : Except BodyError Body :=
  if text = "" then .ok empty
  else if (Web.MediaType.ofText contentType).isJson then (Json.read (Schema.dropMark text)).map data
  else .ok opaqueBytes

end Body

-- The schema that a document is to be checked against: sent along, or to be fetched.
inductive SchemaSource
  | inline (entries : List (String × Value))
  | web (address : String)
  deriving Repr

structure Request where
  markdown      : String
  source        : SchemaSource
  ruleId        : String
  enforceOrder  : Bool
  allowChildren : Bool
  deriving Repr

namespace Request

-- Text of up to so many characters.
def shortText (most : Int) (v : Value) : Fit String :=
  (Fit.text v).andThen fun s => if most < s.length then Fit.wrong (.textLength most) else .ok s

def dictionary : Value → Fit (List (String × Value))
  | .map entries => .ok entries
  | _            => Fit.wrong .dictionary

-- An address of the web, without blanks at its ends.
def webAddress (v : Value) : Fit String :=
  (Fit.text v).andThen fun s =>
    let s := Text.trim s
    if isWebAddress s then .ok s else Fit.wrong (.rule "schema_url must be an http(s) URL")

-- Exactly one schema, of the two ways to give one.
def oneSource (inline? : Option (List (String × Value))) (address? : Option String) :
    Fit SchemaSource :=
  match inline?, address? with
  | some es, none      => .ok (.inline es)
  | none, some address => .ok (.web address)
  | _, _               => Fit.wrong (.rule "Provide exactly one of schema or schema_url")

-- The source is chosen only when every field fits.
def fields (most : Int) (ruleId : String) (es : Fit.Entries) : Fit (Fit Request) :=
  (fun markdown inline? address? ruleId enforceOrder allowChildren =>
      (oneSource inline? address?).map fun source =>
        Request.mk markdown source ruleId enforceOrder allowChildren)
    <$> Fit.required ["markdown"] (shortText most) es
    <*> Fit.withDefault ["schema", "schema_definition"] none (Fit.optional dictionary) es
    <*> Fit.withDefault ["schema_url"] none (Fit.optional webAddress) es
    <*> Fit.withDefault ["rule_id"] ruleId Fit.text es
    <*> Fit.withDefault ["enforce_order"] false Fit.truth es
    <*> Fit.withDefault ["allow_children"] false Fit.truth es

-- A request for a document of up to so many characters, with a rule for when none is told.
def fit (most : Int) (ruleId : String) : Value → Fit Request
  | .map es => (fields most ruleId es).andThen id
  | _       => Fit.wrong .object

-- The request that a body makes.
def ofBody (most : Int) (ruleId : String) : Body → Fit Request
  | .empty       => Fit.under (.field "body") (Fit.wrong .missing)
  | .data .null  => Fit.under (.field "body") (Fit.wrong .missing)
  | .data v      => Fit.under (.field "body") (fit most ruleId v)
  | .opaqueBytes => Fit.under (.field "body") (Fit.wrong .object)

end Request
end Outline.Service
