import Outline.Check.Checker
import Outline.Document
import Outline.Schema.Load
import Outline.Service.Request
import Outline.Service.Settings

namespace Outline.Service

inductive Refusal
  | hostNotAllowed
  | schema (e : Schema.LoadError)
  | document (e : Document.Error)
  deriving DecidableEq, Repr

def Refusal.message : Refusal → String
  | hostNotAllowed => "schema_url host is not allowed"
  | schema e       => e.message
  | document e     => e.message

inductive Answer
  | healthy
  | checked (sections : Nat) (diagnostics : List Diagnostic)
  | refused (r : Refusal)
  | misfit (issues : List Issue)
  | unreadable
  | notFound
  | wrongMethod
  -- Breaks off for a reason that nothing is answered to.
  | aborted (r : Refusal)
  deriving DecidableEq, Repr

namespace Answer

def status : Answer → Nat
  | healthy                       => 200
  | checked ..                    => 200
  | refused (.schema (.fetch ..)) => 502
  | refused _                     => 400
  | misfit _                      => 422
  | unreadable                    => 400
  | notFound                      => 404
  | wrongMethod                   => 405
  | aborted _                     => 500

private def detail (v : Value) : Value := .map [("detail", v)]

-- What is sent back.
def data : Answer → Value
  | healthy => .map [("status", .text "ok")]
  | checked sections diagnostics =>
    .map [("ok", .bool diagnostics.isEmpty), ("sections", .int sections),
          ("diagnostics", .list (diagnostics.map Diagnostic.data))]
  | refused r     => .map [("error", .text r.message)]
  | misfit issues => detail (.list (issues.map Issue.data))
  | unreadable    => detail (.text "There was an error parsing the body")
  | notFound      => detail (.text "Not Found")
  | wrongMethod   => detail (.text "Method Not Allowed")
  | aborted _     => .text "Internal Server Error"

end Answer

-- May schemas be fetched from the host of an address? There is no saying so if the host cannot be
-- told in its own letters.
def allows (allowlist : List String) (address : String) : Except Url.Fault Bool :=
  match Url.read address with
  | .ok u    => u.hostName.map fun host => allowlist.contains (Text.small host)
  | .error _ => .ok false

-- A schema that is sent along.
def ownSchema (es : List (String × Value)) : Except Schema.LoadError Schema :=
  (Schema.ofValue true (.map es)).mapError fun r => .schema (.refused r)

-- The answer to a document, once there is a schema or a reason why there is none.
def check (r : Request) (schema : Except Schema.LoadError Schema) : Answer :=
  let o : Options := ⟨r.ruleId, r.enforceOrder, r.allowChildren, none⟩
  match schema with
  | .error e => if e.isReported then .refused (.schema e) else .aborted (.schema e)
  | .ok s =>
    match Checker.ofSchema s o, Document.nodes .markdown r.markdown with
    | .error e, _     =>
      let e : Schema.LoadError := .schema (.refused (.pattern e))
      if e.isReported then .refused (.schema e) else .aborted (.schema e)
    | .ok _, .error e => .refused (.document e)
    | .ok c, .ok ns   =>
      let forest := Section.forest ns
      .checked forest.length (c.diagnostics forest)

variable {σ : Type}

-- What comes of a request: its answer, how a schema was fetched for it if one was, and the state that
-- servers are left in.
structure Handled (σ : Type) where
  answer   : Answer
  fetched? : Option (Web.Fetched σ Double)
  rest     : σ

-- No server is asked for anything.
def Handled.offline (answer : Answer) (s : σ) : Handled σ := ⟨answer, none, s⟩

-- The answer to a request that fits.
def validate (send : Web.Send σ) (p : Web.Patience Double) (allowlist : List String) (r : Request) (s : σ) :
    Handled σ :=
  match r.source with
  | .inline es   => .offline (check r (ownSchema es)) s
  | .web address =>
    match allows allowlist address with
    | .ok true  =>
      let (schema, fetched) := Schema.fetch send false p none true address s
      ⟨check r schema, some fetched, fetched.rest⟩
    | .ok false => .offline (.refused .hostNotAllowed) s
    | .error e  => .offline (.aborted (.schema (.noAddress e))) s

def answerBody (send : Web.Send σ) (general : Outline.Settings) (own : Settings)
    (body : Except BodyError Body) (s : σ) : Handled σ :=
  match body with
  | .error (.malformed _ position ..) =>
    .offline (.misfit [⟨[.field "body", .item position], .json⟩]) s
  | .error (.number _) => .offline .unreadable s
  | .ok body =>
    match Request.ofBody own.characterLimit general.ruleId body with
    | .bad issues => .offline (.misfit issues) s
    | .ok r       => validate send general.patience own.allowlist r s

-- A slash at the end sends the sender on to the place without it.
def placeOf (path : String) : String :=
  let cs := path.toList.takeWhile fun c => c ≠ '?' && c ≠ '#'
  let trimmed := (cs.reverse.dropWhile (· = '/')).reverse
  String.ofList (if trimmed.isEmpty then cs else trimmed)

def respond (send : Web.Send σ) (general : Outline.Settings) (own : Settings)
    (method path : String) (body : Except BodyError Body) (s : σ) : Handled σ :=
  match placeOf path, Text.capital method with
  | "/api/validate", "POST" => answerBody send general own body s
  | "/api/validate", _      => .offline .wrongMethod s
  | "/health", "GET"        => .offline .healthy s
  | "/health", _            => .offline .wrongMethod s
  | _, _                    => .offline .notFound s

end Outline.Service
