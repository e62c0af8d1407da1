import Outline.Files
import Outline.Schema.Location
import Outline.Web.Fetch

namespace Outline
namespace Schema

-- Is it reported as the fault of the schema? The others break off the run.
def Failure.isReported : Failure → Bool
  | json (.number _)                 => false
  | yaml .malformed                  => true
  | yaml _                           => false
  | refused (.pattern ⟨_, .malformed ..⟩) => true
  | refused (.pattern _)             => false
  | _                                => true

inductive LoadError
  | unreadable (path : String) (e : Files.ReadError)
  | fetch (address : String) (e : Web.FetchError)
  | noAddress (e : Url.Fault)
  | schema (e : Failure)
  deriving DecidableEq, Repr

namespace LoadError

def isReported : LoadError → Bool
  | unreadable _ e           => e.isReported
  | fetch _ (.unaddressed _) => false
  | fetch _ .delayTooLong    => false
  | noAddress _              => false
  | schema e                 => e.isReported
  | _                        => true

def message : LoadError → String
  | unreadable path e =>
    if e.isReported then "Cannot read schema " ++ path ++ ": " ++ e.message else e.message
  | fetch address e   => e.message address
  | noAddress e       => e.message
  | schema e          => e.message

end LoadError

def load (fs : Files) (dropCommas : Bool) (p : Path) : Except LoadError Schema := do
  let s ← (fs.readText p.text).mapError (.unreadable p.text)
  (ofText (.ofFileName p.text) dropCommas s).mapError .schema

-- The schema that a text says which was fetched at an address. Unless the format is told, the
-- address tells it.
def ofFetched (format? : Option String) (dropCommas : Bool) (address : String)
    (text : Except Web.FetchError String) : Except LoadError Schema := do
  let s ← text.mapError (.fetch address)
  match format? with
  | some name => (ofNamed name dropCommas s).mapError .schema
  | none =>
    let format ← (Format.ofAddress address).mapError .noAddress
    (ofText format dropCommas s).mapError .schema

def fetch (send : Web.Send σ) (follows : Bool) (p : Web.Patience Double) (format? : Option String)
    (dropCommas : Bool) (address : String) (s : σ) : Except LoadError Schema × Web.Fetched σ Double :=
  let fetched := Web.fetch send follows p address s
  (ofFetched format? dropCommas address fetched.result, fetched)

end Schema
end Outline
