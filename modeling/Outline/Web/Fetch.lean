import Outline.Number.Double
import Outline.Web

namespace Outline.Web

-- What a request says of the bodies that are welcome, with preferences.
def acceptedTypes : String := "application/yaml, application/json;q=0.9, text/plain;q=0.8, */*;q=0.5"

-- Statuses of servers that may answer better later.
def retryStatuses : List Nat := [429, 500, 502, 503, 504]

inductive FetchError
  | notFound
  | status (n : Nat)
  | exhausted (last : String)
  | unaddressed (e : Url.Fault)
  -- What the first delay is multiplied by is out of reach.
  | delayTooLong
  deriving DecidableEq, Repr

def FetchError.message (address : String) : FetchError → String
  | notFound       => "Schema not found at " ++ address
  | status n       => s!"HTTP {n} from " ++ address
  | exhausted last => "Failed to fetch " ++ address ++ ": " ++ last
  | unaddressed e  => e.message
  | delayTooLong   => "int too large to convert to float"

namespace Outcome

-- May another attempt come to something else?
def isTransient : Outcome → Bool
  | answered n _  => retryStatuses.contains n
  | failed _      => true
  | unaddressed _ => false

-- What a failed attempt is called.
def trouble : Outcome → String
  | answered n _  => s!"HTTP {n}"
  | failed why    => why
  | unaddressed e => e.message

-- What is fetched by an attempt that is the last one.
def result : Outcome → Except FetchError String
  | answered n body =>
    if n = 404 then .error .notFound
    else if 200 ≤ n && n < 300 then .ok body
    else .error (.status n)
  | failed why      => .error (.exhausted why)
  | unaddressed e   => .error (.unaddressed e)

end Outcome

-- Lengths of time, by which kind of number they are counted.
class Delay (δ : Type) where
  -- So many times a length, unless the number of times is out of reach.
  times? : Nat → δ → Option δ

instance : Delay Double := ⟨Double.times?⟩

structure Patience (δ : Type) where
  -- Attempts after the first one; none at all is made if this is negative.
  retries : Int
  -- The delay after the first attempt.
  backoff : δ
  deriving DecidableEq, Repr

inductive Step (δ : Type)
  | asked (o : Outcome)
  | slept (delay : δ)
  deriving DecidableEq, Repr

namespace Step

variable {δ : Type}

def outcome? : Step δ → Option Outcome
  | asked o => some o
  | slept _ => none

def delay? : Step δ → Option δ
  | asked _ => none
  | slept d => some d

end Step

-- What fetching came to, and all that was done for it in order.
structure Fetched (σ δ : Type) where
  steps  : List (Step δ)
  result : Except FetchError String
  rest   : σ

namespace Fetched

variable {σ δ : Type}

def outcomes (f : Fetched σ δ) : List Outcome := f.steps.filterMap Step.outcome?

def delays (f : Fetched σ δ) : List δ := f.steps.filterMap Step.delay?

end Fetched

variable {σ δ : Type} [Delay δ]

-- Attempts until one is the last. `made` of them were made before, `left` may be made yet, and
-- `last` tells of the one before.
def attempts (attempt : σ → Outcome × σ) (backoff : δ) (made : Nat) (last : String) :
    Nat → σ → Fetched σ δ
  | 0, s => ⟨[], .error (.exhausted last), s⟩
  | left + 1, s =>
    let (o, s) := attempt s
    let after (sleep : List (Step δ)) : Fetched σ δ :=
      let more := attempts attempt backoff (made + 1) o.trouble left s
      { more with steps := .asked o :: sleep ++ more.steps }
    if !o.isTransient then ⟨[.asked o], o.result, s⟩
    else if left = 0 then after []
    else match Delay.times? (Nat.pow 2 made) backoff with
      | some d => after [.slept d]
      | none   => ⟨[.asked o], .error .delayTooLong, s⟩

-- Makes up to `p.retries + 1` attempts.
def retry (attempt : σ → Outcome × σ) (p : Patience δ) (s : σ) : Fetched σ δ :=
  attempts attempt p.backoff 0 "no attempt made" (p.retries + 1).toNat s

-- One attempt at an address.
def attempt (send : Send σ) (follows : Bool) (address : String) (s : σ) : Outcome × σ :=
  match Url.read address with
  | .error e => (.unaddressed e, s)
  | .ok u    => get send follows redirectLimit u.request s

def fetch (send : Send σ) (follows : Bool) (p : Patience δ) (address : String) (s : σ) : Fetched σ δ :=
  retry (attempt send follows address) p s

end Outline.Web
