import Outline.Text.Charset
import Outline.Url
import Outline.Web.MediaType

namespace Outline.Web

structure Response where
  status  : Nat
  headers : List (String × String)
  body    : List UInt8
  deriving DecidableEq, Repr

-- What comes back from one request: a response, or word of a failure on the way.
inductive Reply
  | response (r : Response)
  | failure (kind message : String)
  deriving DecidableEq, Repr

-- How servers are reached: from what is known of them so far, their reply to an address and what is
-- known after it.
abbrev Send (σ : Type) := σ → Url → Reply × σ

-- No server is reached.
def unreachable : Send Unit := fun _ _ => (.failure "ConnectError" "", ())

namespace Response

-- The value of a header; names of headers count without regard to case.
def header? (r : Response) (name : String) : Option String :=
  (r.headers.find? fun h => Text.small h.1 = name).map Prod.snd

-- The body as text, in the encoding that the response tells, or else in UTF-8.
def text (r : Response) : String :=
  let charset? := (r.header? "content-type").bind fun s =>
    (MediaType.ofText s).charset?.bind Text.Charset.ofName?
  (charset?.getD .utf8).decode r.body

-- Statuses that may send a request on.
def redirects (status : Nat) : Bool := [301, 302, 303, 307, 308].contains status

-- Where a response sends the request on to.
def location? (r : Response) : Option String :=
  if redirects r.status then r.header? "location" else none

end Response

-- What a request comes to in the end.
inductive Outcome
  | answered (status : Nat) (body : String)
  | failed (why : String)
  -- There is no address to send the request to.
  | unaddressed (e : Url.Fault)
  deriving DecidableEq, Repr

def redirectLimit : Nat := 5

-- Sends a request, and sends it on as long as `follows` says so, up to `left` times.
def get (send : Send σ) (follows : Bool) (left : Nat) (u : Url) (s : σ) : Outcome × σ :=
  let (reply, s) := send s u
  match reply with
  | .failure kind message => (.failed (if message = "" then kind else message), s)
  | .response r =>
    match r.location? with
    | none => (.answered r.status r.text, s)
    | some location =>
      match Url.read location with
      | .error e => (.failed ("Invalid URL in location header: " ++ e.message ++ "."), s)
      | .ok target =>
        match u.onward target, follows, left with
        | .error e, _, _           => (.unaddressed e, s)
        | .ok _, false, _          => (.answered r.status r.text, s)
        | .ok _, true, 0           => (.failed "Exceeded maximum allowed redirects.", s)
        | .ok next, true, left + 1 => get send follows left next s

end Outline.Web
