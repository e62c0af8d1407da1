import Mathlib.Init
import Outline.Proofs.Url
import Outline.Proofs.Web.Requests
import Outline.Service

namespace Outline.Service

variable {σ : Type} {hosts : List String} {body : Except BodyError Body} {r : Request} {address : String}

-- A body asks for the schema at an address: the text of its field for that, without blanks at the
-- ends.
inductive Asks (body : Except BodyError Body) : String → Prop
  | intro {entries v s} (data : body = .ok (.data (.map entries)))
      (field : entries.lookup "schema_url" = some v) (text : Fit.text v = .ok s) :
    Asks body (Text.trim s)

-- An address of the web is allowed whose host is one of the hosts, in its own small letters.
structure Allowed (hosts : List String) (address : String) (u : Url) : Prop where
  web  : isWebAddress address
  read : Url.read address = .ok u
  host : ∃ host, u.hostName = .ok host ∧ Text.small host ∈ hosts

-- An address has a host that can be told, and that is none of the hosts, or no host at all.
def Disallowed (hosts : List String) (address : String) : Prop :=
  ∀ u, Url.read address = .ok u → ∃ host, u.hostName = .ok host ∧ Text.small host ∉ hosts

-- The host of an address cannot be told in its own letters.
def Untold (address : String) (e : Url.Fault) : Prop :=
  ∃ u, Url.read address = .ok u ∧ u.hostName = .error e

theorem allows_eq_true (h : allows hosts address = .ok true) :
    ∃ u, Url.read address = .ok u ∧ ∃ host, u.hostName = .ok host ∧ Text.small host ∈ hosts := by
  unfold allows at h
  cases hu : Url.read address
  case error => simp [hu] at h
  case ok u =>
    cases hh : u.hostName
    case error => simp [hu, hh, Except.map] at h
    case ok host => exact ⟨u, rfl, host, hh, by simpa [hu, hh, Except.map] using h⟩

theorem Disallowed.allows (h : Disallowed hosts address) : allows hosts address = .ok false := by
  unfold Service.allows
  cases hu : Url.read address
  case error => rfl
  case ok u =>
    have ⟨host, name, out⟩ := h u hu
    simp [name, out, Except.map]

theorem Untold.allows {e : Url.Fault} (h : Untold address e) : allows hosts address = .error e := by
  have ⟨u, read, untold⟩ := h
  simp [Service.allows, read, untold, Except.map]

theorem webAddress_eq_ok {v : Value} (h : Request.webAddress v = .ok address) :
    isWebAddress address ∧ ∃ s, Fit.text v = .ok s ∧ address = Text.trim s := by
  unfold Request.webAddress at h
  cases hs : Fit.text v
  case bad => simp [hs, Fit.andThen] at h
  case ok s =>
    simp only [hs, Fit.andThen] at h
    split at h
    case isFalse => cases h
    case isTrue web =>
      cases h
      exact ⟨web, s, rfl, rfl⟩

theorem optional_eq_some {α : Type} {f : Value → Fit α} {v : Value} {a : α}
    (h : Fit.optional f v = .ok (some a)) : f v = .ok a := by
  unfold Fit.optional at h
  split at h
  case h_1 => cases h
  case h_2 =>
    obtain ⟨_, fitted, same⟩ := Fit.map_eq_ok_iff.mp h
    cases same
    exact fitted

theorem oneSource_eq_web {inline? : Option (List (String × Value))} {address? : Option String}
    (h : Request.oneSource inline? address? = .ok (.web address)) : address? = some address := by
  unfold Request.oneSource at h
  split at h
  case h_1 => cases h
  case h_2 =>
    cases h
    rfl
  case h_3 => cases h

theorem fit_eq_ok {most : Int} {ruleId : String} {v : Value} (h : Request.fit most ruleId v = .ok r) :
    ∃ es inline? address?, v = .map es ∧
      Fit.withDefault ["schema_url"] none (Fit.optional Request.webAddress) es = .ok address? ∧
      Request.oneSource inline? address? = .ok r.source := by
  unfold Request.fit at h
  split at h
  case h_2 => cases h
  case h_1 es =>
    cases hf : Request.fields most ruleId es
    case bad => simp [hf, Fit.andThen] at h
    case ok fitted =>
      simp only [hf, Fit.andThen, id] at h
      obtain ⟨_, _, h₅, -, rfl⟩ := Fit.ap_eq_ok_iff.mp hf
      obtain ⟨_, _, h₄, -, rfl⟩ := Fit.ap_eq_ok_iff.mp h₅
      obtain ⟨_, _, h₃, -, rfl⟩ := Fit.ap_eq_ok_iff.mp h₄
      obtain ⟨_, address?, h₂, address, rfl⟩ := Fit.ap_eq_ok_iff.mp h₃
      obtain ⟨_, inline?, h₁, -, rfl⟩ := Fit.ap_eq_ok_iff.mp h₂
      obtain ⟨_, -, rfl⟩ := Fit.map_eq_ok_iff.mp h₁
      obtain ⟨source, chosen, made⟩ := Fit.map_eq_ok_iff.mp h
      exact ⟨es, inline?, address?, rfl, address, made ▸ chosen⟩

theorem asks_of_ofBody {most : Int} {ruleId : String} {b : Body}
    (h : Request.ofBody most ruleId b = .ok r) (web : r.source = .web address) :
    Asks (.ok b) address ∧ isWebAddress address := by
  unfold Request.ofBody at h
  split at h
  case h_1 | h_2 | h_4 => cases h
  case h_3 v _ =>
    obtain ⟨es, inline?, address?, rfl, field, source⟩ := fit_eq_ok <| Fit.under_eq_ok_iff.mp h
    cases oneSource_eq_web <| web ▸ source
    obtain ⟨-, h⟩ | ⟨v, lookup, fitted⟩ := Fit.withDefault_eq_ok_iff.mp field
    case inl => contradiction
    case inr =>
      have ⟨isWeb, s, text, trimmed⟩ := webAddress_eq_ok (optional_eq_some fitted)
      exact ⟨trimmed ▸ .intro rfl lookup text, isWeb⟩

theorem respond_post (send : Web.Send σ) (general : Outline.Settings) (own : Settings)
    (body : Except BodyError Body) (s : σ) :
    respond send general own "POST" "/api/validate" body s = answerBody send general own body s := by
  have place : placeOf "/api/validate" = "/api/validate" := by decide +kernel
  have method : Text.capital "POST" = "POST" := by decide +kernel
  unfold respond
  rw [place, method]
  rfl

-- A body is answered with what is fetched at an address: what is asked of servers, what they reply,
-- and what the answer is if they send the request on.
structure Fetches (hosts : List String) (body : Except BodyError Body) (answer : Answer)
    (fetched : Web.Fetched (σ × Web.Log) Double) (address : String) (u : Url) (replies : List Web.Reply) :
    Prop where
  asks     : Asks body address
  allowed  : Allowed hosts address u
  request  : u.host ≠ "" → u.request = u
  sent     : fetched.rest.2 = replies.map (u.request, ·)
  attempts : fetched.outcomes = replies.map (·.outcome u.request)
  directed : ∀ r, .response r ∈ replies → 300 ≤ r.status → r.status < 400 → r.Directs u.request →
    answer = .refused (.schema (.fetch address (.status r.status))) ∧ answer.status = 502
  stranded : ∀ reply ∈ replies, ∀ e, reply.outcome u.request = .unaddressed e →
    answer = .aborted (.schema (.fetch address (.unaddressed e)))

-- Nothing is asked of servers but for a schema at an allowed address: what is handled leaves them and
-- the log as they were, or as fetching did.
structure Guards (hosts : List String) (body : Except BodyError Body)
    (request : Except BodyError (Fit Request)) (answer : Answer)
    (fetched? : Option (Web.Fetched (σ × Web.Log) Double)) (s rest : σ × Web.Log) : Prop where
  fetches : ∀ fetched ∈ fetched?, ∃ address u replies,
    Fetches hosts body answer fetched address u replies
  left    : ∀ fetched ∈ fetched?, rest = fetched.rest
  kept    : fetched? = none → rest = s
  closed  : hosts = [] → fetched? = none
  inline  : ∀ r entries, request = .ok (.ok r) → r.source = .inline entries → fetched? = none
  refused : ∀ r address, request = .ok (.ok r) → r.source = .web address → Disallowed hosts address →
    answer = .refused .hostNotAllowed ∧ answer.status = 400 ∧ fetched? = none
  untold  : ∀ r address e, request = .ok (.ok r) → r.source = .web address → Untold address e →
    answer = .aborted (.schema (.noAddress e)) ∧ fetched? = none

theorem Guards.of_none {request : Except BodyError (Fit Request)} {answer : Answer} {s : σ × Web.Log}
    (refused : ∀ r address, request = .ok (.ok r) → r.source = .web address →
      Disallowed hosts address → answer = .refused .hostNotAllowed)
    (untold : ∀ r address e, request = .ok (.ok r) → r.source = .web address → Untold address e →
      answer = .aborted (.schema (.noAddress e))) :
    Guards hosts body request answer none s s where
  fetches := by simp
  left    := by simp
  kept    := fun _ => rfl
  closed  := fun _ => rfl
  inline  := fun _ _ _ _ => rfl
  refused := fun r address fits web out =>
    have answer := refused r address fits web out
    ⟨answer, congrArg Answer.status answer, rfl⟩
  untold  := fun r address e fits web h => ⟨untold r address e fits web h, rfl⟩

-- An outcome that stays decides the answer.
theorem check_fetch {replies : List Web.Reply} {u : Url} {reply : Web.Reply} {e : Web.FetchError}
    {ask : σ × Web.Log → Web.Outcome × (σ × Web.Log)} {backoff : Double} {made left : Nat} {last : String}
    {s : σ × Web.Log} {fetched : Web.Fetched (σ × Web.Log) Double} (r : Request) (address : String)
    (runs : Web.Runs ask backoff made last left s fetched)
    (attempts : fetched.outcomes = replies.map (·.outcome u)) (mem : reply ∈ replies)
    (stays : ¬(reply.outcome u).isTransient) (fails : (reply.outcome u).result = .error e) :
    check r (Schema.ofFetched none true address fetched.result) =
      if Schema.LoadError.isReported (.fetch address e) then .refused (.schema (.fetch address e))
      else .aborted (.schema (.fetch address e)) := by
  have result := runs.result_of_mem (attempts ▸ List.mem_map_of_mem mem) stays
  rw [result, fails]
  rfl

theorem fetch_fetches (send : Web.Send σ) (p : Web.Patience Double) (r : Request) {u : Url}
    (asks : Asks body address) (allowed : Allowed hosts address u) (s : σ) :
    ∃ replies, Fetches hosts body
      (check r (Schema.fetch send.logged false p none true address (s, [])).1)
      (Schema.fetch send.logged false p none true address (s, [])).2 address u replies := by
  have ⟨replies, sent, attempts⟩ := Web.fetch_logged send p allowed.read s
  have runs := Web.attempts_runs (Web.attempt send.logged false address) p.backoff 0
    "no attempt made" (p.retries + 1).toNat (s, [])
  refine ⟨replies, asks, allowed, Url.request_eq allowed.web allowed.read, sent, attempts, ?_, ?_⟩
  case refine_1 =>
    intro response mem low high directs
    have ⟨stays, fails⟩ := Web.Outcome.answered_redirect low high response.text
    rw [← directs.outcome] at stays fails
    have answer := check_fetch r address runs attempts mem stays fails
    exact ⟨answer, congrArg Answer.status answer⟩
  case refine_2 =>
    intro reply mem e stranded
    refine check_fetch r address runs attempts mem (e := .unaddressed e) ?_ ?_
    case refine_1 => simp [stranded, Web.Outcome.isTransient]
    case refine_2 => rw [stranded, Web.Outcome.result]

theorem Guards.of_fetches {answer : Answer} {fetched : Web.Fetched (σ × Web.Log) Double} {u : Url}
    {replies : List Web.Reply} (web : r.source = .web address)
    (h : Fetches hosts body answer fetched address u replies) (s : σ × Web.Log) :
    Guards hosts body (.ok (.ok r)) answer (some fetched) s fetched.rest where
  fetches := by
    rintro _ ⟨⟩
    exact ⟨address, u, replies, h⟩
  left    := by
    rintro _ ⟨⟩
    rfl
  kept    := nofun
  closed  := by
    rintro rfl
    have ⟨_, _, mem⟩ := h.allowed.host
    exact absurd mem List.not_mem_nil
  inline  := by
    rintro _ entries ⟨⟩ inline
    cases web.symm.trans inline
  refused := by
    rintro _ address' ⟨⟩ web' out
    cases web.symm.trans web'
    have ⟨host, name, mem⟩ := h.allowed.host
    have ⟨host', name', notMem⟩ := out u h.allowed.read
    cases name.symm.trans name'
    exact absurd mem notMem
  untold  := by
    rintro _ address' e ⟨⟩ web' ⟨u', read, untold⟩
    cases web.symm.trans web'
    cases h.allowed.read.symm.trans read
    have ⟨host, name, _⟩ := h.allowed.host
    cases name.symm.trans untold

theorem validate_guards (send : Web.Send σ) (p : Web.Patience Double)
    (asks : ∀ address, r.source = .web address → Asks body address ∧ isWebAddress address) (s : σ) :
    Guards hosts body (.ok (.ok r)) (validate send.logged p hosts r (s, [])).answer
      (validate send.logged p hosts r (s, [])).fetched? (s, [])
      (validate send.logged p hosts r (s, [])).rest := by
  unfold validate
  cases source : r.source
  case inline entries =>
    refine .of_none ?_ ?_
    case refine_1 =>
      rintro _ address ⟨⟩ web
      cases source.symm.trans web
    case refine_2 =>
      rintro _ address e ⟨⟩ web
      cases source.symm.trans web
  case web address =>
    dsimp only
    cases h : allows hosts address
    case ok isAllowed =>
      cases isAllowed
      case true =>
        have ⟨asks, isWeb⟩ := asks address source
        have ⟨u, read, host⟩ := allows_eq_true h
        have ⟨replies, fetches⟩ := fetch_fetches send p r asks ⟨isWeb, read, host⟩ s
        exact .of_fetches source fetches (s, [])
      case false =>
        refine .of_none (fun _ _ _ _ _ => rfl) ?_
        rintro _ address' e ⟨⟩ web untold
        cases source.symm.trans web
        cases h.symm.trans untold.allows
    case error e =>
      refine .of_none ?_ ?_
      case refine_1 =>
        rintro _ address' ⟨⟩ web out
        cases source.symm.trans web
        cases h.symm.trans out.allows
      case refine_2 =>
        rintro _ address' e' ⟨⟩ web untold
        cases source.symm.trans web
        cases h.symm.trans untold.allows
        rfl

theorem respond_guards (send : Web.Send σ) (general : Outline.Settings) (own : Settings)
    (body : Except BodyError Body) (s : σ) :
    Guards own.allowlist body (body.map (Request.ofBody own.characterLimit general.ruleId))
      (respond send.logged general own "POST" "/api/validate" body (s, [])).answer
      (respond send.logged general own "POST" "/api/validate" body (s, [])).fetched? (s, [])
      (respond send.logged general own "POST" "/api/validate" body (s, [])).rest := by
  rw [respond_post]
  unfold answerBody
  cases body
  case error e => cases e <;> exact .of_none nofun nofun
  case ok b =>
    dsimp only [Except.map]
    cases h : Request.ofBody own.characterLimit general.ruleId b
    case bad  => exact .of_none nofun nofun
    case ok r => exact validate_guards send general.patience (fun _ => asks_of_ofBody h) s

-- A server that sends a request on to where none can be sent breaks off the handling of it.
theorem respond_stranded :
    (respond (fun _ _ => (.response ⟨302, [("location", "mailto:a")], []⟩, ())) .default
      { Settings.default with allowlist := ["example.com"] } "POST" "/api/validate"
      (.ok (.data (.map [("markdown", .text "# A\n"),
        ("schema_url", .text "https://example.com/s.yaml")]))) ()).answer.status = 500 := by
  decide +kernel

end Outline.Service
