import Mathlib.Init
import Outline.Web.Fetch

namespace Outline.Web

variable {σ : Type}

-- Requests that were sent, the first one first, each with what came back.
abbrev Log := List (Url × Reply)

-- Sends as before, and writes down what was sent and what came back.
def Send.logged (send : Send σ) : Send (σ × Log) := fun (s, log) u =>
  let (reply, s) := send s u
  (reply, (s, log ++ [(u, reply)]))

namespace Reply

-- What a request comes to that is sent on by nobody.
def outcome (u : Url) : Reply → Outcome
  | failure kind message => .failed (if message = "" then kind else message)
  | response r =>
    match r.location? with
    | none => .answered r.status r.text
    | some location =>
      match Url.read location with
      | .error e => .failed ("Invalid URL in location header: " ++ e.message ++ ".")
      | .ok target =>
        match u.onward target with
        | .error e => .unaddressed e
        | .ok _    => .answered r.status r.text

end Reply

-- A response can be asked for another address, if it names one at all.
def Response.Directs (r : Response) (u : Url) : Prop :=
  ∀ location, r.location? = some location →
    ∃ target next, Url.read location = .ok target ∧ u.onward target = .ok next

theorem Response.Directs.outcome {r : Response} {u : Url} (h : r.Directs u) :
    (Reply.response r).outcome u = .answered r.status r.text := by
  cases hl : r.location?
  case none => simp [Reply.outcome, hl]
  case some location =>
    have ⟨target, next, read, onward⟩ := h location hl
    simp [Reply.outcome, hl, read, onward]

-- Answers that send a request on are final ones, and no success.
theorem Outcome.answered_redirect {n : Nat} (low : 300 ≤ n) (high : n < 400) (body : String) :
    ¬(answered n body).isTransient ∧ (answered n body).result = .error (.status n) := by
  have notFound : n ≠ 404 := by omega
  have failure : ¬n < 300 := by omega
  refine ⟨fun transient => ?_, by simp [result, notFound, failure]⟩
  have mem : n ∈ retryStatuses := by simpa [isTransient] using transient
  simp [retryStatuses] at mem
  omega

theorem get_stays (send : Send σ) (left : Nat) (u : Url) (s : σ) :
    get send false left u s = ((send s u).1.outcome u, (send s u).2) := by
  unfold get Reply.outcome
  cases (send s u).1
  case failure => rfl
  case response r =>
    cases hl : r.location?
    case none => simp [hl]
    case some location =>
      cases hr : Url.read location
      case error => simp [hl, hr]
      case ok target => cases ho : u.onward target <;> simp [hl, hr, ho]

variable {δ : Type} [Delay δ]

-- How attempts go of which so many were made, the last one with this trouble, and so many may be
-- made yet.
inductive Runs (ask : σ → Outcome × σ) (backoff : δ) : Nat → String → Nat → σ → Fetched σ δ → Prop
  | spent {made last s} : Runs ask backoff made last 0 s ⟨[], .error (.exhausted last), s⟩
  | stays {made last left s o s'} (asked : ask s = (o, s')) (h : ¬o.isTransient) :
    Runs ask backoff made last (left + 1) s ⟨[.asked o], o.result, s'⟩
  | last {made last s o s'} (asked : ask s = (o, s')) (h : o.isTransient) :
    Runs ask backoff made last 1 s ⟨[.asked o], .error (.exhausted o.trouble), s'⟩
  | again {made last left s o s' d f} (asked : ask s = (o, s')) (h : o.isTransient)
      (delay : Delay.times? (Nat.pow 2 made) backoff = some d)
      (more : Runs ask backoff (made + 1) o.trouble (left + 1) s' f) :
    Runs ask backoff made last (left + 2) s ⟨.asked o :: .slept d :: f.steps, f.result, f.rest⟩
  | overdue {made last left s o s'} (asked : ask s = (o, s')) (h : o.isTransient)
      (delay : Delay.times? (Nat.pow 2 made) backoff = none) :
    Runs ask backoff made last (left + 2) s ⟨[.asked o], .error .delayTooLong, s'⟩

theorem attempts_runs (ask : σ → Outcome × σ) (backoff : δ) (made : Nat) (last : String) (left : Nat)
    (s : σ) : Runs ask backoff made last left s (attempts ask backoff made last left s) := by
  induction left generalizing made last s
  case zero => exact .spent
  case succ left hi =>
    have asked : ask s = ((ask s).1, (ask s).2) := rfl
    by_cases h : (ask s).1.isTransient
    case neg =>
      simp only [attempts, h, Bool.not_false, if_true]
      exact .stays asked h
    case pos =>
      simp only [attempts, h, Bool.not_true, Bool.false_eq_true, if_false]
      match left with
      | 0 => exact .last asked h
      | left + 1 =>
        rw [if_neg (Nat.succ_ne_zero left)]
        split
        case h_1 delay => exact .again asked h delay (hi ..)
        case h_2 delay => exact .overdue asked h delay

-- Nothing is tried again after an outcome that stays.
theorem Runs.result_of_mem {ask : σ → Outcome × σ} {backoff : δ} {made left : Nat} {last : String} {s : σ}
    {f : Fetched σ δ} {o : Outcome} (h : Runs ask backoff made last left s f) (mem : o ∈ f.outcomes)
    (stays : ¬o.isTransient) : f.result = o.result := by
  induction h
  case spent => contradiction
  case stays =>
    cases List.mem_singleton.mp mem
    rfl
  case last transient | overdue transient _ =>
    cases List.mem_singleton.mp mem
    contradiction
  case again transient _ _ hi =>
    cases List.mem_cons.mp mem
    case inl h => exact absurd (h ▸ transient) stays
    case inr h => exact hi h

-- Where each attempt sends one request to an address, the log has as many requests as there are
-- attempts.
theorem Runs.logged {ask : σ × Log → Outcome × (σ × Log)} {backoff : δ} {made left : Nat} {last : String}
    {s : σ × Log} {f : Fetched (σ × Log) δ} {u : Url}
    (asks : ∀ s, ∃ reply, (ask s).1 = reply.outcome u ∧ (ask s).2.2 = s.2 ++ [(u, reply)])
    (h : Runs ask backoff made last left s f) :
    ∃ replies : List Reply, f.rest.2 = s.2 ++ replies.map (u, ·) ∧
      f.outcomes = replies.map (·.outcome u) := by
  induction h
  case spent => exact ⟨[], by simp, rfl⟩
  case stays s _ _ asked _ | last s _ _ asked _ | overdue s _ _ asked _ _ =>
    obtain ⟨reply, rfl, log⟩ := asked ▸ asks s
    exact ⟨[reply], log, rfl⟩
  case again s _ s' _ _ asked _ _ _ hi =>
    obtain ⟨reply, rfl, log⟩ := asked ▸ asks s
    obtain ⟨replies, rest, outcomes⟩ := hi
    refine ⟨reply :: replies, ?_, congrArg _ outcomes⟩
    rw [rest, show s'.2 = s.2 ++ [(u, reply)] from log, List.append_assoc]
    rfl

-- However servers reply, whatever is asked of them is asked for at the one address.
theorem fetch_logged (send : Send σ) (p : Patience δ) {address : String} {u : Url}
    (h : Url.read address = .ok u) (s : σ) :
    ∃ replies : List Reply,
      (fetch send.logged false p address (s, [])).rest.2 = replies.map (u.request, ·) ∧
      (fetch send.logged false p address (s, [])).outcomes = replies.map (·.outcome u.request) := by
  refine (attempts_runs ..).logged fun s => ⟨(send s.1 u.request).1, ?_⟩
  simp [attempt, h, get_stays, Send.logged]

end Outline.Web
