import Mathlib.Tactic.NormNum
import Outline.Proofs.Number.Exact
import Outline.Proofs.Web.Requests

namespace Outline.Web

variable {σ : Type}

namespace Outcome

-- Another attempt may come to something else: the request failed, or the server was busy.
inductive Transient : Outcome → Prop
  | failed (why : String) : Transient (failed why)
  | answered {status : Nat} (body : String) (h : status ∈ [429, 500, 502, 503, 504]) :
    Transient (answered status body)

theorem transient_iff {o : Outcome} : o.Transient ↔ o.isTransient := by
  constructor
  case mp =>
    intro h
    cases h
    case failed => rfl
    case answered h => simpa [isTransient, retryStatuses] using h
  case mpr =>
    intro h
    cases o
    case failed why => exact .failed why
    case answered body => exact .answered body (by simpa [isTransient, retryStatuses] using h)
    case unaddressed => contradiction

end Outcome

section

variable {ask : σ → Outcome × σ} {s : σ}

-- What is left after asking so many times.
def stateAfter (ask : σ → Outcome × σ) (s : σ) (n : Nat) : σ := (fun s => (ask s).2)^[n] s

-- What comes of asking once more after that.
def script (ask : σ → Outcome × σ) (s : σ) (n : Nat) : Outcome := (ask (stateAfter ask s n)).1

theorem stateAfter_succ (n : Nat) : stateAfter ask s (n + 1) = (ask (stateAfter ask s n)).2 :=
  Function.iterate_succ_apply' ..

-- What the last attempt of so many is called, after one that is called `last`.
def lastTrouble (script : Nat → Outcome) (last : String) : Nat → String
  | 0     => last
  | n + 1 => (script n).trouble

variable {δ : Type}

-- So many attempts, with a sleep after each but the last one.
def course (script : Nat → Outcome) (delay : Nat → δ) : Nat → List (Step δ)
  | 0     => []
  | n + 1 => ((List.range n).flatMap fun i => [.asked (script i), .slept (delay i)]) ++ [.asked (script n)]

theorem outcomes_course (script : Nat → Outcome) (delay : Nat → δ) (n : Nat) :
    (course script delay n).filterMap Step.outcome? = (List.range n).map script := by
  cases n
  case zero   => rfl
  case succ n =>
    rw [course, List.filterMap_append, List.filterMap_flatMap, List.range_succ, List.map_append,
      ← List.flatMap_pure_eq_map]
    rfl

variable [Delay δ] {backoff : δ} {delay : Nat → δ} {made k left : Nat} {last : String}
variable {f : Fetched σ δ}

-- Where so many outcomes lead to another attempt each, the run goes on from the state after them.
theorem Runs.after (h : Runs ask backoff made last left s f) (hk : k < left)
    (before : ∀ i < k, (script ask s i).Transient)
    (reach : ∀ i < k, Delay.times? (Nat.pow 2 (made + i)) backoff = some (delay i)) :
    ∃ g, Runs ask backoff (made + k) (lastTrouble (script ask s) last k) (left - k)
        (stateAfter ask s k) g ∧
      f = ⟨((List.range k).flatMap fun i => [.asked (script ask s i), .slept (delay i)]) ++ g.steps,
        g.result, g.rest⟩ := by
  induction k
  case zero => exact ⟨f, h, rfl⟩
  case succ k hi =>
    obtain ⟨g, more, rfl⟩ := hi (by omega) (fun i h => before i (by omega)) fun i h => reach i (by omega)
    have transient := Outcome.transient_iff.mp <| before k (by omega)
    obtain ⟨rest, hr⟩ : ∃ rest, left - k = rest + 2 := ⟨left - k - 2, by omega⟩
    rw [hr] at more
    cases more
    case stays final asked => exact absurd (by rwa [script, asked] at transient) final
    case overdue delay _ => rw [reach k (by omega)] at delay; contradiction
    case again o s' d f _ delay more asked =>
      obtain rfl := Option.some.inj <| (reach k (by omega)).symm.trans delay
      obtain rfl : script ask s k = o := congrArg Prod.fst asked
      obtain rfl : stateAfter ask s (k + 1) = s' := by rw [stateAfter_succ, asked]
      refine ⟨f, by rwa [show left - (k + 1) = rest + 1 by omega], ?_⟩
      simp [List.range_succ]

-- A run ends with the first outcome that stays.
theorem Runs.quits (h : Runs ask backoff made last left s f) (hk : k < left)
    (before : ∀ i < k, (script ask s i).Transient) (stays : ¬(script ask s k).Transient)
    (reach : ∀ i < k, Delay.times? (Nat.pow 2 (made + i)) backoff = some (delay i)) :
    f = ⟨course (script ask s) delay (k + 1), (script ask s k).result, stateAfter ask s (k + 1)⟩ := by
  obtain ⟨g, more, rfl⟩ := h.after hk before reach
  obtain ⟨rest, hr⟩ : ∃ rest, left - k = rest + 1 := ⟨left - k - 1, by omega⟩
  rw [Outcome.transient_iff, script] at stays
  rw [hr] at more
  cases more
  case stays asked => rw [course, stateAfter_succ, script, asked]
  all_goals exact absurd (by rwa [‹ask _ = _›]) stays

-- It ends with the last attempt that may be made, if no outcome stays.
theorem Runs.exhausts (h : Runs ask backoff made last left s f)
    (all : ∀ i < left, (script ask s i).Transient)
    (reach : ∀ i, i + 1 < left → Delay.times? (Nat.pow 2 (made + i)) backoff = some (delay i)) :
    f = ⟨course (script ask s) delay left,
      .error (.exhausted (lastTrouble (script ask s) last left)), stateAfter ask s left⟩ := by
  cases left
  case zero =>
    cases h
    rfl
  case succ k =>
    obtain ⟨g, more, rfl⟩ := h.after (Nat.lt_succ_self k) (fun i h => all i (by omega))
      fun i h => reach i (by omega)
    have transient := Outcome.transient_iff.mp <| all k (Nat.lt_succ_self k)
    rw [show k + 1 - k = 1 by omega] at more
    cases more
    case stays final asked => exact absurd (by rwa [script, asked] at transient) final
    case last asked => rw [course, stateAfter_succ, lastTrouble, script, asked]

-- It breaks off where the next delay is out of reach.
theorem Runs.overdue_of (h : Runs ask backoff made last left s f) (hk : k + 1 < left)
    (all : ∀ i ≤ k, (script ask s i).Transient)
    (reach : ∀ i < k, Delay.times? (Nat.pow 2 (made + i)) backoff = some (delay i))
    (beyond : Delay.times? (Nat.pow 2 (made + k)) backoff = none) :
    f = ⟨course (script ask s) delay (k + 1), .error .delayTooLong, stateAfter ask s (k + 1)⟩ := by
  obtain ⟨g, more, rfl⟩ := h.after (by omega) (fun i h => all i (by omega)) reach
  have transient := Outcome.transient_iff.mp <| all k le_rfl
  obtain ⟨rest, hr⟩ : ∃ rest, left - k = rest + 2 := ⟨left - k - 2, by omega⟩
  rw [hr] at more
  cases more
  case stays final asked => exact absurd (by rwa [script, asked] at transient) final
  case again delay _ _ => rw [beyond] at delay; contradiction
  case overdue asked => rw [course, stateAfter_succ, script, asked]

end

namespace Log

-- One request to an address, and those that it is sent on with, if it is.
def Asks (follows : Bool) (u : Url) (log : Log) : Prop :=
  ∃ reply onward, log = (u, reply) :: onward ∧ (follows = false → onward = [])

theorem asks_one (follows : Bool) (u : Url) (reply : Reply) : Asks follows u [(u, reply)] :=
  ⟨reply, [], rfl, fun _ => rfl⟩

end Log

theorem get_asks (send : Send σ) (follows : Bool) (left : Nat) (u : Url) (s : σ × Log) :
    ∃ log, (get send.logged follows left u s).2.2 = s.2 ++ log ∧ log.Asks follows u := by
  have written {u : Url} {s s' : σ × Log} {reply : Reply} (h : send.logged s u = (reply, s')) :
      s'.2 = s.2 ++ [(u, reply)] := by
    obtain ⟨rfl, rfl⟩ := Prod.mk.inj h
    rfl
  fun_induction get send.logged follows left u s
  case case7 followed _ sent hi =>
    have ⟨onward, more, _⟩ := hi
    rw [more, written sent, List.append_assoc]
    exact ⟨_, rfl, _, onward, rfl, by simp [followed]⟩
  all_goals exact ⟨_, written ‹_›, Log.asks_one ..⟩

theorem stateAfter_asks {ask : σ × Log → Outcome × (σ × Log)} {follows : Bool} {u : Url}
    (h : ∀ s, ∃ log, (ask s).2.2 = s.2 ++ log ∧ log.Asks follows u) (s : σ × Log) (n : Nat) :
    ∃ logs : List Log, (stateAfter ask s n).2 = s.2 ++ logs.flatten ∧ logs.length = n ∧
      ∀ log ∈ logs, log.Asks follows u := by
  induction n
  case zero => exact ⟨[], by simp [stateAfter], rfl, by simp⟩
  case succ n hi =>
    have ⟨logs, before, length, all⟩ := hi
    have ⟨log, last, asks⟩ := h (stateAfter ask s n)
    refine ⟨logs ++ [log], by simp [stateAfter_succ, last, before], by simp [length], ?_⟩
    exact List.forall_mem_append.mpr ⟨all, List.forall_mem_singleton.mpr asks⟩

namespace Patience

variable {δ : Type}

-- The outcome at `k` is the first that stays, and there are attempts enough to get to it.
structure Quits (p : Patience δ) (script : Nat → Outcome) (k : Nat) : Prop where
  reached : (k : Int) ≤ p.retries
  before  : ∀ i < k, (script i).Transient
  stays   : ¬(script k).Transient

-- No outcome that stays comes of any attempt that may be made.
def Exhausts (p : Patience δ) (script : Nat → Outcome) : Prop :=
  ∀ k : Nat, (k : Int) ≤ p.retries → (script k).Transient

-- There is another attempt after the one at `k`.
structure GoesOn (p : Patience δ) (script : Nat → Outcome) (k : Nat) : Prop where
  room : (k : Int) < p.retries
  all  : ∀ i ≤ k, (script i).Transient

theorem quits_or_exhausts (p : Patience δ) (script : Nat → Outcome) :
    (∃ k, p.Quits script k) ∨ p.Exhausts script := by
  classical
  by_cases h : ∃ k : Nat, (k : Int) ≤ p.retries ∧ ¬(script k).Transient
  case pos =>
    have ⟨reached, stays⟩ := Nat.find_spec h
    refine .inl ⟨Nat.find h, reached, fun i hi => ?_, stays⟩
    by_contra early
    exact Nat.find_min h hi ⟨by omega, early⟩
  case neg => exact .inr fun k reached => by_contra fun stays => h ⟨k, reached, stays⟩

namespace Quits

variable {p : Patience δ} {script : Nat → Outcome} {k l : Nat}

theorem not_exhausts (h : p.Quits script k) : ¬p.Exhausts script := fun all => h.stays (all k h.reached)

theorem unique (h : p.Quits script k) (h' : p.Quits script l) : k = l :=
  le_antisymm (not_lt.mp fun less => h'.stays (h.before l less))
    (not_lt.mp fun less => h.stays (h'.before k less))

end Quits
end Patience

section

variable {δ : Type}

-- Fetching fails with an error of its own, not for want of an address or of a delay.
def Fetched.Fails (f : Fetched σ δ) (address text : String) : Prop :=
  ∃ e, f.result = .error e ∧ (∀ fault, e ≠ .unaddressed fault) ∧ e ≠ .delayTooLong ∧ e.message address = text

theorem Fetched.fails_exhausted {f : Fetched σ δ} {last : String}
    (h : f.result = .error (.exhausted last)) (address : String) :
    f.Fails address ("Failed to fetch " ++ address ++ ": " ++ last) :=
  ⟨_, h, by simp, by simp, rfl⟩

-- Asks for a text as often as it has to, and not more often, and sleeps in between.
structure Persists (follows : Bool) (p : Patience δ) (address : String) (u : Url) (script : Nat → Outcome)
    (delay : Nat → δ) (f : Fetched (σ × Log) δ) : Prop where
  steps : f.steps = course script delay f.outcomes.length
  requests : ∃ logs : List Log, f.rest.2 = logs.flatten ∧ logs.length = f.outcomes.length ∧
    ∀ log ∈ logs, log.Asks follows u
  quits {k : Nat} : p.Quits script k → f.outcomes.length = k + 1
  success {k status : Nat} {body : String} : p.Quits script k → script k = .answered status body →
    200 ≤ status → status < 300 → f.result = .ok body
  notFound {k : Nat} {body : String} : p.Quits script k → script k = .answered 404 body →
    f.Fails address ("Schema not found at " ++ address)
  refused {k status : Nat} {body : String} : p.Quits script k → script k = .answered status body →
    ¬(200 ≤ status ∧ status < 300) → status ≠ 404 → f.Fails address (s!"HTTP {status} from " ++ address)
  exhausts : p.Exhausts script → (f.outcomes.length : Int) = max (p.retries + 1) 0
  unsent : p.retries < 0 → f.Fails address ("Failed to fetch " ++ address ++ ": " ++ "no attempt made")
  exhausted {k : Nat} : p.Exhausts script → k = p.retries →
    f.Fails address ("Failed to fetch " ++ address ++ ": " ++ (script k).trouble)

variable [Delay δ] {p : Patience δ} {delay : Nat → δ}

-- What a retry comes to, by the number of its attempts.
theorem retry_eq (ask : σ → Outcome × σ) (s : σ)
    (reach : ∀ i, p.GoesOn (script ask s) i → Delay.times? (Nat.pow 2 i) p.backoff = some (delay i)) :
    ∃ n result, retry ask p s = ⟨course (script ask s) delay n, result, stateAfter ask s n⟩ ∧
      (∀ k, p.Quits (script ask s) k → n = k + 1 ∧ result = (script ask s k).result) ∧
      (p.Exhausts (script ask s) → n = (p.retries + 1).toNat ∧
        result = .error (.exhausted (lastTrouble (script ask s) "no attempt made" n))) := by
  have runs : Runs ask p.backoff 0 "no attempt made" (p.retries + 1).toNat s (retry ask p s) :=
    attempts_runs ..
  cases p.quits_or_exhausts (script ask s)
  case inl h =>
    obtain ⟨k, h⟩ := h
    have reached := h.reached
    refine ⟨k + 1, (script ask s k).result, ?eq, fun l hl => ?quits, fun all => absurd all h.not_exhausts⟩
    case eq =>
      refine runs.quits (by omega) h.before h.stays fun i hi => ?_
      rw [Nat.zero_add]
      exact reach i ⟨by omega, fun j hj => h.before j (by omega)⟩
    case quits =>
      cases h.unique hl
      exact ⟨rfl, rfl⟩
  case inr h =>
    refine ⟨_, _, ?eq, fun k hk => absurd h hk.not_exhausts, fun _ => ⟨rfl, rfl⟩⟩
    case eq =>
      refine runs.exhausts (fun i hi => h i (by omega)) fun i hi => ?_
      rw [Nat.zero_add]
      exact reach i ⟨by omega, fun j hj => h j (by omega)⟩

theorem attempt_eq {address : String} {u : Url} (send : Send σ) (follows : Bool)
    (h : Url.read address = .ok u) :
    attempt send follows address = get send follows redirectLimit u.request := by
  funext s
  simp [attempt, h]

theorem persists_of_reach (send : Send σ) (follows : Bool) {address : String} {u : Url}
    (h : Url.read address = .ok u) (s : σ)
    (reach : ∀ i, p.GoesOn (script (get send.logged follows redirectLimit u.request) (s, [])) i →
      Delay.times? (Nat.pow 2 i) p.backoff = some (delay i)) :
    Persists follows p address u.request (script (get send.logged follows redirectLimit u.request) (s, []))
      delay (fetch send.logged follows p address (s, [])) := by
  obtain ⟨n, result, run, quits, exhausts⟩ := retry_eq _ _ reach
  obtain ⟨logs, rest, length, asks⟩ :=
    stateAfter_asks (get_asks send follows redirectLimit u.request) (s, []) n
  generalize script (get send.logged follows redirectLimit u.request) (s, []) = script at *
  rw [fetch, attempt_eq _ _ h, run]
  have attempts : (⟨course script delay n, result,
      stateAfter (get send.logged follows redirectLimit u.request) (s, []) n⟩ :
      Fetched (σ × Log) δ).outcomes.length = n := by
    simp [Fetched.outcomes, outcomes_course]
  constructor
  case steps => rw [attempts]
  case requests => exact ⟨logs, rest, by rw [length, attempts], asks⟩
  case quits =>
    intro k hk
    rw [attempts, (quits k hk).left]
  case success =>
    intro k status body hk hs low high
    have notFound : status ≠ 404 := by omega
    simp [(quits k hk).right, hs, Outcome.result, notFound, low, high]
  case notFound =>
    intro k body hk hs
    exact ⟨.notFound, by simp [(quits k hk).right, hs, Outcome.result], by simp, by simp, rfl⟩
  case refused =>
    intro k status body hk hs outside notFound
    refine ⟨.status status, ?_, by simp, by simp, rfl⟩
    simpa [(quits k hk).right, hs, Outcome.result, notFound] using outside
  case exhausts =>
    intro all
    rw [attempts, (exhausts all).left]
    omega
  case unsent =>
    intro negative
    have all : p.Exhausts script := fun k hk => by omega
    obtain ⟨hn, last⟩ := exhausts all
    obtain rfl : n = 0 := by omega
    exact Fetched.fails_exhausted last address
  case exhausted =>
    intro k all hk
    obtain ⟨hn, last⟩ := exhausts all
    obtain rfl : n = k + 1 := by omega
    exact Fetched.fails_exhausted last address

end

-- Fractions are multiplied exactly, and none is out of reach.
instance : Delay ℚ := ⟨fun k d => some (k * d)⟩

-- However servers reply, a text is asked for until an outcome stays, and the delays in between are
-- the first one times the powers of two: for exact delays, and for binary ones as long as
-- neither the power nor the product is beyond the greatest number.
theorem fetch_persists (send : Send σ) (follows : Bool) {address : String} {u : Url}
    (h : Url.read address = .ok u) (s : σ) :
    let script := script (get send.logged follows redirectLimit u.request) (s, [])
    (∀ p : Patience ℚ, Persists follows p address u.request script (fun i => p.backoff * 2 ^ i)
      (fetch send.logged follows p address (s, []))) ∧
    ∀ (p : Patience Double) (v : ℚ), p.backoff.Is v →
      (∀ i, p.GoesOn script i → i < 1024 ∧ |v * 2 ^ i| < 2 ^ 1024) →
      ∃ delay, (∀ i, p.GoesOn script i → (delay i).Is (v * 2 ^ i)) ∧
        Persists follows p address u.request script delay (fetch send.logged follows p address (s, [])) := by
  intro script
  constructor
  case left =>
    intro p
    refine persists_of_reach send follows h s fun i _ => congrArg some ?_
    simp [mul_comm]
  case right =>
    intro p v first range
    have delays : ∀ i, ∃ d, p.GoesOn script i →
        Delay.times? (Nat.pow 2 i) p.backoff = some d ∧ d.Is (v * 2 ^ i) := by
      intro i
      by_cases goesOn : p.GoesOn script i
      case pos =>
        have ⟨few, small⟩ := range i goesOn
        have ⟨d, reached, exact⟩ := first.times? few small
        exact ⟨d, fun _ => ⟨reached, exact⟩⟩
      case neg => exact ⟨p.backoff, fun h => absurd h goesOn⟩
    obtain ⟨delay, hd⟩ := Classical.skolem.mp delays
    exact ⟨delay, fun i hi => (hd i hi).right,
      persists_of_reach send follows h s fun i hi => (hd i hi).left⟩

-- With binary delays there is no attempt after the first 1025, as the power of two that the next
-- delay is made of is beyond the greatest number.
theorem fetch_breaks_off (send : Send σ) (follows : Bool) {p : Patience Double} {address : String} {u : Url}
    (h : Url.read address = .ok u) (s : σ)
    (goesOn : p.GoesOn (script (get send.logged follows redirectLimit u.request) (s, [])) 1024) :
    (fetch send.logged follows p address (s, [])).outcomes =
        (List.range 1025).map (script (get send.logged follows redirectLimit u.request) (s, [])) ∧
      (fetch send.logged follows p address (s, [])).result = .error .delayTooLong := by
  have room := goesOn.room
  have reach : ∀ i < 1024, Delay.times? (Nat.pow 2 (0 + i)) p.backoff =
      some (((Double.ofNat? (Nat.pow 2 i)).map p.backoff.mul).getD p.backoff) := by
    intro i hi
    have ⟨x, power, _⟩ := Double.ofNat?_two_pow hi
    simp only [Nat.zero_add, Delay.times?, Double.times?, power, Option.map_some, Option.getD_some]
  have beyond : Delay.times? (Nat.pow 2 (0 + 1024)) p.backoff = none := by
    simp only [Nat.zero_add, Delay.times?, Double.times?, Double.ofNat?_two_pow_eq_none le_rfl,
      Option.map_none]
  have runs : Runs (attempt send.logged follows address) p.backoff 0 "no attempt made"
    (p.retries + 1).toNat (s, []) (fetch send.logged follows p address (s, [])) := attempts_runs ..
  rw [attempt_eq _ _ h] at runs
  have stops := runs.overdue_of (by omega) goesOn.all reach beyond
  exact ⟨by rw [stops, Fetched.outcomes, outcomes_course], by rw [stops]⟩

-- A server that is busy first, then out of reach, and then answers.
def lateSend : Send Nat := fun
  | 0, _ => (.response ⟨503, [], []⟩, 1)
  | 1, _ => (.failure "ReadTimeout" "", 2)
  | n, _ => (.response ⟨200, [], "late".toUTF8.toList⟩, n + 1)

def lateUrl : Url := ⟨"https", "", "example.com", none, "/schema.yaml", none, none⟩

def lateScript : Nat → Outcome := script (get lateSend.logged false redirectLimit lateUrl.request) (0, [])

theorem lateScript_two : lateScript 2 = .answered 200 "late" := by
  decide +kernel

theorem quits_late {δ : Type} {p : Patience δ} (h : p.retries = 2) : p.Quits lateScript 2 where
  reached := h.ge
  before
    | 0, _ => .answered "" (by decide)
    | 1, _ => .failed "ReadTimeout"
    | i + 2, h => absurd h (by omega)
  stays h := by
    rw [Outcome.transient_iff, lateScript_two] at h
    contradiction

def latePatience : Patience ℚ := ⟨2, 1 / 2⟩

def binaryPatience : Patience Double := ⟨2, .finite false (2 ^ 52) (-53)⟩

theorem fetch_persists_late :
    Url.read "https://example.com/schema.yaml" = .ok lateUrl ∧
      (fetch lateSend.logged false latePatience "https://example.com/schema.yaml" (0, [])).result =
        .ok "late" ∧
      (fetch lateSend.logged false latePatience "https://example.com/schema.yaml" (0, [])).steps =
        [.asked (.answered 503 ""), .slept (1 / 2), .asked (.failed "ReadTimeout"), .slept 1,
          .asked (.answered 200 "late")] ∧
      binaryPatience.backoff.Is (1 / 2) ∧
      (fetch lateSend.logged false binaryPatience "https://example.com/schema.yaml" (0, [])).result =
        .ok "late" := by
  have read : Url.read "https://example.com/schema.yaml" = .ok lateUrl := by rfl
  obtain ⟨exact, binary⟩ := fetch_persists lateSend false read 0
  have half : binaryPatience.backoff.Is (1 / 2) :=
    ⟨by decide, by decide, by decide, by norm_num [Double.signOf]⟩
  obtain ⟨_, _, persists'⟩ := binary binaryPatience (1 / 2) half fun i goesOn => by
    have room : (i : Int) < 2 := goesOn.room
    have small : (2 : ℚ) ≤ 2 ^ 1024 := le_self_pow₀ (by norm_num) (by decide)
    refine ⟨by omega, lt_of_lt_of_le ?_ small⟩
    obtain rfl | rfl : i = 0 ∨ i = 1 := by omega
    all_goals norm_num [abs_of_pos]
  have persists := exact latePatience
  refine ⟨read, ?result, ?steps, half, ?result'⟩
  case result  => exact persists.success (quits_late rfl) lateScript_two (by decide) (by decide)
  case result' => exact persists'.success (quits_late rfl) lateScript_two (by decide) (by decide)
  case steps =>
    rw [persists.steps, persists.quits (quits_late rfl)]
    have busy : lateScript 0 = .answered 503 "" := by decide +kernel
    have lost : lateScript 1 = .failed "ReadTimeout" := by decide +kernel
    simp [course, List.range_succ, latePatience, ← lateScript.eq_1, busy, lost, lateScript_two]

end Outline.Web
