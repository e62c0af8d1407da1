import Mathlib.Data.List.Lex
import Outline.Proofs.Check.Listing
import Outline.Proofs.Schema.Ready

namespace Outline

namespace Pattern

variable {p : String} {f : PatternError}

-- What is wrong with a text that is no pattern.
def fault? (p : String) : Option PatternError :=
  match read p with
  | .ok _    => none
  | .error e => some ⟨p, e⟩

theorem fault?_eq_some_iff : fault? p = some f ↔ p = f.pattern ∧ read f.pattern = .error f.error := by
  obtain ⟨q, e⟩ := f
  constructor
  case mp =>
    intro h
    unfold fault? at h
    split at h
    case h_1    => contradiction
    case h_2 he =>
      obtain ⟨rfl, rfl⟩ := h
      exact ⟨rfl, he⟩
  case mpr =>
    rintro ⟨rfl, he⟩
    simp only [fault?, he]

-- The search for a pattern in a text, which breaks off if the pattern cannot be read.
def find (p text : String) : Except PatternError Bool :=
  match read p with
  | .ok q    => .ok <| q.search text
  | .error e => .error ⟨p, e⟩

theorem find_eq_ok (h : fault? p = none) (text : String) : find p text = .ok (isFound p text) := by
  cases hp : read p
  case ok    => simp only [find, isFound, hp]
  case error => simp [fault?, hp] at h

end Pattern

namespace Schema

-- The entry at a place: the index of the entry of the top level that it belongs to, and so on down
-- to its own index. In the lexicographic order of places an entry comes before those below it, and
-- all of these before the next entry of its level.
inductive At : List Entry → List Nat → Entry → Prop
  | here {es x} {i : Nat} (h : es[i]? = some x) : At es [i] x
  | inside {es e x path} {i : Nat} (h : es[i]? = some e) (inner : At e.inner path x) : At es (i :: path) x

-- The entry has a pattern that cannot be read.
structure Entry.Fails (x : Entry) (e : PatternError) : Prop where
  isPattern : x.titlePattern? = some e.pattern
  stops     : Pattern.read e.pattern = .error e.error

-- The first entry that fails, at whatever level.
def FirstFault (es : List Entry) (e : PatternError) : Prop :=
  ∃ path x, At es path x ∧ x.Fails e ∧ ∀ path' x', At es path' x' → path' < path → ∀ e', ¬x'.Fails e'

def Entry.fault? (x : Entry) : Option PatternError := x.titlePattern?.bind Pattern.fault?

def fault? (es : List Entry) : Option PatternError := (patterns es).findSome? Pattern.fault?

variable {es : List Entry} {e x x' : Entry} {path : List Nat} {f f' : PatternError}

theorem Entry.Fails.unique (h : x.Fails f) (h' : x.Fails f') : f = f' := by
  obtain ⟨p, e⟩ := f
  obtain ⟨p', e'⟩ := f'
  obtain rfl : p = p' := Option.some.inj <| h.isPattern.symm.trans h'.isPattern
  obtain rfl : e = e' := Except.error.inj <| h.stops.symm.trans h'.stops
  rfl

theorem Entry.fault?_eq_some_iff : x.fault? = some f ↔ x.Fails f := by
  simp only [fault?, Option.bind_eq_some_iff, Pattern.fault?_eq_some_iff]
  constructor
  case mp  => exact fun ⟨_, hp, rfl, he⟩ => ⟨hp, he⟩
  case mpr => exact fun ⟨hp, he⟩ => ⟨_, hp, rfl, he⟩

theorem Entry.fault?_eq_none_iff : x.fault? = none ↔ ∀ f, ¬x.Fails f := by
  simp [← fault?_eq_some_iff, Option.eq_none_iff_forall_ne_some]

theorem fault?_cons : fault? (e :: es) = (e.fault?.or (fault? e.inner)).or (fault? es) := by
  rw [fault?, patterns_cons, List.findSome?_append, List.findSome?_append]
  cases h : e.titlePattern? <;> simp [Entry.fault?, h, fault?]

namespace At

theorem ne_nil (h : At es path x) : path ≠ [] := by
  cases h <;> simp

theorem unique (h : At es path x) (h' : At es path x') : x = x' := by
  induction h
  case here h =>
    cases h'
    case here h'      => exact Option.some.inj <| h.symm.trans h'
    case inside inner => exact absurd rfl inner.ne_nil
  case inside h inner hi =>
    cases h'
    case here => exact absurd rfl inner.ne_nil
    case inside h' inner' =>
      obtain rfl := Option.some.inj <| h.symm.trans h'
      exact hi inner'

theorem not_nil : ¬At [] path x := by
  rintro (⟨h⟩ | ⟨h, _⟩) <;> simp at h

theorem cons_iff : At (e :: es) path x ↔ (path = [0] ∧ x = e) ∨
    (∃ rest, path = 0 :: rest ∧ At e.inner rest x) ∨
    ∃ i rest, path = (i + 1) :: rest ∧ At es (i :: rest) x := by
  constructor
  case mp =>
    rintro (⟨h⟩ | ⟨h, inner⟩)
    case here i =>
      cases i
      case zero   => exact .inl ⟨rfl, by simpa using h.symm⟩
      case succ i => exact .inr <| .inr ⟨i, [], rfl, .here h⟩
    case inside e' path i =>
      cases i
      case zero =>
        obtain rfl : e = e' := by simpa using h
        exact .inr <| .inl ⟨path, rfl, inner⟩
      case succ i => exact .inr <| .inr ⟨i, path, rfl, .inside h inner⟩
  case mpr =>
    rintro (⟨rfl, rfl⟩ | ⟨rest, rfl, inner⟩ | ⟨i, rest, rfl, after⟩)
    · exact .here rfl
    · exact .inside rfl inner
    · cases after
      case here h        => exact .here h
      case inside h inner => exact .inside h inner

end At

-- Of the entries of a list, the first one comes before those below it, and those before the rest.
theorem At.forall_cons {P : List Nat → Entry → Prop} : (∀ path x, At (e :: es) path x → P path x) ↔
    P [0] e ∧ (∀ path x, At e.inner path x → P (0 :: path) x) ∧
      ∀ i path x, At es (i :: path) x → P ((i + 1) :: path) x := by
  constructor
  case mp =>
    intro h
    exact ⟨h _ _ (.here rfl), fun _ _ inner => h _ _ (.inside rfl inner),
      fun i path x after => h _ _ <| cons_iff.mpr <| .inr <| .inr ⟨i, path, rfl, after⟩⟩
  case mpr =>
    intro ⟨own, inner, after⟩ path x h
    rcases cons_iff.mp h with ⟨rfl, rfl⟩ | ⟨_, rfl, hi⟩ | ⟨_, _, rfl, ha⟩
    · exact own
    · exact inner _ _ hi
    · exact after _ _ _ ha

theorem At.forall_iff {P : List Nat → Entry → Prop} : (∀ path x, At es path x → P path x) ↔
    ∀ i path x, At es (i :: path) x → P (i :: path) x := by
  constructor
  case mp => exact fun h i path x => h (i :: path) x
  case mpr =>
    intro h path x hx
    cases path
    case nil  => exact absurd rfl hx.ne_nil
    case cons => exact h _ _ _ hx

theorem fault?_eq_none_iff : fault? es = none ↔ ∀ path x, At es path x → ∀ f, ¬x.Fails f := by
  induction es using entries_induction
  case nil => simp [fault?, patterns, At.not_nil]
  case cons e es inner rest =>
    rw [fault?_cons, Option.or_eq_none_iff, Option.or_eq_none_iff, Entry.fault?_eq_none_iff, inner,
      rest.trans At.forall_iff, At.forall_cons, and_assoc]

namespace FirstFault

theorem own (h : e.Fails f) : FirstFault (e :: es) f :=
  ⟨[0], e, .here rfl, h, At.forall_cons.mpr ⟨fun hp => absurd hp <| lt_irrefl _,
    fun _ _ _ hp => by simp at hp, fun _ _ _ _ hp => by simp [List.cons_lt_cons_iff] at hp⟩⟩

theorem inner (own : ∀ f, ¬e.Fails f) (h : FirstFault e.inner f) : FirstFault (e :: es) f := by
  have ⟨path, x, place, fails, first⟩ := h
  refine ⟨0 :: path, x, .inside rfl place, fails, At.forall_cons.mpr ⟨fun _ => own, ?_, ?_⟩⟩
  case refine_1 => exact fun path' x' place' hp => first path' x' place' <| by simpa using hp
  case refine_2 => exact fun _ _ _ _ hp => by simp [List.cons_lt_cons_iff] at hp

theorem after (own : ∀ f, ¬e.Fails f) (inner : ∀ path x, At e.inner path x → ∀ f, ¬x.Fails f)
    (h : FirstFault es f) : FirstFault (e :: es) f := by
  have ⟨path, x, place, fails, first⟩ := h
  cases path
  case nil => exact absurd rfl place.ne_nil
  case cons i path =>
    refine ⟨(i + 1) :: path, x, At.cons_iff.mpr <| .inr <| .inr ⟨i, path, rfl, place⟩, fails, ?_⟩
    refine At.forall_cons.mpr ⟨fun _ => own, fun path' x' place' _ => inner path' x' place', ?_⟩
    intro i' path' x' place' hp
    exact first (i' :: path') x' place' <| by simpa [List.cons_lt_cons_iff] using hp

theorem unique (h : FirstFault es f) (h' : FirstFault es f') : f = f' := by
  have ⟨path, x, place, fails, first⟩ := h
  have ⟨path', x', place', fails', first'⟩ := h'
  rcases lt_trichotomy path path' with hp | rfl | hp
  · exact absurd fails <| first' _ _ place hp _
  · obtain rfl := place.unique place'
    exact fails.unique fails'
  · exact absurd fails' <| first _ _ place' hp _

end FirstFault

theorem firstFault_of_fault? (h : fault? es = some f) : FirstFault es f := by
  induction es using entries_induction generalizing f
  case nil => simp [fault?, patterns] at h
  case cons e es inner rest =>
    rw [fault?_cons, Option.or_eq_some_iff, Option.or_eq_some_iff] at h
    rcases h with (own | ⟨own, below⟩) | ⟨hn, after⟩
    · exact .own <| Entry.fault?_eq_some_iff.mp own
    · exact .inner (Entry.fault?_eq_none_iff.mp own) (inner below)
    · obtain ⟨own, below⟩ := Option.or_eq_none_iff.mp hn
      exact .after (Entry.fault?_eq_none_iff.mp own) (fault?_eq_none_iff.mp below) (rest after)

theorem fault?_eq_some_iff : fault? es = some f ↔ FirstFault es f := by
  constructor
  case mp => exact firstFault_of_fault?
  case mpr =>
    intro h
    cases hf : fault? es
    case some => rw [h.unique <| firstFault_of_fault? hf]
    case none =>
      have ⟨path, x, place, fails, _⟩ := h
      exact absurd fails <| fault?_eq_none_iff.mp hf path x place f

end Schema

namespace Check

open Schema (Entry)

variable {ε : Type}

-- A search for a pattern that may break off.
abbrev Search (ε : Type) := String → String → Except ε Bool

def tryAccepts (search : Search ε) (e : Entry) (title : String) : Except ε Bool :=
  match e.titlePattern?.filter (· ≠ ""), e.title?.filter (· ≠ "") with
  | some pattern, _             => search pattern title
  | none,         some expected => .ok <| title = expected
  | none,         none          => .ok false

mutual

-- The check of a level where every search may break it off.
def attempt (search : Search ε) (c : Context) : List Entry → List Section → Except ε (List Event)
  | [], _ => .ok []
  | e :: es, ss =>
    match ss with
    | [] => return onMiss c e none ++ (← attempt search c es [])
    | s :: rest => do
      if ← tryAccepts search e s.title then
        return onMatch c e s ++ (← attemptBelow search c e s.children) ++ (← attempt search c es rest)
      else return onMiss c e (some s) ++ (← attempt search c es (s :: rest))

def attemptBelow (search : Search ε) (c : Context) : Entry → List Section → Except ε (List Event)
  | e@⟨_, _, _, _, _, _, children?, _⟩, ss => attemptAll search (c.descend e) children? ss

def attemptAll (search : Search ε) (c : Context) :
    Option (List Entry) → List Section → Except ε (List Event)
  | some es, ss => attempt search c es ss
  | none,    _  => .ok []

end

variable {search : Search ε} {found : Found} {c : Context} {e : Entry} {es : List Entry}
variable {s : Section} {ss : List Section}

theorem attemptBelow_eq :
    attemptBelow search c e ss = attempt search (c.descend e) e.inner ss := by
  obtain ⟨_, _, _, _, _, _, _ | below, _⟩ := e <;> simp [attemptBelow, attemptAll, attempt, Entry.inner]

-- The search finds what is found of each of the patterns.
def Finds (search : Search ε) (found : Found) (ps : List String) : Prop :=
  ∀ p ∈ ps, ∀ title, search p title = .ok (found p title)

namespace Finds

variable {ps qs : List String}

theorem append_iff : Finds search found (ps ++ qs) ↔ Finds search found ps ∧ Finds search found qs :=
  List.forall_mem_append

end Finds

theorem tryAccepts_eq_ok {title : String} (h : Finds search found e.titlePattern?.toList) :
    tryAccepts search e title = .ok (e.accepts found title) := by
  rw [tryAccepts, Entry.accepts]
  cases hp : e.titlePattern?.filter (· ≠ "")
  case some p =>
    obtain ⟨hp, -⟩ := Option.filter_eq_some_iff.mp hp
    exact h p (by simp [hp]) title
  case none => cases e.title?.filter (· ≠ "") <;> rfl

-- A check that no search breaks off says what there is to say.
theorem attempt_eq_ok (h : Finds search found (Schema.patterns es)) :
    attempt search c es ss = .ok (level found c es ss) := by
  induction es using Schema.entries_induction generalizing c ss
  case nil => simp [attempt, level]
  case cons e es inner rest =>
    rw [Schema.patterns_cons, Finds.append_iff, Finds.append_iff] at h
    obtain ⟨⟨own, below⟩, after⟩ := h
    cases ss
    case nil => rw [attempt, level, rest after]; rfl
    case cons s ss =>
      rw [attempt, level, tryAccepts_eq_ok own, attemptBelow_eq, inner below, rest after, rest after,
        below_eq]
      cases e.accepts found s.title <;> rfl

-- With a search that never breaks off it is the check itself.
theorem attempt_total (found : Found) (c : Context) (es : List Entry) (ss : List Section) :
    attempt (fun p title => (.ok (found p title) : Except ε Bool)) c es ss = .ok (level found c es ss) :=
  attempt_eq_ok fun _ _ _ => rfl

end Check

namespace Checker

variable {t : Schema} {o : Options} {f : PatternError} {c : Checker}

-- What is said of a forest if a pattern that cannot be read breaks the check off.
def attempt (c : Checker) (forest : List Section) : Except PatternError (List Event) :=
  Check.attempt Pattern.find c.context c.schema.sections forest

theorem ofSchema_eq_error_iff : ofSchema t o = .error f ↔ Schema.FirstFault t.sections f := by
  have first : t.badPattern? = Schema.fault? t.sections := rfl
  rw [← Schema.fault?_eq_some_iff, ofSchema, first]
  cases Schema.fault? t.sections <;> simp

theorem attempt_eq_ok (h : ofSchema t o = .ok c) (forest : List Section) :
    c.attempt forest = .ok (c.events forest) := by
  cases ready : t.badPattern?
  case some => simp [ofSchema, ready] at h
  case none =>
    rw [ofSchema_ready ready] at h
    obtain rfl := Except.ok.inj h
    exact Check.attempt_eq_ok fun p hp => Pattern.find_eq_ok <| List.findSome?_eq_none_iff.mp ready p hp

-- A schema is refused exactly if some entry has a pattern that cannot be read, and then for the
-- first one. No check by a schema that is not refused breaks off.
theorem ofSchema_firstFault (t : Schema) (o : Options) :
    ((∃ f, ofSchema t o = .error f) ↔ ∃ path x f, Schema.At t.sections path x ∧ x.Fails f) ∧
    (∀ f, ofSchema t o = .error f ↔ Schema.FirstFault t.sections f) ∧
    ∀ c, ofSchema t o = .ok c → ∀ forest, c.attempt forest = .ok (c.events forest) := by
  refine ⟨?_, fun _ => ofSchema_eq_error_iff, fun _ => attempt_eq_ok⟩
  simp only [ofSchema_eq_error_iff]
  constructor
  case mp => exact fun ⟨f, path, x, place, fails, _⟩ => ⟨path, x, f, place, fails⟩
  case mpr =>
    intro ⟨path, x, f, place, fails⟩
    cases hf : Schema.fault? t.sections
    case some => exact ⟨_, Schema.fault?_eq_some_iff.mp hf⟩
    case none => exact absurd fails <| Schema.fault?_eq_none_iff.mp hf path x place f

-- Two patterns at different depths, the deeper one first.
def stepSchema (inner after : String) : Schema :=
  ⟨[⟨some "Procedure", none, true, false, none, none,
      some [⟨none, some inner, true, false, none, none, none, none⟩], none⟩,
    ⟨none, some after, false, false, none, none, some [], none⟩], none, none, none⟩

def stepForest : List Section :=
  [⟨"Procedure", 1, none, [], [⟨"Step (one)", 2, none, [], []⟩]⟩, ⟨"", 1, none, [], []⟩]

def stepFault : PatternError := ⟨"step (", .malformed .unterminatedGroup (some 5)⟩

theorem patterns_stepSchema (inner after : String) :
    Schema.patterns (stepSchema inner after).sections = [inner, after] := by
  simp [Schema.patterns, stepSchema]

theorem ofSchema_firstFault_step :
    ofSchema (stepSchema "step (" "[") .default = .error stepFault ∧
    Ends (fun _ => False) (· = stepFault) (attempt
      ⟨stepSchema "step (" "[", .ofSchema (stepSchema "step (" "[") .default⟩ stepForest) ∧
    ∃ c, ofSchema (stepSchema "^step" "") .default = .ok c ∧
      c.attempt stepForest = .ok (c.events stepForest) ∧ c.diagnostics stepForest = [] ∧
      (c.diagnostics []).map Diagnostic.message = ["Missing required section: Procedure"] := by
  have ⟨_, refused, _⟩ := ofSchema_firstFault (stepSchema "step (" "[") .default
  have ⟨_, _, runs⟩ := ofSchema_firstFault (stepSchema "^step" "") .default
  have first : Schema.fault? (stepSchema "step (" "[").sections = some stepFault := by
    rw [Schema.fault?, patterns_stepSchema]
    decide +kernel
  have ready : Schema.fault? (stepSchema "^step" "").sections = none := by
    rw [Schema.fault?, patterns_stepSchema]
    decide +kernel
  have made := ofSchema_ready ready .default
  exact ⟨(refused _).mpr <| Schema.fault?_eq_some_iff.mp first, by decide +kernel, _, made,
    runs _ made _, by decide +kernel, by decide +kernel⟩

end Checker
end Outline
