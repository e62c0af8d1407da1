import Outline.Check

namespace Outline.Check

open Schema (Entry)

-- A turn of a level looks at one entry, beside the first section that is not matched yet. Both are
-- told by their places in their lists.
inductive Turn
  | hit  (i j : Nat) (e : Entry) (s : Section)
  | miss (i j : Nat) (e : Entry) (current? : Option Section)

namespace Turn

-- The section and the entry are those at the places.
def At (es : List Entry) (ss : List Section) : Turn → Prop
  | hit i j e s         => ss[i]? = some s ∧ es[j]? = some e
  | miss i j e current? => ss[i]? = current? ∧ es[j]? = some e

-- The places of the section and the entry of a match.
def match? : Turn → Option (Nat × Nat)
  | hit i j .. => some (i, j)
  | miss ..    => none

@[simp]
theorem match?_hit {i j : Nat} {e : Entry} {s : Section} : (hit i j e s).match? = some (i, j) :=
  rfl

@[simp]
theorem match?_miss {i j : Nat} {e : Entry} {s? : Option Section} : (miss i j e s?).match? = none :=
  rfl

def events (found : Found) (c : Context) : Turn → List Event
  | hit _ _ e s         => onMatch c e s ++ below found c e s.children
  | miss _ _ e current? => onMiss c e current?

@[simp]
theorem events_hit {found : Found} {c : Context} {i j : Nat} {e : Entry} {s : Section} :
    (hit i j e s).events found c = onMatch c e s ++ below found c e s.children :=
  rfl

@[simp]
theorem events_miss {found : Found} {c : Context} {i j : Nat} {e : Entry} {s? : Option Section} :
    (miss i j e s?).events found c = onMiss c e s? :=
  rfl

end Turn

-- The turns of a level from the `i`-th section and the `j`-th entry on.
def turns (found : Found) (i j : Nat) : List Entry → List Section → List Turn
  | [], _ => []
  | e :: es, [] => .miss i j e none :: turns found i (j + 1) es []
  | e :: es, s :: ss =>
    if e.accepts found s.title then .hit i j e s :: turns found (i + 1) (j + 1) es ss
    else .miss i j e (some s) :: turns found i (j + 1) es (s :: ss)

theorem level_eq_turns {found : Found} {c : Context} (i j : Nat) (es : List Entry)
    (ss : List Section) : level found c es ss = (turns found i j es ss).flatMap (·.events found c) := by
  induction es generalizing i j ss
  case nil => simp [level, turns]
  case cons e es hi =>
    cases ss
    case nil => simp [level, turns, ← hi]
    case cons s ss => by_cases h : e.accepts found s.title <;> simp [level, turns, h, ← hi]

-- The `j`-th entry expects a section of the title that the `i`-th section has.
def Accepts (found : Found) (es : List Entry) (ss : List Section) (i j : Nat) : Prop :=
  ∃ s e, ss[i]? = some s ∧ es[j]? = some e ∧ e.accepts found s.title

-- An order-preserving assignment of the first sections: the `i`-th one gets the entry `js[i]`.
structure Assigns (found : Found) (es : List Entry) (ss : List Section) (js : List Nat) : Prop where
  accepts   : ∀ {i j}, js[i]? = some j → Accepts found es ss i j
  ascending : js.Pairwise (· < ·)

-- The assignment that takes the first entry that it can for one section after the other, and goes
-- on until there is none left for the next section.
structure Greedy (found : Found) (es : List Entry) (ss : List Section) (js : List Nat) : Prop
    extends Assigns found es ss js where
  least : ∀ {i j k}, js[i]? = some j → Accepts found es ss i k → (∀ q ∈ js.take i, q < k) → j ≤ k
  stuck : ∀ {k}, Accepts found es ss js.length k → ∃ q ∈ js, k ≤ q

namespace Accepts

variable {found : Found} {es : List Entry} {ss : List Section} {e : Entry} {s : Section} {i j : Nat}

theorem nil_left : ¬Accepts found [] ss i j := by
  simp [Accepts]

theorem nil_right : ¬Accepts found es [] i j := by
  simp [Accepts]

theorem head : Accepts found (e :: es) (s :: ss) 0 0 ↔ e.accepts found s.title := by
  simp [Accepts]

theorem tail_left : Accepts found (e :: es) ss i (j + 1) ↔ Accepts found es ss i j := by
  simp [Accepts]

theorem tail_right : Accepts found es (s :: ss) (i + 1) j ↔ Accepts found es ss i j := by
  simp [Accepts]

end Accepts

namespace Assigns

variable {found : Found} {es : List Entry} {ss : List Section} {e : Entry} {s : Section}
variable {js : List Nat}

theorem lt_of_lt (a : Assigns found es ss js) {p i q j : Nat} (hq : js[p]? = some q)
    (hj : js[i]? = some j) (h : p < i) : q < j := by
  have ⟨hp, hpq⟩ := List.getElem?_eq_some_iff.mp hq
  have ⟨hi, hij⟩ := List.getElem?_eq_some_iff.mp hj
  exact hpq ▸ hij ▸ List.pairwise_iff_getElem.mp a.ascending p i hp hi h

-- One more entry at the front that is left out.
theorem shift (a : Assigns found es ss js) : Assigns found (e :: es) ss (js.map (· + 1)) where
  accepts {i j} hj := by
    obtain ⟨j, hj', rfl⟩ : ∃ j', js[i]? = some j' ∧ j' + 1 = j := by simpa using hj
    exact Accepts.tail_left.mpr <| a.accepts hj'
  ascending := List.pairwise_map.mpr <| a.ascending.imp Nat.succ_lt_succ

-- One more entry at the front for one more section there.
theorem cons (h : e.accepts found s.title) (a : Assigns found es ss js) :
    Assigns found (e :: es) (s :: ss) (0 :: js.map (· + 1)) where
  accepts {i j} hj := by
    cases i
    case zero =>
      obtain rfl : 0 = j := by simpa using hj
      exact Accepts.head.mpr h
    case succ i => exact Accepts.tail_right.mpr <| a.shift.accepts hj
  ascending := List.pairwise_cons.mpr ⟨by simp, a.shift (e := e).ascending⟩

end Assigns

namespace Greedy

variable {found : Found} {es : List Entry} {ss : List Section} {e : Entry} {s : Section}
variable {js js' : List Nat}

theorem nil_left : Greedy found [] ss [] where
  accepts h   := by simp at h
  ascending   := .nil
  least h     := by simp at h
  stuck h     := absurd h Accepts.nil_left

theorem nil_right : Greedy found es [] [] where
  accepts h   := by simp at h
  ascending   := .nil
  least h     := by simp at h
  stuck h     := absurd h Accepts.nil_right

-- One turn that matches, before the rest of the level.
theorem hit (h : e.accepts found s.title) (g : Greedy found es ss js) :
    Greedy found (e :: es) (s :: ss) (0 :: js.map (· + 1)) where
  toAssigns := g.toAssigns.cons h
  least {i j k} hj hk hq := by
    cases i
    case zero =>
      obtain rfl : 0 = j := by simpa using hj
      exact Nat.zero_le k
    case succ i =>
      obtain ⟨j, hj', rfl⟩ : ∃ j', js[i]? = some j' ∧ j' + 1 = j := by simpa using hj
      cases k
      case zero => exact absurd (hq 0 (by simp)) (Nat.lt_irrefl 0)
      case succ k =>
        have hq' : ∀ q ∈ js.take i, q < k := by simpa [← List.map_take] using hq
        exact Nat.succ_le_succ <| g.least hj' (Accepts.tail_right.mp <| Accepts.tail_left.mp hk) hq'
  stuck {k} hk := by
    cases k
    case zero => exact ⟨0, by simp⟩
    case succ k =>
      have hk' : Accepts found es ss js.length k := by
        simpa [Accepts.tail_left, Accepts.tail_right] using hk
      have ⟨q, hm, hq⟩ := g.stuck hk'
      exact ⟨q + 1, by simpa using hm, Nat.succ_le_succ hq⟩

-- One turn that does not match, before the rest of the level.
theorem miss (h : ¬e.accepts found s.title) (g : Greedy found es (s :: ss) js) :
    Greedy found (e :: es) (s :: ss) (js.map (· + 1)) where
  toAssigns := g.toAssigns.shift
  least {i j k} hj hk hq := by
    obtain ⟨j, hj', rfl⟩ : ∃ j', js[i]? = some j' ∧ j' + 1 = j := by simpa using hj
    cases k
    case succ k =>
      have hq' : ∀ q ∈ js.take i, q < k := by simpa [← List.map_take] using hq
      exact Nat.succ_le_succ <| g.least hj' (Accepts.tail_left.mp hk) hq'
    case zero =>
      -- The entry that was missed is too early for every section but the first one, and that one
      -- it does not accept.
      cases i
      case zero => exact absurd (Accepts.head.mp hk) h
      case succ i =>
        cases js
        case nil        => simp at hj'
        case cons q _ _ => exact absurd (hq (q + 1) (by simp)) (Nat.not_lt_zero _)
  stuck {k} hk := by
    cases k
    case succ k =>
      have hk' : Accepts found es (s :: ss) js.length k := by simpa [Accepts.tail_left] using hk
      have ⟨q, hm, hq⟩ := g.stuck hk'
      exact ⟨q + 1, by simpa using hm, Nat.succ_le_succ hq⟩
    case zero =>
      cases js
      case nil        => exact absurd (Accepts.head.mp hk) h
      case cons q _ _ => exact ⟨q + 1, by simp⟩

theorem take_lt_of_assigns (a : Assigns found es ss js') {i j' : Nat} (hj' : js'[i]? = some j')
    (h : ∀ p < i, ∀ q q', js[p]? = some q → js'[p]? = some q' → q ≤ q') : ∀ q ∈ js.take i, q < j' := by
  intro q hq
  have ⟨p, hp⟩ := List.mem_iff_getElem?.mp hq
  have ⟨hpi, hpq⟩ : p < i ∧ js[p]? = some q := by simpa [List.getElem?_take] using hp
  have ⟨hi, _⟩ := List.getElem?_eq_some_iff.mp hj'
  have hq' := List.getElem?_eq_getElem (Nat.lt_trans hpi hi)
  exact Nat.lt_of_le_of_lt (h p hpi q _ hpq hq') (a.lt_of_lt hq' hj' hpi)

-- A greedy assignment stays ahead of every other one: it never takes a later entry.
theorem le_of_assigns (g : Greedy found es ss js) (a : Assigns found es ss js') {i j j' : Nat}
    (hj : js[i]? = some j) (hj' : js'[i]? = some j') : j ≤ j' := by
  induction i using Nat.strongRecOn generalizing j j'
  case ind i hi =>
    refine g.least hj (a.accepts hj') ?_
    exact take_lt_of_assigns a hj' fun p hp _ _ hq hq' => hi p hp hq hq'

theorem length_le_of_assigns (g : Greedy found es ss js) (a : Assigns found es ss js') :
    js'.length ≤ js.length := by
  refine Nat.le_of_not_lt fun h => ?_
  -- The entry that the other assignment has for the first section too many could be taken as well.
  have hj' := List.getElem?_eq_getElem h
  have ⟨q, hm, hq⟩ := g.stuck (a.accepts hj')
  have hlt := take_lt_of_assigns a hj' fun _ _ _ _ => g.le_of_assigns a
  exact absurd (hlt q (by simpa using hm)) (Nat.not_lt_of_le hq)

theorem unique (g : Greedy found es ss js) (g' : Greedy found es ss js') : js = js' := by
  have hl : js.length = js'.length :=
    Nat.le_antisymm (g'.length_le_of_assigns g.toAssigns) (g.length_le_of_assigns g'.toAssigns)
  refine List.ext_getElem hl fun i h h' => ?_
  have hj := List.getElem?_eq_getElem h
  have hj' := List.getElem?_eq_getElem h'
  exact Nat.le_antisymm (g.le_of_assigns g'.toAssigns hj hj') (g'.le_of_assigns g.toAssigns hj' hj)

-- Sections after the first one without an entry have no say.
theorem congr (g : Greedy found es ss js) {ss' : List Section}
    (h : ss'.take (js.length + 1) = ss.take (js.length + 1)) : Greedy found es ss' js := by
  have ha : ∀ {i j}, i ≤ js.length → (Accepts found es ss' i j ↔ Accepts found es ss i j) := by
    intro i j hi
    have hs := congrArg (·[i]?) h
    simp only [List.getElem?_take, Nat.lt_succ_of_le hi, if_true] at hs
    simp [Accepts, hs]
  have hl : ∀ {i j}, js[i]? = some j → i ≤ js.length := fun hj =>
    Nat.le_of_lt (List.getElem?_eq_some_iff.mp hj).1
  exact {
    accepts   := fun hj => (ha (hl hj)).mpr (g.accepts hj)
    ascending := g.ascending
    least     := fun hj hk => g.least hj ((ha (hl hj)).mp hk)
    stuck     := fun hk => g.stuck ((ha (Nat.le_refl _)).mp hk)
  }

end Greedy

-- The entries that are matched, those of the first sections first.
def chosen (found : Found) : List Entry → List Section → List Nat
  | [], _ => []
  | _ :: _, [] => []
  | e :: es, s :: ss =>
    if e.accepts found s.title then 0 :: (chosen found es ss).map (· + 1)
    else (chosen found es (s :: ss)).map (· + 1)

@[simp]
theorem chosen_nil {found : Found} {es : List Entry} : chosen found es [] = [] := by
  cases es <;> rfl

theorem chosen_greedy (found : Found) (es : List Entry) (ss : List Section) :
    Greedy found es ss (chosen found es ss) := by
  induction es generalizing ss
  case nil => exact .nil_left
  case cons e es hi =>
    cases ss
    case nil => exact .nil_right
    case cons s ss =>
      by_cases h : e.accepts found s.title
      case pos => simpa [chosen, h] using Greedy.hit h (hi ss)
      case neg => simpa [chosen, h] using Greedy.miss h (hi (s :: ss))

theorem turns_match? (found : Found) (i j : Nat) (es : List Entry) (ss : List Section) :
    (turns found i j es ss).filterMap Turn.match? =
      (List.range' i (chosen found es ss).length).zip ((chosen found es ss).map (j + ·)) := by
  induction es generalizing i j ss
  case nil => simp [turns, chosen]
  case cons e es hi =>
    have hj : ∀ js : List Nat, js.map (j + 1 + ·) = (js.map (· + 1)).map (j + ·) := by
      intro js
      simp [Function.comp_def, Nat.add_assoc, Nat.add_comm 1]
    cases ss
    case nil =>
      have hn := hi i (j + 1) []
      simp only [chosen_nil, List.map_nil, List.zip_nil_right] at hn
      simp [turns, List.filterMap_cons, hn]
    case cons s ss =>
      by_cases h : e.accepts found s.title
      case pos =>
        have hp := hi (i + 1) (j + 1) ss
        rw [hj] at hp
        simp [turns, chosen, h, hp, List.range'_succ]
      case neg =>
        have hn := hi i (j + 1) (s :: ss)
        rw [hj] at hn
        simp [turns, chosen, h, List.filterMap_cons, hn]

section

variable {found : Found} {es : List Entry} {ss : List Section} {e : Entry} {s : Section}

theorem turns_length (i j : Nat) : (turns found i j es ss).length = es.length := by
  induction es generalizing i j ss
  case nil => rfl
  case cons e es hi =>
    cases ss
    case nil => simp [turns, hi]
    case cons s ss => by_cases h : e.accepts found s.title <;> simp [turns, h, hi]

-- The turn of an entry that is matched.
theorem turns_hit (i j : Nat) {a k : Nat} (hk : (chosen found es ss)[a]? = some k)
    (he : es[k]? = some e) (hs : ss[a]? = some s) :
    (turns found i j es ss)[k]? = some (.hit (i + a) (j + k) e s) := by
  induction es generalizing i j ss a k
  case nil => simp at he
  case cons e' es hi =>
    cases ss
    case nil => simp at hk
    case cons s' ss =>
      by_cases h : e'.accepts found s'.title
      case pos =>
        simp only [chosen, h, if_true] at hk
        cases a
        case zero =>
          obtain rfl : 0 = k := by simpa using hk
          simp_all [turns]
        case succ a =>
          obtain ⟨k, hk', rfl⟩ : ∃ k', (chosen found es ss)[a]? = some k' ∧ k' + 1 = k := by
            simpa using hk
          have ht := hi (i + 1) (j + 1) hk' (by simpa using he) (by simpa using hs)
          simp [turns, h, ht]
          omega
      case neg =>
        simp only [chosen, h] at hk
        obtain ⟨k, hk', rfl⟩ : ∃ k', (chosen found es (s' :: ss))[a]? = some k' ∧ k' + 1 = k := by
          simpa using hk
        have ht := hi i (j + 1) hk' (by simpa using he) hs
        simp [turns, h, ht]
        omega

-- The turn of an entry that is missed stands beside the section that as many entries before it have
-- reached.
theorem turns_miss (i j : Nat) {k : Nat} (hk : k ∉ chosen found es ss) (he : es[k]? = some e) :
    (turns found i j es ss)[k]? =
      some (.miss (i + (chosen found es ss).countP (· < k)) (j + k) e
        ss[(chosen found es ss).countP (· < k)]?) := by
  induction es generalizing i j ss k
  case nil => simp at he
  case cons e' es hi =>
    cases ss
    case nil =>
      cases k
      case zero =>
        obtain rfl : e' = e := by simpa using he
        simp [turns]
      case succ k =>
        have hk' : k ∉ chosen found es [] := by simp
        have ht := hi i (j + 1) hk' (by simpa using he)
        simp [turns, ht]
        omega
    case cons s' ss =>
      by_cases h : e'.accepts found s'.title
      case pos =>
        simp only [chosen, h, if_true] at hk ⊢
        cases k
        case zero => simp at hk
        case succ k =>
          have ht := hi (i + 1) (j + 1) (by simpa using hk) (by simpa using he)
          simp [turns, h, ht, List.countP_map, Function.comp_def]
          omega
      case neg =>
        simp only [chosen, h] at hk ⊢
        cases k
        case zero =>
          obtain rfl : e' = e := by simpa using he
          simp [turns, h]
        case succ k =>
          have ht := hi i (j + 1) (by simpa using hk) (by simpa using he)
          simp [turns, h, ht, List.countP_map, Function.comp_def]
          omega

-- A turn is about the section and the entry at its places.
theorem turns_at {t : Turn} (h : t ∈ turns found 0 0 es ss) : t.At es ss := by
  have ⟨k, ht⟩ := List.mem_iff_getElem?.mp h
  have ⟨hk, _⟩ := List.getElem?_eq_some_iff.mp ht
  have he := List.getElem?_eq_getElem (turns_length 0 0 ▸ hk)
  by_cases hm : k ∈ chosen found es ss
  case pos =>
    have ⟨i, hi⟩ := List.mem_iff_getElem?.mp hm
    have ⟨s, _, hs, _⟩ := (chosen_greedy found es ss).accepts hi
    rw [turns_hit 0 0 hi he hs] at ht
    cases ht
    simp [Turn.At, hs]
  case neg =>
    rw [turns_miss 0 0 hm he] at ht
    cases ht
    simp [Turn.At]

end

-- A level matches greedily. What it says is what its turns say, and the turns that match give the
-- sections from the first one on, each with the first entry still left that accepts it. No
-- assignment that keeps the order reaches further, and where this one stops, whatever comes after
-- the section that it stops at changes nothing.
theorem turns_greedy (found : Found) (es : List Entry) (ss : List Section) :
    (∀ c, level found c es ss = (turns found 0 0 es ss).flatMap (·.events found c)) ∧
    (∀ t ∈ turns found 0 0 es ss, t.At es ss) ∧
    ∃ js,
      (turns found 0 0 es ss).filterMap Turn.match? = (List.range js.length).zip js ∧
      Greedy found es ss js ∧
      (∀ js', Assigns found es ss js' → js'.length ≤ js.length) ∧
      ∀ ss', ss'.take (js.length + 1) = ss.take (js.length + 1) →
        (turns found 0 0 es ss').filterMap Turn.match? = (List.range js.length).zip js := by
  have hm : ∀ ss, (turns found 0 0 es ss).filterMap Turn.match? =
      (List.range (chosen found es ss).length).zip (chosen found es ss) := by
    intro ss
    simp [turns_match?, List.range_eq_range']
  have g := chosen_greedy found es ss
  refine ⟨fun c => level_eq_turns 0 0 es ss, fun _ => turns_at, chosen found es ss, hm ss, g, ?_, ?_⟩
  case refine_1 => exact fun _ a => g.length_le_of_assigns a
  case refine_2 =>
    intro ss' h
    rw [hm ss', (chosen_greedy found es ss').unique (g.congr h)]

end Outline.Check
