import Outline.Proofs.Check.Listing

namespace Outline

open Schema (Entry)

section

variable {separator first : String} {names rest : List String}

-- Names with a separator after each are the names with one in between, and one more.
theorem join_map_append (h : names ≠ []) :
    String.join (names.map (· ++ separator)) = separator.intercalate names ++ separator := by
  induction names
  case nil => contradiction
  case cons name names hi =>
    by_cases last : names = []
    case pos => simp [last]
    case neg => simp [String.intercalate_cons_of_ne_nil last, hi last, String.append_assoc]

theorem intercalate_cons_ne_empty (h : first ≠ "") : separator.intercalate (first :: rest) ≠ "" := by
  cases rest
  case nil  => simpa using h
  case cons => simp [String.append_assoc, h]

end

namespace Schema

-- A pattern counts before a title where entries are matched, and after it where they are named. An
-- empty one of either does neither, so what is matched has a name.
theorem Entry.name_ne_of_accepts {found : Found} {e : Entry} {title : String}
    (h : e.accepts found title) : e.name ≠ "" := by
  intro unnamed
  have unset : e.titlePattern?.filter (· ≠ "") = none ∧ e.title?.filter (· ≠ "") = none := by
    cases ht : e.title? <;> cases hp : e.titlePattern? <;> grind [Entry.name, Option.filter]
  rw [accepts, unset.1, unset.2] at h
  contradiction

-- Where a level is, by the names of the matched entries above it, the outermost first.
def placeOf (above : List Entry) : String :=
  if above = [] then "root level" else " > ".intercalate (above.map Entry.name)

end Schema

namespace Context

theorem dropEnd_append (s suffix : String) : dropEnd (s ++ suffix) suffix = s := by
  have ends : (s ++ suffix).endsWith suffix := by
    rw [← String.endsWith_toSlice, String.Slice.endsWith_string_iff]
    simp
  rw [dropEnd, if_pos ends, String.toList_append, String.length_append, Nat.add_sub_cancel,
    ← String.length_toList, List.take_left, String.ofList_toList]

-- The settings `c` of a level below the entries `above`, in a check from `top` on.
structure Tells (top : Context) (above : List Entry) (c : Context) : Prop where
  named        : ∀ e ∈ above, e.name ≠ ""
  path         : c.path = String.join ((above.map Entry.name).map (· ++ arrow))
  contentTypes : c.contentTypes = top.contentTypes
  ruleId       : c.ruleId = top.ruleId

namespace Tells

variable {top c : Context} {above : List Entry} {e : Entry}

theorem refl (root : top.path = "") : top.Tells [] top where
  named        := by simp
  path         := by simpa using root
  contentTypes := rfl
  ruleId       := rfl

-- One level further down, below one more entry that is matched.
theorem descend (t : top.Tells above c) (named : e.name ≠ "") : top.Tells (above ++ [e]) (c.descend e) where
  named        := by simpa [or_imp, forall_and] using ⟨t.named, named⟩
  path         := by simp [Context.descend, t.path, String.append_assoc]
  contentTypes := t.contentTypes
  ruleId       := t.ruleId

-- Only the last arrow is cut off, whatever the names end in.
theorem dropEnd_path (t : top.Tells above c) :
    dropEnd c.path arrow = arrow.intercalate (above.map Entry.name) := by
  by_cases h : above = []
  case pos =>
    subst h
    rw [t.path]
    decide +kernel
  case neg => rw [t.path, join_map_append (by simpa using h), dropEnd_append]

theorem dropEnd_path_eq_iff (t : top.Tells above c) : dropEnd c.path arrow = "" ↔ above = [] := by
  rw [t.dropEnd_path]
  cases above
  case nil         => simp
  case cons e rest => simpa using intercalate_cons_ne_empty (t.named e List.mem_cons_self)

theorem place (t : top.Tells above c) : c.place = Schema.placeOf above := by
  simp only [Context.place, t.dropEnd_path_eq_iff, Schema.placeOf]
  rw [t.dropEnd_path]
  rfl

end Tells
end Context

namespace Check

-- Entries and the sections beside them, with the settings that they are checked under.
structure Level where
  context  : Context
  entries  : List Entry
  sections : List Section

namespace Turn

-- What a turn says itself, without what is said below its section.
def own (c : Context) : Turn → List Event
  | hit _ _ e s         => onMatch c e s
  | miss _ _ e current? => onMiss c e current?

variable {found : Found} {i j a b : Nat} {e : Entry} {s : Section} {es : List Entry} {ss : List Section}

theorem accepts_of_hit (h : .hit i j e s ∈ turns found a b es ss) : e.accepts found s.title := by
  induction es generalizing a b ss
  case nil => simp [turns] at h
  case cons e' es hi =>
    cases ss
    case nil => exact hi (by simpa [turns] using h)
    case cons s' ss =>
      by_cases accepted : e'.accepts found s'.title
      case pos =>
        rw [turns, if_pos accepted, List.mem_cons] at h
        obtain same | later := h
        case inl => cases same; exact accepted
        case inr => exact hi later
      case neg => exact hi (by simpa [turns, accepted] using h)

end Turn

namespace Level

variable (found : Found)

def turns (l : Level) : List Turn := Check.turns found 0 0 l.entries l.sections

def events (l : Level) : List Event := level found l.context l.entries l.sections

-- The level of the entries and the sections below a match.
def inner (l : Level) (e : Entry) (below : List Entry) (s : Section) : Level :=
  ⟨l.context.descend e, below, s.children⟩

-- The check of the first level comes to the last one, through the matched entries `above`, the
-- outermost first.
inductive Reaches : Level → List Entry → Level → Prop
  | here {l : Level} : Reaches l [] l
  | inside {l last : Level} {i j : Nat} {e : Entry} {s : Section} {below above : List Entry}
      (hit : .hit i j e s ∈ l.turns found) (h : e.children? = some below)
      (more : Reaches (l.inner e below s) above last) : Reaches l (e :: above) last

variable {found} {l last : Level} {above : List Entry} {event : Event}

theorem mem_events_iff_turns :
    event ∈ l.events found ↔ ∃ t ∈ l.turns found, event ∈ t.events found l.context := by
  rw [events, level_eq_turns 0 0, List.mem_flatMap]
  rfl

theorem mem_events_of_reaches (h : l.Reaches found above last) (said : event ∈ last.events found) :
    event ∈ l.events found := by
  induction h
  case here => exact said
  case inside hit children _ hi =>
    refine mem_events_iff_turns.mpr ⟨_, hit, ?_⟩
    rw [Turn.events_hit, below_of_some children]
    exact List.mem_append_right _ (hi said)

theorem exists_reaches (said : event ∈ l.events found) : ∃ above last, l.Reaches found above last ∧
    ∃ t ∈ last.turns found, event ∈ t.own last.context := by
  obtain ⟨c, es, ss⟩ := l
  induction es using Schema.levels_induction generalizing c ss
  case level es hi =>
    obtain ⟨t, ht, said⟩ := mem_events_iff_turns.mp said
    cases t
    case miss => exact ⟨[], _, .here, _, ht, said⟩
    case hit i j e s =>
      obtain own | deeper := List.mem_append.mp said
      · exact ⟨[], _, .here, _, ht, own⟩
      · cases children : e.children?
        case none => simp [below_of_none children] at deeper
        case some below =>
          rw [below_of_some children] at deeper
          have he : e ∈ es := List.mem_of_getElem? (turns_at ht).2
          obtain ⟨above, last, more, own⟩ := hi e he below children _ _ deeper
          exact ⟨e :: above, last, .inside ht children more, own⟩

-- What is said in a check is what the turns of the levels that it comes to say themselves.
theorem mem_events_iff : event ∈ l.events found ↔ ∃ above last, l.Reaches found above last ∧
    ∃ t ∈ last.turns found, event ∈ t.own last.context where
  mp := exists_reaches
  mpr := by
    rintro ⟨above, last, reached, t, ht, own⟩
    refine mem_events_of_reaches reached <| mem_events_iff_turns.mpr ⟨t, ht, ?_⟩
    cases t
    case hit  => exact List.mem_append_left _ own
    case miss => exact own

theorem Reaches.tells {top : Context} {before : List Entry} (h : l.Reaches found above last)
    (t : top.Tells before l.context) : top.Tells (before ++ above) last.context := by
  induction h generalizing before
  case here => simpa using t
  case inside hit _ _ hi =>
    have step := t.descend <| Entry.name_ne_of_accepts <| Turn.accepts_of_hit hit
    simpa using hi step

-- All that is said in a check is said at a level below matched entries that have names. The path there
-- is made of these names, and where no entry is above, and only there, the place is the top. What
-- fills a section and the rule are the same everywhere.
theorem reaches_names (found : Found) {top : Level} (root : top.context.path = "") :
    (∀ event, event ∈ top.events found ↔ ∃ above l, top.Reaches found above l ∧
      ∃ t ∈ l.turns found, event ∈ t.own l.context) ∧
    ∀ above l, top.Reaches found above l →
      (∀ e ∈ above, e.name ≠ "") ∧
      l.context.path = String.join (above.map (·.name ++ " > ")) ∧
      (Context.dropEnd l.context.path " > " = "" ↔ above = []) ∧
      l.context.place = Schema.placeOf above ∧
      (∀ e s, orderMessage l.context e s = "Section \"" ++ s.title ++ "\" is out of order. Expected \"" ++
        e.name ++ "\" at " ++ Schema.placeOf above ++ "." ++ e.suffix) ∧
      l.context.contentTypes = top.context.contentTypes ∧ l.context.ruleId = top.context.ruleId := by
  refine ⟨fun _ => mem_events_iff, fun above l reached => ?_⟩
  have t : top.context.Tells above l.context := reached.tells (.refl root)
  refine ⟨t.named, ?path, t.dropEnd_path_eq_iff, t.place, fun e s => ?order, t.contentTypes, t.ruleId⟩
  case path  => rw [t.path, List.map_map]; rfl
  case order => simp only [orderMessage, t.place]

-- A title that ends in an arrow, and below it an entry that is found by its pattern and named by its
-- title.
def arrowInner : Entry := ⟨some "B", some "^b", false, false, none, none, some [], none⟩

def arrowOuter : Entry := ⟨some "A > ", none, false, false, none, none, some [arrowInner], none⟩

def arrowTop : Level where
  context  := .ofSchema ⟨[arrowOuter], some true, none, none⟩ .default
  entries  := [arrowOuter]
  sections := [⟨"A > ", 1, none, [], [⟨"bb", 2, none, [], []⟩]⟩]

def arrowLast : Level := ⟨(arrowTop.context.descend arrowOuter).descend arrowInner, [], []⟩

theorem arrowTop_reaches : arrowTop.Reaches Pattern.isFound [arrowOuter, arrowInner] arrowLast :=
  .inside (i := 0) (j := 0) (.head _) rfl <| .inside (i := 0) (j := 0) (.head _) rfl .here

theorem reaches_names_arrow :
    arrowTop.context.path = "" ∧ (∀ e ∈ [arrowOuter, arrowInner], e.name ≠ "") ∧
      arrowLast.context.path = "A >  > B > " ∧ arrowLast.context.place = "A >  > B" := by
  have root : arrowTop.context.path = "" := rfl
  obtain ⟨named, path, _, place, _⟩ := (reaches_names Pattern.isFound root).2 _ _ arrowTop_reaches
  exact ⟨root, named, path.trans (by decide), place.trans (by decide)⟩

end Level
end Check
end Outline
