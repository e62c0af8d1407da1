import Outline.Proofs.Check.Listing

namespace Outline

namespace Schema

-- What the nearest of the entries says that says anything; `top` if none does.
def nearest (setting : Entry → Option Bool) (chain : List Entry) (top : Bool) : Bool :=
  (chain.findSome? setting).getD top

theorem nearest_cons {setting : Entry → Option Bool} {e : Entry} {above : List Entry} {top : Bool} :
    nearest setting (e :: above) top = (setting e).getD (nearest setting above top) := by
  cases h : setting e <;> simp [nearest, h]

variable (enforceOrder allowChildren : Bool)

-- The entry with its own settings written out. It stands below the entries `above`, the nearest of
-- which comes first.
def Entry.settle (above : List Entry) (children? : Option (List Entry)) (e : Entry) : Entry :=
  { e with
    allowChildren? := some (nearest (·.allowChildren?) (e :: above) allowChildren)
    enforceOrder?  := some (nearest (·.enforceOrder?) (e :: above) enforceOrder)
    children? }

-- Entries with nothing left open. What an entry does not set it takes from the nearest entry above
-- it that does, or else from the settings at the top.
def resolveFrom (above : List Entry) : List Entry → List Entry
  | [] => []
  | e@⟨_, _, _, _, _, _, none, _⟩ :: es =>
    e.settle enforceOrder allowChildren above none :: resolveFrom above es
  | e@⟨_, _, _, _, _, _, some below, _⟩ :: es =>
    e.settle enforceOrder allowChildren above (some (resolveFrom (e :: above) below)) ::
      resolveFrom above es

-- The schema with nothing left open: neither to entries further up nor to the caller.
def resolve (s : Schema) (o : Options) : Schema where
  sections := resolveFrom (s.enforceOrder?.getD o.enforceOrder) (s.allowChildren?.getD o.allowChildren)
    [] s.sections
  enforceOrder?  := some (s.enforceOrder?.getD o.enforceOrder)
  allowChildren? := some (s.allowChildren?.getD o.allowChildren)
  contentTypes?  := some (s.contentTypes?.getD (o.contentTypes?.getD Options.defaultContentTypes))

variable {enforceOrder allowChildren} {above es : List Entry} {e : Entry}

theorem resolveFrom_nil : resolveFrom enforceOrder allowChildren above [] = [] := by
  simp [resolveFrom]

theorem resolveFrom_cons : resolveFrom enforceOrder allowChildren above (e :: es) =
    e.settle enforceOrder allowChildren above
      (e.children?.map (resolveFrom enforceOrder allowChildren (e :: above))) ::
    resolveFrom enforceOrder allowChildren above es := by
  obtain ⟨_, _, _, _, _, _, _ | below, _⟩ := e <;> simp [resolveFrom]

theorem inner_settle : (e.settle enforceOrder allowChildren above
    (e.children?.map (resolveFrom enforceOrder allowChildren (e :: above)))).inner =
      resolveFrom enforceOrder allowChildren (e :: above) e.inner := by
  cases h : e.children? <;> simp [Entry.inner, Entry.settle, h, resolveFrom_nil]

theorem patterns_resolveFrom (above es : List Entry) :
    patterns (resolveFrom enforceOrder allowChildren above es) = patterns es := by
  induction es using entries_induction generalizing above
  case nil => rw [resolveFrom_nil]
  case cons e es inner rest =>
    rw [resolveFrom_cons, patterns_cons, patterns_cons, inner_settle, inner, rest]
    rfl

theorem badPattern?_resolve (s : Schema) (o : Options) :
    (s.resolve o).badPattern? = s.badPattern? := by
  simp [badPattern?, resolve, patterns_resolveFrom]

end Schema

open Schema (Entry nearest resolveFrom)

-- The settings of a level are those of the nearest entries above it.
structure Context.Inherits (enforceOrder allowChildren : Bool) (above : List Entry) (c : Context) :
    Prop where
  enforceOrder  : c.enforceOrder = nearest (·.enforceOrder?) above enforceOrder
  allowChildren : c.allowChildren = nearest (·.allowChildren?) above allowChildren

namespace Context.Inherits

variable {enforceOrder allowChildren : Bool} {c : Context} {e : Entry} {above : List Entry}
variable {children? : Option (List Entry)}

theorem descend (h : c.Inherits enforceOrder allowChildren above) (e : Entry) :
    (c.descend e).Inherits enforceOrder allowChildren (e :: above) where
  enforceOrder  := by simp [Context.descend, Schema.nearest_cons, h.enforceOrder]
  allowChildren := by simp [Context.descend, allowsChildren, Schema.nearest_cons, h.allowChildren]

theorem allowsChildren_settle (h : c.Inherits enforceOrder allowChildren above) :
    c.allowsChildren (e.settle enforceOrder allowChildren above children?) = c.allowsChildren e := by
  simp [allowsChildren, Entry.settle, Schema.nearest_cons, h.allowChildren]

theorem descend_settle (h : c.Inherits enforceOrder allowChildren above) :
    c.descend (e.settle enforceOrder allowChildren above children?) = c.descend e := by
  have name : (e.settle enforceOrder allowChildren above children?).name = e.name := rfl
  simp only [Context.descend, name, h.allowsChildren_settle]
  simp [Entry.settle, Schema.nearest_cons, h.enforceOrder]

end Context.Inherits

namespace Check

variable {enforceOrder allowChildren : Bool} {c : Context} {above : List Entry}

theorem level_resolveFrom {found : Found} (es : List Entry) (ss : List Section)
    (h : c.Inherits enforceOrder allowChildren above) :
    level found c (resolveFrom enforceOrder allowChildren above es) ss = level found c es ss := by
  induction es using Schema.entries_induction generalizing above c ss
  case nil => rw [Schema.resolveFrom_nil]
  case cons e es inner rest =>
    rw [Schema.resolveFrom_cons]
    set e' := e.settle enforceOrder allowChildren above _ with he'
    have hit : ∀ s, onMatch c e' s = onMatch c e s := fun s => by
      rw [onMatch, onMatch, h.allowsChildren_settle]; rfl
    have deeper : ∀ ss, below found c e' ss = below found c e ss := fun ss => by
      rw [below_eq, below_eq, h.descend_settle, Schema.inner_settle, inner _ (h.descend e)]
    have miss : ∀ s?, onMiss c e' s? = onMiss c e s? := fun _ => rfl
    have accepts : ∀ title, e'.accepts found title = e.accepts found title := fun _ => rfl
    cases ss <;> simp only [level, accepts, hit, deeper, miss, rest _ h]

end Check

-- A schema with nothing left open is checked alike whatever the caller asks for, and just as the
-- schema itself is checked for the caller whose settings were written into it.
theorem events_resolve (s : Schema) (o : Options) (enforceOrder allowChildren : Bool)
    (contentTypes? : Option (List String)) (forest : List Section) :
    (Checker.ofSchema (s.resolve o) { o with enforceOrder, allowChildren, contentTypes? }).map
      (·.events forest) = (Checker.ofSchema s o).map (·.events forest) := by
  simp only [Checker.ofSchema, Schema.badPattern?_resolve]
  cases s.badPattern?
  case some e => rfl
  case none =>
    have h : (Context.ofSchema s o).Inherits _ _ [] := ⟨rfl, rfl⟩
    exact congrArg Except.ok <| Check.level_resolveFrom s.sections forest h

end Outline
