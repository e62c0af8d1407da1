import Mathlib.Control.Basic
import Outline.Fit.Record

namespace Outline.Fit

instance : LawfulFunctor Fit where
  map_const     := rfl
  id_map x      := by cases x <;> rfl
  comp_map _ _ x := by cases x <;> rfl

-- What is wrong with the parts is kept in their order, however they are grouped.
instance : LawfulApplicative Fit where
  seqLeft_eq x y    := by cases x <;> cases y <;> rfl
  seqRight_eq x y   := by cases x <;> cases y <;> rfl
  pure_seq _ x      := by cases x <;> rfl
  map_pure _ _      := rfl
  seq_pure f _      := by cases f <;> rfl
  seq_assoc x f g   := by
    cases x <;> cases f <;> cases g <;> simp [Seq.seq, Functor.map, ap, map]

variable {α α' β β' : Type} {step : Step} {m : α → α'}

-- What is under a key after every value has been rewritten, each by its own key.
theorem lookup_rewritten {g : String → β → β'} {rewrite : List (String × β) → List (String × β')}
    (nil : rewrite [] = []) (cons : ∀ k v es, rewrite ((k, v) :: es) = (k, g k v) :: rewrite es)
    (key : String) (es : List (String × β)) : (rewrite es).lookup key = (es.lookup key).map (g key) := by
  induction es
  case nil => simp [nil]
  case cons e es hi =>
    obtain ⟨k, v⟩ := e
    rw [cons]
    by_cases h : key = k
    case pos => simp [h]
    case neg => simp [List.lookup_cons, hi, show (key == k) = false by simpa using h]

theorem map_under (x : Fit α) : m <$> under step x = under step (m <$> x) := by
  cases x <;> rfl

-- Entries that are rewritten, each by its own key, fit as before if their values do.
section

variable {es : List (String × β)} {es' : List (String × β')} {g : String → β → β'}
variable {f : β → Fit α} {f' : β' → Fit α'} {keys : List String}

theorem find?_rewritten (same : ∀ key ∈ keys, es'.lookup key = (es.lookup key).map (g key)) :
    find? es' keys = (find? es keys).map fun (key, v) => (key, g key v) := by
  induction keys
  case nil => rfl
  case cons key keys hi =>
    have ⟨own, rest⟩ := List.forall_mem_cons.mp same
    rw [find?, find?, own, hi rest]
    cases es.lookup key <;> rfl

theorem of_find? {key : String} {v : β} (h : find? es keys = some (key, v)) :
    key ∈ keys ∧ es.lookup key = some v := by
  induction keys
  case nil => cases h
  case cons key' keys hi =>
    unfold find? at h
    split at h
    case h_1 own =>
      obtain ⟨rfl, rfl⟩ := Prod.mk.inj <| Option.some.inj h
      exact ⟨List.mem_cons_self, own⟩
    case h_2 => exact ⟨List.mem_cons_of_mem _ (hi h).1, (hi h).2⟩

theorem withDefault_rewritten {default : α} {default' : α'} (left : default' = m default)
    (same : ∀ key ∈ keys, es'.lookup key = (es.lookup key).map (g key))
    (fits : ∀ key ∈ keys, ∀ v, es.lookup key = some v → f' (g key v) = m <$> f v) :
    withDefault keys default' f' es' = m <$> withDefault keys default f es := by
  unfold withDefault
  rw [find?_rewritten same, left]
  cases h : find? es keys
  case none => rfl
  case some e =>
    have ⟨hk, hv⟩ := of_find? h
    simp [fits _ hk _ hv, map_under]

-- Entries that have been fitted beforehand, for those that are asked for.
theorem withDefault_id {default : α} {es' : List (String × Fit α)}
    (same : ∀ key ∈ keys, es'.lookup key = (es.lookup key).map f) :
    withDefault keys default id es' = withDefault keys default f es :=
  (withDefault_rewritten (m := id) (g := fun _ => f) rfl same fun _ _ _ _ => (id_map _).symm).trans <|
    id_map _

theorem required_rewritten
    (same : ∀ key ∈ keys, es'.lookup key = (es.lookup key).map (g key))
    (fits : ∀ key ∈ keys, ∀ v, es.lookup key = some v → f' (g key v) = m <$> f v) :
    required keys f' es' = m <$> required keys f es := by
  unfold required
  rw [find?_rewritten same]
  cases h : find? es keys
  case none => rfl
  case some e =>
    have ⟨hk, hv⟩ := of_find? h
    simp [fits _ hk _ hv, map_under]

end

theorem items_rewritten {g : Value → Value} {f : Value → Fit α} {f' : Value → Fit α'} {vs : List Value}
    (h : ∀ v ∈ vs, f' (g v) = m <$> f v) (index : Nat) :
    items f' index (vs.map g) = List.map m <$> items f index vs := by
  induction vs generalizing index
  case nil => rfl
  case cons v vs hi =>
    have ⟨own, rest⟩ := List.forall_mem_cons.mp h
    rw [List.map_cons, items, items, own, hi rest, ← map_under]
    cases under (.item index) (f v) <;> cases items f (index + 1) vs <;> rfl

end Outline.Fit
