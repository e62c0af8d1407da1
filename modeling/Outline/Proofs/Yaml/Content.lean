import Outline.Proofs.Ends
import Outline.Yaml.Content

namespace Outline

-- Values as they are read from a text: what cannot be a key is in no set.
inductive Value.Decoded : Value → Prop
  | null                                                                     : Decoded .null
  | bool {b : Bool}                                                          : Decoded (.bool b)
  | int {i : Int}                                                            : Decoded (.int i)
  | float {x : Double}                                                       : Decoded (.float x)
  | text {s : String}                                                        : Decoded (.text s)
  | bytes {bs : List UInt8}                                                  : Decoded (.bytes bs)
  | moment                                                                   : Decoded .moment
  | pair {v w} (first : Decoded v) (second : Decoded w)                      : Decoded (.pair v w)
  | list {vs} (items : ∀ v ∈ vs, Decoded v)                                  : Decoded (.list vs)
  | set {vs} (items : ∀ v ∈ vs, Yaml.Node.canBeKey v) (inner : ∀ v ∈ vs, Decoded v) : Decoded (.set vs)
  | map {es} (entries : ∀ e ∈ es, Decoded e.2)                               : Decoded (.map es)

theorem Value.Decoded.of_lookup {es : List (String × Value)} {key : String} {v : Value}
    (h : (Value.map es).Decoded) (hv : es.lookup key = some v) : v.Decoded := by
  cases h with
  | map entries => exact entries _ <| Value.mem_of_lookup hv

namespace Yaml

namespace Settled

variable {α β : Type} {okα : α → Prop} {okβ : β → Prop} {bad : Nat × Fault → Prop}

theorem both_ends {x : Settled α} {y : Settled β} (hx : Ends okα bad x) (hy : Ends okβ bad y) :
    Ends (fun r => okα r.1 ∧ okβ r.2) bad (both x y) := by
  fun_cases both
  case case1 => exact ⟨hx, hy⟩
  case case2 => exact hx
  case case3 => exact hy
  case case4 =>
    show bad _
    split
    · exact hy
    · exact hx

theorem all_ends {xs : List (Settled α)} (h : ∀ x ∈ xs, Ends okα bad x) :
    Ends (∀ a ∈ ·, okα a) bad (all xs) := by
  induction xs
  case nil => exact List.forall_mem_nil _
  case cons x xs hi =>
    have ⟨hx, hxs⟩ := List.forall_mem_cons.mp h
    exact .map <| (both_ends hx (hi hxs)).imp (fun _ hr => List.forall_mem_cons.mpr hr) fun _ he => he

end Settled

namespace Node

-- The nodes that a node is made of, itself among them.
inductive Holds (root : Node) : Node → Prop
  | root                                                          : Holds root root
  | item {t items n} (h : Holds root (list t items)) (hn : n ∈ items) : Holds root n
  | key {t es e} (h : Holds root (map t es)) (he : e ∈ es)        : Holds root e.1
  | value {t es e} (h : Holds root (map t es)) (he : e ∈ es)      : Holds root e.2

-- The text of a node does not say what its tag promises.
def Fails (f : Fault) (n : Node) : Prop := ∃ s, n.text? = some s ∧ n.valueBy s = .error f

variable {root : Node}

-- A key that stands for a value is taken for text, so it need not be a part as it is.
structure Sound (root : Node) (e : Node × Node) : Prop where
  key   : root.Holds e.1 ∨ e.1.tag = .text
  value : root.Holds e.2

def AllSound (root : Node) (es : Entries) : Prop := ∀ e ∈ es, Sound root e

theorem AllSound.append {es fs : Entries} (h : AllSound root es) (h' : AllSound root fs) :
    AllSound root (es ++ fs) :=
  List.forall_mem_append.mpr ⟨h, h'⟩

theorem tag_withTag (t : Tag) (n : Node) : (n.withTag t).tag = t := by
  cases n <;> rfl

mutual

theorem parts_ends {es : Entries} (h : ∀ e ∈ es, root.Holds e.1 ∧ root.Holds e.2) :
    Ends (fun r => AllSound root r.1 ∧ AllSound root r.2) (· = .malformed) (parts es) := by
  match es with
  | [] => exact ⟨List.forall_mem_nil _, List.forall_mem_nil _⟩
  | (k, v) :: es =>
    have ⟨⟨hk, hv⟩, hes⟩ := List.forall_mem_cons.mp h
    have others := parts_ends hes
    rw [parts]
    split
    case isTrue => exact (taken_ends hv).bind fun _ ht => others.bind fun _ ho => ⟨ht.append ho.1, ho.2⟩
    case isFalse =>
      refine others.bind fun _ ho => ⟨ho.1, List.forall_mem_cons.mpr ⟨⟨?_, hv⟩, ho.2⟩⟩
      dsimp only
      split
      · exact .inr <| tag_withTag ..
      · exact .inl hk

theorem taken_ends {n : Node} (h : root.Holds n) : Ends (AllSound root) (· = .malformed) (taken n) := by
  match n with
  | text ..  => rfl
  | map _ es =>
    rw [taken]
    exact (parts_ends fun e he => ⟨h.key he, h.value he⟩).bind fun _ hr => hr.1.append hr.2
  | list _ items =>
    rw [taken]
    refine (takenOfAll_ends fun n hn => h.item hn).bind fun ess hess e he => ?_
    have ⟨es, hes, he⟩ := List.mem_flatten.mp he
    exact hess es (List.mem_reverse.mp hes) e he

theorem takenOfAll_ends {items : List Node} (h : ∀ n ∈ items, root.Holds n) :
    Ends (∀ es ∈ ·, AllSound root es) (· = .malformed) (takenOfAll items) := by
  match items with
  | [] => exact List.forall_mem_nil _
  | map _ es :: items =>
    have ⟨hn, hitems⟩ := List.forall_mem_cons.mp h
    rw [takenOfAll]
    refine (parts_ends fun e he => ⟨hn.key he, hn.value he⟩).bind fun _ hr => ?_
    refine (takenOfAll_ends hitems).bind fun _ ho => ?_
    exact List.forall_mem_cons.mpr ⟨hr.1.append hr.2, ho⟩
  | text .. :: _ => rfl
  | list .. :: _ => rfl

end

theorem allEntries_ends {t : Tag} {es : Entries} (h : root.Holds (map t es)) :
    Ends (AllSound root) (· = .malformed) (allEntries es) := by
  unfold allEntries
  exact (parts_ends fun e he => ⟨h.key he, h.value he⟩).bind fun _ hr => hr.1.append hr.2

theorem valueOfText_decoded (t : Tag) (s : String) :
    Ends Value.Decoded (fun _ => True) (valueOfText t s) := by
  fun_cases valueOfText
  case case1 => exact .null
  case case2 => fun_cases truthOfWord <;> first | exact .bool | trivial
  case case3 =>
    cases integer s
    case ok    => exact .int
    case error => trivial
  case case4 =>
    cases double s
    case ok    => exact .float
    case error => trivial
  case case5 => fun_cases bytes <;> first | exact .bytes | trivial
  case case6 => fun_cases moment <;> first | exact .moment | trivial
  case case7 => exact .text
  case case8 => trivial

theorem valueBy_decoded (n : Node) (s : String) : Ends Value.Decoded (fun _ => True) (n.valueBy s) := by
  fun_cases valueBy
  case case1 => trivial
  case case2 => exact valueOfText_decoded ..

theorem valueBy_of_text {n : Node} (h : n.tag = .text) (s : String) : n.valueBy s = .ok (.text s) := by
  fun_cases valueBy
  case case1 => contradiction
  case case2 => rw [h, valueOfText]

theorem mapOf_decoded {es : List (Value × Value)} (h : ∀ e ∈ es, e.2.Decoded) :
    (mapOf es).Decoded := by
  refine .map <| List.foldlRecOn (motive := fun done : List (String × Value) => ∀ e ∈ done, e.2.Decoded)
    es _ (List.forall_mem_nil _) fun done hd e he => ?_
  dsimp only
  split
  · exact Value.forall_put (h e he) hd
  · exact hd

-- Is a value found, or else a fault in the form of a node or in the text of one of its parts?
def Settles (root : Node) (ok : α → Prop) (x : Settled α) : Prop :=
  Ends ok (fun e => e.2 = .malformed ∨ ∃ n, root.Holds n ∧ n.Fails e.2) x

-- Text that is only text has no fault.
theorem lying_settles (depth : Nat) {n : Node} {s : String} (h : root.Holds n ∨ n.tag = .text)
    (hs : n.text? = some s) : root.Settles Value.Decoded (Settled.lying depth (n.valueBy s)) := by
  refine Ends.mapError ?_
  have decoded := valueBy_decoded n s
  cases hv : n.valueBy s
  case ok => exact decoded.of_ok hv
  case error =>
    have h : root.Holds n := h.resolve_right fun ht => by simp [valueBy_of_text ht] at hv
    exact .inr ⟨n, h, s, hs, hv⟩

section

variable {room : Nat}
  (hi : ∀ (depth step : Nat) {n}, root.Holds n ∨ n.tag = .text →
    root.Settles Value.Decoded (settled depth step room n))
include hi

theorem settledEntry_settles (inner step : Nat) {e : Node × Node} (h : Sound root e) :
    root.Settles (fun r : Value × Value => canBeKey r.1 ∧ r.1.Decoded ∧ r.2.Decoded)
      (match (settled inner 0 room e.1).bind fun k =>
          if canBeKey k then .ok k else .error (inner, .malformed) with
        | .error e => .error e
        | .ok k    => (settled inner step room e.2).map (k, ·)) := by
  have key : root.Settles (fun k => canBeKey k ∧ k.Decoded)
      ((settled inner 0 room e.1).bind fun k =>
        if canBeKey k then .ok k else .error (inner, .malformed)) := by
    refine Ends.bind (hi inner 0 h.key) fun k hk => ?_
    split
    case isTrue hb => exact ⟨hb, hk⟩
    case isFalse   => exact .inl rfl
  split
  case h_1 hx => exact key.of_error hx
  case h_2 hx =>
    have ⟨hb, hk⟩ := key.of_ok hx
    exact .map <| Ends.imp (hi inner step (.inl h.value)) (fun _ hv => ⟨hb, hk, hv⟩) fun _ he => he

end

theorem settled_settles (room depth step : Nat) {n : Node} (h : root.Holds n ∨ n.tag = .text) :
    root.Settles Value.Decoded (settled depth step room n) := by
  induction room generalizing depth step n
  case zero => exact .inl rfl
  case succ room hi =>
    unfold settled
    extract_lets inner entries
    have settledEntries {t : Tag} {es : Entries} (h : root.Holds (map t es)) :
        root.Settles (∀ e ∈ ·, canBeKey e.1 ∧ e.1.Decoded ∧ e.2.Decoded) (entries es) := by
      dsimp only [entries]
      have sound := allEntries_ends h
      split
      case h_1 he => exact .inl (sound.of_error he)
      case h_2 es he =>
        have sound := sound.of_ok he
        refine Settled.all_ends fun x hx => ?_
        obtain ⟨e, he, rfl⟩ := List.mem_map.mp hx
        exact settledEntry_settles hi inner step (sound e he)
    have part {t : Tag} (ht : n.tag = t) (hne : t ≠ .text) : root.Holds n :=
      h.resolve_right (by rwa [ht])
    split
    case h_1 t items ht =>
      have h := part ht (by decide)
      refine .map <| Ends.imp (Settled.all_ends fun x hx => ?_) (fun _ hv => .list hv) fun _ he => he
      obtain ⟨n, hn, rfl⟩ := List.mem_map.mp hx
      exact hi inner step <| .inl <| h.item hn
    case h_2 t es ht =>
      have h := part ht (by decide)
      exact .map <| (settledEntries h).imp (fun _ hv => mapOf_decoded fun e he => (hv e he).2.2)
        fun _ he => he
    case h_3 t es ht =>
      have h := part ht (by decide)
      refine .map <| (settledEntries h).imp (fun es hv => .set ?keys ?inner) fun _ he => he
      case keys =>
        intro v hm
        obtain ⟨e, he, rfl⟩ := List.mem_map.mp hm
        exact (hv e he).1
      case inner =>
        intro v hm
        obtain ⟨e, he, rfl⟩ := List.mem_map.mp hm
        exact (hv e he).2.1
    case h_4 t items ht =>
      have h := part ht (by decide)
      refine .map <| Ends.imp (Settled.all_ends fun x hx => ?_) (fun _ hv => .list hv) fun _ he => he
      obtain ⟨n, hn, rfl⟩ := List.mem_map.mp hx
      have h := h.item hn
      split
      case h_1 t k v =>
        have entry : (k, v) ∈ [(k, v)] := List.mem_singleton_self _
        have first := hi inner step <| .inl <| h.key entry
        have second := hi inner step <| .inl <| h.value entry
        exact .map <| Ends.imp (Settled.both_ends first second) (fun _ hv => .pair hv.1 hv.2)
          fun _ he => he
      case h_2 => exact .inl rfl
    case h_9 =>
      split
      case h_1 hs => exact lying_settles depth h hs
      case h_2 => exact .inl rfl
    all_goals exact .inl rfl

theorem value_ends (n : Node) :
    Ends Value.Decoded (fun f => f = .malformed ∨ ∃ m, n.Holds m ∧ m.Fails f) n.value :=
  Ends.mapError <| settled_settles n.height 0 1 (.inl .root)

end Node
end Yaml
end Outline
