import Outline.Proofs.Ends
import Outline.Yaml.Node

namespace Outline.Yaml.Node

-- A step that only passes over tokens, and throws no fault but those that it meets among them.
structure Passes (ts : List Token) (x : Read α) : Prop where
  ends : ∀ r : Reading, r.tokens ⊆ ts →
    Ends (·.2.tokens ⊆ ts) (fun f => f = .malformed ∨ .broken f ∈ ts) (x.run r)

namespace Passes

variable {α β : Type} {ts : List Token} {x y : Read α}

theorem pure (a : α) : Passes ts (pure a) :=
  ⟨fun _ hr => hr⟩

theorem bind {f : α → Read β} (h : Passes ts x) (hf : ∀ a, Passes ts (f a)) : Passes ts (x >>= f) :=
  ⟨fun r hr => Ends.bind (h.ends r hr) fun p hp => (hf p.1).ends p.2 hp⟩

theorem ite {p : Prop} [Decidable p] (hx : Passes ts x) (hy : Passes ts y) :
    Passes ts (if p then x else y) := by
  split
  · exact hx
  · exact hy

theorem fail : Passes ts (Read.fail : Read α) :=
  ⟨fun _ _ => .inl rfl⟩

theorem get : Passes ts (get : Read Reading) :=
  ⟨fun _ hr => hr⟩

theorem modify {f : Reading → Reading} (hf : ∀ r, (f r).tokens ⊆ r.tokens) :
    Passes ts (modify f : Read Unit) :=
  ⟨fun r hr => List.Subset.trans (hf r) hr⟩

theorem peek : Passes ts Read.peek := by
  refine ⟨fun ⟨tokens, handles, anchors⟩ hr => ?_⟩
  cases tokens
  case nil => exact hr
  case cons t us =>
    cases t
    case broken f => exact .inr <| hr <| List.mem_cons_self ..
    all_goals exact hr

theorem pass : Passes ts Read.pass :=
  .modify fun _ => List.drop_subset ..

theorem skip (t : Token) : Passes ts (Read.skip t) :=
  peek.bind fun _ => .ite (pass.bind fun _ => .pure _) (.pure _)

theorem expect (t : Token) : Passes ts (Read.expect t) :=
  (skip t).bind fun _ => .ite (.pure _) .fail

theorem nextIn (stops : List Token) : Passes ts (Read.nextIn stops) :=
  peek.bind fun _ => .pure _

theorem name? (anchor? : Option String) (n? : Option Node) : Passes ts (Read.name? anchor? n?) := by
  unfold Read.name?
  split
  · exact .modify fun _ => List.Subset.refl _
  · exact .pure _

end Passes

open Passes

variable {ts : List Token}

theorem anchor?_passes : Passes ts anchor? := by
  refine peek.bind fun _ => ?_
  split
  · exact pass.bind fun _ => .pure _
  · exact .pure _

theorem tag?_passes : Passes ts tag? := by
  refine peek.bind fun _ => ?_
  split
  · exact pass.bind fun _ => .pure _
  · exact .pure _

theorem properties_passes : Passes ts properties := by
  refine anchor?_passes.bind fun _ => tag?_passes.bind fun tag? => ?_
  extract_lets meaning
  have meant (anchor? : Option String) : Passes ts (meaning anchor?) := by
    dsimp only [meaning]
    split
    · exact .pure _
    · exact .pure _
    · refine Passes.get.bind fun _ => ?_
      split
      · exact .pure _
      · exact .fail
  exact .ite (anchor?_passes.bind meant) (meant _)

theorem named_passes (p : Properties) {read : Read Node} (h : Passes ts read) :
    Passes ts (named p read) := by
  refine Passes.get.bind fun _ => ?_
  extract_lets anchors rest
  have finished : Passes ts (rest ()) :=
    (name? ..).bind fun _ => h.bind fun _ => (name? ..).bind fun _ => .pure _
  exact .ite (Passes.fail.bind fun _ => finished) finished

-- What holds of all readers that have this much room.
structure PassesWith (ts : List Token) (fuel : Nat) : Prop where
  node           : ∀ inBlock inMap, Passes ts (node inBlock inMap fuel)
  nodeUnless     : ∀ stops inBlock inMap, Passes ts (nodeUnless stops inBlock inMap fuel)
  blockItems     : ∀ done, Passes ts (blockItems done fuel)
  looseItems     : ∀ done, Passes ts (looseItems done fuel)
  blockEntries   : ∀ done, Passes ts (blockEntries done fuel)
  bracketItems   : ∀ first done, Passes ts (bracketItems first done fuel)
  bracketEntries : ∀ first done, Passes ts (bracketEntries first done fuel)

section

variable {fuel : Nat} (h : PassesWith ts fuel)
include h

theorem node_passes (inBlock inMap : Bool) : Passes ts (node inBlock inMap (fuel + 1)) := by
  rw [node]
  refine peek.bind fun _ => ?_
  split
  case h_1 =>
    refine pass.bind fun _ => Passes.get.bind fun _ => ?_
    split
    · exact .pure _
    · exact .fail
  case h_2 =>
    refine properties_passes.bind fun p => peek.bind fun _ => ?_
    split
    case h_1 => exact pass.bind fun _ => named_passes p <| .pure _
    case h_2 => exact pass.bind fun _ => named_passes p <| (h.bracketItems _ _).bind fun _ => .pure _
    case h_3 => exact pass.bind fun _ => named_passes p <| (h.bracketEntries _ _).bind fun _ => .pure _
    case h_4 =>
      refine .ite (named_passes p <| (h.looseItems _).bind fun _ => .pure _) <|
        .ite (pass.bind fun _ => named_passes p <| (h.blockItems _).bind fun _ => .pure _) <|
        .ite (pass.bind fun _ => named_passes p <| (h.blockEntries _).bind fun _ => .pure _) <|
        .ite (named_passes p <| .pure _) .fail

theorem nodeUnless_passes (stops : List Token) (inBlock inMap : Bool) :
    Passes ts (nodeUnless stops inBlock inMap (fuel + 1)) :=
  (nextIn stops).bind fun _ => .ite (.pure _) (h.node _ _)

theorem blockItems_passes (done : List Node) : Passes ts (blockItems done (fuel + 1)) := by
  rw [blockItems]
  refine (skip _).bind fun _ => .ite ?entry ?finish
  case entry  => exact (h.nodeUnless _ _ _).bind fun _ => h.blockItems _
  case finish => exact (expect _).bind fun _ => .pure _

theorem looseItems_passes (done : List Node) : Passes ts (looseItems done (fuel + 1)) := by
  rw [looseItems]
  refine (skip _).bind fun _ => .ite ?entry (.pure _)
  exact (h.nodeUnless _ _ _).bind fun _ => h.looseItems _

-- The value after a key, which may be left out.
theorem value_passes {β : Type} {stops : List Token} {inBlock inMap : Bool} {f : Node → Read β}
    (hf : ∀ v, Passes ts (f v)) :
    Passes ts (Read.skip .value >>= fun b =>
      if b then nodeUnless stops inBlock inMap fuel >>= f else pure empty >>= f) :=
  (skip _).bind fun _ => .ite ((h.nodeUnless _ _ _).bind hf) ((Passes.pure _).bind hf)

theorem blockEntries_passes (done : List (Node × Node)) : Passes ts (blockEntries done (fuel + 1)) := by
  rw [blockEntries]
  refine (skip _).bind fun _ => .ite ?entry ?finish
  case entry  => exact (h.nodeUnless _ _ _).bind fun _ => value_passes h fun _ => h.blockEntries _
  case finish => exact (expect _).bind fun _ => .pure _

theorem bracketItems_passes (first : Bool) (done : List Node) :
    Passes ts (bracketItems first done (fuel + 1)) := by
  rw [bracketItems]
  refine (skip _).bind fun _ => .ite (.pure _) ?_
  extract_lets item
  have read : Passes ts (item ()) := by
    refine (skip _).bind fun _ => .ite ?entry <| (skip _).bind fun _ => .ite (.pure _) ?item
    case entry => exact (h.nodeUnless _ _ _).bind fun _ => value_passes h fun _ => h.bracketItems _ _
    case item  => exact (h.node _ _).bind fun _ => h.bracketItems _ _
  exact .ite read ((expect _).bind fun _ => read)

theorem bracketEntries_passes (first : Bool) (done : List (Node × Node)) :
    Passes ts (bracketEntries first done (fuel + 1)) := by
  rw [bracketEntries]
  refine (skip _).bind fun _ => .ite (.pure _) ?_
  extract_lets item
  have read : Passes ts (item ()) := by
    refine (skip _).bind fun _ => .ite ?entry <| (skip _).bind fun _ => .ite (.pure _) ?key
    case entry => exact (h.nodeUnless _ _ _).bind fun _ => value_passes h fun _ => h.bracketEntries _ _
    case key   => exact (h.node _ _).bind fun _ => h.bracketEntries _ _
  exact .ite read ((expect _).bind fun _ => read)

end

theorem passes_with (fuel : Nat) : PassesWith ts fuel := by
  induction fuel
  case zero => constructor <;> intros <;> exact .fail
  case succ h =>
    exact ⟨node_passes h, nodeUnless_passes h, blockItems_passes h, looseItems_passes h,
      blockEntries_passes h, bracketItems_passes h, bracketEntries_passes h⟩

theorem directives_passes (hasVersion : Bool) (handles : List (String × String)) (fuel : Nat) :
    Passes ts (directives hasVersion handles fuel) := by
  induction fuel generalizing hasVersion handles
  case zero => exact .fail
  case succ hi =>
    rw [directives]
    refine peek.bind fun _ => ?_
    split
    case h_1 =>
      refine pass.bind fun _ => ?_
      split
      · exact .ite .fail (hi _ _)
      · exact .ite .fail (hi _ _)
      · exact hi _ _
    case h_2 => exact .pure _

theorem setHandles_passes (handles : List (String × String)) : Passes ts (setHandles handles) :=
  .modify fun _ => List.Subset.refl _

theorem explicitDocument_passes (room : Nat) : Passes ts (explicitDocument room) := by
  refine (directives_passes ..).bind fun _ => (setHandles_passes _).bind fun _ =>
    (expect _).bind fun _ => peek.bind fun _ => ?_
  split
  · exact .pure _
  · exact .ite (.pure _) ((passes_with room).node _ _)

theorem skipEnds_passes (fuel : Nat) : Passes ts (skipEnds fuel) := by
  induction fuel
  case zero    => exact .pure _
  case succ hi => exact (skip _).bind fun _ => .ite hi (.pure _)

theorem document?_passes (room : Nat) : Passes ts (document? room) := by
  refine peek.bind fun _ => ?_
  split
  case h_1 => exact .pure _
  case h_2 =>
    extract_lets finish
    have finished (n : Node) : Passes ts (finish n) := by
      refine (skipEnds_passes room).bind fun _ => peek.bind fun _ => ?_
      split
      · exact .pure _
      · exact (directives_passes ..).bind fun _ => .fail
    refine .ite ((explicitDocument_passes room).bind finished) ?_
    exact (setHandles_passes _).bind fun _ => ((passes_with room).node _ _).bind finished

-- A text is refused for its form, or for a fault among its tokens.
theorem ofTokens?_ends (ts : List Token) :
    Ends (fun _ => True) (fun f => f = .malformed ∨ .broken f ∈ ts) (ofTokens? ts) :=
  ((document?_passes _).ends ⟨ts, [], []⟩ (List.Subset.refl ts)).bind fun _ _ => trivial

end Outline.Yaml.Node
