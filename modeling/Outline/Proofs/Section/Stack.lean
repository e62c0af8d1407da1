import Outline.Proofs.Section.Forest

namespace Outline

open Node (Parts)

namespace Section

def addContent (s : Section) (cs : List Content) : Section := { s with content := s.content ++ cs }

def addChildren (s : Section) (ss : List Section) : Section := { s with children := s.children ++ ss }

variable (s : Section)

@[simp]
theorem addContent_nil : s.addContent [] = s := by
  cases s
  simp [addContent]

@[simp]
theorem addContent_addContent (cs ds : List Content) :
    (s.addContent cs).addContent ds = s.addContent (cs ++ ds) := by
  simp [addContent]

@[simp]
theorem addChildren_nil : s.addChildren [] = s := by
  cases s
  simp [addChildren]

@[simp]
theorem addChildren_addChildren (ss ts : List Section) :
    (s.addChildren ss).addChildren ts = s.addChildren (ss ++ ts) := by
  simp [addChildren]

@[simp]
theorem addChildren_depth (ss : List Section) : (s.addChildren ss).depth = s.depth := rfl

end Section

-- A stream of nodes is read once: the sections that are open are on a stack, the innermost first. A
-- section joins the one around it when it is closed, as nothing comes after it there until then.
structure Building where
  sections : List Section
  stack    : List Section

namespace Building

-- Sections are put at the end of the innermost one that is open.
def attach (b : Building) (ss : List Section) : Building :=
  match b.stack with
  | []        => { b with sections := b.sections ++ ss }
  | s :: rest => { b with stack := s.addChildren ss :: rest }

theorem attach_length (b : Building) (ss : List Section) : (b.attach ss).stack.length = b.stack.length := by
  obtain ⟨sections, stack⟩ := b
  cases stack <;> rfl

def push (s : Section) (b : Building) : Building := { b with stack := s :: b.stack }

-- Closes the sections of this depth and deeper ones.
def close (depth : Nat) : Building → Building
  | ⟨sections, []⟩        => ⟨sections, []⟩
  | ⟨sections, s :: rest⟩ =>
    if depth ≤ s.depth then close depth (attach ⟨sections, rest⟩ [s]) else ⟨sections, s :: rest⟩
termination_by b => b.stack.length
decreasing_by simp [attach_length]

def step (b : Building) : Node → Building
  | .heading h => (b.close h.depth).push ⟨h.title, h.depth, h.position?, [], []⟩
  | .content c => match b.stack with
    | []        => b
    | s :: rest => { b with stack := s.addContent [c] :: rest }
  | .aside _   => b

-- All sections that are open lie above this depth.
def Above (depth : Nat) (b : Building) : Prop := ∀ s ∈ b.stack.head?, s.depth < depth

variable {b : Building} {s : Section} {d e : Nat} {nodes : List Node}

theorem close_of_above (h : b.Above d) : b.close d = b := by
  obtain ⟨sections, stack⟩ := b
  cases stack
  case nil            => rw [close]
  case cons top inner => rw [close, if_neg (not_le.mpr (h top rfl))]

theorem close_push (h : d ≤ s.depth) : (b.push s).close d = (b.attach [s]).close d := by
  rw [push, close, if_pos h]

theorem close_close (h : d ≤ e) (b : Building) : (b.close e).close d = b.close d := by
  induction hl : b.stack.length generalizing b
  case zero =>
    obtain ⟨sections, stack⟩ := b
    obtain rfl := List.length_eq_zero_iff.mp hl
    rw [close]
  case succ n hi =>
    obtain ⟨sections, stack⟩ := b
    match stack, hl with
    | s :: rest, hl =>
      by_cases deep : e ≤ s.depth
      case neg => rw [close.eq_2 e, if_neg deep]
      case pos =>
        rw [close.eq_2 e, if_pos deep, close.eq_2 d, if_pos (h.trans deep)]
        exact hi _ (by simpa [attach_length] using hl)

theorem attach_above (h : b.Above d) (ss : List Section) : (b.attach ss).Above d := by
  obtain ⟨sections, stack⟩ := b
  cases stack
  case nil  => exact h
  case cons => simpa [attach, Above] using h

theorem attach_nil : b.attach [] = b := by
  obtain ⟨sections, stack⟩ := b
  cases stack <;> simp [attach]

theorem attach_attach (ss ts : List Section) : (b.attach ss).attach ts = b.attach (ss ++ ts) := by
  obtain ⟨sections, stack⟩ := b
  cases stack <;> simp [attach]

-- What stands right below a heading goes to its section.
theorem foldl_lead (lead : List Node) (h : ∀ n ∈ lead, n.isHeading = false) (b : Building) (s : Section) :
    lead.foldl step (b.push s) = b.push (s.addContent (lead.filterMap Node.content?)) := by
  induction lead generalizing s
  case nil => simp
  case cons n lead hi =>
    have ⟨own, others⟩ := List.forall_mem_cons.mp h
    cases n
    case heading   => contradiction
    case content c =>
      rw [List.foldl_cons, step]
      simpa [push, Node.content?] using hi others (s.addContent [c])
    case aside a   =>
      have none : (Node.aside a :: lead).filterMap Node.content? = lead.filterMap Node.content? := rfl
      rw [none]
      exact hi others s

-- Where nothing in a stream closes what is open, its forest is what is added.
theorem close_foldl (nodes : List Node) (d : Nat) (b : Building) (above : b.Above d)
    (deep : ∀ h, .heading h ∈ nodes → d ≤ h.depth)
    (opens : b.stack = [] ∨ ∀ n ∈ nodes.head?, n.isHeading) :
    (nodes.foldl step b).close d = b.attach (Section.forest nodes) := by
  induction nodes using Section.forest_induction generalizing d b
  case nil => rw [Section.forest_nil, attach_nil, List.foldl_nil, close_of_above above]
  case skip n rest hn hi =>
    have empty : b.stack = [] := opens.resolve_right fun opens => by simp [opens n rfl] at hn
    have skipped : step b n = b := by
      cases n
      case heading => contradiction
      all_goals simp [step, empty]
    rw [List.foldl_cons, skipped, Section.forest_cons_of_not_heading hn]
    exact hi d b above (fun h mem => deep h (List.mem_cons_of_mem _ mem)) (.inl empty)
  case heading h lead inner after p hi hi' =>
    have hd : d ≤ h.depth := deep h (List.mem_cons_self ..)
    let own : Section := ⟨h.title, h.depth, h.position?, lead.filterMap Node.content?, []⟩
    let whole := own.addChildren (Section.forest inner)
    let within := inner.foldl step (b.push own)
    have opened : step b (.heading h) = b.push ⟨h.title, h.depth, h.position?, [], []⟩ := by
      rw [step, close_of_above fun s hs => (above s hs).trans_le hd]
    have inside : within.close (h.depth + 1) = b.push whole := by
      refine hi (h.depth + 1) (b.push own) ?above ?deep (.inr p.opens)
      case above =>
        rintro s ⟨⟩
        exact Nat.lt_succ_self _
      case deep =>
        intro h' mem
        simpa [Node.closes, Nat.succ_le_iff] using p.inner _ mem
    -- What comes next closes the section of the heading, and all that is open in it.
    have closed {e : Nat} (he : e ≤ h.depth) : within.close e = (b.attach [whole]).close e := by
      rw [← close_close (Nat.le_succ_of_le he), inside, close_push he]
    have onward : (after.foldl step within).close d = (after.foldl step (b.attach [whole])).close d := by
      cases after
      case nil => exact closed hd
      case cons n after =>
        have closes := p.after n rfl
        cases n
        case heading next =>
          have he : next.depth ≤ h.depth := by simpa [Node.closes] using closes
          simp only [List.foldl_cons, step, closed he]
        all_goals contradiction
    have rest := hi' d (b.attach [whole]) (attach_above above _)
      (fun h' mem => deep h' (by simp [mem])) (.inr fun n hn => Node.isHeading_of_closes (p.after n hn))
    rw [Section.forest_heading p, List.foldl_cons, List.foldl_append, List.foldl_append, opened,
      foldl_lead lead p.lead]
    exact onward.trans <| rest.trans <| attach_attach ..

end Building

namespace Section

-- Reads a stream of nodes into sections.
def build (nodes : List Node) : List Section :=
  ((nodes.foldl Building.step ⟨[], []⟩).close 0).sections

-- Reading a stream with a stack of open sections gives its forest.
theorem build_eq_forest (nodes : List Node) : build nodes = forest nodes := by
  rw [build, Building.close_foldl nodes 0 ⟨[], []⟩ nofun (by simp) (.inl rfl)]
  rfl

end Section
end Outline
