import Outline.Proofs.Markdown.Nodes

namespace Outline.Markdown

-- Blocks one after the other. Nodes stand for each of them, though not for what is in it.
inductive Blocks : List Token → Prop
  | nil : Blocks []
  | alone {t : Token} (h : t.nesting = .alone) (known : t.Known) : Blocks [t]
  | around {t t' : Token} {inner} (opens : t.nesting = .opens) (closes : t'.nesting = .closes)
      (known : t.Known) (h : Balanced inner) : Blocks (t :: inner ++ [t'])
  | append {ts ts'} (h : Blocks ts) (h' : Blocks ts') : Blocks (ts ++ ts')

namespace Blocks

variable {ts : List Token}

theorem balanced (h : Blocks ts) : Balanced ts := by
  induction h
  case nil                     => exact .nil
  case alone h _               => exact .alone h
  case around opens closes _ h => exact .around opens closes h
  case append hi hi'           => exact hi.append hi'

theorem exists_wholes (h : Blocks ts) :
    ∃ bs : List Whole, ts = bs.flatMap Whole.tokens ∧ ∀ b ∈ bs, b.first.Known := by
  induction h
  case nil => exact ⟨[], rfl, List.forall_mem_nil _⟩
  case alone t h known =>
    exact ⟨[.alone t h], rfl, List.forall_mem_singleton.mpr known⟩
  case around t t' inner opens closes known h =>
    exact ⟨[.around t inner t' opens closes h], (List.append_nil _).symm,
      List.forall_mem_singleton.mpr known⟩
  case append hi hi' =>
    obtain ⟨bs, rfl, known⟩ := hi
    obtain ⟨bs', rfl, known'⟩ := hi'
    exact ⟨bs ++ bs', List.flatMap_append.symm, List.forall_mem_append.mpr ⟨known, known'⟩⟩

end Blocks

theorem Balanced.token_around {inner : List Token} (kind : BlockKind) (first after : Nat)
    (h : Balanced inner) : Balanced (Token.around kind first after inner) :=
  .around rfl rfl h

theorem Blocks.token_around {kind : BlockKind} {inner : List Token} (holder : kind.Holder)
    (first after : Nat) (h : Balanced inner) : Blocks (Token.around kind first after inner) :=
  .around rfl rfl (.opens rfl holder) h

namespace Block

variable {f : Frame} {number : Nat} {own beyond : List Line} {p : Parsed}

theorem leaf_blocks {kind : BlockKind} (h : kind.Leaf) (number taken : Nat) (content : List Char) :
    Blocks (leaf kind number taken content).tokens :=
  .alone rfl (.alone rfl h)

theorem text_blocks {kind : BlockKind} (h : kind.Holder) (number taken : Nat) (content : List Char) :
    Blocks (text kind number taken content).tokens :=
  .token_around h _ _ (.alone rfl)

theorem frontMatter?_blocks (h : frontMatter? f number own = some p) : Blocks p.tokens := by
  unfold frontMatter? at h
  split at h
  case h_2 => contradiction
  case h_1 =>
    split at h
    case isTrue  => contradiction
    case isFalse =>
      obtain ⟨_, _, made⟩ := Option.bind_eq_some_iff.mp h
      cases made
      exact leaf_blocks .frontMatter ..

theorem table?_blocks (h : table? f number own = some p) : Blocks p.tokens := by
  unfold table? at h
  obtain ⟨columns, _, rfl⟩ := Option.map_eq_some_iff.mp h
  exact .token_around .table _ _ .nil

theorem code?_blocks (h : code? f number own = some p) : Blocks p.tokens := by
  unfold code? at h
  split at h
  case isFalse => contradiction
  case isTrue =>
    cases h
    exact leaf_blocks .indentedCode ..

theorem fence?_blocks (h : fence? f number own = some p) : Blocks p.tokens := by
  unfold fence? at h
  split at h
  case h_2 => contradiction
  case h_1 =>
    obtain ⟨_, _, made⟩ := Option.bind_eq_some_iff.mp h
    cases made
    exact leaf_blocks .fence ..

theorem rule?_blocks (h : rule? f number own = some p) : Blocks p.tokens := by
  unfold rule? at h
  split at h
  case isFalse => contradiction
  case isTrue =>
    cases h
    exact leaf_blocks .rule ..

theorem html?_blocks (h : html? f number own = some p) : Blocks p.tokens := by
  unfold html? at h
  split at h
  case h_2 => contradiction
  case h_1 =>
    obtain ⟨_, _, made⟩ := Option.bind_eq_some_iff.mp h
    cases made
    exact leaf_blocks .html ..

theorem heading?_blocks (h : heading? f number own = some p) : Blocks p.tokens := by
  unfold heading? at h
  obtain ⟨_, _, rfl⟩ := Option.map_eq_some_iff.mp h
  exact text_blocks .heading ..

theorem setext?_blocks (h : setext? f number own = some p) : Blocks p.tokens := by
  unfold setext? at h
  split at h
  case h_2 => contradiction
  case h_1 =>
    split at h
    case isTrue  => contradiction
    case isFalse =>
      obtain ⟨_, _, made⟩ := Option.bind_eq_some_iff.mp h
      cases made
      exact text_blocks .heading ..

-- A definition is read, and leaves no token.
theorem definition?_blocks (h : definition? f own beyond = some p) : Blocks p.tokens := by
  unfold definition? at h
  split at h
  case isFalse => contradiction
  case isTrue =>
    obtain ⟨_, _, made⟩ := Option.bind_eq_some_iff.mp h
    cases made
    exact .nil

theorem paragraph_blocks (f : Frame) (number : Nat) (own beyond : List Line) :
    Blocks (paragraph f number own beyond).tokens :=
  text_blocks .paragraph ..

-- A reader of blocks that nodes stand for.
def Sound (inner : Reader) : Prop :=
  ∀ f number own beyond, Blocks (inner f number own beyond).tokens

variable {inner inQuote inItem : Reader}

theorem quote?_blocks (sound : Sound inner) (h : quote? inner f number own beyond = some p) :
    Blocks p.tokens := by
  unfold quote? at h
  split at h
  case h_2 => contradiction
  case h_1 =>
    split at h
    case isTrue  => contradiction
    case isFalse =>
      cases h
      exact .token_around .blockquote _ _ (sound ..).balanced

theorem ite_balanced {c : Prop} [Decidable c] {q : Parsed} (hp : Balanced p.tokens)
    (hq : Balanced q.tokens) : Balanced (if c then p else q).tokens := by
  split <;> assumption

theorem item_balanced (sound : Sound inner) (f : Frame) (m : Marker) (number : Nat) (first : Line)
    (rest beyond : List Line) : Balanced (item inner f m number first rest beyond).tokens := by
  unfold item
  exact .token_around _ _ _ <| ite_balanced .nil (sound ..).balanced

theorem items_balanced (sound : Sound inner) (f : Frame) (m : Marker) (beyond : List Line)
    (fuel number : Nat) (lines : List Line) :
    Balanced (items inner f m beyond fuel number lines).tokens := by
  induction fuel generalizing m number lines
  case zero => exact .nil
  case succ fuel hi =>
    cases lines
    case nil => exact .nil
    case cons first rest =>
      have opened := item_balanced sound f m number first rest beyond
      unfold items
      dsimp only
      split
      case h_1 => exact opened
      case h_2 =>
        split
        case h_1 => exact opened
        case h_2 => exact opened.append (hi ..)

theorem list?_blocks (sound : Sound inner) (h : list? inner f number own beyond = some p) :
    Blocks p.tokens := by
  unfold list? at h
  split at h
  case h_2 => contradiction
  case h_1 =>
    obtain ⟨m, _, made⟩ := Option.bind_eq_some_iff.mp h
    cases made
    refine .token_around ?_ _ _ (items_balanced sound ..)
    split
    case isTrue  => exact .orderedList
    case isFalse => exact .bulletList

theorem orElse_blocks {a b : Option Parsed} (ha : ∀ p, a = some p → Blocks p.tokens)
    (hb : ∀ p, b = some p → Blocks p.tokens) (p : Parsed) (h : (a <|> b) = some p) :
    Blocks p.tokens := by
  cases a
  case none   => exact hb p h
  case some q => exact ha p h

theorem getD_blocks {a : Option Parsed} (ha : ∀ p, a = some p → Blocks p.tokens)
    (h : Blocks p.tokens) : Blocks (a.getD p).tokens := by
  cases a
  case none   => exact h
  case some q => exact ha q rfl

theorem one_blocks (quotes : Sound inQuote) (lists : Sound inItem) (f : Frame) (number : Nat)
    (own beyond : List Line) : Blocks (one inQuote inItem f number own beyond).tokens := by
  unfold one
  refine getD_blocks ?_ (paragraph_blocks ..)
  refine orElse_blocks (fun _ => frontMatter?_blocks) <| orElse_blocks (fun _ => table?_blocks) ?_
  refine orElse_blocks (fun _ => code?_blocks) <| orElse_blocks (fun _ => fence?_blocks) ?_
  refine orElse_blocks (fun _ => quote?_blocks quotes) <| orElse_blocks (fun _ => rule?_blocks) ?_
  refine orElse_blocks (fun _ => list?_blocks lists) <| orElse_blocks (fun _ => definition?_blocks) ?_
  refine orElse_blocks (fun _ => html?_blocks) <| orElse_blocks (fun _ => heading?_blocks) ?_
  exact fun _ => setext?_blocks

-- What has been read stays the first part of what is read.
theorem loop_blocks (quotes : Sound inQuote) (lists : Sound inItem) (f : Frame) (beyond : List Line)
    (done : List Token) (h : Blocks done.reverse) (keys : List String) (number taken fuel : Nat)
    (own : List Line) :
    Blocks (loop inQuote inItem f beyond done keys number taken fuel own).tokens := by
  induction fuel generalizing done keys number taken own
  case zero => exact h
  case succ fuel hi =>
    cases own
    case nil => exact h
    case cons first rest =>
      unfold loop
      dsimp only
      split
      case h_1 => exact h
      case h_2 =>
        split
        case isTrue  => exact h
        case isFalse =>
          refine hi _ ?_ ..
          simpa using h.append (one_blocks quotes lists ..)

theorem skip_sound : Sound skip := by
  intro f number own beyond
  unfold skip
  dsimp only
  split <;> exact .nil

theorem readIn_sound (room : Nat) : Sound (readIn room) := by
  induction room using readIn.induct
  case case1 => exact skip_sound
  case case2 => exact fun f number own beyond => loop_blocks skip_sound skip_sound f beyond [] .nil ..
  case case3 room hi hi' =>
    exact fun f number own beyond => loop_blocks hi hi' f beyond [] .nil ..

theorem read_blocks (lines : List Line) : Blocks (read lines).tokens :=
  readIn_sound ..

end Block

-- A text is read as blocks, and there is a node for each of them.
theorem exists_wholes (text : String) :
    ∃ bs : List Whole, (Block.read (Line.ofText text)).tokens = bs.flatMap Whole.tokens ∧
      ∀ b ∈ bs, b.first.Known :=
  (Block.read_blocks _).exists_wholes

-- There are nodes of every text.
theorem exists_nodes (text : String) : ∃ ns, read text = .ok ns := by
  obtain ⟨bs, parts, known⟩ := exists_wholes text
  rw [read, parts]
  exact exists_of_known known

end Outline.Markdown
