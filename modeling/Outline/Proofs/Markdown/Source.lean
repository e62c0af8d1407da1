import Outline.Proofs.Markdown.Block
import Outline.Proofs.Text.Lines

namespace Outline

-- Blanks at the end of a text are trimmed off.
theorem Text.trimBy_concat {p : Char → Bool} {c : Char} (h : p c = true) (cs : List Char) :
    trimBy p (cs ++ [c]) = trimBy p cs := by
  rw [trimBy, List.dropWhile_append]
  split
  case isTrue empty =>
    rw [trimBy, List.isEmpty_iff.mp empty]
    simp [h]
  case isFalse =>
    rw [List.reverse_append, List.reverse_singleton, List.singleton_append, List.dropWhile_cons_of_pos h,
      trimBy]

namespace Markdown

-- Contents that keep the text of their block as it is written.
inductive Kept : ContentKind → Prop
  | list       : Kept .list
  | blockquote : Kept .blockquote
  | table      : Kept .table

-- Such a content says what stands on the lines of its block, when the lines of the text are these.
def Shows (lines : List String) (b : Whole) (n : Node) : Prop :=
  ∀ c, n = .content c → Kept c.kind → c.value? = sourceText? lines b.first.lines?

-- No line up to the end of the block has other ends of lines in it.
def PlainUpTo (lines : List String) (b : Whole) : Prop :=
  ∀ first after, b.first.lines? = some (first, after) → ∀ l ∈ lines.take after, Text.IsPlain l

variable {inline : String → List Inline} {lines : List String} {bs : List Whole} {ns : List Node}

theorem value?_of_nodeOf {t : Token} {rest : List Token} {c : Content}
    (h : nodeOf inline lines t rest = .ok (.content c)) (kept : Kept c.kind) :
    c.value? = sourceText? lines t.lines? := by
  unfold nodeOf at h
  dsimp only at h
  split at h
  case h_10 =>
    split at h
    case isTrue  => cases h
    case isFalse =>
      cases h
      cases kept
  -- Of the others, those that are kept say just this.
  all_goals cases h
  all_goals first | rfl | cases kept

theorem node_of_nodes (h : nodes inline lines (bs.flatMap Whole.tokens) = .ok ns) :
    List.Forall₂ (fun b n => b.node inline lines = .ok n) bs ns := by
  rw [nodes_flatMap] at h
  exact (Ends.mapM (fun b : Whole => .self (b.node inline lines)) bs).of_ok h

theorem shows_of_nodes (h : nodes inline lines (bs.flatMap Whole.tokens) = .ok ns) :
    List.Forall₂ (Shows lines) bs ns := by
  refine (node_of_nodes h).imp fun b n made => ?_
  rintro c rfl kept
  exact value?_of_nodeOf made kept

-- The text of lines depends on no line after them.
theorem sourceText?_of_take {ls ls' : List String} {first after : Nat}
    (h : ls.take after = ls'.take after) :
    sourceText? ls (some (first, after)) = sourceText? ls' (some (first, after)) := by
  simp only [sourceText?]
  rw [← List.drop_take, h, List.drop_take]

theorem trim_intercalate_concat (ls : List String) :
    Text.trim ("\n".intercalate (ls ++ [""])) = Text.trim ("\n".intercalate ls) := by
  by_cases none : ls = []
  case pos => rw [none]; rfl
  case neg =>
    have feed : Text.isBlank '\n' = true := by decide
    rw [String.intercalate_append_of_ne_nil none (by simp), String.intercalate_singleton,
      String.append_empty, Text.trim, String.toList_append]
    exact congrArg String.ofList <| Text.trimBy_concat feed _

theorem sourceText?_concat (ls : List String) (range? : Option (Nat × Nat)) :
    sourceText? (ls ++ [""]) range? = sourceText? ls range? := by
  obtain _ | ⟨first, after⟩ := range?
  case none => rfl
  case some =>
    have same : Text.trim ("\n".intercalate (((ls ++ [""]).drop first).take (after - first))) =
        Text.trim ("\n".intercalate ((ls.drop first).take (after - first))) := by
      rw [List.drop_append, List.take_append]
      generalize after - first - (ls.drop first).length = left
      cases first - ls.length
      case zero =>
        cases left
        case zero   => rw [List.take_zero, List.append_nil]
        case succ _ =>
          rw [List.drop_zero, List.take_succ_cons, List.take_nil, trim_intercalate_concat]
      case succ _ => rw [List.drop_succ_cons, List.drop_nil, List.take_nil, List.append_nil]
    simp only [sourceText?, same]

-- Lists, quotes and tables are told by the pieces of the lines. Whether the last piece is there does not
-- count if it is empty.
theorem sourceText?_lines (text : String) (range? : Option (Nat × Nat)) :
    sourceText? (Text.lines text) range? =
      sourceText? ((Text.fileLines text).flatMap Text.pieces) range? := by
  obtain same | more := Text.flatMap_pieces_eq_or text
  · rw [same]
  · rw [more, sourceText?_concat]

theorem sourceText?_fileLines (text : String) {b : Whole} (plain : PlainUpTo (Text.fileLines text) b) :
    sourceText? (Text.lines text) b.first.lines? = sourceText? (Text.fileLines text) b.first.lines? := by
  cases place : b.first.lines?
  case none => rfl
  case some range =>
    rw [sourceText?_lines]
    exact sourceText?_of_take <| Text.take_flatMap_pieces _ (plain _ _ place)

-- A list, a quote and a table say what stands on their lines, with a new line at each end of a line.
-- These are the lines of the text itself where no line up to there has other ends of lines in it.
theorem read_shows (text : String) :
    ∃ (bs : List Whole) (ns : List Node),
      (Block.read (Line.ofText text)).tokens = bs.flatMap Whole.tokens ∧ read text = .ok ns ∧
        List.Forall₂ (fun b n => Shows ((Text.fileLines text).flatMap Text.pieces) b n ∧
          (PlainUpTo (Text.fileLines text) b → Shows (Text.fileLines text) b n)) bs ns := by
  obtain ⟨bs, parts, _⟩ := exists_wholes text
  obtain ⟨ns, made⟩ := exists_nodes text
  refine ⟨bs, ns, parts, made, ?_⟩
  rw [read, parts] at made
  refine (shows_of_nodes made).imp fun b n shows => ⟨fun c hc kept => ?_, fun plain c hc kept => ?_⟩
  · rw [shows c hc kept, sourceText?_lines]
  · rw [shows c hc kept, sourceText?_fileLines text plain]

-- A paragraph with a line separator in it, and a list after it.
def separated : String := "a\u2028b\n\n- x\n"

def separatedBlocks : List Whole := [
  .around ⟨.paragraph, .opens, some (0, 1), ""⟩ [⟨.inline, .alone, some (0, 1), "a\u2028b"⟩]
    ⟨.paragraph, .closes, none, ""⟩ rfl rfl (.alone rfl),
  .around ⟨.bulletList, .opens, some (2, 3), ""⟩
    (Token.around .listItem 2 3 <| Token.ofText .paragraph 2 3 "x")
    ⟨.bulletList, .closes, none, ""⟩ rfl rfl (.token_around _ _ _ <| .token_around _ _ _ <| .alone rfl)]

-- The separator is an end of a line for the node, and none for the block.
theorem not_shows_separated :
    ∃ (bs : List Whole) (ns : List Node),
      (Block.read (Line.ofText separated)).tokens = bs.flatMap Whole.tokens ∧
        read separated = .ok ns ∧ ¬List.Forall₂ (Shows (Text.fileLines separated)) bs ns := by
  have parts : (Block.read (Line.ofText separated)).tokens = separatedBlocks.flatMap Whole.tokens := by
    decide +kernel
  obtain ⟨ns, made⟩ := exists_nodes separated
  refine ⟨separatedBlocks, ns, parts, made, fun shows => ?_⟩
  rw [read, parts] at made
  obtain _ | ⟨_, _ | ⟨list, _⟩⟩ := node_of_nodes made
  cases list
  obtain _ | ⟨_, _ | ⟨shown, _⟩⟩ := shows
  have same := shown _ rfl .list
  revert same
  decide +kernel

end Markdown
end Outline
