import Mathlib.Init
import Outline.Text.Lines
import Outline.Text.Split

namespace Outline.Text

theorem unifyFrom_eq (done cs : List Char) : unifyFrom done cs = done.reverse ++ unifyFrom [] cs := by
  refine unifyFrom.induct (motive := fun _ cs =>
    ∀ done, unifyFrom done cs = done.reverse ++ unifyFrom [] cs) ?_ ?_ ?_ [] cs done
  case refine_1 => simp [unifyFrom]
  case refine_2 =>
    intro _ rest hi done
    rw [unifyFrom.eq_2, hi, unifyFrom.eq_2 [], hi ['\n']]
    simp
  case refine_3 =>
    intro _ c rest single hi done
    rw [unifyFrom.eq_3 _ _ _ single, hi, unifyFrom.eq_3 [] _ _ single, hi [_]]
    simp

theorem unifyNewlines_pair (rest : List Char) :
    unifyNewlines ('\r' :: '\n' :: rest) = '\n' :: unifyNewlines rest := by
  rw [unifyNewlines, unifyFrom, unifyFrom_eq]
  rfl

theorem unifyNewlines_cons {c : Char} {rest : List Char}
    (single : ∀ rest', c = '\r' → rest = '\n' :: rest' → False) :
    unifyNewlines (c :: rest) = (if c = '\r' then '\n' else c) :: unifyNewlines rest := by
  rw [unifyNewlines, unifyFrom.eq_3 _ _ _ single, unifyFrom_eq]
  simp [unifyNewlines]

-- One carriage return after another is gone.
theorem newlines_induction {motive : List Char → Prop} (nil : motive [])
    (pair : ∀ rest, motive rest → motive ('\r' :: '\n' :: rest))
    (cons : ∀ c rest, (∀ rest', c = '\r' → rest = '\n' :: rest' → False) → motive rest →
      motive (c :: rest)) (cs : List Char) : motive cs :=
  unifyFrom.induct (motive := fun _ => motive) (fun _ => nil) (fun _ => pair) (fun _ => cons) [] cs

theorem return_not_mem_unifyNewlines (cs : List Char) : '\r' ∉ unifyNewlines cs := by
  induction cs using newlines_induction
  case nil               => simp [unifyNewlines, unifyFrom]
  case pair rest hi      => simp [unifyNewlines_pair, hi]
  case cons c rest single hi =>
    rw [unifyNewlines_cons single]
    split
    case isTrue    => simp [hi]
    case isFalse h => simp [hi, Ne.symm h]

theorem linesFrom_unifyNewlines (done : List (List Char)) (open? : Option (List Char)) (cs : List Char) :
    linesFrom done open? (unifyNewlines cs) = linesFrom done open? cs := by
  have feed (done : List (List Char)) (open? : Option (List Char)) (rest : List Char) :
      linesFrom done open? ('\n' :: rest) = linesFrom ((open?.getD []).reverse :: done) none rest := by
    rw [linesFrom.eq_4 _ _ '\n' _ fun _ same => absurd same (by decide), if_pos (by decide)]
  induction done, open?, cs using linesFrom.induct
  case case1 => rfl
  case case2 done open? rest hi => rw [unifyNewlines_pair, feed, linesFrom, hi]
  case case3 done open? c rest single ends hi =>
    rw [unifyNewlines_cons single, linesFrom.eq_4 _ _ _ _ single, if_pos ends, ← hi]
    split
    case isTrue => rw [feed]
    case isFalse h => rw [linesFrom.eq_4 _ _ _ _ fun _ same => absurd same h, if_pos ends]
  case case4 done open? c rest single inside hi =>
    have h : c ≠ '\r' := by
      rintro rfl
      exact inside (by decide)
    rw [unifyNewlines_cons single, if_neg h, linesFrom.eq_4 _ _ _ _ fun _ same => absurd same h,
      linesFrom.eq_4 _ _ _ _ single, if_neg inside, if_neg inside, hi]

-- Which newlines end the lines of a text does not count.
theorem lines_unifyNewlines (s : String) : lines (String.ofList (unifyNewlines s.toList)) = lines s := by
  simp [lines, linesFrom_unifyNewlines]

-- The lines of a text that only newlines end. There is one more after the last newline, which may be
-- empty.
def fileLines (s : String) : List String := (split '\n' (unifyNewlines s.toList)).map String.ofList

-- No character of the line ends a line.
def IsPlain (l : String) : Prop := ∀ c ∈ l.toList, endsLine c = false

instance : DecidablePred IsPlain := fun l =>
  inferInstanceAs <| Decidable (∀ c ∈ l.toList, endsLine c = false)

-- What is between the characters that end lines.
def pieces (l : String) : List String := (l.toList.splitOnP endsLine).map String.ofList

theorem pieces_of_isPlain {l : String} (h : IsPlain l) : pieces l = [l] := by
  rw [pieces, List.splitOnP_eq_singleton h, List.map_singleton, String.ofList_toList]

variable {separator : Char} {ends : Char → Bool} {ls : List String} {cs : List Char}

theorem splitOnP_join (h : ends separator = true) (parts : List (List Char)) (ne : parts ≠ []) :
    (join separator parts).splitOnP ends = parts.flatMap (List.splitOnP ends) := by
  induction parts using join.induct
  case case1 => exact absurd rfl ne
  case case2 part => rw [join, List.flatMap_singleton]
  case case3 part rest more hi =>
    rw [join.eq_3 _ _ _ more, List.splitOnP_append_cons _ _ h, List.flatMap_cons, hi more]

-- The lines that more characters end are pieces of those that fewer end.
theorem flatMap_splitOnP_split (h : ends separator = true) (cs : List Char) :
    (split separator cs).flatMap (List.splitOnP ends) = cs.splitOnP ends := by
  rw [← splitOnP_join h _ (split_ne_nil separator cs), join_split]

-- The lines that are done, the one that has begun, and what the rest of the text makes.
def allLines (done : List (List Char)) (open? : Option (List Char)) (cs : List Char) : List (List Char) :=
  done.reverse ++ (cs.splitOnP endsLine).modifyHead ((open?.getD []).reverse ++ ·)

theorem allLines_none (done : List (List Char)) (cs : List Char) :
    allLines done none cs = done.reverse ++ cs.splitOnP endsLine := by
  cases parts : cs.splitOnP endsLine <;> simp [allLines, parts]

-- What ends a line at the very end of the text begins no further one.
theorem allLines_eq_or (h : '\r' ∉ cs) (done : List (List Char)) (open? : Option (List Char)) :
    allLines done open? cs = linesFrom done open? cs ∨
      allLines done open? cs = linesFrom done open? cs ++ [[]] := by
  induction done, open?, cs using linesFrom.induct
  case case1 done open? =>
    cases open?
    case none      => exact .inr rfl
    case some line => exact .inl (by simp [allLines, linesFrom])
  case case2 => simp at h
  case case3 done open? c rest single ends hi =>
    have same : allLines done open? (c :: rest) = allLines ((open?.getD []).reverse :: done) none rest := by
      rw [allLines_none, allLines, List.splitOnP_cons_eq_if_modifyHead, if_pos ends]
      simp
    rw [same, linesFrom.eq_4 _ _ _ _ single, if_pos ends]
    exact hi (List.not_mem_of_not_mem_cons h)
  case case4 done open? c rest single inside hi =>
    have same : allLines done open? (c :: rest) = allLines done (some (c :: open?.getD [])) rest := by
      rw [allLines, allLines, List.splitOnP_cons_eq_if_modifyHead, if_neg inside,
        List.modifyHead_modifyHead]
      simp [Function.comp_def]
    rw [same, linesFrom.eq_4 _ _ _ _ single, if_neg inside]
    exact hi (List.not_mem_of_not_mem_cons h)

theorem flatMap_pieces_eq_or (s : String) :
    (fileLines s).flatMap pieces = lines s ∨ (fileLines s).flatMap pieces = lines s ++ [""] := by
  have parts : (fileLines s).flatMap pieces =
      (allLines [] none (unifyNewlines s.toList)).map String.ofList := by
    have feed : endsLine '\n' = true := by decide
    rw [allLines_none, List.reverse_nil, List.nil_append, ← flatMap_splitOnP_split feed,
      List.map_flatMap, fileLines, List.flatMap_map]
    simp only [pieces, String.toList_ofList]
  rw [← lines_unifyNewlines s, lines, String.toList_ofList, parts]
  obtain whole | fewer := allLines_eq_or (return_not_mem_unifyNewlines s.toList) [] none
  · exact .inl (congrArg _ whole)
  · exact .inr <| by rw [fewer, List.map_append]; rfl

theorem take_flatMap_pieces (count : Nat) (plain : ∀ l ∈ ls.take count, IsPlain l) :
    (ls.flatMap pieces).take count = ls.take count := by
  induction ls generalizing count
  case nil => rfl
  case cons l ls hi =>
    cases count
    case zero => rfl
    case succ count =>
      rw [List.take_succ_cons, List.forall_mem_cons] at plain
      rw [List.flatMap_cons, pieces_of_isPlain plain.1, List.singleton_append, List.take_succ_cons,
        List.take_succ_cons, hi count plain.2]

-- No line feed stands in the text.
def Unbroken (s : String) : Prop := '\n' ∉ s.toList

instance : DecidablePred Unbroken := fun s => inferInstanceAs <| Decidable ('\n' ∉ s.toList)

section

variable {s t between : String} {parts : List String}

@[simp]
theorem unbroken_append : Unbroken (s ++ t) ↔ Unbroken s ∧ Unbroken t := by
  simp [Unbroken]

theorem unbroken_join : Unbroken (String.join parts) ↔ ∀ s ∈ parts, Unbroken s := by
  simp [Unbroken]

theorem unbroken_intercalate (h : Unbroken between) :
    Unbroken (between.intercalate parts) ↔ ∀ s ∈ parts, Unbroken s := by
  induction parts
  case nil => simp [Unbroken]
  case cons s parts hi =>
    by_cases last : parts = []
    case pos => simp [last]
    case neg => simp [String.intercalate_cons_of_ne_nil last, h, hi]

theorem unbroken_repr (n : Nat) : Unbroken n.repr := by
  intro h
  have digit : '\n'.isDigit :=
    Nat.isDigit_of_mem_toDigits (b := 10) (by decide) (by decide) (by simpa using h)
  contradiction

theorem count_eq_zero_iff : s.toList.count '\n' = 0 ↔ Unbroken s := List.count_eq_zero

-- Parts with a line feed at the end of each have these line feeds, and those within.
theorem count_join (parts : List String) : (String.join (parts.map (· ++ "\n"))).toList.count '\n' =
    parts.length + (String.join parts).toList.count '\n' := by
  induction parts
  case nil => rfl
  case cons part parts hi =>
    have ends : "\n".toList.count '\n' = 1 := by decide
    simp only [List.map_cons, String.join_cons, String.toList_append, List.count_append, ends, hi,
      List.length_cons]
    omega

end

end Outline.Text
