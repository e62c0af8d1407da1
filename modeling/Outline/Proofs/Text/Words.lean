import Mathlib.Init
import Outline.Text.Trim

namespace Outline.Text

variable {p : Char → Bool} {b c : Char} {cs : List Char} {ps : List (List Char)} {s : String}

-- The words of a text as lists of characters.
def wordLists (cs : List Char) : List (List Char) :=
  (cs.splitOnP isBlank).filter (!·.isEmpty)

theorem wordsFrom_eq (word cs : List Char) : wordsFrom word cs =
    (((cs.splitOnP isBlank).modifyHead (word.reverse ++ ·)).filter (!·.isEmpty)).map String.ofList := by
  induction cs generalizing word
  case nil => cases word <;> simp [wordsFrom]
  case cons c rest hi =>
    have next : wordsFrom [] rest = (wordLists rest).map String.ofList := by
      rw [hi, wordLists]
      cases rest.splitOnP isBlank <;> rfl
    rw [List.splitOnP_cons_eq_if_modifyHead]
    cases blank : isBlank c
    case false => simp [wordsFrom, blank, hi, List.modifyHead_modifyHead, Function.comp_def]
    case true  => cases word <;> simp [wordsFrom, blank, next, wordLists]

theorem words_eq (s : String) : words s = (wordLists s.toList).map String.ofList := by
  rw [words, wordsFrom_eq, wordLists]
  cases s.toList.splitOnP isBlank <;> rfl

-- All else about words follows from this.
theorem wordLists_append_cons (blank : isBlank b) (xs ys : List Char) :
    wordLists (xs ++ b :: ys) = wordLists xs ++ wordLists ys := by
  rw [wordLists, List.splitOnP_append_cons _ _ blank, List.filter_append, wordLists, wordLists]

theorem wordLists_cons (blank : isBlank b) (cs : List Char) : wordLists (b :: cs) = wordLists cs :=
  wordLists_append_cons blank [] cs

theorem wordLists_concat (blank : isBlank b) (cs : List Char) : wordLists (cs ++ [b]) = wordLists cs :=
  (wordLists_append_cons blank cs []).trans <| List.append_nil _

theorem wordLists_intercalate (ps : List (List Char)) :
    wordLists ([' '].intercalate ps) = ps.flatMap wordLists := by
  induction ps
  case nil => rfl
  case cons q qs hi =>
    cases qs
    case nil  => rw [List.intercalate_singleton, List.flatMap_singleton]
    case cons =>
      rw [List.intercalate_cons_cons, List.append_assoc, List.singleton_append,
        wordLists_append_cons (by decide), hi, List.flatMap_cons (x := q)]

theorem words_intercalate (parts : List String) :
    words (" ".intercalate parts) = parts.flatMap words := by
  have letters : (" ".intercalate parts).toList = [' '].intercalate (parts.map String.toList) :=
    String.toList_intercalate
  rw [words_eq, letters, wordLists_intercalate, List.flatMap_map, List.map_flatMap]
  exact congrArg (parts.flatMap ·) <| funext fun part => (words_eq part).symm

-- A text without the blanks at its end.
def trimEnd (cs : List Char) : List Char := (cs.reverse.dropWhile isBlank).reverse

theorem trimEnd_cons_letter (letter : isBlank c = false) (cs : List Char) :
    trimEnd (c :: cs) = c :: trimEnd cs := by
  rw [trimEnd, List.reverse_cons, List.dropWhile_append]
  split
  case isTrue none => simp [trimEnd, List.isEmpty_iff.mp none, letter]
  case isFalse     => rw [List.reverse_concat, trimEnd]

theorem trimEnd_cons_blank (blank : isBlank b) (cs : List Char) :
    trimEnd (b :: cs) = if trimEnd cs = [] then [] else b :: trimEnd cs := by
  rw [trimEnd, List.reverse_cons, List.dropWhile_append]
  simp only [List.isEmpty_iff, trimEnd, List.reverse_eq_nil_iff]
  split
  case isTrue  => simp [blank]
  case isFalse => rw [List.reverse_concat]

theorem wordLists_dropWhile (cs : List Char) : wordLists (cs.dropWhile isBlank) = wordLists cs := by
  induction cs
  case nil => rfl
  case cons c cs hi =>
    cases blank : isBlank c
    case false => rw [List.dropWhile_cons_of_neg (by simp [blank])]
    case true  => rw [List.dropWhile_cons_of_pos blank, hi, wordLists_cons blank]

theorem wordLists_trimEnd (cs : List Char) : wordLists (trimEnd cs) = wordLists cs := by
  obtain ⟨rs, rfl⟩ : ∃ rs : List Char, cs = rs.reverse := ⟨cs.reverse, cs.reverse_reverse.symm⟩
  rw [trimEnd, List.reverse_reverse]
  induction rs
  case nil => rfl
  case cons c rs hi =>
    cases blank : isBlank c
    case false => rw [List.dropWhile_cons_of_neg (by simp [blank])]
    case true  => rw [List.dropWhile_cons_of_pos blank, hi, List.reverse_cons, wordLists_concat blank]

-- The blanks at the ends of a text belong to no word.
theorem words_trim (s : String) : words (trim s) = words s := by
  rw [words_eq, words_eq, trim, String.toList_ofList]
  exact congrArg _ <| (wordLists_trimEnd _).trans (wordLists_dropWhile _)

-- What is left of a text with one space for each run of blanks; `after` if a space has just been written.
def squeeze (after : Bool) : List Char → List Char
  | []      => []
  | c :: cs =>
    if isBlank c then if after then squeeze true cs else ' ' :: squeeze true cs
    else c :: squeeze false cs

theorem collapseFrom_eq (done cs : List Char) :
    collapseFrom done cs = done.reverse ++ squeeze (done.head? == some ' ') cs := by
  induction cs generalizing done
  case nil => simp [collapseFrom, squeeze]
  case cons c cs hi =>
    cases blank : isBlank c
    case false =>
      have letter : (c == ' ') = false := by
        refine beq_false_of_ne ?_
        rintro rfl
        contradiction
      simp [collapseFrom, squeeze, blank, hi, letter]
    case true  =>
      cases space : done.head? == some ' ' <;> simp [collapseFrom, squeeze, blank, hi, space]

theorem dropWhile_squeeze (after : Bool) (cs : List Char) :
    (squeeze after cs).dropWhile isBlank = squeeze true cs := by
  induction cs generalizing after
  case nil => rfl
  case cons c cs hi =>
    cases blank : isBlank c
    case false => simp [squeeze, blank]
    case true  =>
      have space : isBlank ' ' = true := by decide
      cases after <;> simp [squeeze, blank, hi, space]

-- The words of what is left of a text; if a word has begun, it goes on first.
def moreWords (after : Bool) : List (List Char) → List (List Char)
  | []          => []
  | part :: more =>
    if after then (part :: more).filter (!·.isEmpty) else part :: more.filter (!·.isEmpty)

theorem moreWords_true (parts : List (List Char)) :
    moreWords true parts = parts.filter (!·.isEmpty) := by
  cases parts <;> rfl

theorem moreWords_cons_cons (after : Bool) (c : Char) (part : List Char) (more : List (List Char)) :
    moreWords after ((c :: part) :: more) = (c :: part) :: more.filter (!·.isEmpty) := by
  cases after <;> rfl

theorem intercalate_eq_nil (h : ∀ w ∈ ps, w ≠ []) : [' '].intercalate ps = [] ↔ ps = [] := by
  cases ps
  case nil => simp
  case cons w ws =>
    cases w
    case nil  => exact absurd rfl (h [] List.mem_cons_self)
    case cons => simp [List.intercalate_cons_cons_left]

theorem trimEnd_squeeze (after : Bool) (cs : List Char) :
    trimEnd (squeeze after cs) = [' '].intercalate (moreWords after (cs.splitOnP isBlank)) := by
  induction cs generalizing after
  case nil => cases after <;> rfl
  case cons c cs hi =>
    obtain ⟨part, more, parts⟩ := List.exists_cons_of_ne_nil (List.splitOnP_ne_nil isBlank cs)
    rw [parts] at hi
    rw [List.splitOnP_cons_eq_if_modifyHead, parts]
    cases blank : isBlank c
    case false =>
      have word : squeeze after (c :: cs) = c :: squeeze false cs := by simp [squeeze, blank]
      rw [word, trimEnd_cons_letter blank, hi, if_neg (by simp), List.modifyHead_cons,
        moreWords_cons_cons, List.intercalate_cons_cons_left]
      rfl
    case true =>
      rw [if_pos rfl]
      cases after
      case true  => simpa [squeeze, blank, moreWords] using hi true
      case false =>
        have gap : squeeze false (c :: cs) = ' ' :: squeeze true cs := by simp [squeeze, blank]
        have next : moreWords false ([] :: part :: more) = [] :: moreWords true (part :: more) := rfl
        have full : ∀ w ∈ moreWords true (part :: more), w ≠ [] := by simp [moreWords]
        rw [gap, trimEnd_cons_blank (by decide), hi, next]
        simp only [intercalate_eq_nil full]
        split
        case isTrue none => rw [none, List.intercalate_singleton]
        case isFalse some =>
          rw [List.intercalate_cons_of_ne_nil some]
          rfl

-- A text whose runs of blanks are one space each is its words with a space between any two.
theorem collapse_eq (s : String) : collapse s = " ".intercalate (words s) := by
  refine String.toList_inj.mp ?_
  rw [collapse, trim, String.toList_ofList, String.toList_ofList, collapseFrom_eq, words_eq,
    String.toList_intercalate, List.map_map]
  have letters : String.toList ∘ String.ofList = id := funext fun _ => String.toList_ofList
  rw [letters, List.map_id]
  calc trimEnd ((squeeze false s.toList).dropWhile isBlank)
    _ = trimEnd (squeeze true s.toList) := by rw [dropWhile_squeeze]
    _ = [' '].intercalate (wordLists s.toList) := by rw [trimEnd_squeeze, moreWords_true, wordLists]

theorem ne_empty_of_mem_words {w : String} (h : w ∈ words s) : w ≠ "" := by
  rw [words_eq] at h
  obtain ⟨cs, mem, rfl⟩ := List.mem_map.mp h
  have full := (List.mem_filter.mp mem).2
  cases cs
  case nil  => cases full
  case cons => simp

theorem collapse_eq_empty_iff : collapse s = "" ↔ words s = [] := by
  rw [collapse_eq]
  cases h : words s
  case nil => simp
  case cons w ws =>
    have full := ne_empty_of_mem_words (h ▸ List.mem_cons_self : w ∈ words s)
    cases ws <;> simp [full]

end Outline.Text
