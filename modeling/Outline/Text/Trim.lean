import Outline.Text.Classes

namespace Outline.Text

-- The characters without those at either end that satisfy `p`.
def trimBy (p : Char → Bool) (cs : List Char) : List Char :=
  ((cs.dropWhile p).reverse.dropWhile p).reverse

theorem dropWhile_head {p : Char → Bool} {cs : List Char} {c : Char} {rest : List Char}
    (h : cs.dropWhile p = c :: rest) : p c = false := by
  induction cs with
  | nil => simp at h
  | cons d ds ih =>
    by_cases hd : p d
    · exact ih (by simpa [hd] using h)
    · obtain ⟨rfl, _⟩ := by simpa [hd] using h
      simpa using hd

theorem dropWhile_eq_self {p : Char → Bool} {cs : List Char}
    (h : ∀ c rest, cs = c :: rest → p c = false) : cs.dropWhile p = cs := by
  cases cs with
  | nil => rfl
  | cons c rest => simp [h c rest rfl]

theorem dropWhile_dropWhile (p : Char → Bool) (cs : List Char) :
    (cs.dropWhile p).dropWhile p = cs.dropWhile p :=
  dropWhile_eq_self fun _ _ h => dropWhile_head h

-- Dropping at the end leaves a beginning, which starts as the whole does.
private theorem head_of_reverse_dropWhile {p : Char → Bool} {cs : List Char} {c : Char}
    {rest : List Char} (h : (cs.reverse.dropWhile p).reverse = c :: rest) :
    ∃ more, cs = c :: more := by
  have hsplit := (List.takeWhile_append_dropWhile (p := p) (l := cs.reverse))
  have hcs : cs = (cs.reverse.dropWhile p).reverse ++ (cs.reverse.takeWhile p).reverse := by
    rw [← List.reverse_append, hsplit, List.reverse_reverse]
  exact ⟨rest ++ (cs.reverse.takeWhile p).reverse, by rw [h] at hcs; simpa using hcs⟩

theorem trimBy_trimBy (p : Char → Bool) (cs : List Char) :
    trimBy p (trimBy p cs) = trimBy p cs := by
  have hfront : (trimBy p cs).dropWhile p = trimBy p cs :=
    dropWhile_eq_self fun c rest h => by
      obtain ⟨more, hm⟩ := head_of_reverse_dropWhile h
      exact dropWhile_head hm
  have hback : (trimBy p cs).reverse.dropWhile p = (trimBy p cs).reverse := by
    simp [trimBy, dropWhile_dropWhile]
  rw [trimBy, hfront, hback, List.reverse_reverse]

def trim (s : String) : String := String.ofList (trimBy isBlank s.toList)

theorem trim_trim (s : String) : trim (trim s) = trim s := by
  simp [trim, trimBy_trimBy]

-- `done` holds what has been written, last character first.
def collapseFrom (done : List Char) : List Char → List Char
  | [] => done.reverse
  | c :: rest =>
    if isBlank c then
      if done.head? == some ' ' then collapseFrom done rest else collapseFrom (' ' :: done) rest
    else collapseFrom (c :: done) rest

-- The text with every run of blanks written as one space, and none at its ends.
def collapse (s : String) : String := trim (String.ofList (collapseFrom [] s.toList))

-- `word` holds the word that has begun, last character first.
def wordsFrom (word : List Char) : List Char → List String
  | [] => if word.isEmpty then [] else [String.ofList word.reverse]
  | c :: rest =>
    if !isBlank c then wordsFrom (c :: word) rest
    else if word.isEmpty then wordsFrom [] rest
    else String.ofList word.reverse :: wordsFrom [] rest

-- The words of a text: its parts between blanks.
def words (s : String) : List String := wordsFrom [] s.toList

end Outline.Text
