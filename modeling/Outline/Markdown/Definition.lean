import Outline.Markdown.Link
import Outline.Markdown.Start

namespace Outline.Markdown

-- What is left of a definition: the rest of a line, the lines after it, and how many lines have
-- been begun.
private structure Feed where
  text  : List Char
  after : List Line
  used  : Nat

namespace Feed

-- The characters of a line that count, and the line feed.
private def chars (l : Line) : List Char := l.body ++ if l.ended then ['\n'] else []

-- The next line, if the definition may go on with it.
private def next? (f : Frame) (feed : Feed) : Option Feed :=
  match feed.after with
  | l :: rest => if goesOn f false (l :: rest) then some ⟨chars l, rest, feed.used + 1⟩ else none
  | [] => none

-- The feed after a line feed.
private def afterNewline (f : Frame) (feed : Feed) (rest : List Char) : Feed :=
  (next? f feed).getD { feed with text := rest }

private theorem next?_after {f : Frame} {feed next : Feed} (h : feed.next? f = some next) :
    next.after.length < feed.after.length := by
  unfold next? at h
  split at h
  · next l rest hl =>
    split at h
    · obtain rfl := Option.some.inj h
      simp [hl]
    · cases h
  · cases h

-- Reading on shortens the lines that are left, or else the text.
private def Shorter (a b : Feed) : Prop :=
  Prod.Lex (· < ·) (· < ·) (a.after.length, a.text.length) (b.after.length, b.text.length)

private theorem shorter_afterNewline {f : Frame} {feed : Feed} {rest : List Char}
    (h : rest.length < feed.text.length) : Shorter (feed.afterNewline f rest) feed := by
  unfold afterNewline
  match hn : feed.next? f with
  | some next => exact .left _ _ (next?_after hn)
  | none      => exact .right _ h

end Feed

namespace Definition

private def label (f : Frame) (done : List Char) (feed : Feed) : Option (List Char × Feed) :=
  match _h : feed.text with
  | [] => none
  | '[' :: _ => none
  | ']' :: rest => some (done.reverse, { feed with text := rest })
  | '\n' :: rest => label f ('\n' :: done) (feed.afterNewline f rest)
  | '\\' :: '\n' :: rest => label f ('\n' :: '\\' :: done) (feed.afterNewline f rest)
  | '\\' :: c :: rest => label f (c :: '\\' :: done) { feed with text := rest }
  | c :: rest => label f (c :: done) { feed with text := rest }
termination_by (feed.after.length, feed.text.length)
decreasing_by
  · exact Feed.shorter_afterNewline (by simp [_h])
  · exact Feed.shorter_afterNewline (by simp only [_h, List.length_cons]; omega)
  · exact .right _ (by simp only [_h, List.length_cons]; omega)
  · exact .right _ (by simp [_h])

-- The feed after blanks and line feeds, and whether there were any.
private def skip (f : Frame) (isApart : Bool) (feed : Feed) : Bool × Feed :=
  match _h : feed.text with
  | '\n' :: rest => skip f true (feed.afterNewline f rest)
  | c :: rest => if isIndent c then skip f true { feed with text := rest } else (isApart, feed)
  | [] => (isApart, feed)
termination_by (feed.after.length, feed.text.length)
decreasing_by
  · exact Feed.shorter_afterNewline (by simp [_h])
  · exact .right _ (by simp [_h])

-- Takes in lines until the title is closed; the result says whether anything stands in it.
private def title (f : Frame) (close : Char) (isEmpty : Bool) (feed : Feed) : Option (Bool × Feed) :=
  match Link.titleRest close isEmpty feed.text with
  | .closed isEmpty rest => some (isEmpty, { feed with text := rest })
  | .none => none
  | .unfinished isEmpty => match _h : feed.next? f with
    | some feed => title f close isEmpty feed
    | none      => none
termination_by feed.after.length
decreasing_by exact Feed.next?_after _h

private def title? (f : Frame) (feed : Feed) : Option (Bool × Feed) :=
  match feed.text with
  | c :: rest => (Link.titleClose? c).bind fun close => title f close true { feed with text := rest }
  | [] => none

private def endsLine (feed : Feed) : Bool :=
  let rest := feed.text.dropWhile isIndent
  rest.isEmpty || rest.head? == some '\n'

-- The key of the definition that begins with the first line, and the number of its lines.
def read? (f : Frame) (ls : List Line) : Option (String × Nat) := do
  let first :: after := ls | none
  if first.isCode f || first.body.head? != some '[' then none
  let (name, feed) ← label f [] ⟨(Feed.chars first).drop 1, after, 1⟩
  let ':' :: rest := feed.text | none
  let (_, feed) := skip f false { feed with text := rest }
  let (destination, rest) ← Link.destination? feed.text
  if !Link.isAllowed destination then none
  let plain := { feed with text := rest }
  let (isApart, feed) := skip f false plain
  -- What is no title, or not all that the line holds, must leave the line before it complete.
  let ended := match if isApart then title? f feed else none with
    | some (isEmpty, feed) => if endsLine feed || isEmpty then feed else plain
    | none => plain
  if !endsLine ended then none
  let key := labelKey name
  if key.isEmpty then none else some (key, ended.used)

end Definition
end Outline.Markdown
