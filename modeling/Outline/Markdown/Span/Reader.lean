import Outline.Markdown.Address
import Outline.Markdown.Html
import Outline.Markdown.Line
import Outline.Markdown.Link
import Outline.Markdown.Span.Delimiter
import Std.Data.TreeMap

namespace Outline.Markdown

-- A place in a text: how many characters come before it, the last one of these (a space where the
-- text begins), and what is left.
structure Cursor where
  position : Nat
  last     : Char
  rest     : List Char

namespace Cursor

def advance : Nat → Cursor → Cursor
  | 0, c => c
  | n + 1, ⟨position, last, []⟩ => ⟨position + n + 1, last, []⟩
  | n + 1, ⟨position, _, d :: rest⟩ => advance n ⟨position + 1, d, rest⟩

-- The place where this is left.
def upTo (c : Cursor) (rest : List Char) : Cursor := c.advance (c.rest.length - rest.length)

def skip (p : Char → Bool) (c : Cursor) : Cursor := c.advance (c.rest.takeWhile p).length

end Cursor

-- What reading has found out about the text on the way, whether or not it kept it.
structure Memo where
  -- Where the span ends that begins at a position.
  ends    : Std.TreeMap Nat Nat
  -- The place of the last run of backticks of each length, as far as runs were looked at.
  runs    : List (Nat × Nat)
  -- Has the text been searched to its end for a run of backticks?
  searched : Bool

namespace Span

def deepest : Nat := 20

private def mayBegin (c : Char) : Bool := "\n!#$%&*+-:<=>@[\\]^_\x60\x7b\x7d~".toList.contains c

-- What stands at a place.
inductive Piece
  | chars (cs : List Char)
  | newline
  | tokens (ts : List SpanToken)
  | run (sign : Char) (length : Nat)
  | label (start : Cursor) (length : Nat)

private abbrev Found := Option (Piece × Cursor) × Memo

private def isBreak (c : Char) : Bool := isIndent c || c == '\n'

private def escape (c : Cursor) : Option (Piece × Cursor) :=
  match c.rest.drop 1 with
  | [] => none
  | '\n' :: _ => some (.tokens [⟨.hardBreak, .alone, ""⟩], (c.advance 2).skip isIndent)
  | d :: _ =>
    let text := if isEscapable d then [d] else ['\\', d]
    some (.tokens [⟨.escaped, .alone, String.ofList text⟩], c.advance 2)

-- Looks for a run of so many backticks; `before` is what was passed over, last character first.
private def closeCode (memo : Memo) (length : Nat) (before : List Char) :
    Nat → Cursor → Option (List Char × Cursor) × Memo
  | 0, _ => (none, { memo with searched := true })
  | fuel + 1, c =>
    let gap := c.rest.takeWhile (· != '\x60')
    let c := c.advance gap.length
    let run := c.rest.takeWhile (· == '\x60')
    let before := gap.reverse ++ before
    if run.isEmpty then (none, { memo with searched := true })
    else if run.length == length then (some (before.reverse, c.advance length), memo)
    else
      closeCode { memo with runs := (run.length, c.position) :: memo.runs } length (run ++ before) fuel
        (c.advance run.length)

-- Code as it is shown: in one line, and without one space at each end unless it is all blank.
private def codeText (cs : List Char) : List Char :=
  let cs := cs.map fun c => if c == '\n' then ' ' else c
  if cs.head? == some ' ' && cs.getLast? == some ' ' && !cs.all Text.isBlank then
    (cs.drop 1).dropLast
  else cs

private def code (memo : Memo) (c : Cursor) : Found :=
  let run := c.rest.takeWhile (· == '\x60')
  let literal : Option (Piece × Cursor) := some (.chars run, c.advance run.length)
  if memo.searched && (memo.runs.lookup run.length).getD 0 ≤ c.position then (literal, memo)
  else
    match closeCode memo run.length [] c.rest.length (c.advance run.length) with
    | (some (inside, after), memo) =>
      (some (.tokens [⟨.code, .alone, String.ofList (codeText inside)⟩], after), memo)
    | (none, memo) => (literal, memo)

private def isSchemeChar (c : Char) : Bool := c.isAlphanum || c == '+' || c == '.' || c == '-'

private def isAddressChar (c : Char) : Bool := 32 < c.toNat && c != '<' && c != '>'

-- A line feed may stand at the very end.
private def withoutNewline (cs : List Char) : List Char :=
  if cs.getLast? == some '\n' then cs.dropLast else cs

private def isAddress (cs : List Char) : Bool :=
  let scheme := cs.takeWhile isSchemeChar
  match cs.drop scheme.length with
  | ':' :: rest =>
    scheme.head?.any Char.isAlpha && 2 ≤ scheme.length && scheme.length ≤ 32 &&
      (withoutNewline rest).all isAddressChar
  | _ => false

private def isMailChar (c : Char) : Bool :=
  c.isAlphanum || ".!#$%&'*+/=?^_\x60\x7b|\x7d~-".toList.contains c

private def isDomainLabel (cs : List Char) : Bool :=
  !cs.isEmpty && cs.length ≤ 63 && cs.all (fun c => c.isAlphanum || c == '-') &&
    cs.head?.any Char.isAlphanum && cs.getLast?.any Char.isAlphanum

private def labels (cs : List Char) : List (List Char) :=
  cs.foldr (fun c parts => match parts with
    | part :: rest => if c == '.' then [] :: part :: rest else (c :: part) :: rest
    | []           => [[c]]) [[]]

private def isMail (cs : List Char) : Bool :=
  let cs := withoutNewline cs
  let user := cs.takeWhile isMailChar
  match cs.drop user.length with
  | '@' :: domain => !user.isEmpty && (labels domain).all isDomainLabel
  | _ => false

-- An address in angle brackets.
private def autolink (c : Cursor) : Option (Piece × Cursor) :=
  let inside := (c.rest.drop 1).takeWhile fun d => d != '<' && d != '>'
  match c.rest.drop (inside.length + 1) with
  | '>' :: _ =>
    if isAddress inside && Link.isSafe inside || isMail inside then
      let text := Address.shownText (String.ofList inside)
      some (.tokens [⟨.link, .opens, ""⟩, .ofText text, ⟨.link, .closes, ""⟩],
        c.advance (inside.length + 2))
    else none
  | _ => none

private def markup (c : Cursor) : Option (Piece × Cursor) :=
  if c.rest.length < 3 then none
  else (Html.inline? c.rest).map fun rest =>
    let length := c.rest.length - rest.length
    (.tokens [⟨.html, .alone, String.ofList (c.rest.take length)⟩], c.advance length)

private def entity (c : Cursor) : Option (Piece × Cursor) :=
  (entityAfter? (c.rest.drop 1)).map fun (cs, rest) =>
    (.tokens [⟨.escaped, .alone, String.ofList cs⟩], c.upTo rest)

-- Moves past one span, or past one character where none begins.
private abbrev Skip := Memo → Cursor → Cursor × Memo

-- Finds the bracket that closes a label; `depth` is the number of brackets open. Where nothing may
-- be nested, a label with a link in it has no end.
private def labelEnd (skip : Skip) (flat : Bool) (depth : Nat) :
    Nat → Memo → Cursor → Option Cursor × Memo
  | 0, memo, _ => (none, memo)
  | fuel + 1, memo, c =>
    match c.rest with
    | [] => (none, memo)
    | d :: _ =>
      if d == ']' && depth == 1 then (some c, memo)
      else
        let depth := if d == ']' then depth - 1 else depth
        let (next, memo) := skip memo c
        if d == '[' then
          if next.position == c.position + 1 then labelEnd skip flat (depth + 1) fuel memo next
          else if flat then (none, memo)
          else labelEnd skip flat depth fuel memo next
        else labelEnd skip flat depth fuel memo next

-- The end of the label whose opening bracket stands at the place.
private def label (skip : Skip) (flat : Bool) (memo : Memo) (c : Cursor) : Option Cursor × Memo :=
  labelEnd skip flat 1 (c.rest.length + 1) memo (c.advance 1)

-- Where the destination and the title in parentheses end.
private inductive Target
  | closed (after : Cursor)
  | stopped (c : Cursor)
  | cut

-- The place is after the opening parenthesis.
private def target (c : Cursor) : Target :=
  let c := c.skip isBreak
  if c.rest.isEmpty then .cut
  else
    let c := match Link.destination? c.rest with
      | none => c
      | some (destination, rest) =>
        let c := if Link.isAllowed destination then c.upTo rest else c
        let start := c.position
        let c := c.skip isBreak
        match Link.title c.rest with
        | .closed _ rest => if start < c.position then (c.upTo rest).skip isBreak else c
        | _              => c
    match c.rest with
    | ')' :: _ => .closed (c.advance 1)
    | _        => .stopped c

-- The end of a reference: the place after the label that is looked up.
private def reference (skip : Skip) (keys : List String) (memo : Memo) (first : List Char)
    (plain c : Cursor) : Option Cursor × Memo :=
  let (second?, memo) := match c.rest with
    | '[' :: _ => label skip false memo c
    | _        => (none, memo)
  let (name, after) := match second? with
    | some close => (c.rest.drop 1 |>.take (close.position - c.position - 1), close.advance 1)
    | none       => ([], plain)
  let name := if name.isEmpty then first else name
  (if keys.contains (labelKey name) then some after else none, memo)

private def link (skip : Skip) (keys : List String) (memo : Memo) (c : Cursor) : Found :=
  match label skip true memo c with
  | (none, memo) => (none, memo)
  | (some close, memo) =>
    let length := close.position - c.position - 1
    let piece := Piece.label (c.advance 1) length
    let first := (c.rest.drop 1).take length
    let plain := close.advance 1
    let asReference (at' : Cursor) : Found :=
      let (after?, memo) := reference skip keys memo first plain at'
      (after?.map fun after => (piece, after), memo)
    match plain.rest with
    | '(' :: _ => match target (plain.advance 1) with
      | .closed after => (some (piece, after), memo)
      | .stopped at'  => asReference (at'.advance 1)
      | .cut          => (none, memo)
    | _ => asReference plain

private def image (skip : Skip) (keys : List String) (memo : Memo) (c : Cursor) : Found :=
  if (c.rest.drop 1).head? != some '[' then (none, memo)
  else
    let c := c.advance 1
    match label skip false memo c with
    | (none, memo) => (none, memo)
    | (some close, memo) =>
      let first := (c.rest.drop 1).take (close.position - c.position - 1)
      let piece := Piece.tokens [⟨.image, .alone, String.ofList first⟩]
      let plain := close.advance 1
      match plain.rest with
      | '(' :: _ => match target (plain.advance 1) with
        | .closed after => (some (piece, after), memo)
        | _             => (none, memo)
      | _ =>
        let (after?, memo) := reference skip keys memo first plain plain
        (after?.map fun after => (piece, after), memo)

-- What begins at a place. Runs of delimiters count only when the text is kept.
private def piece (skip : Skip) (keys : List String) (kept : Bool) (memo : Memo) (c : Cursor) : Found :=
  match c.rest with
  | [] => (none, memo)
  | '\n' :: _ => (some (.newline, (c.advance 1).skip isIndent), memo)
  | '\\' :: _ => (escape c, memo)
  | '\x60' :: _ => code memo c
  | '[' :: _ => link skip keys memo c
  | '!' :: _ => image skip keys memo c
  | '<' :: _ => (autolink c <|> markup c, memo)
  | '&' :: _ => (entity c, memo)
  | d :: _ =>
    if d == '*' || d == '_' || d == '~' then
      let run := c.rest.takeWhile (· == d)
      if !kept || (d == '~' && run.length < 2) then (none, memo)
      else (some (.run d run.length, c.advance run.length), memo)
    else if mayBegin d then (none, memo)
    else
      let text := c.rest.takeWhile (!mayBegin ·)
      (some (.chars text, c.advance text.length), memo)

-- Moves past a span, with room for spans nested so deep; without room, past all of the text.
private def skipIn (keys : List String) : Nat → Skip
  | room, memo, c =>
    match memo.ends[c.position]? with
    | some position => (c.advance (position - c.position), memo)
    | none =>
      let (next, memo) := match room with
        | 0 => (c.advance (c.rest.length + 1), memo)
        | room + 1 =>
          match piece (skipIn keys room) keys false memo c with
          | (some (_, next), memo) => (next, memo)
          | (none, memo)           => (c.advance 1, memo)
      (next, { memo with ends := memo.ends.insert c.position next.position })

-- The tokens of a text as far as it is read; `pending` is text that makes no token yet, last
-- character first.
structure Progress where
  pending    : List Char
  tokens     : Array SpanToken
  delimiters : Array Delimiter

namespace Progress

def flush (p : Progress) : Progress :=
  if p.pending.isEmpty then p
  else { p with pending := [], tokens := p.tokens.push (.ofText (String.ofList p.pending.reverse)) }

def push (p : Progress) (ts : List SpanToken) : Progress :=
  let p := p.flush
  { p with tokens := p.tokens ++ ts.toArray }

-- A line break: a hard one after two spaces or more. The spaces before it are dropped.
def newline (p : Progress) : Progress :=
  let spaces := p.pending.takeWhile (· == ' ')
  let p := { p with pending := p.pending.drop spaces.length }
  p.push [⟨if 2 ≤ spaces.length then .hardBreak else .softBreak, .alone, ""⟩]

private def pushRun (sign : Char) (length : Nat) (flanks : Bool × Bool) (text : String) :
    Nat → Progress → Progress
  | 0, p => p
  | n + 1, p => pushRun sign length flanks text n
    { p with
      tokens     := p.tokens.push (.ofText text)
      delimiters := p.delimiters.push ⟨sign, length, p.tokens.size, flanks.1, flanks.2, none⟩ }

-- A run of delimiters: for strikes they count in twos, and what is left over is text.
def run (p : Progress) (sign : Char) (length : Nat) (before after : Char) : Progress :=
  let p := p.flush
  let flanks := Delimiter.flanks (sign != '_') before after
  if sign == '~' then
    let p := if length % 2 == 1 then p.push [.ofText "~"] else p
    pushRun sign 0 flanks "~~" (length / 2) p
  else pushRun sign length flanks (String.singleton sign) length p

-- The tokens when all text is read.
def finish (p : Progress) : List SpanToken :=
  let p := p.flush
  Delimiter.resolve p.delimiters p.tokens

end Progress

-- Reads the text inside a label.
private abbrev Inside := Memo → Cursor → List SpanToken × Memo

-- `fuel` is the number of characters left: each piece takes at least one.
private def loop (skip : Skip) (inside : Inside) (keys : List String) :
    Nat → Memo → Progress → Cursor → List SpanToken × Memo
  | 0, memo, p, _ => (p.finish, memo)
  | fuel + 1, memo, p, c =>
    match c.rest with
    | [] => (p.finish, memo)
    | d :: _ =>
      match piece skip keys true memo c with
      | (none, memo) =>
        loop skip inside keys fuel memo { p with pending := d :: p.pending } (c.advance 1)
      | (some (.chars cs, next), memo) =>
        loop skip inside keys fuel memo { p with pending := cs.reverse ++ p.pending } next
      | (some (.newline, next), memo) => loop skip inside keys fuel memo p.newline next
      | (some (.tokens ts, next), memo) => loop skip inside keys fuel memo (p.push ts) next
      | (some (.run sign length, next), memo) =>
        let after := next.rest.head?.getD ' '
        loop skip inside keys fuel memo (p.run sign length c.last after) next
      | (some (.label start length, next), memo) =>
        let (ts, memo) := inside memo { start with rest := start.rest.take length }
        let ts := ⟨.link, .opens, ""⟩ :: ts ++ [⟨.link, .closes, ""⟩]
        loop skip inside keys fuel memo (p.push ts) next

-- The tokens of a text, with room for spans nested so deep.
private def readIn (keys : List String) : Nat → Inside
  | 0 => fun memo c => ((Progress.mk c.rest.reverse #[] #[]).finish, memo)
  | room + 1 => fun memo c =>
    loop (skipIn keys (room + 1)) (readIn keys room) keys c.rest.length memo ⟨[], #[], #[]⟩ c

def read (keys : List String) (content : String) : List SpanToken :=
  let (ts, _) := readIn keys deepest ⟨{}, [], false⟩ ⟨0, ' ', content.toList⟩
  SpanToken.merge ts

end Span
end Outline.Markdown
