import Outline.Html.Tag
import Outline.Node

namespace Outline.Html

inductive Token
  | text (s : String)
  | opening (tag : Tag.Opening) (position : Position)
  | closing (name : String)
  | comment (s : String)
  | doctype (s : String)
  | instruction (s : String)
  | cdata (s : String)
  | declaration (s : String)

inductive Fault
  -- A section in square brackets of a kind that there is not.
  | section
  -- The number of a reference has too many digits.
  | number (e : Number.Error)
  deriving DecidableEq, Repr

def Fault.message : Fault → String
  | .section => "The markup you provided was rejected by the parser. Trying a different parser or " ++
      "a different encoding may help."
  | .number e => e.message

namespace Token

-- How far a text has been read.
private structure Scan where
  rest   : List Char
  line   : Nat
  column : Nat
  -- The name of the element whose content is all text.
  raw?   : Option String
  -- Nothing more will come after the text.
  atEnd  : Bool

namespace Scan

-- The place after the characters before `after`.
private def goto (count : Nat) (s : Scan) : Scan :=
  let (line, column) := (s.rest.take count).foldl (fun (line, column) c =>
    if c == '\n' then (line + 1, 1) else (line, column + 1)) (s.line, s.column)
  { s with rest := s.rest.drop count, line, column }

private def position (s : Scan) : Position := ⟨s.line, s.column⟩

end Scan

-- What one step finds: tokens and how many characters they take, or that the text does not say yet.
private inductive Found
  | tokens (ts : List Token) (count : Nat)
  | unfinished
  | refused (f : Fault)

private def string (cs : List Char) : Token := .text (String.ofList cs)

private def before (stop : Char) (cs : List Char) : Option (List Char) :=
  let found := cs.takeWhile (· != stop)
  if (cs.drop found.length).isEmpty then none else some found

private def isAfterBlanks (c : Char) (cs : List Char) : Bool :=
  (cs.dropWhile Text.isBlank).head? == some c

-- The number of characters in a sign of which blanks may stand before each part but the first.
private def signLength? : List Char → List Char → Option Nat
  | [], _ => some 0
  | sign :: signs, cs =>
    let blanks := (cs.takeWhile Text.isBlank).length
    match cs.drop blanks with
    | c :: rest => if c == sign then (signLength? signs rest).map (· + blanks + 1) else none
    | []        => none

-- What stands before a sign, and how many characters it takes with the sign.
private def untilSign (first : List Char) (more : List Char) (done : List Char) :
    List Char → Option (List Char × Nat)
  | [] => none
  | c :: rest =>
    let found? := if first.isPrefixOf (c :: rest) then
        (signLength? more ((c :: rest).drop first.length)).map (· + first.length)
      else none
    match found? with
    | some n => some (done.reverse, done.length + n)
    | none   => untilSign first more (c :: done) rest

private def commentAt (cs : List Char) : Found :=
  match untilSign ['-', '-'] ['>'] [] (cs.drop 4) with
  | some (s, n) => .tokens [.comment (String.ofList s)] (n + 4)
  | none        => .unfinished

-- What stands up to the next `>`, after two characters.
private def upToEnd (token : String → Token) (cs : List Char) : Found :=
  match before '>' (cs.drop 2) with
  | some s => .tokens [token (String.ofList s)] (s.length + 3)
  | none   => .unfinished

private def isInSectionName (c : Char) : Bool :=
  c.isAlphanum || c == '-' || c == '_' || c == '.'

-- A section that begins with `<![`.
private def sectionAt (cs : List Char) : Found :=
  let content := cs.drop 3
  let name := content.takeWhile isInSectionName
  let after := (content.drop name.length).dropWhile Text.isBlank
  if content.isEmpty then .unfinished
  else if !(name.head?.any Char.isAlpha) then .refused .section
  else if after.isEmpty then .unfinished
  else
    let kind := Tag.smallName name
    let more? := if ["temp", "cdata", "ignore", "include", "rcdata"].contains kind then
        some [']', '>']
      else if ["if", "else", "endif"].contains kind then some ['>']
      else none
    match more? with
    | none => .refused .section
    | some more => match untilSign [']'] more [] content with
      | none => .unfinished
      | some (s, n) =>
        let isData := kind == "cdata" && s[5]? == some '['
        .tokens [if isData then .cdata (String.ofList (s.drop 6)) else .declaration (String.ofList s)]
          (n + 3)

private def declarationAt (cs : List Char) : Found :=
  if (cs[2]?) == some '[' then sectionAt cs
  else if Tag.smallName (cs.take 9) == "<!doctype" then
    match before '>' (cs.drop 9) with
    | some s => .tokens [.doctype (String.ofList (s.drop 1))] (s.length + 10)
    | none   => .unfinished
  else upToEnd .comment cs

private def openingAt (s : Scan) : Found :=
  match Tag.opening? s.rest with
  | none => .unfinished
  | some (.error e) => .refused (.number e)
  | some (.ok (tag?, after)) =>
    let n := s.rest.length - after.length
    match tag? with
    | some tag => .tokens [.opening tag s.position] n
    | none     => .tokens [string (s.rest.take n)] n

private def closingAt (raw? : Option String) (cs : List Char) : Found :=
  match before '>' (cs.drop 2) with
  | none => .unfinished
  | some inside =>
    let n := inside.length + 3
    let whole := Found.tokens [string (cs.take n)] n
    match Tag.closing? cs, raw? with
    | some (name, _), none     => .tokens [.closing name] n
    | some (name, _), some raw => if name == raw then .tokens [.closing name] n else whole
    | none, some _             => whole
    | none, none =>
      match Tag.name? (cs.drop 2) with
      | some name   => .tokens [.closing (Tag.smallName name)] n
      | none        => if inside.isEmpty then .tokens [] n else upToEnd .comment cs

-- What begins with `<`.
private def angle (s : Scan) : Found :=
  match s.rest with
  | '<' :: c :: after =>
    if c.isAlpha then openingAt s
    else if c == '/' then closingAt s.raw? s.rest
    else if c == '!' then
      if "--".toList.isPrefixOf after then commentAt s.rest else declarationAt s.rest
    else if c == '?' then upToEnd .instruction s.rest
    else .tokens [string ['<']] 1
  | _ => .unfinished

-- How much of the text is text if what begins with `<` does not end.
private def unfinishedLength (cs : List Char) : Nat :=
  let inside := cs.drop 1
  match before '>' inside, before '<' inside with
  | some s, _    => s.length + 2
  | none, some s => s.length + 1
  | none, none   => 1

-- A number after `&#`: its digits must end with something that could be no digit.
private def number? (cs : List Char) : Option (Except Number.Error (Char × Nat)) :=
  let (base, start) := match cs with
    | x :: _ => if x == 'x' || x == 'X' then (16, 1) else (10, 0)
    | []     => (10, 0)
  let digits := (cs.drop start).takeWhile fun c => if base == 16 then Text.isHex c else c.isDigit
  match cs.drop (start + digits.length) with
  | c :: _ =>
    if digits.isEmpty || Text.isHex c then none
    else
      let n := start + digits.length + (if c == ';' then 1 else 0)
      some ((Reference.number base digits).map fun number => (Reference.ofNumber number, n))
  | [] => none

private def isInReference (c : Char) : Bool := c.isAlphanum || c == '-' || c == '.'

-- A name after `&`, which must end with something that could be no letter or digit.
private def name? (cs : List Char) : Option (List Char × Nat) :=
  let run := cs.takeWhile isInReference
  if !(run.head?.any Char.isAlpha) then none
  else match cs.drop run.length with
    | c :: _ => some (run, run.length + (if c == ';' then 1 else 0))
    | [] =>
      -- At the end of the text one of its own signs has to end it.
      let name := (run.reverse.dropWhile Char.isAlphanum).drop 1 |>.reverse
      if name.isEmpty then none else some (name, name.length)

private def nameText (name : List Char) : String :=
  String.ofList ((Reference.ofName? name).getD ('&' :: name))

-- What stands before the next thing that is not text.
private def plain (raw? : Option String) (cs : List Char) : Option (List Char) :=
  match raw? with
  | none => some (cs.takeWhile fun c => c != '<' && c != '&')
  | some raw => rawText raw [] cs
where
  rawText (raw : String) (done : List Char) : List Char → Option (List Char)
    | [] => none
    | c :: rest => if closes raw (c :: rest) then some done.reverse else rawText raw (c :: done) rest
  closes (raw : String) (cs : List Char) : Bool :=
    match cs with
    | '<' :: '/' :: after =>
      let inside := after.dropWhile Text.isBlank
      let name := inside.take raw.length
      sameLetters raw.toList name && isAfterBlanks '>' (inside.drop raw.length)
    | _ => false
  sameLetters : List Char → List Char → Bool
    | [], [] => true
    | a :: as, b :: bs =>
      let b := Text.foldCase b
      (a == b || (Text.sameCapital a).contains b) && sameLetters as bs
    | _, _ => false

private def rawAfter (raw? : Option String) : List Token → Option String
  | [.opening tag _] =>
    if !tag.isClosed && (tag.name == "script" || tag.name == "style") then some tag.name else raw?
  | [.closing _] => none
  | _            => raw?

private def addText (cs : List Char) (done : List Token) : List Token :=
  if cs.isEmpty then done else string cs :: done

-- `fuel` is two more than the number of characters: each step but two takes one.
private def run (done : List Token) : Nat → Scan → Except Fault (List Token)
  | 0, _ => .ok done.reverse
  | fuel + 1, s =>
    match plain s.raw? s.rest with
    -- Content that is all text has no end.
    | none => .ok done.reverse
    | some before =>
      let done := addText before done
      let s := s.goto before.length
      let more (ts : List Token) (count : Nat) : Except Fault (List Token) :=
        run (ts.reverse ++ done) fuel { s.goto count with raw? := rawAfter s.raw? ts }
      -- Nothing more can be told before the text is at its end; then the rest of it is text.
      let stop (ts : List Token) (count : Nat) : Except Fault (List Token) :=
        let s := s.goto count
        if s.atEnd then .ok (addText s.rest (ts ++ done)).reverse
        else run (ts ++ done) fuel { s with atEnd := true }
      match s.rest with
      | [] => .ok done.reverse
      | '&' :: '#' :: after => match number? after with
        | some (.ok (c, n)) => more [string [c]] (n + 2)
        | some (.error e)   => .error (.number e)
        | none => if after.contains ';' then stop [string ['&', '#']] 2 else stop [] 0
      | '&' :: after => match name? after, after with
        | some (name, n), _ => more [.text (nameText name)] (n + 1)
        | none, [] => stop [] 0
        | none, c :: later =>
          if c.isAlpha then stop [] (if s.atEnd && later.isEmpty then 1 else 0)
          else more [string ['&']] 1
      | [_] => stop [] 0
      | _ => match angle s, s.atEnd with
        | .tokens ts n, _    => more ts n
        | .refused f, _      => .error f
        | .unfinished, false => stop [] 0
        | .unfinished, true  =>
          let n := unfinishedLength s.rest
          more [string (s.rest.take n)] n

-- What is not finished when the text ends is text, as is a reference that cannot be read together
-- with all that follows it.
def ofText (text : String) : Except Fault (List Token) :=
  let cs := text.toList
  run [] (cs.length + 2) ⟨cs, 1, 1, none, false⟩

end Token
end Outline.Html
