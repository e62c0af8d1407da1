import Outline.Pattern.Error

namespace Outline.Pattern

-- A backslash and the character after it are one token.
inductive Token
  | plain (c : Char)
  | escaped (c : Char)
  deriving DecidableEq, Repr

namespace Token

def chars : Token → List Char
  | plain c   => [c]
  | escaped c => ['\\', c]

def text (t : Token) : String := String.ofList t.chars

-- Is the token one character that satisfies `p`?
def satisfies (p : Char → Bool) : Token → Bool
  | plain c   => p c
  | escaped _ => false

end Token

-- `position` is that of the next token, `rest` what follows it, and `length` the pattern's.
structure Source where
  next?    : Option Token
  position : Nat
  rest     : List Char
  length   : Nat
  deriving Repr

namespace Source

private def load (position length : Nat) : List Char → Except Error Source
  | []             => .ok ⟨none, position, [], length⟩
  | ['\\']         => .error (.malformed .danglingEscape (some (length - 1)))
  | '\\' :: c :: r => .ok ⟨some (.escaped c), position, r, length⟩
  | c :: r         => .ok ⟨some (.plain c), position, r, length⟩

def ofText (pattern : String) : Except Error Source :=
  let cs := pattern.toList
  load 0 cs.length cs

-- Goes on to the next token.
def advance (s : Source) : Except Error Source :=
  match s.next? with
  | none   => .ok s
  | some t => load (s.position + t.chars.length) s.length s.rest

-- A reason, `back` characters before the next token.
def error (s : Source) (reason : Reason) (back : Nat) : Error :=
  .malformed reason (some (s.position - back))

def nextIs (s : Source) (p : Char → Bool) : Bool :=
  match s.next? with
  | some t => t.satisfies p
  | none   => false

-- Goes past the character, if it comes next.
def skip? (s : Source) (c : Char) : Except Error (Option Source) :=
  if s.nextIs (· == c) then s.advance.map some else .ok none

-- At most `n` characters that satisfy `p`.
def takeUpTo (p : Char → Bool) : Nat → Source → Except Error (List Char × Source)
  | 0, s => .ok ([], s)
  | n + 1, s =>
    match s.next? with
    | some (.plain c) =>
      if p c then do
        let (cs, s) ← takeUpTo p n (← s.advance)
        .ok (c :: cs, s)
      else .ok ([], s)
    | _ => .ok ([], s)

-- All characters that satisfy `p`.
def takeAll (p : Char → Bool) (s : Source) : Except Error (List Char × Source) :=
  takeUpTo p (s.rest.length + 1) s

private def untilFrom (stop : Char) (what : String) (done : List Char) :
    Nat → Source → Except Error (List Char × Source)
  | 0, s => .error (s.error (.missing what) 0)
  | fuel + 1, s => do
    let after ← s.advance
    match s.next? with
    | none =>
      if done.isEmpty then .error (s.error (.missing what) 0)
      else .error (s.error (.unterminatedName (String.singleton stop)) done.length)
    | some t =>
      if t == .plain stop then
        if done.isEmpty then .error (after.error (.missing what) 1) else .ok (done, after)
      else untilFrom stop what (done ++ t.chars) fuel after

-- What stands before the character `stop`, which is passed; `what` is missing if nothing does.
def takeUntil (stop : Char) (what : String) (s : Source) : Except Error (List Char × Source) :=
  untilFrom stop what [] (s.rest.length + 2) s

end Source
end Outline.Pattern
