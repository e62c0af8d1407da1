import Outline.Number.Read
import Outline.Text.CodePoint
import Outline.Text.Hex
import Outline.Value

namespace Outline.Json

inductive Fault
  | byteOrderMark
  | value
  | name
  | colon
  | comma
  | extra
  | unterminated
  | control
  | escape
  | codePoint
  deriving DecidableEq, Repr

def Fault.message : Fault → String
  | .byteOrderMark => "Unexpected UTF-8 BOM (decode using utf-8-sig)"
  | .value         => "Expecting value"
  | .name          => "Expecting property name enclosed in double quotes"
  | .colon         => "Expecting ':' delimiter"
  | .comma         => "Expecting ',' delimiter"
  | .extra         => "Extra data"
  | .unterminated  => "Unterminated string starting at"
  | .control       => "Invalid control character at"
  | .escape        => "Invalid \\escape"
  | .codePoint     => "Invalid \\uXXXX escape"

inductive Error
  | malformed (fault : Fault) (position line column : Nat)
  | number (e : Number.Error)
  deriving DecidableEq, Repr

def Error.message : Error → String
  | .malformed fault position line column =>
    fault.message ++ s!": line {line} column {column} (char {position})"
  | .number e => e.message

-- While reading, a place is the number of characters that are left.
inductive Stop
  | fault (fault : Fault) (left : Nat)
  | number (e : Number.Error)

def isSpace (c : Char) : Bool := c == ' ' || c == '\t' || c == '\n' || c == '\r'

def skip (cs : List Char) : List Char := cs.dropWhile isSpace

def codeUnit? (a b c d : Char) : Option Nat := do
  let digits ← [a, b, c, d].mapM Text.hexValue?
  some (digits.foldl (fun n digit => n * 16 + digit) 0)

def isHigh (n : Nat) : Bool := 0xD800 ≤ n && n < 0xDC00
def isLow (n : Nat) : Bool := 0xDC00 ≤ n && n < 0xE000

def plainEscape? : Char → Option Char
  | '"'  => some '"'
  | '\\' => some '\\'
  | '/'  => some '/'
  | 'b'  => some '\x08'
  | 'f'  => some '\x0c'
  | 'n'  => some '\n'
  | 'r'  => some '\r'
  | 't'  => some '\t'
  | _    => none

-- The other half of a pair, if it is written next.
def lowHalf? : List Char → Except Stop (Option Nat)
  | '\\' :: 'u' :: a :: b :: c :: d :: _ :: rest =>
    match codeUnit? a b c d with
    | some n => .ok (if isLow n then some n else none)
    | none   => .error (.fault .codePoint (rest.length + 6))
  | _ => .ok none

-- The rest of a string whose opening quote was read with `start` characters left.
def string (start : Nat) (done : List Char) : List Char → Except Stop (String × List Char)
  | [] => .error (.fault .unterminated start)
  | '"' :: rest => .ok (String.ofList done.reverse, rest)
  | ['\\'] => .error (.fault .unterminated start)
  | '\\' :: 'u' :: a :: b :: c :: d :: e :: rest =>
    let left := rest.length + 6
    match codeUnit? a b c d with
    | none => .error (.fault .codePoint left)
    | some n =>
      match if isHigh n then lowHalf? (e :: rest) else .ok none with
      | .error stop => .error stop
      | .ok (some m) =>
        string start (Char.ofNat (0x10000 + (n - 0xD800) * 1024 + (m - 0xDC00)) :: done) (rest.drop 5)
      | .ok none => string start (Text.ofCodePoint n :: done) (e :: rest)
  | '\\' :: 'u' :: rest => .error (.fault .codePoint (rest.length + 1))
  | '\\' :: c :: rest =>
    match plainEscape? c with
    | some d => string start (d :: done) rest
    | none   => .error (.fault .escape (rest.length + 2))
  | c :: rest =>
    if c.toNat < 32 then .error (.fault .control (rest.length + 1))
    else string start (c :: done) rest
termination_by cs => cs.length

def natOfDigits (cs : List Char) : Nat := cs.foldl (fun n c => n * 10 + (c.toNat - 48)) 0

-- The digits after a point, if at least one follows it.
def fraction (cs : List Char) : List Char × List Char :=
  match cs with
  | '.' :: rest =>
    let digits := rest.takeWhile Char.isDigit
    if digits.isEmpty then ([], cs) else (digits, rest.dropWhile Char.isDigit)
  | _ => ([], cs)

def exponent? (cs : List Char) : Option (Int × List Char) :=
  match cs with
  | c :: rest =>
    if c == 'e' || c == 'E' then
      let (down, rest) := match rest with
        | '-' :: r => (true, r)
        | '+' :: r => (false, r)
        | r        => (false, r)
      let digits := rest.takeWhile Char.isDigit
      if digits.isEmpty then none
      else
        let n : Int := natOfDigits digits
        some (if down then -n else n, rest.dropWhile Char.isDigit)
    else none
  | [] => none

-- The sign at the front, if there is one, and what follows it.
def unsign : List Char → Bool × List Char
  | '-' :: rest => (true, rest)
  | cs          => (false, cs)

-- The digits before a point; a zero in front of them stands alone.
def digits? : List Char → Option (List Char × List Char)
  | '0' :: rest => some (['0'], rest)
  | c :: rest   =>
    if c.isDigit then some (c :: rest.takeWhile Char.isDigit, rest.dropWhile Char.isDigit) else none
  | [] => none

def number (cs : List Char) : Except Stop (Value × List Char) :=
  let (negative, body) := unsign cs
  match digits? body with
  | none => .error (.fault .value cs.length)
  | some (whole, rest) =>
    let (places, rest) := fraction rest
    match places, exponent? rest with
    | [], none =>
      if Number.digitLimit < whole.length then .error (.number (.tooLong whole.length))
      else
        let n : Int := natOfDigits whole
        .ok (.int (if negative then -n else n), rest)
    | _, power? =>
      let (power, rest) := power?.getD (0, rest)
      .ok (.float (Double.ofDecimal negative (natOfDigits (whole ++ places)) (power - places.length)), rest)

mutual

def value : Nat → List Char → Except Stop (Value × List Char)
  | 0, cs => .error (.fault .value cs.length)
  | _ + 1, '"' :: rest => (string (rest.length + 1) [] rest).map fun (s, r) => (.text s, r)
  | fuel + 1, '\x7b' :: rest =>
    match skip rest with
    | '\x7d' :: r => .ok (.map [], r)
    | r           => object fuel [] r
  | fuel + 1, '[' :: rest =>
    match skip rest with
    | ']' :: r => .ok (.list [], r)
    | r        => array fuel [] r
  | _ + 1, 'n' :: 'u' :: 'l' :: 'l' :: rest => .ok (.null, rest)
  | _ + 1, 't' :: 'r' :: 'u' :: 'e' :: rest => .ok (.bool true, rest)
  | _ + 1, 'f' :: 'a' :: 'l' :: 's' :: 'e' :: rest => .ok (.bool false, rest)
  | _ + 1, 'N' :: 'a' :: 'N' :: rest => .ok (.float .nan, rest)
  | _ + 1, 'I' :: 'n' :: 'f' :: 'i' :: 'n' :: 'i' :: 't' :: 'y' :: rest =>
    .ok (.float (.infinite false), rest)
  | _ + 1, '-' :: 'I' :: 'n' :: 'f' :: 'i' :: 'n' :: 'i' :: 't' :: 'y' :: rest =>
    .ok (.float (.infinite true), rest)
  | _ + 1, cs => number cs

-- Entries from the next name on; `done` holds those before it.
def object : Nat → List (String × Value) → List Char → Except Stop (Value × List Char)
  | fuel + 1, done, '"' :: rest => do
    let (name, rest) ← string (rest.length + 1) [] rest
    match skip rest with
    | ':' :: rest =>
      let (v, rest) ← value fuel (skip rest)
      let done := Value.put name v done
      match skip rest with
      | '\x7d' :: rest => .ok (.map done, rest)
      | ',' :: rest    => object fuel done (skip rest)
      | rest           => .error (.fault .comma rest.length)
    | rest => .error (.fault .colon rest.length)
  | _, _, cs => .error (.fault .name cs.length)

-- Items from the next one on; `done` holds those before it, last first.
def array : Nat → List Value → List Char → Except Stop (Value × List Char)
  | 0, _, cs => .error (.fault .value cs.length)
  | fuel + 1, done, cs => do
    let (v, rest) ← value fuel cs
    match skip rest with
    | ']' :: rest => .ok (.list (v :: done).reverse, rest)
    | ',' :: rest => array fuel (v :: done) (skip rest)
    | rest        => .error (.fault .comma rest.length)

end

-- The line and column of a position, both counted from one.
private def place (position : Nat) (cs : List Char) : Nat × Nat :=
  (cs.take position).foldl (fun (line, column) c =>
    if c == '\n' then (line + 1, 1) else (line, column + 1)) (1, 1)

def whole (cs : List Char) : Except Stop Value := do
  if cs.head? == some '\uFEFF' then throw (.fault .byteOrderMark cs.length)
  let (v, rest) ← value (cs.length + 1) (skip cs)
  match skip rest with
  | []   => .ok v
  | rest => .error (.fault .extra rest.length)

-- Beside the values of the standard, NaN, Infinity and -Infinity are numbers; of two entries with
-- one name the later wins.
def read (text : String) : Except Error Value :=
  let cs := text.toList
  match whole cs with
  | .ok v => .ok v
  | .error (.number e) => .error (.number e)
  | .error (.fault fault left) =>
    let position := cs.length - left
    let (line, column) := place position cs
    .error (.malformed fault position line column)

end Outline.Json
