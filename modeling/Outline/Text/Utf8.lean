import Outline.Text.CodePoint
import Outline.Text.Hex

namespace Outline.Text.Utf8

inductive Fault
  | start        -- no character begins with this byte
  | continuation -- a byte inside a character is not one of its kind
  | unfinished   -- the text ends inside a character
  deriving DecidableEq, Repr

-- The first bytes at fault: `count` of them, the first of which is `byte`, at `position`.
structure Error where
  fault    : Fault
  byte     : UInt8
  position : Nat
  count    : Nat
  deriving DecidableEq, Repr

private def hexDigit (n : Nat) : Char := (Nat.digitChar n)

def Fault.message : Fault → String
  | .start        => "invalid start byte"
  | .continuation => "invalid continuation byte"
  | .unfinished   => "unexpected end of data"

def Error.message (e : Error) : String :=
  let place :=
    if e.count == 1 then
      let n := e.byte.toNat
      "byte 0x" ++ String.ofList [hexDigit (n / 16), hexDigit (n % 16)] ++ s!" in position {e.position}"
    else
      s!"bytes in position {e.position}-{e.position + e.count - 1}"
  "'utf-8' codec can't decode " ++ place ++ ": " ++ e.fault.message

-- A character takes `size` bytes; the second lies between `low` and `high`.
structure Lead where
  size  : Nat
  value : Nat
  low   : Nat
  high  : Nat

-- What a first byte promises.
def lead? (b : UInt8) : Option Lead :=
  let n := b.toNat
  if n < 0x80 then some ⟨1, n, 0x80, 0xBF⟩
  else if n < 0xC2 then none
  else if n < 0xE0 then some ⟨2, n - 0xC0, 0x80, 0xBF⟩
  else if n < 0xF0 then
    some ⟨3, n - 0xE0, if n == 0xE0 then 0xA0 else 0x80, if n == 0xED then 0x9F else 0xBF⟩
  else if n < 0xF5 then
    some ⟨4, n - 0xF0, if n == 0xF0 then 0x90 else 0x80, if n == 0xF4 then 0x8F else 0xBF⟩
  else none

-- Reads the `owed` bytes after the first one; `seen` bytes have been read.
def tail (low high value seen : Nat) : Nat → List UInt8 → Except (Fault × Nat) (Nat × Nat)
  | 0, _ => .ok (value, seen)
  | _ + 1, [] => .error (.unfinished, seen)
  | owed + 1, b :: rest =>
    if low ≤ b.toNat && b.toNat ≤ high then
      tail 0x80 0xBF (value * 64 + (b.toNat - 0x80)) (seen + 1) owed rest
    else .error (.continuation, seen)

-- One character, and the number of its bytes; or what is wrong, and with how many bytes.
def step (b : UInt8) (rest : List UInt8) : Except (Fault × Nat) (Char × Nat) :=
  match lead? b with
  | none => .error (.start, 1)
  | some l => (tail l.low l.high l.value 1 (l.size - 1) rest).map fun (n, k) => (Char.ofNat n, k)

-- `fuel` is the number of bytes: each step reads at least one.
def decodeFrom (position : Nat) (acc : List Char) :
    Nat → List UInt8 → Except Error (List Char)
  | 0, _ => .ok acc.reverse
  | _ + 1, [] => .ok acc.reverse
  | fuel + 1, b :: rest =>
    match step b rest with
    | .ok (c, k) => decodeFrom (position + k) (c :: acc) fuel (rest.drop (k - 1))
    | .error (fault, count) => .error ⟨fault, b, position, count⟩

def decode (bytes : List UInt8) : Except Error String :=
  (decodeFrom 0 [] bytes.length bytes).map String.ofList

private def decodeLossyFrom (acc : List Char) : Nat → List UInt8 → List Char
  | 0, _ => acc.reverse
  | _ + 1, [] => acc.reverse
  | fuel + 1, b :: rest =>
    match step b rest with
    | .ok (c, k) => decodeLossyFrom (c :: acc) fuel (rest.drop (k - 1))
    | .error (_, count) => decodeLossyFrom ('\uFFFD' :: acc) fuel (rest.drop (count - 1))

-- The text of the bytes, with U+FFFD for each group of bytes at fault.
def decodeLossy (bytes : List UInt8) : String :=
  String.ofList (decodeLossyFrom [] bytes.length bytes)

-- Where strays first stand in a text: the first of them, its position, and how many stand in a row.
structure Unencodable where
  codePoint : Nat
  position  : Nat
  count     : Nat
  deriving DecidableEq, Repr

def Unencodable.message (e : Unencodable) : String :=
  let place :=
    if e.count == 1 then
      "character '\\u" ++ String.ofList (hexPadded 4 e.codePoint) ++ s!"' in position {e.position}"
    else
      s!"characters in position {e.position}-{e.position + e.count - 1}"
  "'utf-8' codec can't encode " ++ place ++ ": surrogates not allowed"

-- Where the first stray of a kind stands.
def firstStray? (kind : Char → Bool) (s : String) : Option Unencodable :=
  match s.toList.dropWhile fun c => !kind c with
  | []        => none
  | c :: rest =>
    let position := (s.toList.takeWhile fun c => !kind c).length
    some ⟨codePoint c, position, 1 + (rest.takeWhile isStray).length⟩

-- There are no bytes for strays.
def unencodable? (s : String) : Option Unencodable := firstStray? isStray s

-- In a path the halves from U+DC80 to U+DCFF stand for bytes themselves.
def unencodableInPath? (path : String) : Option Unencodable :=
  firstStray? (fun c => isStray c && !(0xDC80 ≤ codePoint c && codePoint c ≤ 0xDCFF)) path

def encode (s : String) : List UInt8 := s.toList.flatMap String.utf8EncodeChar

-- The bytes that may stand before a text to tell its encoding.
def mark : List UInt8 := [0xEF, 0xBB, 0xBF]

end Outline.Text.Utf8
