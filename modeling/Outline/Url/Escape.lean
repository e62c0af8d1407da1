import Outline.Text.Hex
import Outline.Text.Utf8

namespace Outline.Url

-- ASCII from the space on, without the characters of a text.
private def asciiBut (excluded : String) (c : Char) : Bool :=
  32 ≤ c.toNat && c.toNat < 127 && !excluded.toList.contains c

def inFragment : Char → Bool := asciiBut " \"<>\x60"

def inQuery : Char → Bool := asciiBut " \"#<>"

def inPath : Char → Bool := asciiBut " \"#<>?\x60\x7b\x7d"

def inUserInfo : Char → Bool := asciiBut " \"#<>?\x60\x7b\x7d/;=@[\\]^|"

def inHost : Char → Bool := asciiBut " #/:<>?@[]^"

-- The characters with percent codes for those that do not stand for themselves.
def escape (allowed : Char → Bool) (cs : List Char) : List Char :=
  cs.flatMap fun c => if allowed c then [c] else (String.utf8EncodeChar c).flatMap Text.percentCode

-- The bytes that a text with percent codes stands for.
def bytesOf : List Char → List UInt8
  | '%' :: a :: b :: rest =>
    match Text.hexValue? a, Text.hexValue? b with
    | some x, some y => UInt8.ofNat (x * 16 + y) :: bytesOf rest
    | _, _ => 37 :: bytesOf (a :: b :: rest)
  | c :: rest => String.utf8EncodeChar c ++ bytesOf rest
  | [] => []

def unescape (s : String) : String := Text.Utf8.decodeLossy (bytesOf s.toList)

end Outline.Url
