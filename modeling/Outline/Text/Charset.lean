import Outline.Text.Utf8

namespace Outline.Text

inductive Charset
  | utf8
  -- With a mark at the front that is no part of the text.
  | utf8Marked
  | ascii
  | latin1
  | windows1252
  | utf16 (bigEndian : Bool)
  -- The mark at the front tells the order of bytes.
  | utf16Marked
  deriving DecidableEq, Repr

namespace Charset

-- Names count without regard to case, and to what stands between letters and digits.
private def key (name : String) : String :=
  String.ofList ((name.toList.filter Char.isAlphanum).map Char.toLower)

def ofName? (name : String) : Option Charset :=
  match key name with
  | "utf8" | "u8" | "utf" | "cp65001" => some utf8
  | "utf8sig" => some utf8Marked
  | "ascii" | "usascii" | "646" => some ascii
  | "latin1" | "latin" | "l1" | "iso88591" | "88591" | "8859" | "cp819" | "iso885911987" => some latin1
  | "windows1252" | "cp1252" | "1252" => some windows1252
  | "utf16" | "u16" => some utf16Marked
  | "utf16le" => some (utf16 false)
  | "utf16be" => some (utf16 true)
  | _ => none

private def unknown : Char := '\uFFFD'

-- The characters of 0x80 to 0x9F in the encoding of Windows.
private def windowsHigh : List Char :=
  ['€', unknown, '‚', 'ƒ', '„', '…', '†', '‡', 'ˆ', '‰', 'Š', '‹', 'Œ', unknown, 'Ž', unknown,
   unknown, '‘', '’', '“', '”', '•', '–', '—', '˜', '™', 'š', '›', 'œ', unknown, 'ž', 'Ÿ']

private def windowsChar (b : UInt8) : Char :=
  if 0x80 ≤ b.toNat && b.toNat < 0xA0 then windowsHigh.getD (b.toNat - 0x80) unknown
  else Char.ofNat b.toNat

private def units (bigEndian : Bool) : List UInt8 → List Nat
  | a :: b :: rest =>
    (if bigEndian then a.toNat * 256 + b.toNat else b.toNat * 256 + a.toNat) :: units bigEndian rest
  -- Half of a unit is no character.
  | [_] => [0xD800]
  | []  => []

private def ofUnits : List Nat → List Char
  | high :: low :: rest =>
    if 0xD800 ≤ high && high < 0xDC00 then
      if 0xDC00 ≤ low && low < 0xE000 then
        Char.ofNat (0x10000 + (high - 0xD800) * 1024 + (low - 0xDC00)) :: ofUnits rest
      else unknown :: ofUnits (low :: rest)
    else if 0xDC00 ≤ high && high < 0xE000 then unknown :: ofUnits (low :: rest)
    else Char.ofNat high :: ofUnits (low :: rest)
  | [n] => [if 0xD800 ≤ n && n < 0xE000 then unknown else Char.ofNat n]
  | []  => []

private def utf16Text (bigEndian : Bool) (bs : List UInt8) : String :=
  String.ofList (ofUnits (units bigEndian bs))

-- What stands for no character is read as U+FFFD.
def decode : Charset → List UInt8 → String
  | utf8, bs        => Utf8.decodeLossy bs
  | utf8Marked, bs  => Utf8.decodeLossy (if Utf8.mark.isPrefixOf bs then bs.drop 3 else bs)
  | ascii, bs       => String.ofList (bs.map fun b => if b < 128 then Char.ofNat b.toNat else unknown)
  | latin1, bs      => String.ofList (bs.map fun b => Char.ofNat b.toNat)
  | windows1252, bs => String.ofList (bs.map windowsChar)
  | utf16 big, bs   => utf16Text big bs
  | utf16Marked, bs => match bs with
    | 0xFE :: 0xFF :: rest => utf16Text true rest
    | 0xFF :: 0xFE :: rest => utf16Text false rest
    | _                    => utf16Text false bs

end Charset
end Outline.Text
