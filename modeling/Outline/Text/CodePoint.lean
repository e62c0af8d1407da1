namespace Outline.Text

-- Halves of the pairs that code the characters beyond the first 65536.
def isSurrogate (n : Nat) : Bool := 0xD800 ≤ n && n ≤ 0xDFFF

-- A half alone is no character, but a text may hold it where a reference or an escape asks for it.
-- There the characters for private use from U+10F000 to U+10F7FF stand for the halves, so texts that
-- hold these for their own sake are left out. So far from a half is the one that stands for it.
def surrogateShift : Nat := 0x101800

-- The character at a code point.
def ofCodePoint (n : Nat) : Char := Char.ofNat (if isSurrogate n then n + surrogateShift else n)

-- Does a character stand for a half?
def isStray (c : Char) : Bool := isSurrogate (c.toNat - surrogateShift)

def codePoint (c : Char) : Nat := if isStray c then c.toNat - surrogateShift else c.toNat

end Outline.Text
