namespace Outline.Text.Base64

private def valueOf? (c : Char) : Option Nat :=
  if 'A' ≤ c && c ≤ 'Z' then some (c.toNat - 65)
  else if 'a' ≤ c && c ≤ 'z' then some (c.toNat - 71)
  else if c.isDigit then some (c.toNat + 4)
  else if c == '+' then some 62
  else if c == '/' then some 63
  else none

-- `held` characters of a group of four have been read, with `bits` left over from the last one;
-- `pads` equals signs follow them.
private def decodeFrom (done : List UInt8) (held bits pads : Nat) : List Char → Option (List UInt8)
  | [] => if held == 0 then some done.reverse else none
  | '=' :: rest =>
    if 2 ≤ held && 4 ≤ held + pads + 1 then some done.reverse
    else decodeFrom done held bits (if 2 ≤ held then pads + 1 else pads) rest
  | c :: rest =>
    match valueOf? c with
    | none   => decodeFrom done held bits pads rest
    | some v =>
      match held with
      | 0 => decodeFrom done 1 v 0 rest
      | 1 => decodeFrom (UInt8.ofNat (bits * 4 + v / 16) :: done) 2 (v % 16) 0 rest
      | 2 => decodeFrom (UInt8.ofNat (bits * 16 + v / 4) :: done) 3 (v % 4) 0 rest
      | _ => decodeFrom (UInt8.ofNat (bits * 64 + v) :: done) 0 0 0 rest

-- The bytes that are written. Other characters are passed over; none if the last group is not
-- complete.
def decode (cs : List Char) : Option (List UInt8) := decodeFrom [] 0 0 0 cs

end Outline.Text.Base64
