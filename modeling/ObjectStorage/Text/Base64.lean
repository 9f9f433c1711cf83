/-! Bytes written in base 64. Characters beyond the alphabet do not count. -/

namespace ObjectStorage.Text

/-- The six bits that a character stands for. -/
def base64Value? (c : Char) : Option Nat :=
  if 'A' ≤ c ∧ c ≤ 'Z' then some (c.toNat - 'A'.toNat)
  else if 'a' ≤ c ∧ c ≤ 'z' then some (c.toNat - 'a'.toNat + 26)
  else if '0' ≤ c ∧ c ≤ '9' then some (c.toNat - '0'.toNat + 52)
  else if c = '+' then some 62
  else if c = '/' then some 63
  else none

/-- Reads on after `held` characters of a group of four, of which the number `bits` is not yet
written, and `pads` pads. The text ends with a group, or where pads complete one. -/
def decodeBase64From (out : ByteArray) (bits held pads : Nat) : List Char → Option ByteArray
  | [] => if held = 0 then some out else none
  | c :: rest =>
    if c = '=' then
      if held ≥ 2 ∧ held + pads + 1 ≥ 4 then some out
      else decodeBase64From out bits held (if held ≥ 2 then pads + 1 else pads) rest
    else
      match base64Value? c, held with
      | none, _ => decodeBase64From out bits held pads rest
      | some v, 0 => decodeBase64From out v 1 0 rest
      | some v, 1 => decodeBase64From (out.push (bits * 4 + v / 16).toUInt8) (v % 16) 2 0 rest
      | some v, 2 => decodeBase64From (out.push (bits * 16 + v / 4).toUInt8) (v % 4) 3 0 rest
      | some v, _ => decodeBase64From (out.push (bits * 64 + v).toUInt8) 0 0 0 rest

def decodeBase64 (s : List Char) : Option ByteArray := decodeBase64From .empty 0 0 0 s

end ObjectStorage.Text
