import ObjectStorage.Text.Quoted

/-! UTF-8, decoded in blocks that may cut characters off. -/

namespace ObjectStorage.Text

/-- Why bytes are not UTF-8. -/
inductive Utf8Reason where
  | invalidStart
  | invalidContinuation
  | endOfData
  deriving DecidableEq, Repr

/-- Bytes that are not UTF-8: the first of them, their position, how many, and why. -/
structure Utf8Error where
  lead : UInt8
  position : Nat
  count : Nat
  reason : Utf8Reason
  deriving DecidableEq, Repr

def Utf8Reason.message : Utf8Reason → String
  | .invalidStart => "invalid start byte"
  | .invalidContinuation => "invalid continuation byte"
  | .endOfData => "unexpected end of data"

def Utf8Error.message (e : Utf8Error) : String :=
  let place :=
    if e.count = 1 then
      s!"byte 0x{String.ofList (hexDigits e.lead.toNat 2)} in position {e.position}"
    else s!"bytes in position {e.position}-{e.position + e.count - 1}"
  s!"'utf-8' codec can't decode {place}: {e.reason.message}"

/-- What the front of a byte list is. -/
inductive Utf8Front where
  | empty
  | char (c : Char) (length : Nat)
  /-- The beginning of a character that the list cuts off. -/
  | cut
  | bad (count : Nat) (reason : Utf8Reason)

/-- The payload of a continuation byte. -/
private def continuation? (b : UInt8) : Option Nat :=
  if 0x80 ≤ b ∧ b ≤ 0xBF then some (b.toNat - 0x80) else none

/-- The range of the second byte after a lead byte: it keeps out overlong forms, surrogates and
code points that do not exist. -/
private def secondRange (lead : UInt8) : UInt8 × UInt8 :=
  if lead = 0xE0 then (0xA0, 0xBF)
  else if lead = 0xED then (0x80, 0x9F)
  else if lead = 0xF0 then (0x90, 0xBF)
  else if lead = 0xF4 then (0x80, 0x8F)
  else (0x80, 0xBF)

/-- The continuation bytes from the `read`th of `length` bytes on, for the bits read so far. -/
private def continueChar (value read : Nat) : (left : Nat) → List UInt8 → Utf8Front
  | 0, _ => .char (Char.ofNat value) read
  | _ + 1, [] => .cut
  | left + 1, b :: rest =>
    match continuation? b with
    | some bits => continueChar (value * 64 + bits) (read + 1) left rest
    | none => .bad read .invalidContinuation

/-- Reads one character. -/
def utf8Front : List UInt8 → Utf8Front
  | [] => .empty
  | lead :: rest =>
    if lead < 0x80 then .char (Char.ofNat lead.toNat) 1
    else if lead < 0xC2 ∨ 0xF5 ≤ lead then .bad 1 .invalidStart
    else
      let (bits, left) :=
        if lead < 0xE0 then (lead.toNat - 0xC0, 1)
        else if lead < 0xF0 then (lead.toNat - 0xE0, 2)
        else (lead.toNat - 0xF0, 3)
      match rest with
      | [] => .cut
      | second :: _ =>
        let (low, high) := secondRange lead
        if low ≤ second ∧ second ≤ high then continueChar bits 1 left rest
        else .bad 1 .invalidContinuation

/-- Decodes from a position; gives the characters, newest first, and the bytes of a character that
is cut off. Of a cut-off surrogate the reader cannot know that it is one. -/
def decodeBlock (fuel position : Nat) (chars : List Char) (bytes : List UInt8) :
    Except Utf8Error (List Char × List UInt8) :=
  match fuel with
  | 0 => .ok (chars, bytes)
  | fuel + 1 =>
    match utf8Front bytes with
    | .empty => .ok (chars, [])
    | .cut => .ok (chars, bytes)
    | .char c length => decodeBlock fuel (position + length) (c :: chars) (bytes.drop length)
    | .bad count reason =>
      match bytes with
      | [0xED, second] =>
        if 0xA0 ≤ second ∧ second ≤ 0xBF then .ok (chars, bytes)
        else .error ⟨0xED, position, count, reason⟩
      | _ => .error ⟨bytes.headD 0, position, count, reason⟩

/-- Decodes the bytes of a character that the end cuts off. -/
def decodeEnd (bytes : List UInt8) : Except Utf8Error Unit :=
  match utf8Front bytes with
  | .empty | .char .. => .ok ()
  | .cut => .error ⟨bytes.headD 0, 0, bytes.length, .endOfData⟩
  | .bad count reason => .error ⟨bytes.headD 0, 0, count, reason⟩

end ObjectStorage.Text
