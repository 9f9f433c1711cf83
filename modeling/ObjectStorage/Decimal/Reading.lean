import ObjectStorage.Text.Integer

/-! Doubles read from text: blanks around, a sign, digits with single underscores between them, a
point, an exponent, or one of the words for infinity and for no number. -/

namespace ObjectStorage.Decimal

open ObjectStorage.Text

/-- Leading digits with single underscores between them: their value, how many there are, and the
rest. A run that ends in an underscore is no number. -/
def readRun? : (value count : Nat) → List Char → Option (Nat × Nat × List Char)
  | value, count, [] => some (value, count, [])
  | value, count, c :: rest =>
    if '0' ≤ c ∧ c ≤ '9' then readRun? (value * 10 + (c.toNat - '0'.toNat)) (count + 1) rest
    else if c = '_' then
      match rest with
      | d :: more =>
        if count ≠ 0 ∧ '0' ≤ d ∧ d ≤ '9' then
          readRun? (value * 10 + (d.toNat - '0'.toNat)) (count + 1) more
        else none
      | [] => none
    else some (value, count, c :: rest)

/-- The double nearest to `digits * 10 ^ power`; sizes out of range are settled without computing
the power. -/
def nearestFloat (digits : Nat) (power : Int) : Float :=
  if digits = 0 then 0.0
  else
    let leading : Int := (Nat.toDigits 10 digits).length + power
    if leading > 400 then 1.0 / 0.0
    else if leading < -400 then 0.0
    else if power < 0 then Float.ofScientific digits true power.natAbs
    else Float.ofScientific digits false power.natAbs

/-- The exponent at the end of a number. -/
def readExponent? : List Char → Option Int
  | [] => some 0
  | c :: rest =>
    if c = 'e' ∨ c = 'E' then
      let (negative, digits) := match rest with
        | '-' :: more => (true, more)
        | '+' :: more => (false, more)
        | more => (false, more)
      match readRun? 0 0 digits with
      | some (value, count, []) =>
        if count = 0 then none else some (if negative then -(value : Int) else value)
      | _ => none
    else none

/-- A number without a sign. -/
def readUnsigned? (s : List Char) : Option Float :=
  match String.ofList (s.map Char.toLower) with
  | "inf" | "infinity" => some (1.0 / 0.0)
  | "nan" => some (0.0 / 0.0)
  | _ => do
    let (whole, wholeCount, rest) ← readRun? 0 0 s
    let (digits, places, rest) ← match rest with
      | '.' :: more => do
        let (value, count, rest) ← readRun? 0 0 more
        pure (whole * Nat.pow 10 count + value, count, rest)
      | _ => pure (whole, 0, rest)
    if wholeCount + places = 0 then none
    else
      let exponent ← readExponent? rest
      pure (nearestFloat digits (exponent - places))

/-- Reads a double. -/
def read? (s : String) : Option Float :=
  match trimBlanks (s.toList.map plainDigit) with
  | '-' :: rest => (readUnsigned? rest).map fun x => -x
  | '+' :: rest => readUnsigned? rest
  | rest => readUnsigned? rest

end ObjectStorage.Decimal
