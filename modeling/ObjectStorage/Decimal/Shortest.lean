/-! The shortest decimal of a binary fraction: among the decimals that read back as the same
double, one with the fewest digits, and of those the nearest. -/

namespace ObjectStorage.Decimal

/-- A positive double in exact form: `mantissa * 2 ^ exponent`; `tight` says that the next double
below is only half as far away as the next one above. -/
structure Dyadic where
  mantissa : Nat
  exponent : Int
  tight : Bool

/-- A positive decimal: the digits as one number, times a power of ten. -/
structure Scaled where
  digits : Nat
  power : Int
  deriving DecidableEq, Repr

/-- The exact form of the absolute value of a finite double. -/
def Dyadic.ofFloat (x : Float) : Dyadic :=
  let bits := x.toBits.toNat
  let exponent : Nat := bits / Nat.pow 2 52 % Nat.pow 2 11
  let fraction : Nat := bits % Nat.pow 2 52
  if exponent = 0 then ⟨fraction, -1074, false⟩
  else ⟨fraction + Nat.pow 2 52, (exponent : Int) - 1075, fraction == 0 && exponent != 1⟩

/-- The natural number that a dyadic is, if it is one. -/
def Dyadic.toNat? (d : Dyadic) : Option Nat :=
  if 0 ≤ d.exponent then some (d.mantissa * Nat.pow 2 d.exponent.toNat)
  else
    let unit := Nat.pow 2 d.exponent.natAbs
    if d.mantissa % unit = 0 then some (d.mantissa / unit) else none

/-- The integer that a double is, if it is one. -/
def toInt? (x : Float) : Option Int :=
  if x.isNaN || x.isInf then none
  else (Dyadic.ofFloat x).toNat?.map fun n => if x < 0.0 then -(n : Int) else n

/-- A positive rational as a fraction of natural numbers. -/
structure Fraction where
  num : Nat
  den : Nat

namespace Fraction

/-- A natural number times powers of two and ten. -/
def scale (n : Nat) (two ten : Int) : Fraction :=
  ⟨n * Nat.pow 2 two.toNat * Nat.pow 10 ten.toNat,
    Nat.pow 2 (-two).toNat * Nat.pow 10 (-ten).toNat⟩

def le (a b : Fraction) : Bool := a.num * b.den ≤ b.num * a.den
def lt (a b : Fraction) : Bool := a.num * b.den < b.num * a.den

/-- The exponent of the leading decimal digit: the greatest `k` with `10 ^ k` at most the fraction. -/
def decade (a : Fraction) : Int :=
  if a.den ≤ a.num then ((Nat.toDigits 10 (a.num / a.den)).length : Int) - 1
  else
    let guess := (Nat.toDigits 10 (a.den / a.num)).length
    if a.den ≤ a.num * Nat.pow 10 (guess - 1) then -((guess - 1 : Nat) : Int) else -(guess : Int)

end Fraction

namespace Dyadic

/-- The value in quarters of the last binary place, moved by `quarters`. -/
private def offset (x : Dyadic) (quarters : Int) : Fraction :=
  .scale ((4 * x.mantissa : Int) + quarters).toNat (x.exponent - 2) 0

/-- Whether a decimal reads back as this double: it lies between the midpoints to the neighbours,
a midpoint itself counting if the mantissa is even. -/
def readsBack (x : Dyadic) (d : Scaled) : Bool :=
  let value := Fraction.scale d.digits 0 d.power
  let low := x.offset (if x.tight then -1 else -2)
  let high := x.offset 2
  if x.mantissa % 2 = 0 then low.le value && value.le high else low.lt value && value.lt high

/-- The decimal nearest to the value among its two neighbours with digits down to `10 ^ power`, if
it reads back; a tie goes to the even digit. -/
def nearest? (x : Dyadic) (power : Int) : Option Scaled :=
  let value := x.offset 0
  let grid := Fraction.scale 1 0 power
  let below := value.num * grid.den / (value.den * grid.num)
  let rest := value.num * grid.den % (value.den * grid.num)
  let down : Scaled := ⟨below, power⟩
  let up : Scaled := ⟨below + 1, power⟩
  let preferUp := 2 * rest > value.den * grid.num ||
    (2 * rest == value.den * grid.num && below % 2 == 1)
  match x.readsBack down && below != 0, x.readsBack up with
  | true, true => some (if preferUp then up else down)
  | true, false => some down
  | false, true => some up
  | false, false => none

/-- Tries one digit more at a time, at most `left` of them, from the digit worth `10 ^ power`. -/
def shortestFrom (x : Dyadic) (power : Int) : (left : Nat) → Scaled
  | 0 => ⟨0, 0⟩
  | left + 1 =>
    match x.nearest? power with
    | some d => d
    | none => shortestFrom x (power - 1) left

/-- Seventeen digits always suffice. -/
def shortest (x : Dyadic) : Scaled :=
  x.shortestFrom (x.offset 0).decade 18

end Dyadic

/-- Places a decimal point: up to sixteen digits before it and up to four zeros after it are
written out, anything else has an exponent of at least two digits. -/
def Scaled.render (d : Scaled) : String :=
  let digits := (Nat.toDigits 10 d.digits).reverse.dropWhile (· == '0') |>.reverse
  let dropped := (Nat.toDigits 10 d.digits).length - digits.length
  let count : Int := digits.length
  let point : Int := count + d.power + dropped
  String.ofList <|
    if -4 < point ∧ point ≤ 16 then
      if point ≤ 0 then '0' :: '.' :: List.replicate (-point).toNat '0' ++ digits
      else if count ≤ point then digits ++ List.replicate (point - count).toNat '0' ++ ['.', '0']
      else digits.take point.toNat ++ '.' :: digits.drop point.toNat
    else
      let exponent := point - 1
      let size := Nat.toDigits 10 exponent.natAbs
      let padded := if size.length < 2 then '0' :: size else size
      let tail := match digits.drop 1 with
        | [] => []
        | rest => '.' :: rest
      digits.take 1 ++ tail ++ 'e' :: (if exponent < 0 then '-' else '+') :: padded

/-- The text of a double. -/
def render (x : Float) : String :=
  if x.isNaN then "nan"
  else
    let sign := if x.toBits.toNat / Nat.pow 2 63 = 1 then "-" else ""
    if x.isInf then sign ++ "inf"
    else if x == 0.0 then sign ++ "0.0"
    else sign ++ (Dyadic.ofFloat x).shortest.render

end ObjectStorage.Decimal
