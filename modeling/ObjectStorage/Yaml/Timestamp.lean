import ObjectStorage.Calendar

/-! Dates and times as documents write them. -/

namespace ObjectStorage.Yaml

/-- A text without the line feed at its end, which is overlooked where the form of a whole text
counts. -/
def withoutFinalBreak (s : List Char) : List Char :=
  if s.getLast? = some '\n' then s.dropLast else s

/-- Reads between `least` and `most` digits; gives them and what follows. -/
def digitRun? (least most : Nat) (s : List Char) : Option (List Char × List Char) :=
  let digits := (s.take most).takeWhile Char.isDigit
  if digits.length < least then none else some (digits, s.drop digits.length)

/-- The number that digits write. -/
def numberOf (digits : List Char) : Nat :=
  digits.foldl (fun n d => n * 10 + (d.toNat - '0'.toNat)) 0

/-- A number of so many digits. -/
def number? (least most : Nat) (s : List Char) : Option (Nat × List Char) :=
  (digitRun? least most s).map fun (digits, rest) => (numberOf digits, rest)

/-- Drops one character that must be there. -/
def expect? (c : Char) : List Char → Option (List Char)
  | d :: rest => if d = c then some rest else none
  | [] => none

/-- The part of a second after a point, in microseconds; further digits do not count. -/
def microseconds (s : List Char) : Nat × List Char :=
  match s with
  | '.' :: rest =>
    let digits := rest.takeWhile Char.isDigit
    let kept := digits.take 6
    (numberOf (kept ++ List.replicate (6 - kept.length) '0'), rest.drop digits.length)
  | _ => (0, s)

/-- The distance from universal time at the end of a timestamp, if one is given there. -/
def offset? (s : List Char) : Option (Option Int) :=
  match s, s.dropWhile fun c => c == ' ' || c == '\t' with
  | [], _ => some none
  | _, ['Z'] => some (some 0)
  | _, sign :: rest => do
    if sign ≠ '-' ∧ sign ≠ '+' then none
    let (hours, rest) ← number? 1 2 rest
    let minutes ← match rest with
      | [] => some 0
      | _ => do
        let (minutes, rest) ← number? 2 2 (← expect? ':' rest)
        if rest.isEmpty then some minutes else none
    let distance : Int := hours * 60 + minutes
    some (some (if sign = '-' then -distance else distance))
  | _, [] => none

/-- A date alone, or with a time of day; nothing is checked against the calendar. -/
def readTimestamp? (s : List Char) : Option (Date ⊕ Timestamp) := do
  let (year, rest) ← number? 4 4 s
  let (month, rest) ← number? 1 2 (← expect? '-' rest)
  let (day, rest) ← number? 1 2 (← expect? '-' rest)
  let date : Date := ⟨year, month, day⟩
  match rest with
  | [] => some (.inl date)
  | c :: after =>
    let rest ←
      if c = 't' ∨ c = 'T' then some after
      else if c = ' ' ∨ c = '\t' then some (rest.dropWhile fun c => c == ' ' || c == '\t')
      else none
    let (hour, rest) ← number? 1 2 rest
    let (minute, rest) ← number? 2 2 (← expect? ':' rest)
    let (second, rest) ← number? 2 2 (← expect? ':' rest)
    let (microsecond, rest) := microseconds rest
    let offset ← offset? rest
    some (.inr ⟨date, hour, minute, second, microsecond, offset⟩)

/-- A plain scalar is taken for a timestamp if it reads as one; a date alone must have all its
digits. -/
def looksTimestamp (s : List Char) : Bool :=
  match readTimestamp? s with
  | some (.inl _) => s.length == 10
  | some (.inr _) => true
  | none => false

end ObjectStorage.Yaml
