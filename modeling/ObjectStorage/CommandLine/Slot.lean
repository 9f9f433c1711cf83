import ObjectStorage.CommandLine.Grammar
import ObjectStorage.Text.Integer

/-! What each argument of a command line looks like, before any of them is used. -/

namespace ObjectStorage.CommandLine

/-- The look of an argument. -/
inductive Slot (σ : Type) where
  | word (text : String)
  /-- Two dashes, after which all is words. -/
  | separator
  /-- An option, named by a letter or a word; more text may be attached to its name. -/
  | option (text : String) (rule : OptionRule σ) (isLetter : Bool) (attached? : Option (List Char))
  /-- Something that looks like an option but is none. -/
  | unknown (text : String)

namespace Slot

variable {σ : Type}

def text : Slot σ → String
  | word text => text
  | separator => "--"
  | option text .. => text
  | unknown text => text

def isOption : Slot σ → Bool
  | option .. => true
  | unknown _ => true
  | _ => false

def isSeparator : Slot σ → Bool
  | separator => true
  | _ => false

end Slot

/-- Whether a text is a dash and a number without an exponent; one line end may follow. -/
def looksNegative : List Char → Bool
  | '-' :: rest =>
    let body := if rest.getLast? = some '\n' then rest.dropLast else rest
    let isDigit (c : Char) : Bool := (Text.decimalDigit? c).isSome
    match body.dropWhile isDigit with
    | [] => !body.isEmpty
    | '.' :: fraction => !fraction.isEmpty && fraction.all isDigit
    | _ => false
  | _ => false

/-- The text before the first equals sign and, if there is one, the text after it. -/
def splitAtSign (s : List Char) : List Char × Option (List Char) :=
  match s.dropWhile (· != '=') with
  | _ :: rest => (s.takeWhile (· != '='), some rest)
  | [] => (s, none)

namespace Grammar

variable {σ α : Type}

/-- The look of an argument that is not two dashes. An option may be given by any beginning of a
long name that no other name has. What begins with a dash but names no option is a word only if it
is a negative number or holds a space. -/
def slotOf (g : Grammar σ α) (argument : String) : Except UsageError (Slot σ) :=
  match argument.toList with
  | '-' :: c :: rest =>
    let (name, attached?) := splitAtSign ('-' :: c :: rest)
    let loose : Slot σ :=
      if looksNegative ('-' :: c :: rest) ∨ ' ' ∈ c :: rest then .word argument else .unknown argument
    match g.option? (String.ofList name) with
    | some rule => .ok (.option argument rule (c != '-') attached?)
    | none =>
      if c = '-' then
        match g.names.filter fun known => name.isPrefixOf known.1.toList with
        | [] => .ok loose
        | [(_, rule)] => .ok (.option argument rule false attached?)
        | several => .error (.ambiguous argument (several.map (·.1)))
      else
        match g.option? (String.ofList ['-', c]) with
        | some rule => .ok (.option argument rule true (some rest))
        | none => .ok loose
  | _ => .ok (.word argument)

/-- The looks of all arguments. -/
def slots (g : Grammar σ α) : List String → Except UsageError (List (Slot σ))
  | [] => .ok []
  | argument :: rest =>
    if argument = "--" then .ok (.separator :: rest.map .word)
    else do
      let slot ← g.slotOf argument
      pure (slot :: (← g.slots rest))

end Grammar

end ObjectStorage.CommandLine
