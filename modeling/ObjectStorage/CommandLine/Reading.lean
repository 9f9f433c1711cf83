import ObjectStorage.CommandLine.Slot

/-! Reading a command line by a grammar, from left to right: options take effect where they stand,
and positional arguments as soon as the words before the next option are enough for them. -/

namespace ObjectStorage.CommandLine

variable {σ α : Type}

/-- What one argument that looks like an option asks for. -/
structure OptionUse (σ : Type) where
  /-- The options, each with its value; an option without a value has none. -/
  taken : List (OptionRule σ × Option String)
  /-- How many of the following arguments were taken as values. -/
  used : Nat

/-- The use of an option that has nothing attached: a value is looked for in the next word. -/
def OptionRule.alone (rule : OptionRule σ) (following : List (Slot σ)) :
    Except UsageError (OptionUse σ) :=
  match rule.effect, following with
  | .value _, .word text :: _ => .ok ⟨[(rule, some text)], 1⟩
  | .value _, _ => .error (.missingValue rule.label)
  | _, _ => .ok ⟨[(rule, none)], 0⟩

/-- The value that an attached text is: two dashes are left out and leave no text at all. -/
def attachedValue (text : List Char) : Option String :=
  if text = ['-', '-'] then none else some (String.ofList text)

namespace Grammar

/-- The use of an option with a text attached. After a letter that takes no value the text is read
as more letters. -/
def attachedUse (g : Grammar σ α) (following : List (Slot σ)) (rule : OptionRule σ)
    (isLetter : Bool) (text : List Char) : Except UsageError (OptionUse σ) :=
  match rule.effect with
  | .value _ => .ok ⟨[(rule, attachedValue text)], 0⟩
  | _ =>
    let unexpected := UsageError.unexpectedValue rule.label (String.ofList text)
    match text with
    | [] => .error unexpected
    | c :: rest =>
      match isLetter, g.option? (String.ofList ['-', c]) with
      | true, some next => do
        let asked ← match rest with
          | [] => next.alone following
          | d :: more => g.attachedUse following next true (d :: more)
        pure { asked with taken := (rule, none) :: asked.taken }
      | _, _ => .error unexpected

/-- The use of an option before other arguments. -/
def optionUse (g : Grammar σ α) (following : List (Slot σ)) (rule : OptionRule σ)
    (isLetter : Bool) : (attached? : Option (List Char)) → Except UsageError (OptionUse σ)
  | none => rule.alone following
  | some text => g.attachedUse following rule isLetter text

/-- The effect of an option with its value. -/
def apply (g : Grammar σ α) (state : σ) (taken : OptionRule σ × Option String) : Except Halt σ :=
  match taken.1.effect with
  | .tell text => .error (.told text)
  | .flag set => .ok (set state)
  | .value read =>
    (read taken.2 state).mapError fun e => .misuse g.program (.badValue taken.1.label e)

end Grammar

/-- How many of the arguments at hand a positional one stands for, if they are enough. Two dashes
before or after its words belong to it. -/
def Arity.count (arity : Arity) (slots : List (Slot σ)) : Option Nat :=
  let before := (slots.takeWhile Slot.isSeparator).length
  match slots.drop before, arity with
  | .word _ :: _, .oneAndRest => some slots.length
  | .word _ :: rest, _ => some (before + 1 + (rest.takeWhile Slot.isSeparator).length)
  | _, .atMostOne => some before
  | _, _ => none

/-- The texts that a positional argument is given: two dashes that only mark what follows as words
are left out, once. -/
def Arity.texts (arity : Arity) (slots : List (Slot σ)) : List String :=
  match arity with
  | .oneAndRest => slots.map Slot.text
  | _ => (slots.map Slot.text).erase "--"

/-- A command line that is being read. -/
structure Progress (σ : Type) where
  state : σ
  /-- The positional arguments that have not been found yet. -/
  awaited : List (PositionalRule σ)
  /-- Arguments that have no meaning. -/
  extras : List String

/-- Finds as many positional arguments as the arguments at hand are enough for; gives their number
of arguments, too. -/
def takePositionals (state : σ) : (awaited : List (PositionalRule σ)) → List (Slot σ) →
    Except Halt (Nat × σ × List (PositionalRule σ))
  | [], _ => .ok (0, state, [])
  | rule :: awaited, slots =>
    match rule.arity.count slots with
    | none => .ok (0, state, rule :: awaited)
    | some count => do
      let state ← rule.take (rule.arity.texts (slots.take count)) state
      let (more, state, awaited) ← takePositionals state awaited (slots.drop count)
      pure (count + more, state, awaited)

/-- The use of positional arguments at the front of others. -/
def Progress.advance (p : Progress σ) (slots : List (Slot σ)) : Except Halt (Nat × Progress σ) := do
  let (count, state, awaited) ← takePositionals p.state p.awaited slots
  pure (count, { p with state, awaited })

namespace Grammar

/-- Reads arguments to their end. -/
def scan (g : Grammar σ α) (p : Progress σ) (slots : List (Slot σ)) : Except Halt (Progress σ) :=
  match slots with
  | [] => do pure (← p.advance []).2
  | slot :: rest => do
    if !(slot :: rest).any Slot.isOption then
      let (count, p) ← p.advance (slot :: rest)
      pure { p with extras := p.extras ++ ((slot :: rest).drop count).map Slot.text }
    else
      match slot with
      | .option _ rule isLetter attached? =>
        let asked ← (g.optionUse rest rule isLetter attached?).mapError (.misuse g.program)
        let state ← asked.taken.foldlM g.apply p.state
        g.scan { p with state } (rest.drop asked.used)
      | .unknown text => g.scan { p with extras := p.extras ++ [text] } rest
      | slot => do
        let (count, p) ← p.advance (slot :: rest)
        if count = 0 then g.scan { p with extras := p.extras ++ [slot.text] } rest
        else g.scan p (rest.drop (count - 1))
termination_by slots.length
decreasing_by all_goals simp only [List.length_drop, List.length_cons]; omega

/-- Reads the arguments of a program; gives the result and the arguments that have no meaning. -/
def read (g : Grammar σ α) (arguments : List String) : Except Halt (α × List String) := do
  let slots ← (g.slots arguments).mapError (.misuse g.program)
  let p ← g.scan ⟨g.start, g.positionals, []⟩ slots
  match g.finish p.state with
  | .ok result => pure (result, p.extras)
  | .error missing => .error (.misuse g.program (.incomplete missing))

end Grammar

end ObjectStorage.CommandLine
