import ObjectStorage.Text.Quoted

/-! Grammars of command lines: options, named by a letter or a word, and positional arguments. What
is read changes a state that the grammar chooses, of which it makes a result in the end. -/

namespace ObjectStorage.CommandLine

/-- Why a text is no value for an argument. -/
inductive ValueError where
  | notOfType (type text : String)
  | notPositive (text : String)
  deriving DecidableEq, Repr

/-- What is wrong with a command line. -/
inductive UsageError where
  /-- The beginning of several option names. -/
  | ambiguous (argument : String) (names : List String)
  | missingValue (option : String)
  /-- A value for an option that takes none. -/
  | unexpectedValue (option value : String)
  | badValue (argument : String) (e : ValueError)
  | unknownCommand (argument word : String) (known : List String)
  | incomplete (missing : List String)
  | unrecognized (arguments : List String)
  deriving DecidableEq, Repr

/-- Why nothing is done for a command line: it asks for a text only, or it cannot be understood as
one of the program. -/
inductive Halt where
  | told (text : String)
  | misuse (program : String) (e : UsageError)
  deriving DecidableEq, Repr

def ValueError.message : ValueError → String
  | notOfType type text => s!"invalid {type} value: {Text.quoted text}"
  | notPositive text => s!"{text} is not a positive number"

def UsageError.message : UsageError → String
  | ambiguous argument names =>
    s!"ambiguous option: {argument} could match " ++ String.intercalate ", " names
  | missingValue option => s!"argument {option}: expected one argument"
  | unexpectedValue option value =>
    s!"argument {option}: ignored explicit argument {Text.quoted value}"
  | badValue argument e => s!"argument {argument}: {e.message}"
  | unknownCommand argument word known =>
    let choices := String.intercalate ", " (known.map Text.quoted)
    s!"argument {argument}: invalid choice: {Text.quoted word} (choose from {choices})"
  | incomplete missing =>
    "the following arguments are required: " ++ String.intercalate ", " missing
  | unrecognized arguments => "unrecognized arguments: " ++ String.intercalate " " arguments

/-- What an option does. -/
inductive OptionEffect (σ : Type) where
  | tell (text : String)
  | flag (set : σ → σ)
  /-- Takes a value, which a command line can leave without a text. -/
  | value (read : Option String → σ → Except ValueError σ)

structure OptionRule (σ : Type) where
  names : List String
  effect : OptionEffect σ

/-- All names of an option. -/
def OptionRule.label {σ : Type} (rule : OptionRule σ) : String :=
  String.intercalate "/" rule.names

/-- How many arguments a positional one stands for. -/
inductive Arity where
  | one
  | atMostOne
  /-- One, and everything that follows it. -/
  | oneAndRest
  deriving DecidableEq, Repr

structure PositionalRule (σ : Type) where
  arity : Arity
  take : List String → σ → Except Halt σ

structure Grammar (σ α : Type) where
  program : String
  options : List (OptionRule σ)
  positionals : List (PositionalRule σ)
  start : σ
  /-- The result, or the names of what is missing for it. -/
  finish : σ → Except (List String) α

namespace Grammar

variable {σ α : Type}

/-- Every name of an option with its rule. -/
def names (g : Grammar σ α) : List (String × OptionRule σ) :=
  g.options.flatMap fun rule => rule.names.map (·, rule)

/-- The option of a name. -/
def option? (g : Grammar σ α) (name : String) : Option (OptionRule σ) := g.names.lookup name

end Grammar

end ObjectStorage.CommandLine
