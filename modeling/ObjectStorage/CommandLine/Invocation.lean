import ObjectStorage.CommandLine.Reading

/-! What the program can be asked to do, and the command lines that ask for it. -/

namespace ObjectStorage.CommandLine

/-- Where the data of a stream comes from. -/
inductive StreamSource where
  | standardInput
  | file (path : String)
  deriving DecidableEq, Repr

inductive Command where
  /-- Sends data as one object, `readSize?` bytes read at a time. A command line can leave both
  numbers without a text. -/
  | stream (key : String) (source : StreamSource) (readSize? expectedSize? : Option Int)
  /-- Stores a file in one request. A command line can leave the path without a text. -/
  | put (key : String) (path? : Option String)
  | url (key : String)
  | delete (key : String)
  /-- Tells by the exit status whether an object is there. -/
  | probe (key : String)
  deriving DecidableEq, Repr

structure Invocation where
  /-- The path of the settings file. A command line can leave it without a text. -/
  settingsPath? : Option String
  /-- All is logged, down to the least. -/
  verbose : Bool
  command : Command
  deriving DecidableEq, Repr

def programName : String := "s3-stream-upload"

def versionText : String := programName ++ " 0.4.0\n"

/-- How many bytes are read at a time unless the command line says otherwise. -/
def defaultReadSize : Int := Nat.pow 2 20

/-- The option that only tells how a program is used. -/
def helpOption {σ : Type} (usage : String) : OptionRule σ :=
  ⟨["-h", "--help"], .tell ("usage: " ++ usage ++ "\n")⟩

def readInt (text : String) : Except ValueError Int :=
  match Text.readInteger 10 text with
  | .ok n => .ok n
  | .error _ => .error (.notOfType "int" text)

def readPositive (text : String) : Except ValueError Int :=
  match Text.readInteger 10 text with
  | .ok n => if n ≤ 0 then .error (.notPositive text) else .ok n
  | .error _ => .error (.notOfType "_positive_int" text)

/-- A grammar that takes nothing but a key. -/
def keyGrammar (name : String) (make : String → Command) : Grammar (Option String) Command where
  program := s!"{programName} {name}"
  options := [helpOption s!"{programName} {name} [-h] key"]
  positionals := [⟨.one, fun texts _ => .ok texts.head?⟩]
  start := none
  finish
    | some key => .ok (make key)
    | none => .error ["key"]

/-- What a `put` command line has said so far. -/
structure PutState where
  key? : Option String := none
  source? : Option (Option String) := none

def putGrammar : Grammar PutState Command where
  program := s!"{programName} put"
  options := [helpOption s!"{programName} put [-h] key source"]
  positionals := [
    ⟨.one, fun texts s => .ok { s with key? := texts.head? }⟩,
    ⟨.one, fun texts s => .ok { s with source? := some texts.head? }⟩]
  start := {}
  finish s :=
    match s.key?, s.source? with
    | some key, some path? => .ok (.put key path?)
    | some _, none => .error ["source"]
    | none, some _ => .error ["key"]
    | none, none => .error ["key", "source"]

/-- What a `stream` command line has said so far. -/
structure StreamState where
  key? : Option String := none
  source : StreamSource := .standardInput
  readSize? : Option Int := some defaultReadSize
  expectedSize? : Option Int := some (-1)

/-- A dash stands for the standard input. -/
def StreamSource.ofText (text : String) : StreamSource :=
  if text = "-" then .standardInput else .file text

def streamGrammar : Grammar StreamState Command where
  program := s!"{programName} stream"
  options := [
    helpOption
      s!"{programName} stream [-h] [--read-size READ_SIZE] [--expected-size EXPECTED_SIZE] key [source]",
    ⟨["--read-size"], .value fun text? s => do
      pure { s with readSize? := ← text?.mapM readPositive }⟩,
    ⟨["--expected-size"], .value fun text? s => do
      pure { s with expectedSize? := ← text?.mapM readInt }⟩]
  positionals := [
    ⟨.one, fun texts s => .ok { s with key? := texts.head? }⟩,
    ⟨.atMostOne, fun texts s => .ok { s with source := .ofText (texts.headD "-") }⟩]
  start := {}
  finish s :=
    match s.key? with
    | some key => .ok (.stream key s.source s.readSize? s.expectedSize?)
    | none => .error ["key"]

/-- The commands by their names, each with the reading of its own arguments. -/
def commands : List (String × (List String → Except Halt (Command × List String))) := [
  ("stream", streamGrammar.read),
  ("put", putGrammar.read),
  ("url", (keyGrammar "url" .url).read),
  ("delete", (keyGrammar "delete" .delete).read),
  ("exists", (keyGrammar "exists" .probe).read)]

/-- What a command line has said so far. The command comes with the arguments that have no meaning
for it. -/
structure InvocationState where
  settingsPath? : Option (Option String) := none
  verbose : Bool := false
  command? : Option (Command × List String) := none

/-- Reads a command, by its name and its own arguments. -/
def takeCommand (texts : List String) (s : InvocationState) : Except Halt InvocationState :=
  match texts with
  | [] => .ok s
  | name :: arguments =>
    match commands.lookup name with
    | some read => do pure { s with command? := some (← read arguments) }
    | none =>
      .error (.misuse programName (.unknownCommand "command" name (commands.map (·.1))))

def settingsOption : OptionRule InvocationState :=
  ⟨["-c", "--config"], .value fun text? s => .ok { s with settingsPath? := some text? }⟩

def grammar : Grammar InvocationState (Invocation × List String) where
  program := programName
  options := [
    helpOption s!"{programName} [-h] [--version] -c CONFIG [-v] command ...",
    ⟨["--version"], .tell versionText⟩,
    settingsOption,
    ⟨["-v", "--verbose"], .flag fun s => { s with verbose := true }⟩]
  positionals := [⟨.oneAndRest, takeCommand⟩]
  start := {}
  finish s :=
    match s.settingsPath?, s.command? with
    | some path?, some (command, extras) => .ok (⟨path?, s.verbose, command⟩, extras)
    | some _, none => .error ["command"]
    | none, some _ => .error [settingsOption.label]
    | none, none => .error [settingsOption.label, "command"]

/-- What a command line asks for. -/
def Invocation.ofArguments (arguments : List String) : Except Halt Invocation := do
  let ((invocation, inner), outer) ← grammar.read arguments
  match outer ++ inner with
  | [] => .ok invocation
  | extras => .error (.misuse programName (.unrecognized extras))

end ObjectStorage.CommandLine
