import ObjectStorage.CommandLine.Invocation
import ObjectStorage.OpenFile
import ObjectStorage.Settings.Loading
import ObjectStorage.Storage.Facade

/-! The program: what a command line does to a store, and what it prints. -/

namespace ObjectStorage

open CommandLine

/-- What becomes of a text that a run prints: a fault tells why it cannot be printed, as when the
encoding of the console has no form for it. No encoding has one for the half of a character, which
stands in a text of the settings as its escape. -/
abbrev Console := String → Except Fault Unit

/-- What a run of the program finds around it. -/
structure Surroundings where
  /-- Files that are read as a whole, and that there is room for. -/
  files : FileReader
  /-- Files that are opened first, and then read bit by bit. -/
  openFile : String → Except FileError OpenFile
  input : OpenFile
  console : Console

/-- Surroundings with these files and this input, where there is room for so many bytes at once and
all that is printed is shown. -/
def Surroundings.ofFiles (files : FileReader) (input : ByteArray) (room : Int) : Surroundings where
  files
  openFile path := (files path).map (.fetched room)
  input := .fetched room input
  console _ := .ok ()

/-- What a stream is read from. -/
def Surroundings.source (around : Surroundings) : StreamSource → Except FileError OpenFile
  | .standardInput => .ok around.input
  | .file path => around.openFile path

/-- What no handler of the program catches. -/
inductive Failure where
  | load (e : LoadError)
  | fault (e : Fault)

def Failure.message : Failure → String
  | load e => e.message
  | fault e => e.message

inductive Ending where
  | exit (status : Nat)
  | failure (cause : Failure)

/-- What a run of the program shows. -/
structure Report where
  ending : Ending
  /-- What is printed. -/
  output : String := ""
  /-- What is printed for errors, besides the log. -/
  complaint? : Option String := none
  log : List LogRecord := []

/-- What a command comes to when nothing fails. -/
structure Completion where
  status : Nat
  output : String := ""

/-- The report on a command that has come to its end, without a log. -/
def Completion.report (done : Completion) : Report := ⟨.exit done.status, done.output, none, []⟩

namespace Storage

variable {σ : Type}

/-- Prints how an object is reached. -/
def tellUrl (s : Storage σ) (console : Console) (key : String) :
    Action (Journal σ) Completion := do
  let url ← s.fileUrl key
  .ofExcept (console (url.render ++ "\n"))
  pure ⟨0, url.render ++ "\n"⟩

/-- What a stream is made of. A size that was left without a text ends the first read. -/
def sourceFor (around : Surroundings) (source : StreamSource) (readSize? : Option Int) :
    Except Fault Upload.Source := do
  let file ← (around.source source).mapError fileFault
  pure ((readSize?.map file.reads).getD [.error .noReadSize])

/-- Does what a command says. -/
def perform (s : Storage σ) (around : Surroundings) : Command → Action (Journal σ) Completion
  | .stream key source readSize? expectedSize? => do
    let data ← .ofExcept (sourceFor around source readSize?)
    let _ ← s.stream key data expectedSize?
    s.tellUrl around.console key
  | .put key (some path) => do
    let _ ← s.putFile around.files path key
    s.tellUrl around.console key
  | .put _ none => do
    let _ ← s.requireGateway
    .fail .noPath
  | .url key => s.tellUrl around.console key
  | .delete key => do
    s.delete key
    pure ⟨0, ""⟩
  | .probe key => do
    let found ← s.exists? key
    pure ⟨if found then 0 else 1, ""⟩

end Storage

namespace CommandLine

variable {σ : Type}

/-- The report on a command line that nothing is done for. -/
def Halt.report : Halt → Report
  | .told text => ⟨.exit 0, text, none, []⟩
  | .misuse program e => ⟨.exit 2, "", some s!"{program}: error: {e.message}", []⟩

/-- Does what a command says with a storage of these settings. An error of the storage layer is
told and makes the status 1. -/
def Command.run (client : Client σ) (around : Surroundings) (settings : Settings)
    (command : Command) : Action (Journal σ) Report := do
  let _ ← client.setUp false
  Action.recover
    (do
      let storage ← Storage.connect client true settings
      let done ← storage.perform around command
      pure done.report)
    fun e =>
      if e.isStorage then pure ⟨.exit 1, "", some s!"Error: {e.message}", []⟩ else .fail e

/-- The least level of what is logged. -/
def Invocation.logLevel (i : Invocation) : LogLevel := if i.verbose then .debug else .info

/-- Loads the settings and does what the command says; gives the state of the store, too. -/
def Invocation.run (i : Invocation) (client : Client σ) (around : Surroundings) (store : σ) :
    Report × σ :=
  match i.settingsPath?.map (Settings.load around.files) with
  | none => (⟨.failure (.fault .noPath), "", none, []⟩, store)
  | some (.error e) =>
    (if e.isReported then ⟨.exit 1, "", some s!"Invalid config: {e.message}", []⟩
      else ⟨.failure (.load e), "", none, []⟩, store)
  | some (.ok settings) =>
    let (result, journal) := i.command.run client around settings ⟨store, #[]⟩
    let report := match result with
      | .ok report => report
      | .error e => ⟨.failure (.fault e), "", none, []⟩
    ({ report with log := LogRecord.atLeast i.logLevel journal.log.toList }, journal.store)

/-- Runs the program. -/
def run (client : Client σ) (around : Surroundings) (arguments : List String) (store : σ) :
    Report × σ :=
  match Invocation.ofArguments arguments with
  | .error halt => (halt.report, store)
  | .ok invocation => invocation.run client around store

end CommandLine

end ObjectStorage
