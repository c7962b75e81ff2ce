/-
This file reads the arguments of the command line.

The first free word names a command, and the words behind it belong to that
command. Options start with dashes and may stand before or behind free words, the
one for the settings also before the command; two dashes alone end the options.
Every option is given at most once in its place. The arguments are read in order,
so the first one that makes no sense or asks for help decides.
-/

import ProxyProfile.Command.Help
import ProxyProfile.Plugin.Basic

namespace ProxyProfile.Command

/-! ### Tasks -/

/-- What the program is asked to do. -/
inductive Task
  /-- Compiles the profile with an id or a name. -/
  | generate (profile : String) (output : Option String) (beforeCoreStart : Bool)
  | trigger (event : Trigger)
  | runPlugin (id handler : String) (arguments : List String)
  /-- Updates a subscription from a file with a fetched body. -/
  | subscription (id body : String)

/-- A task and the file with the settings. -/
structure Request where
  settingsPath : Option String
  task : Task

/-- What becomes of the arguments when they are no request. -/
inductive Stop
  /-- The program only prints a text. -/
  | print (text : String)
  /-- The arguments make no sense. -/
  | misuse

/-! ### Options -/

/-- What an option stands for. -/
inductive OptionKind
  | help
  | version
  | config
  | output
  | beforeCoreStart
  | event
deriving DecidableEq

namespace OptionKind

/-- The written forms of an option. -/
def names : OptionKind → List String
  | help => ["-h", "--help"]
  | version => ["-V", "--version"]
  | config => ["-c", "--config"]
  | output => ["-o", "--output"]
  | beforeCoreStart => ["--before-core-start"]
  | event => ["--event"]

/-- Whether a value belongs to an option. -/
def hasValue : OptionKind → Bool
  | config => true
  | output => true
  | event => true
  | _ => false

/-- Whether an option may have a value. The path of a file is not empty. -/
def accepts : OptionKind → String → Bool
  | config, value => value ≠ ""
  | _, _ => true

end OptionKind

/-! ### Words -/

/-- An argument. -/
inductive Word
  | free (text : String)
  /-- Two dashes, behind which all words are free. -/
  | dashes
  /-- An option, with what is written together with it. -/
  | option (name : String) (attached : Option String)

/-- What is written together with an option, without an equality sign in front. -/
def attached? : List Char → Option String
  | [] => none
  | '=' :: rest => some (String.ofList rest)
  | rest => some (String.ofList rest)

/-- Takes an argument apart. -/
def Word.of (argument : String) : Word :=
  match argument.toList with
  | ['-', '-'] => .dashes
  | '-' :: '-' :: rest =>
    let name := rest.takeWhile (· ≠ '=')
    .option ("--" ++ String.ofList name) (attached? (rest.drop name.length))
  | '-' :: letter :: rest => .option (String.ofList ['-', letter]) (attached? rest)
  | _ => .free argument

/-- A free word, which alone can be the value of an option. -/
def Word.free? : Word → Option String
  | free text => some text
  | _ => none

/-! ### Places -/

/-- A place for arguments. -/
structure Place where
  options : List OptionKind
  /-- What is printed when help is asked for. -/
  helpText : String
  /-- Whether free words may begin with some. -/
  accepts : List String → Bool

/-- What is read of the arguments of a place. -/
structure Given where
  free : List String := []
  options : List (OptionKind × String) := []

/-- What one argument amounts to. -/
inductive Reading
  | next (given : Given)
  /-- The value of an option is still missing. -/
  | awaits (option : OptionKind)
  | dashes
  | stop (reason : Stop)

namespace Place

/-- Takes a free word. -/
def takeFree (place : Place) (given : Given) (text : String) : Except Stop Given :=
  if place.accepts (given.free ++ [text]) then .ok { given with free := given.free ++ [text] }
  else .error .misuse

/-- Takes an option and its value. -/
def takeOption (given : Given) (option : OptionKind) (value : String) : Except Stop Given :=
  if (given.options.lookup option).isSome || !option.accepts value then .error .misuse
  else .ok { given with options := given.options ++ [(option, value)] }

/-- The reading that a result is. -/
def readingOf : Except Stop Given → Reading
  | .ok given => .next given
  | .error reason => .stop reason

/-- What an option amounts to. Behind the letter of one that asks for a text, more letters
may be written. -/
def readOption (place : Place) (given : Given) (option : OptionKind) (name : String)
    (attached : Option String) : Reading :=
  let isShort := name.length = 2
  match option with
  | .help => if attached.isNone || isShort then .stop (.print place.helpText) else .stop .misuse
  | .version => if attached.isNone || isShort then .stop (.print versionText) else .stop .misuse
  | _ =>
    match option.hasValue, attached with
    | true, some value => readingOf (takeOption given option value)
    | true, none => .awaits option
    | false, some _ => .stop .misuse
    | false, none => readingOf (takeOption given option "")

/-- What an argument amounts to. -/
def readOne (place : Place) (given : Given) (argument : String) : Reading :=
  match Word.of argument with
  | .free text => readingOf (place.takeFree given text)
  | .dashes => .dashes
  | .option name attached =>
    match place.options.find? fun option => option.names.contains name with
    | none => .stop .misuse
    | some option => place.readOption given option name attached

/-- Reads the arguments of a place. -/
def read (place : Place) : Given → List String → Except Stop Given
  | given, [] => .ok given
  | given, argument :: rest =>
    match place.readOne given argument with
    | .next given => place.read given rest
    | .dashes => rest.foldlM place.takeFree given
    | .stop reason => .error reason
    | .awaits option =>
      match rest with
      | [] => .error .misuse
      | next :: rest =>
        match (Word.of next).free? with
        | none => .error .misuse
        | some value => do place.read (← takeOption given option value) rest

/-- Reads the arguments of a place up to the first free word. -/
def readBefore (place : Place) : Given → List String → Except Stop (Given × List String)
  | given, [] => .ok (given, [])
  | given, argument :: rest =>
    match (Word.of argument).free? with
    | some text => .ok (given, text :: rest)
    | none =>
      match place.readOne given argument with
      | .next given => place.readBefore given rest
      | .dashes => .error .misuse
      | .stop reason => .error reason
      | .awaits option =>
        match rest with
        | [] => .error .misuse
        | next :: rest =>
          match (Word.of next).free? with
          | none => .error .misuse
          | some value => do place.readBefore (← takeOption given option value) rest

end Place

/-! ### Commands -/

/-- A command. -/
structure Subcommand where
  name : String
  place : Place
  /-- The task that is given by the arguments. -/
  task? : Given → Option Task

/-- The triggers that can be fired from the command line. -/
def events : List (String × Trigger) :=
  [("startup", .startup), ("shutdown", .shutdown), ("ready", .ready),
    ("core-started", .coreStarted), ("core-stopped", .coreStopped),
    ("before-core-stop", .beforeCoreStop)]

/-- Compiles a profile. -/
def generateCommand : Subcommand :=
  { name := "generate"
    place :=
      { options := [.config, .output, .beforeCoreStart, .help]
        helpText := generateHelp
        accepts := fun free => free.length ≤ 1 }
    task? := fun given =>
      match given.free with
      | [profile] => some (.generate profile (given.options.lookup .output)
          (given.options.lookup .beforeCoreStart).isSome)
      | _ => none }

/-- Fires a trigger. -/
def triggerCommand : Subcommand :=
  { name := "trigger"
    place :=
      { options := [.config, .help]
        helpText := triggerHelp
        accepts := fun free => free.length ≤ 1 && free.all fun event => (events.lookup event).isSome }
    task? := fun given =>
      match given.free with
      | [event] => (events.lookup event).map .trigger
      | _ => none }

/-- Calls a function of a plugin. -/
def runPluginCommand : Subcommand :=
  { name := "run-plugin"
    place :=
      { options := [.config, .event, .help]
        helpText := runPluginHelp
        accepts := fun _ => true }
    task? := fun given =>
      match given.free with
      | id :: arguments =>
        some (.runPlugin id ((given.options.lookup .event).getD Trigger.manual.handler) arguments)
      | [] => none }

/-- Updates a subscription. -/
def subscriptionCommand : Subcommand :=
  { name := "subscription"
    place :=
      { options := [.config, .help]
        helpText := subscriptionHelp
        accepts := fun free => free.length ≤ 2 && free.drop 1 ≠ [""] }
    task? := fun given =>
      match given.free with
      | [id, body] => some (.subscription id body)
      | _ => none }

/-- All commands. -/
def commands : List Subcommand :=
  [generateCommand, triggerCommand, runPluginCommand, subscriptionCommand]

/-- The place before the command. -/
def programPlace : Place :=
  { options := [.config, .help, .version]
    helpText := programHelp
    accepts := fun _ => true }

/-- The help for the command that some words name. -/
def helpFor : List String → Stop
  | [] => .print programHelp
  | [name] =>
    if name = "help" then .print helpHelp
    else
      match commands.find? fun command => command.name = name with
      | some command => .print command.place.helpText
      | none => .misuse
  | _ => .misuse

/-- Reads the arguments of the command line. -/
def read (arguments : List String) : Except Stop Request := do
  let (before, words) ← programPlace.readBefore {} arguments
  match words with
  | [] => .error .misuse
  | name :: rest =>
    match commands.find? fun command => command.name = name with
    | none => .error (if name = "help" then helpFor rest else .misuse)
    | some command =>
      let given ← command.place.read {} rest
      match command.task? given with
      | none => .error .misuse
      | some task =>
        let settingsPath := (given.options.lookup .config).or (before.options.lookup .config)
        return { settingsPath, task }

end ProxyProfile.Command
