/-
This file is the program: it carries out what the command line asks for.

Settings, lists and bodies are files of a disk; the lists stand below the directory
that the settings name. Everything that can fail comes before the first file that
is written, and a failure tells the first line of its reason.
-/

import ProxyProfile.Command.Arguments
import ProxyProfile.Kernel.Document
import ProxyProfile.Script.Envelope
import ProxyProfile.Settings
import ProxyProfile.Storage.Directory
import ProxyProfile.Store.List
import ProxyProfile.Subscription.Update

namespace ProxyProfile.Command

/-- Starts interpreters: the name, the arguments, then program and input. -/
abbrev Interpreters := String → List String → Script.Launch

/-- What the program leaves behind. -/
structure Report where
  exitCode : Nat
  output : String
  /-- Why it failed. -/
  failure : Option String
  directory : Directory

/-- A step of the program. It fails with the text that is shown, and keeps the directory. -/
abbrev Step (α : Type) := ExceptT String (StateM Directory) α

/-! ### Steps -/

/-- A result whose error is shown by its own text. -/
def orFail {α : Type} : Except Error α → Step α
  | .ok value => return value
  | .error error => throw error.message

/-- A result whose error is shown by another text. -/
def orFailWith {ε α : Type} (text : String) : Except ε α → Step α
  | .ok value => return value
  | .error _ => throw text

/-- Loads a list. -/
def load {α : Type} (read : Tree → Option α) (path : String) :
    Step (Except Error (List α)) := do
  return Store.loadList read (← get) path

/-- Takes over what writing leaves behind. -/
def settle : Except StorageError Unit × Directory → Step Unit
  | (result, directory) => do
    set directory
    orFail (result.mapError Error.storage)

/-- Runs calls from a fresh start. -/
def fresh {α : Type} (run : Run α) : Except Error α :=
  (run.run []).1

/-! ### Commands -/

/-- Compiles a profile into a file. -/
def generate (settings : Settings) (host : Host) (wanted : String) (output : Option String)
    (beforeCoreStart : Bool) : Step Unit := do
  let profiles ← orFailWith "Failed to load profiles"
    (← load Profile.read? settings.profilesPath)
  match profiles.find? fun profile => profile.id = wanted || profile.name = wanted with
  | none => throw ("Profile " ++ wanted ++ " not found")
  | some profile =>
    let subscriptions ← orFail (← load Subscription.read? settings.subscriptionsPath)
    let ruleSetFiles ← orFail (← load RuleSetFile.read? settings.ruleSetsPath)
    let store : SubscriptionStore Directory := { storage := ← get, subscriptions }
    let environment : Kernel.Environment :=
      { provider := store.provider, ruleSetFiles, policy := settings.policy }
    let path := output.getD settings.outputPath
    if beforeCoreStart then
      let document ← orFail <| fresh do
        let document ← Kernel.compile host environment profile
        host.onBeforeCoreStart document profile
      settle (Storage.writeText (← get) path document.pretty)
    else
      let ((result, directory), _) := Kernel.compileFile host environment (← get) path profile []
      set directory
      let _ ← orFail result

/-- Fires a trigger and saves the plugins. -/
def trigger (settings : Settings) (host : Host) (event : Trigger) : Step Unit := do
  let registry ← orFailWith (event.name ++ " aborted") (fresh (host.fire event))
  settle (Store.saveList Plugin.toJson (← get) settings.pluginsPath registry.plugins)

/-- An argument for a handler: a document, or else a text. -/
def argument (text : String) : Json.Value :=
  (Json.parse? text).getD (.string text)

/-- Calls a function of a plugin, saves the plugins, and gives the answer. -/
def runPlugin (settings : Settings) (host : Host) (id handler : String)
    (arguments : List String) : Step String := do
  let (answer, registry) ← orFail (fresh (host.callManually id handler (arguments.map argument)))
  settle (Store.saveList Plugin.toJson (← get) settings.pluginsPath registry.plugins)
  return answer.pretty ++ "\n"

/-- Updates a subscription from the file with a fetched body. -/
def updateSubscription (settings : Settings) (host : Host) (id body : String) : Step Unit := do
  let directory ← get
  let text := (directory.readAt body body).toOption.bind String.fromUTF8?
  match text with
  | none => throw ("Failed to read " ++ body)
  | some text =>
    let subscriptions ← orFail (← load Subscription.read? settings.subscriptionsPath)
    let store : SubscriptionStore Directory := { storage := directory, subscriptions }
    match store.get? id with
    | none => throw ("Subscription " ++ id ++ " not found")
    | some subscription =>
      let (ingestion, _) := Subscription.ingest host directory subscription text []
      set ingestion.storage
      let _ ← orFail ingestion.result
      let updated := (store.modify id fun _ => ingestion.subscription).subscriptions
      settle (Store.saveList Subscription.toJson (← get) settings.subscriptionsPath updated)

/-! ### The program -/

/-- The settings that a command asks for. -/
def loadSettings (path : Option String) : Step Settings := do
  match path with
  | none => return {}
  | some path =>
    let directory ← get
    let text := (directory.readAt path path).toOption.bind String.fromUTF8?
    orFailWith ("Failed to load settings from " ++ path) (Settings.load path text)

/-- Carries a request out and gives what is printed. -/
def perform (interpreters : Interpreters) (request : Request) : Step String := do
  let settings ← loadSettings request.settingsPath
  modify fun directory => { directory with root := settings.dataDirectory }
  let plugins ← orFailWith "Failed to load plugins" (← load Plugin.read? settings.pluginsPath)
  let registry := (Registry.new plugins settings.pluginSettings).load (← get)
  let interpreter := settings.runner.interpreter
  let engine := Script.Engine.ofProcess interpreter
    (interpreters interpreter settings.runner.arguments)
  let host : Host := { registry, runner := ⟨engine, settings.runner.deadline⟩ }
  match request.task with
  | .generate profile output beforeCoreStart =>
    generate settings host profile output beforeCoreStart
    return ""
  | .trigger event =>
    trigger settings host event
    return ""
  | .runPlugin id handler arguments => runPlugin settings host id handler arguments
  | .subscription id body =>
    updateSubscription settings host id body
    return ""

/-- The first line of a text. -/
def firstLine (text : String) : String :=
  String.ofList (text.toList.takeWhile (· ≠ '\n'))

/-- Runs the program with some arguments on a disk, from a directory of it. -/
def execute (interpreters : Interpreters) (disk : Disk) (current : Location)
    (arguments : List String) : Report :=
  let start : Directory := { disk, current, root := "." }
  match read arguments with
  | .error .misuse => { exitCode := 2, output := "", failure := none, directory := start }
  | .error (.print text) => { exitCode := 0, output := text, failure := none, directory := start }
  | .ok request =>
    match (perform interpreters request).run start with
    | (.ok output, directory) => { exitCode := 0, output, failure := none, directory }
    | (.error text, directory) =>
      { exitCode := 1, output := "", failure := some (firstLine text), directory }

end ProxyProfile.Command
