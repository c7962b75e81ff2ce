/-
This file defines plugins as they are written down.

A plugin names the triggers it wants to hear of. Triggers that the library does
not know are kept as they are written, so that saving a list of plugins never
loses them; they just never fire. The same holds for whatever else stands in an
option of a plugin.
-/

import ProxyProfile.Tree

namespace ProxyProfile

/-! ### Triggers -/

/-- An occasion on which plugins are called. -/
inductive Trigger
  | manual
  | subscribe
  | generate
  | startup
  | shutdown
  | ready
  | coreStarted
  | coreStopped
  | beforeCoreStart
  | beforeCoreStop
deriving DecidableEq

namespace Trigger

/-- The written name of a trigger. -/
def name : Trigger → String
  | manual => "on::manual"
  | subscribe => "on::subscribe"
  | generate => "on::generate"
  | startup => "on::startup"
  | shutdown => "on::shutdown"
  | ready => "on::ready"
  | coreStarted => "on::core::started"
  | coreStopped => "on::core::stopped"
  | beforeCoreStart => "on::before::core::start"
  | beforeCoreStop => "on::before::core::stop"

/-- The function of the plugin's code that is called. -/
def handler : Trigger → String
  | manual => "onRun"
  | subscribe => "onSubscribe"
  | generate => "onGenerate"
  | startup => "onStartup"
  | shutdown => "onShutdown"
  | ready => "onReady"
  | coreStarted => "onCoreStarted"
  | coreStopped => "onCoreStopped"
  | beforeCoreStart => "onBeforeCoreStart"
  | beforeCoreStop => "onBeforeCoreStop"

/-- All triggers. -/
def all : List Trigger :=
  [manual, subscribe, generate, startup, shutdown, ready, coreStarted, coreStopped,
    beforeCoreStart, beforeCoreStop]

/-- The trigger with a name. -/
def ofName? (name : String) : Option Trigger :=
  all.find? fun trigger => trigger.name = name

end Trigger

/-- The name of a trigger in a plugin's definition. -/
inductive TriggerName
  | known (trigger : Trigger)
  | other (name : String)
deriving DecidableEq

namespace TriggerName

/-- What a text names. -/
def ofText (text : String) : TriggerName :=
  match Trigger.ofName? text with
  | some trigger => known trigger
  | none => other text

/-- The written name. -/
def text : TriggerName → String
  | known trigger => trigger.name
  | other name => name

/-- Reads a name: a text, or a table that gives a known name nothing. -/
def read? : Tree → Option TriggerName
  | .table form [(some name, item)] => do
    if !form.untyped then none
    let trigger ← Trigger.ofName? name
    match ← item.value? with
    | .null => return known trigger
    | _ => none
  | tree => do return ofText (← (← tree.value?).text?)

end TriggerName

/-! ### Options -/

/-- An option of a plugin with its default, and whatever else is written with it. -/
structure PluginOption where
  key : String := ""
  value : Json.Value := .null
  extra : Json.Object := []

namespace PluginOption

/-- The fields of a written option that the library knows. -/
def schema : Tree.Schema :=
  [["key"], ["value"]]

/-- Reads an option. -/
def read? (tree : Tree) : Option PluginOption := do
  let (fields, extra) ← tree.openRecord? schema
  return { key := ← fields.text "key", value := ← fields.get "value" .null Tree.value?, extra }

/-- An option as a document. -/
def toJson (option : PluginOption) : Json.Value :=
  .object (("key", .string option.key) :: ("value", option.value) :: option.extra)

end PluginOption

/-! ### Plugins -/

/-- Where the code of a plugin comes from. -/
inductive PluginSource
  | http
  | file
deriving DecidableEq

namespace PluginSource

/-- The written name of a source. -/
def name : PluginSource → String
  | http => "Http"
  | file => "File"

/-- All sources. -/
def all : List PluginSource :=
  [http, file]

/-- The source with a name. -/
def ofName? (name : String) : Option PluginSource :=
  all.find? fun source => source.name = name

end PluginSource

/-- The definition of a plugin. -/
structure Plugin where
  id : String := ""
  version : String := ""
  name : String := ""
  description : String := ""
  source : PluginSource := .file
  url : String := ""
  /-- The file with the plugin's code. -/
  path : String := ""
  triggers : List TriggerName := []
  configuration : List PluginOption := []
  disabled : Bool := false
  /-- The plugin has to be installed before it can be used. -/
  install : Bool := false
  installed : Bool := false
  /-- The number that a handler answered last. -/
  status : Int := 0

namespace Plugin

/-- The fields of a written plugin. -/
def schema : Tree.Schema :=
  [["id"], ["version"], ["name"], ["description"], ["type"], ["url"], ["path"], ["triggers"],
    ["configuration"], ["disabled"], ["install"], ["installed"], ["status"]]

/-- Reads a plugin. -/
def read? (tree : Tree) : Option Plugin := do
  let fields ← tree.record? schema
  return {
    id := ← fields.text "id"
    version := ← fields.text "version"
    name := ← fields.text "name"
    description := ← fields.text "description"
    source := ← fields.choice "type" .file PluginSource.ofName?
    url := ← fields.text "url"
    path := ← fields.text "path"
    triggers := ← fields.list "triggers" TriggerName.read?
    configuration := ← fields.list "configuration" PluginOption.read?
    disabled := ← fields.flag "disabled"
    install := ← fields.flag "install"
    installed := ← fields.flag "installed"
    status := ← fields.get "status" 0 Tree.integer? }

/-- A plugin as a document. -/
def toJson (plugin : Plugin) : Json.Value :=
  .object [
    ("id", .string plugin.id),
    ("version", .string plugin.version),
    ("name", .string plugin.name),
    ("description", .string plugin.description),
    ("type", .string plugin.source.name),
    ("url", .string plugin.url),
    ("path", .string plugin.path),
    ("triggers", .strings (plugin.triggers.map TriggerName.text)),
    ("configuration", .array (plugin.configuration.map PluginOption.toJson)),
    ("disabled", .bool plugin.disabled),
    ("install", .bool plugin.install),
    ("installed", .bool plugin.installed),
    ("status", .number (.integer plugin.status))]

/-- Whether the user wants the plugin to run. -/
def enabled (plugin : Plugin) : Bool :=
  !plugin.disabled

/-- Whether the plugin still has to be installed. -/
def isPendingInstall (plugin : Plugin) : Bool :=
  plugin.install && !plugin.installed

/-- Whether the plugin wants to hear of a trigger. -/
def subscribesTo (plugin : Plugin) (trigger : Trigger) : Bool :=
  plugin.triggers.contains (.known trigger)

/-- The names of triggers that the library does not know. -/
def unknownTriggers (plugin : Plugin) : List String :=
  plugin.triggers.filterMap fun name =>
    match name with
    | .other text => some text
    | .known _ => none

/-- The handlers of the triggers the plugin wants to hear of. -/
def handlers (plugin : Plugin) : List String :=
  (Trigger.all.filter plugin.subscribesTo).map Trigger.handler

end Plugin

/-! ### Values for options -/

/-- The values a user gives to the options of plugins, by the ids of these. -/
abbrev PluginSettings := List (String × Json.Object)

namespace PluginSettings

/-- Gives the options of a plugin values; those given before are forgotten. -/
def put (settings : PluginSettings) (id : String) (given : Json.Object) : PluginSettings :=
  settings.filter (fun entry => entry.1 ≠ id) ++ [(id, given)]

/-- Reads the members of a table behind those already read. -/
def readMembers? : List (Option String × Tree) → PluginSettings → Option PluginSettings
  | [], settings => some settings
  | (key, item) :: rest, settings => do
    readMembers? rest (settings.put (← key) (← item.object?))

/-- Reads the values given to options. -/
def read? : Tree → Option PluginSettings
  | .table _ members => readMembers? members []
  | .leaf scalar => if scalar.hollow then some [] else none
  | _ => none

end PluginSettings

end ProxyProfile
