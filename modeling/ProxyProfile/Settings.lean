/-
This file defines the settings of the program.

Every setting has a default, so an empty file says as much as no file. Settings
are written in YAML or TOML, and the ending of the file's name tells which.
-/

import ProxyProfile.Plugin.Basic
import ProxyProfile.Reference
import ProxyProfile.Script.Basic
import ProxyProfile.Toml.Reader
import ProxyProfile.Yaml.Reader

namespace ProxyProfile

/-- How the code of plugins is run. -/
structure RunnerSettings where
  interpreter : String := "node"
  /-- What is passed to the interpreter before the name of the script. -/
  arguments : List String := []
  timeoutSeconds : Nat := 30

namespace RunnerSettings

/-- The fields of written settings. -/
def schema : Tree.Schema :=
  [["interpreter"], ["args"], ["timeout_secs"]]

/-- Reads settings. -/
def read? (tree : Tree) : Option RunnerSettings := do
  let fields ← tree.record? schema
  return {
    interpreter := ← fields.get "interpreter" "node" Tree.text?
    arguments := ← fields.texts "args"
    timeoutSeconds := ← fields.get "timeout_secs" 30 (Tree.natural? 64) }

/-- Settings as a document. -/
def toJson (settings : RunnerSettings) : Json.Value :=
  .object [
    ("interpreter", .string settings.interpreter),
    ("args", .strings settings.arguments),
    ("timeout_secs", .natural settings.timeoutSeconds)]

/-- The longest time a call may take. -/
def deadline (settings : RunnerSettings) : Duration :=
  1000 * settings.timeoutSeconds

end RunnerSettings

/-- The settings of the program. -/
structure Settings where
  /-- The directory that all other paths are relative to. -/
  dataDirectory : String := "."
  profilesPath : String := "data/profiles.yaml"
  subscriptionsPath : String := "data/subscribes.yaml"
  pluginsPath : String := "data/plugins.yaml"
  ruleSetsPath : String := "data/rulesets.yaml"
  /-- Where the compiled document goes. -/
  outputPath : String := "data/sing-box/config.json"
  policy : Policy := .lenient
  runner : RunnerSettings := {}
  pluginSettings : PluginSettings := []

/-- Why settings cannot be had. -/
inductive SettingsError
  /-- There is no such file. -/
  | unreadable
  | yaml
  | toml
  | unsupportedFormat (format : String)
deriving DecidableEq

/-- The text of an error. -/
def SettingsError.message : SettingsError → String
  | unreadable => "Failed to read settings file"
  | yaml => "Invalid YAML settings"
  | toml => "Invalid TOML settings"
  | unsupportedFormat format => "Unsupported settings format: " ++ format

namespace Settings

/-- The fields of written settings. -/
def schema : Tree.Schema :=
  [["data_dir"], ["profiles_path"], ["subscriptions_path"], ["plugins_path"],
    ["rulesets_path"], ["output_path"], ["reference_policy"], ["plugin"], ["plugin_settings"]]

/-- Reads settings. -/
def read? (tree : Tree) : Option Settings := do
  let fields ← tree.record? schema
  let standard : Settings := {}
  return {
    dataDirectory := ← fields.get "data_dir" standard.dataDirectory Tree.text?
    profilesPath := ← fields.get "profiles_path" standard.profilesPath Tree.text?
    subscriptionsPath := ← fields.get "subscriptions_path" standard.subscriptionsPath Tree.text?
    pluginsPath := ← fields.get "plugins_path" standard.pluginsPath Tree.text?
    ruleSetsPath := ← fields.get "rulesets_path" standard.ruleSetsPath Tree.text?
    outputPath := ← fields.get "output_path" standard.outputPath Tree.text?
    policy := ← fields.choice "reference_policy" .lenient Policy.ofName?
    runner := ← fields.get "plugin" {} RunnerSettings.read?
    pluginSettings := ← fields.get "plugin_settings" [] PluginSettings.read? }

/-- Settings as a document; the values given to plugins stand in the order of their ids. -/
def toJson (settings : Settings) : Json.Value :=
  let given := settings.pluginSettings.mergeSort fun first second => first.1 ≤ second.1
  .object [
    ("data_dir", .string settings.dataDirectory),
    ("profiles_path", .string settings.profilesPath),
    ("subscriptions_path", .string settings.subscriptionsPath),
    ("plugins_path", .string settings.pluginsPath),
    ("rulesets_path", .string settings.ruleSetsPath),
    ("output_path", .string settings.outputPath),
    ("reference_policy", .string settings.policy.name),
    ("plugin", settings.runner.toJson),
    ("plugin_settings", .object (given.map fun entry => (entry.1, .object entry.2)))]

/-- Reads a text in a format, which is named like the ending of a file. -/
def parse (text format : String) : Except SettingsError Settings :=
  let format := Text.lowerAscii format
  if format = "yaml" || format = "yml" then
    if Text.isBlankText text then .ok {}
    else
      match (Yaml.tree? text).bind read? with
      | some settings => .ok settings
      | none => .error .yaml
  else if format = "toml" then
    match (Toml.tree? text).bind read? with
    | some settings => .ok settings
    | none => .error .toml
  else .error (.unsupportedFormat format)

/-- The ending of the name of a file, behind its last point; none for a name that has no
point but perhaps at its start. -/
def formatOf (path : String) : String :=
  let names := (Text.split '/' path).filter fun name => name ≠ "" && name ≠ "."
  match names.getLast? with
  | none => ""
  | some name =>
    if name = ".." then ""
    else
      let pieces := Text.split '.' name
      if 2 < pieces.length || (pieces.length = 2 && pieces.head? ≠ some "") then
        pieces.getLast?.getD ""
      else ""

/-- Reads the file at a path, given its text if there is such a file. -/
def load (path : String) (text : Option String) : Except SettingsError Settings :=
  match text with
  | none => .error .unreadable
  | some text => parse text (formatOf path)

end Settings

end ProxyProfile
