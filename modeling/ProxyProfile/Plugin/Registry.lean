/-
This file keeps the plugins of a run.

Plugins stand in the order in which they were declared, and that is the order in
which they are called. Their code is kept beside them; a plugin without code is
never called. Who hears of a trigger is found out anew every time.
-/

import ProxyProfile.Plugin.Basic
import ProxyProfile.Storage.Basic

namespace ProxyProfile

/-- The plugins of a run. -/
structure Registry where
  plugins : List Plugin
  /-- The code of plugins by their ids. -/
  codes : List (String × String) := []
  settings : PluginSettings

namespace Registry

/-- The registry of some plugins, without their code. -/
def new (plugins : List Plugin) (settings : PluginSettings) : Registry :=
  { plugins, settings }

/-! ### Look-ups -/

/-- The first plugin with an id. -/
def get? (registry : Registry) (id : String) : Option Plugin :=
  registry.plugins.find? fun plugin => plugin.id = id

/-- The code of the plugin with an id. -/
def code? (registry : Registry) (id : String) : Option String :=
  registry.codes.lookup id

/-- The plugins that want to hear of a trigger, in order. -/
def observers (registry : Registry) (trigger : Trigger) : List Plugin :=
  registry.plugins.filter fun plugin => plugin.subscribesTo trigger

/-- Whether a plugin may run right now. -/
def isRunnable (plugin : Plugin) : Bool :=
  plugin.enabled && !plugin.isPendingInstall

/-- The plugins that hear of a trigger, with their code, in order. -/
def eligible (registry : Registry) (trigger : Trigger) : List (Plugin × String) :=
  (registry.observers trigger).filterMap fun plugin =>
    if isRunnable plugin then (registry.code? plugin.id).map (plugin, ·) else none

/-- What the code of a plugin sees of it: the definition, with the options on the same level
and the user's values over their defaults. -/
def metadata (registry : Registry) (plugin : Plugin) : Json.Value :=
  let definition := plugin.toJson.object?.getD []
  let options := definition.insertAll
    (plugin.configuration.map fun option => (option.key, option.value))
  .object (options.insertAll ((registry.settings.lookup plugin.id).getD []))

/-! ### Changes -/

/-- Gives the plugin with an id its code. -/
def putCode (registry : Registry) (id code : String) : Registry :=
  { registry with
    codes := (id, code) :: registry.codes.filter fun entry => entry.1 ≠ id }

/-- Loads the code of some plugins. Where it cannot be read, everything stays as it is. -/
def loadCodes {σ : Type} [Storage σ] (storage : σ) (registry : Registry) :
    List Plugin → Registry
  | [] => registry
  | plugin :: rest =>
    match Storage.readText storage plugin.path with
    | .ok code => loadCodes storage (registry.putCode plugin.id code) rest
    | .error _ => loadCodes storage registry rest

/-- Loads the code of all plugins. -/
def load {σ : Type} [Storage σ] (storage : σ) (registry : Registry) : Registry :=
  loadCodes storage registry registry.plugins

/-- Replaces the first plugin with the same id; one with a new id comes last. -/
def replace (plugin : Plugin) : List Plugin → List Plugin
  | [] => [plugin]
  | first :: rest =>
    if first.id = plugin.id then plugin :: rest else first :: replace plugin rest

/-- Replaces or adds a plugin and its code. -/
def reload (registry : Registry) (plugin : Plugin) (code : String) : Registry :=
  { registry.putCode plugin.id code with plugins := replace plugin registry.plugins }

/-- Takes the first plugin with an id out, with its code. -/
def remove (registry : Registry) (id : String) : Option Plugin × Registry :=
  (registry.get? id,
    { registry with
      plugins := registry.plugins.eraseP fun plugin => plugin.id = id
      codes := registry.codes.filter fun entry => entry.1 ≠ id })

/-- Gives the first plugin with an id a status. -/
def withStatus (id : String) (status : Int) : List Plugin → List Plugin
  | [] => []
  | plugin :: rest =>
    if plugin.id = id then { plugin with status } :: rest
    else plugin :: withStatus id status rest

/-- Gives the plugin with an id a status; tells whether that changed anything. -/
def setStatus (registry : Registry) (id : String) (status : Int) : Bool × Registry :=
  ((registry.get? id).any fun plugin => plugin.status ≠ status,
    { registry with plugins := withStatus id status registry.plugins })

/-- Gives several plugins a status, one after the other. -/
def setStatuses (registry : Registry) (statuses : List (String × Int)) : Registry :=
  statuses.foldl (fun registry entry => (registry.setStatus entry.1 entry.2).2) registry

end Registry

end ProxyProfile
