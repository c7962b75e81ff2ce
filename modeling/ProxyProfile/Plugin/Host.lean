/-
This file calls plugins.

On three triggers the plugins hand something along, each getting what the one
before has answered: a document before and after it is complete, and the proxies
of a subscription. The first one that fails ends the chain. On the other triggers
each plugin is called for itself, and most of these go on when one fails; the
numbers that handlers answer become the statuses of their plugins when all have
been called.
-/

import ProxyProfile.Decimal.Width
import ProxyProfile.Plugin.Registry
import ProxyProfile.Profile.Basic
import ProxyProfile.Subscription.Body

namespace ProxyProfile

/-- Plugins and what runs them. -/
structure Host where
  registry : Registry
  runner : Script.Runner

namespace Host

/-! ### One call -/

/-- The call of a function of a plugin. -/
def callOf (host : Host) (plugin : Plugin) (code handler : String)
    (arguments : List Json.Value) : Script.Call :=
  { owner := plugin.id
    name := plugin.name
    code
    handler
    plugin := some (host.registry.metadata plugin)
    arguments }

/-- Calls a function of a plugin. -/
def call (host : Host) (plugin : Plugin) (code handler : String)
    (arguments : List Json.Value) : Run Json.Value :=
  host.runner.ask (host.callOf plugin code handler arguments) fun failure =>
    .plugin plugin.name failure.message

/-- The error that a plugin answers with a value of the wrong shape. -/
def wrongResult (plugin : Plugin) : Error :=
  .plugin plugin.name Error.wrongResult.message

/-! ### Chains -/

/-- Hands a document along some plugins. -/
def passDocument (host : Host) (handler : String) (profile : Json.Value) :
    List (Plugin × String) → Json.Value → Run Json.Value
  | [], document => return document
  | (plugin, code) :: rest, document => do
    let answer ← host.call plugin code handler [document, profile]
    if answer.isObject then host.passDocument handler profile rest answer
    else throw (wrongResult plugin)

/-- Hands a document along the plugins that hear of a trigger. -/
def documentChain (host : Host) (trigger : Trigger) (document : Json.Value) (profile : Profile) :
    Run Json.Value :=
  host.passDocument trigger.handler profile.toJson (host.registry.eligible trigger) document

/-- Hands a compiled document along. -/
def onGenerate (host : Host) (document : Json.Value) (profile : Profile) : Run Json.Value :=
  host.documentChain .generate document profile

/-- Hands the final document along, before the kernel starts. -/
def onBeforeCoreStart (host : Host) (document : Json.Value) (profile : Profile) :
    Run Json.Value :=
  host.documentChain .beforeCoreStart document profile

/-- The proxies that a plugin answers: a list, or the text of a body. -/
def answeredProxies (plugin : Plugin) (kind : SubscriptionKind) (answer : Json.Value) :
    Except Error (List Json.Value) :=
  match answer with
  | .array proxies => .ok proxies
  | .string body =>
    match Subscription.parseBody body kind with
    | .ok proxies => .ok proxies
    | .error error =>
      .error (.plugin plugin.name (Error.wrongResult.message ++ ": " ++ error.message))
  | _ => .error (wrongResult plugin)

/-- Hands proxies along some plugins. -/
def passProxies (host : Host) (subscription : Subscription) :
    List (Plugin × String) → List Json.Value → Run (List Json.Value)
  | [], proxies => return proxies
  | (plugin, code) :: rest, proxies => do
    let answer ← host.call plugin code Trigger.subscribe.handler
      [.array proxies, subscription.toJson]
    match answeredProxies plugin subscription.kind answer with
    | .ok proxies => host.passProxies subscription rest proxies
    | .error error => throw error

/-- Hands the proxies of a subscription along. -/
def onSubscribe (host : Host) (proxies : List Json.Value) (subscription : Subscription) :
    Run (List Json.Value) :=
  host.passProxies subscription (host.registry.eligible .subscribe) proxies

/-! ### Triggers without a chain -/

/-- The number that a handler answers, if it is one and has no more than sixty-four bits. -/
def statusOf? (answer : Json.Value) : Option Int :=
  answer.integer?.filter (Decimal.fitsSigned 63)

/-- A failure on these triggers stops the whole. -/
def isCritical (trigger : Trigger) : Bool :=
  trigger = .shutdown || trigger = .beforeCoreStop

/-- Calls some plugins, one after the other, and gives the statuses they answer. -/
def collectStatuses (host : Host) (trigger : Trigger) :
    List (Plugin × String) → Run (List (String × Int))
  | [] => return []
  | (plugin, code) :: rest => do
    let result ← ExceptT.lift (host.call plugin code trigger.handler []).run
    match result with
    | .ok answer =>
      let statuses ← host.collectStatuses trigger rest
      return ((statusOf? answer).map (plugin.id, ·)).toList ++ statuses
    | .error error =>
      if isCritical trigger then throw error else host.collectStatuses trigger rest

/-- Gives what a computation gives, and the registry as it is afterwards. -/
def upkeep {α : Type} (host : Host) (change : Upkeep Registry α) : Run (α × Registry) :=
  ExceptT.mk do
    let (result, registry) ← change.run.run host.registry
    return result.map (·, registry)

/-- Fires a trigger. No status changes before all plugins have been called. -/
def fireInPlace (runner : Script.Runner) (trigger : Trigger) : Upkeep Registry Unit := do
  let statuses ← Upkeep.look fun registry =>
    collectStatuses ⟨registry, runner⟩ trigger (registry.eligible trigger)
  modify fun registry => registry.setStatuses statuses

/-- Fires a trigger; gives the registry as it is afterwards. -/
def fire (host : Host) (trigger : Trigger) : Run Registry :=
  Prod.snd <$> host.upkeep (fireInPlace host.runner trigger)

/-- Calls a function of a plugin that the user names; gives the answer. -/
def callInPlace (runner : Script.Runner) (id handler : String) (arguments : List Json.Value) :
    Upkeep Registry Json.Value := do
  let registry ← get
  match registry.get? id with
  | none => throw (.pluginNotFound id)
  | some plugin =>
    match registry.code? id with
    | none => throw (.missingCode plugin.name)
    | some code =>
      if plugin.disabled then throw (.pluginDisabled plugin.name)
      else do
        let answer ← Upkeep.look fun registry => call ⟨registry, runner⟩ plugin code handler arguments
        modify fun registry => registry.setStatuses ((statusOf? answer).map (id, ·)).toList
        return answer

/-- Calls a function of a plugin that the user names; gives the answer, and the registry as it
is afterwards. -/
def callManually (host : Host) (id handler : String) (arguments : List Json.Value) :
    Run (Json.Value × Registry) :=
  host.upkeep (callInPlace host.runner id handler arguments)

end Host

end ProxyProfile
