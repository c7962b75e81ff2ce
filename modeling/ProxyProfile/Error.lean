/-
This file lists why an operation of the library fails, and what it says then.

The texts of readers of JSON, YAML and patterns are not part of a message; it ends
where theirs would begin.
-/

import ProxyProfile.Reference
import ProxyProfile.Script.Basic
import ProxyProfile.Storage.Basic

namespace ProxyProfile

/-- A pattern of an outbound or a subscription. -/
inductive FilterField
  | wanted
  | unwanted
  | wantedProtocol
  | unwantedProtocol
deriving DecidableEq

/-- The name of a pattern in error texts. -/
def FilterField.name : FilterField → String
  | wanted => "include"
  | unwanted => "exclude"
  | wantedProtocol => "include_protocol"
  | unwantedProtocol => "exclude_protocol"

/-- Why an operation fails. -/
inductive Error
  /-- A text is no JSON, or not of the right shape. -/
  | json (context : String)
  /-- A text is no YAML, or not of the right shape. -/
  | yaml (context : String)
  | invalidNumber (context value : String)
  | filter (owner : String) (field : FilterField)
  | unresolved (reference : Unresolved)
  | subscriptionNotFound (id : String)
  /-- A list of proxies cannot be used, for the reason given. -/
  | invalidSubscription (reason : String)
  | plugin (name reason : String)
  | pluginNotFound (id : String)
  | missingCode (name : String)
  | pluginDisabled (name : String)
  | script (failure : Script.Failure)
  /-- Code answers with a value of the wrong shape. -/
  | wrongResult
  | storage (error : StorageError)
  /-- A tag is to be given to a proxy that cannot have one. -/
  | untaggable
deriving DecidableEq

namespace Error

/-- The text of an error. -/
def message : Error → String
  | json context => "Failed to parse " ++ context
  | yaml context => "Failed to parse " ++ context
  | invalidNumber context value => "Invalid number `" ++ value ++ "` in " ++ context
  | filter owner field => "Invalid " ++ field.name ++ " filter of [" ++ owner ++ "]"
  | unresolved reference => reference.message
  | subscriptionNotFound id => "Subscription " ++ id ++ " not found"
  | invalidSubscription reason => reason
  | plugin name reason => name ++ " : " ++ reason
  | pluginNotFound id => id ++ " Not Found"
  | missingCode name => name ++ " is Missing source code"
  | pluginDisabled name => name ++ " is Disabled"
  | script failure => "Script error: " ++ failure.message
  | wrongResult => "Wrong result"
  | storage error => error.message
  | untaggable => "A proxy cannot have a tag"

end Error

/-- A computation that may call code and fail. -/
abbrev Run (α : Type) := Script.Run Error α

/-- Makes a call whose failure means what `explain` says. -/
def Script.Runner.ask (runner : Script.Runner) (call : Script.Call)
    (explain : Script.Failure → Error) : ProxyProfile.Run Json.Value :=
  ExceptT.adapt explain (runner.call call)

/-- A computation that may call code and fail, and that changes a state in place: what it has
changed before it fails stays changed. -/
abbrev Upkeep (σ α : Type) := ExceptT Error (StateT σ (StateM (List Script.Call))) α

/-- Lets a computation look at the state, which it cannot change. -/
def Upkeep.look {σ α : Type} (run : σ → Run α) : Upkeep σ α :=
  ExceptT.mk fun state => do
    let result ← (run state).run
    return (result, state)

end ProxyProfile
