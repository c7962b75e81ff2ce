/-
This file updates a subscription from a fetched body.

The proxies of the body pass the plugins and the filters; then the script of the
subscription may change both the list and the subscription, and the list is
written to the subscription's file. The index is renewed before the script, which
sees it, and after it. The subscription is changed in place: when the script or the
writing fails, it keeps what was done to it before.
-/

import ProxyProfile.Plugin.Host
import ProxyProfile.Subscription.Index
import ProxyProfile.Subscription.Selection

namespace ProxyProfile.Subscription

/-! ### The script -/

/-- The function that the script of a subscription defines. -/
def scriptHandler : String := "onSubscribe"

/-- The call of the script of a subscription. -/
def scriptCall (subscription : Subscription) (proxies : List Json.Value) : Script.Call :=
  { owner := subscription.id
    name := subscription.name
    code := subscription.script
    handler := scriptHandler
    plugin := none
    arguments := [.array proxies, subscription.toJson] }

/-- The subscription with the members that a script gives written over its own. -/
def overwrite (subscription : Subscription) (given : Json.Object) : Except Error Subscription :=
  let own := subscription.toJson.object?.getD []
  match Subscription.read? (Tree.ofValue (.object (own.insertAll given))) with
  | some updated => .ok updated
  | none => .error (.json ("subscription returned by " ++ subscription.name))

/-- What the answer of a script makes of a subscription and its proxies. -/
def scriptResult (subscription : Subscription) (answer : Json.Value) :
    Except Error (Subscription × List Json.Value) :=
  match (answer.get? "proxies").bind Json.Value.items?,
      (answer.get? "subscription").bind Json.Value.object? with
  | some proxies, some given => do return (← subscription.overwrite given, proxies)
  | _, _ => .error .wrongResult

/-- Runs the script of a subscription, unless it is blank, and gives the new list of proxies. -/
def runScriptInPlace (runner : Script.Runner) (proxies : List Json.Value) :
    Upkeep Subscription (List Json.Value) := do
  let subscription ← get
  if Text.isBlankText subscription.script then return proxies
  else do
    let answer ← Upkeep.look fun subscription =>
      runner.ask (subscription.scriptCall proxies) .script
    match subscription.scriptResult answer with
    | .ok (updated, proxies) => do
      set updated
      return proxies
    | .error error => throw error

/-- Runs the script of a subscription; gives the subscription as it is afterwards, and the new
list of proxies. -/
def runScript (runner : Script.Runner) (subscription : Subscription)
    (proxies : List Json.Value) : Run (Subscription × List Json.Value) :=
  ExceptT.mk do
    let (result, updated) ← (runScriptInPlace runner proxies).run.run subscription
    return result.map (updated, ·)

/-! ### Updates -/

/-- What an update leaves behind. -/
structure Ingestion (σ : Type) where
  /-- The new list of proxies, or why there is none. -/
  result : Except Error (List Json.Value)
  subscription : Subscription
  storage : σ

/-- The proxies of a body behind the plugins and the filters. -/
def prepare (host : Host) (subscription : Subscription) (body : String) :
    Run (List Json.Value) := do
  let fetched ← (parseBody body subscription.kind : Except Error _)
  let proxies ← host.onSubscribe fetched subscription
  let prepared : Except Error (List Json.Value) := do
    ensureConverted proxies
    if subscription.kind = .manual then return proxies
    else subscription.select proxies
  prepared

/-- Writes the list of a subscription to its file. -/
def writeList {σ : Type} [Storage σ] (storage : σ) (subscription : Subscription)
    (proxies : List Json.Value) : Ingestion σ :=
  match Storage.writeText storage subscription.path (Json.Value.array proxies).pretty with
  | (.ok (), storage) => ⟨.ok proxies, subscription, storage⟩
  | (.error error, storage) => ⟨.error (.storage error), subscription, storage⟩

/-- Updates a subscription from a body. -/
def ingest {σ : Type} [Storage σ] (host : Host) (storage : σ) (subscription : Subscription)
    (body : String) : StateM (List Script.Call) (Ingestion σ) := do
  match ← (prepare host subscription body).run with
  | .error error => return ⟨.error error, subscription, storage⟩
  | .ok proxies =>
    let indexed := subscription.refreshIndex proxies
    match ← (runScriptInPlace host.runner proxies).run.run indexed with
    | (.error error, kept) => return ⟨.error error, kept, storage⟩
    | (.ok proxies, updated) =>
      return writeList storage (updated.refreshIndex proxies) proxies

end ProxyProfile.Subscription
