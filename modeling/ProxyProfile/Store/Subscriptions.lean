/-
This file gives subscriptions together with their lists of proxies.

A subscription's list is a JSON file at its path. Whoever needs proxies is given
a provider, which hides where they come from.
-/

import ProxyProfile.Error
import ProxyProfile.Json.Reader
import ProxyProfile.Subscription.Basic

namespace ProxyProfile

/-- Where proxies come from. -/
structure Provider where
  /-- The proxies of the subscription with an id. -/
  proxies : String → Except Error (List Json.Value)
  /-- The tag of the proxy with an index id in the subscription with an id. -/
  tag? : String → String → Option String

/-- Subscriptions whose lists are kept in a storage. -/
structure SubscriptionStore (σ : Type) where
  storage : σ
  subscriptions : List Subscription

namespace SubscriptionStore

variable {σ : Type}

/-- The first subscription with an id. -/
def get? (store : SubscriptionStore σ) (id : String) : Option Subscription :=
  store.subscriptions.find? fun subscription => subscription.id = id

/-- Changes the first subscription with an id. -/
def modify (store : SubscriptionStore σ) (id : String) (change : Subscription → Subscription) :
    SubscriptionStore σ :=
  { store with subscriptions := go store.subscriptions }
where
  /-- Changes the first subscription with the id in a list. -/
  go : List Subscription → List Subscription
    | [] => []
    | subscription :: rest =>
      if subscription.id = id then change subscription :: rest else subscription :: go rest

/-- The list of proxies of the subscription with an id. -/
def proxies [Storage σ] (store : SubscriptionStore σ) (id : String) :
    Except Error (List Json.Value) := do
  match store.get? id with
  | none => .error (.subscriptionNotFound id)
  | some subscription =>
    let text ← (Storage.readText store.storage subscription.path).mapError Error.storage
    match (Json.parse? text).bind Json.Value.items? with
    | some items => .ok items
    | none => .error (.json ("proxies of " ++ subscription.name))

/-- The tag of the proxy with an index id in the subscription with an id. -/
def tag? (store : SubscriptionStore σ) (id proxyId : String) : Option String :=
  (store.get? id).bind fun subscription => subscription.tagOf? proxyId

/-- The provider that a store is. -/
def provider [Storage σ] (store : SubscriptionStore σ) : Provider :=
  { proxies := store.proxies, tag? := store.tag? }

end SubscriptionStore

end ProxyProfile
