/-
This file finds the proxies in the body of a subscription.

A body is tried as an object with the kernel's outbounds in JSON, as a table with
proxies in YAML, and as Base64, which is kept whole for a plugin that knows what
is inside. What a user writes by hand may also be a bare list. Lists that no
plugin has brought into the kernel's form are refused.
-/

import ProxyProfile.Error
import ProxyProfile.Json.Reader
import ProxyProfile.Subscription.Basic
import ProxyProfile.Text.Base64
import ProxyProfile.Yaml.Reader

namespace ProxyProfile.Subscription

/-- The list that a document holds at a key. -/
def listAt? (key : String) (document : Json.Value) : Option (List Json.Value) :=
  (document.get? key).bind Json.Value.items?

/-- The kernel's outbounds in a body. -/
def kernelList? (body : String) : Option (List Json.Value) :=
  (Json.parse? body).bind (listAt? "outbounds")

/-- The proxies of a table in a body. -/
def tableList? (body : String) : Option (List Json.Value) :=
  (Yaml.parse? body).bind (listAt? "proxies")

/-- The error that a body is no list of proxies. -/
def notSubscription : Error :=
  .invalidSubscription "Not a valid subscription data"

/-- The error that a list is not yet in the kernel's form. -/
def needsConversion : Error :=
  .invalidSubscription <|
    "Proxies still need converting to kernel outbounds, " ++
      "install a conversion plugin first"

/-- The proxies in a body. -/
def parseBody (body : String) (kind : SubscriptionKind) : Except Error (List Json.Value) :=
  match kernelList? body, tableList? body with
  | some proxies, _ => .ok proxies
  | none, some proxies => .ok proxies
  | none, none =>
    if Text.Base64.isEncoding body then .ok [.object [("base64", .string body)]]
    else if kind = .manual then
      match (Json.parse? body).bind Json.Value.items? with
      | some proxies => .ok proxies
      | none => .error (.json "manual subscription")
    else .error notSubscription

/-- A proxy in the form of another program: it has a name and no tag. -/
def isForeign (proxy : Json.Value) : Bool :=
  (proxy.get? "name").isSome && (proxy.get? "tag").isNone

/-- Refuses a list that is not yet in the kernel's form. -/
def ensureConverted (proxies : List Json.Value) : Except Error Unit :=
  let isEncoded := proxies.head?.any fun proxy => (proxy.get? "base64").isSome
  if proxies.any isForeign || isEncoded then .error needsConversion else .ok ()

end ProxyProfile.Subscription
