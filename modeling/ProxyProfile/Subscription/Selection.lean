/-
This file applies the filters and the prefix of a subscription to its proxies.

A proxy stays if its tag and its type pass; what is missing or no text counts as
the empty text. Then the tag gets the prefix, unless it begins with it already.
The filters look at the tag without the prefix. A value that can have no members
cannot be given a tag.
-/

import ProxyProfile.Error
import ProxyProfile.Pattern.Filter
import ProxyProfile.Subscription.Basic

namespace ProxyProfile.Subscription

/-- The filter for tags. -/
def tagFilter (subscription : Subscription) : Except Error Pattern.Filter :=
  match Pattern.Filter.smart subscription.wanted subscription.unwanted with
  | .ok filter => .ok filter
  | .error .wanted => .error (.filter subscription.name .wanted)
  | .error .unwanted => .error (.filter subscription.name .unwanted)

/-- The filter for types. -/
def typeFilter (subscription : Subscription) : Except Error Pattern.Filter :=
  match Pattern.Filter.smart subscription.wantedProtocol subscription.unwantedProtocol with
  | .ok filter => .ok filter
  | .error .wanted => .error (.filter subscription.name .wantedProtocol)
  | .error .unwanted => .error (.filter subscription.name .unwantedProtocol)

/-- A proxy with a tag. Nothing can have one but objects, and null, which becomes one. -/
def withTag (tag : String) : Json.Value → Except Error Json.Value
  | .object members => .ok (.object (Json.Object.insert members "tag" (.string tag)))
  | .null => .ok (.object [("tag", .string tag)])
  | _ => .error .untaggable

/-- A proxy whose tag begins with a prefix. -/
def addPrefix (start : String) (proxy : Json.Value) : Except Error Json.Value :=
  let tag := proxy.textAt "tag"
  if start = "" || (Text.dropStart? start.toList tag.toList).isSome then .ok proxy
  else withTag (start ++ tag) proxy

/-- Whether a proxy passes both filters. -/
def passes (tags types : Pattern.Filter) (proxy : Json.Value) : Bool :=
  tags.accepts (proxy.textAt "tag") && types.accepts (proxy.textAt "type")

/-- The proxies that pass the filters of a subscription, with its prefix. -/
def select (subscription : Subscription) (proxies : List Json.Value) :
    Except Error (List Json.Value) := do
  let tags ← subscription.tagFilter
  let types ← subscription.typeFilter
  (proxies.filter (passes tags types)).mapM (addPrefix subscription.proxyPrefix)

end ProxyProfile.Subscription
