/-
This file renews the index of a subscription.

The new index has one entry for each proxy, in order. A tag that the old index
knows keeps its id. A new tag gets the id of the subscription and a number behind
a dash: the numbers go up along the list, and those that would give an old id are
passed over. So no new id is an old one, and the search ends after as many steps
as there are old ids.
-/

import ProxyProfile.Decimal.Digits
import ProxyProfile.Subscription.Basic

namespace ProxyProfile.Subscription

/-- The id with a number. -/
def numberedId (subscription : Subscription) (number : Nat) : String :=
  subscription.id ++ "-" ++ Decimal.text number

/-- Whether an id stands in the index. -/
def hasId (subscription : Subscription) (id : String) : Bool :=
  subscription.proxies.any fun entry => entry.id = id

/-- The least number from `number` on whose id is not in the index, if it is found in
`fuel` steps. -/
def freshNumber (subscription : Subscription) : Nat → Nat → Nat
  | 0, number => number
  | fuel + 1, number =>
    if subscription.hasId (subscription.numberedId number) then
      subscription.freshNumber fuel (number + 1)
    else number

/-- The entries of proxies, `last` being the last number given out. -/
def indexFrom (subscription : Subscription) : Nat → List Json.Value → List ProxyIndex
  | _, [] => []
  | last, proxy :: rest =>
    let tag := proxy.textAt "tag"
    let type := proxy.textAt "type"
    match subscription.idOf? tag with
    | some id => ⟨id, tag, type⟩ :: subscription.indexFrom last rest
    | none =>
      let number := subscription.freshNumber subscription.proxies.length (last + 1)
      ⟨subscription.numberedId number, tag, type⟩ :: subscription.indexFrom number rest

/-- A subscription with the index of a list of proxies. -/
def refreshIndex (subscription : Subscription) (proxies : List Json.Value) : Subscription :=
  { subscription with proxies := subscription.indexFrom 0 proxies }

end ProxyProfile.Subscription
