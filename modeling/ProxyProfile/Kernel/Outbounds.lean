/-
This file encodes outbounds as the kernel takes them, and collects the proxies
that the groups among them pick.

The lists that groups draw from are fetched once and before anything else. A
group lists the tags of its members in order. Every proxy that some group picks
follows behind the declared outbounds, once and unchanged, in the order of the
first pick; a pick is a subscription and a place in its list.
-/

import ProxyProfile.Kernel.Scope
import ProxyProfile.Pattern.Filter
import ProxyProfile.Store.Subscriptions

namespace ProxyProfile.Kernel

/-! ### Lists of proxies -/

/-- The subscriptions that groups draw from, each once. -/
def drawnFrom (outbounds : List Outbound) : List String :=
  let groups := outbounds.filter fun outbound => outbound.type.isGroup
  (groups.flatMap fun group => group.members.filterMap Member.subscription?).eraseDups

/-- Lists of proxies by the ids of their subscriptions. -/
abbrev ProxyLists := List (String × List Json.Value)

/-- Fetches the lists that groups draw from. -/
def fetchLists (provider : Provider) (outbounds : List Outbound) : Except Error ProxyLists :=
  (drawnFrom outbounds).mapM fun id => do return (id, ← provider.proxies id)

/-- The list of a subscription. -/
def ProxyLists.of (lists : ProxyLists) (subscription : String) :
    Except Error (List Json.Value) :=
  match lists.lookup subscription with
  | some proxies => .ok proxies
  | none => .error (.subscriptionNotFound subscription)

/-- The tag of a proxy, if it has one that is a text. -/
def proxyTag? (proxy : Json.Value) : Option String :=
  (proxy.get? "tag").bind Json.Value.text?

/-! ### Groups -/

/-- A proxy by the id of its subscription and its place in the list. -/
abbrev Pick := String × Nat

/-- What members stand for: the tags that a group lists, and the proxies that it picks. -/
structure Expansion where
  tags : List String := []
  picks : List Pick := []

/-- Two expansions, one behind the other. -/
def Expansion.append (first second : Expansion) : Expansion :=
  { tags := first.tags ++ second.tags, picks := first.picks ++ second.picks }

/-- The proxies of a list that a filter accepts. -/
def expandList (filter : Pattern.Filter) (subscription : String) (proxies : List Json.Value) :
    Expansion :=
  let accepted := proxies.zipIdx.filterMap fun (proxy, index) =>
    ((proxyTag? proxy).filter filter.accepts).map (·, index)
  { tags := accepted.map Prod.fst
    picks := accepted.map fun entry => (subscription, entry.2) }

/-- The first proxy of a list with a tag, if there is one and a filter accepts it. -/
def expandProxy (filter : Pattern.Filter) (subscription wanted : String)
    (proxies : List Json.Value) : Expansion :=
  match proxies.findIdx? fun proxy => proxyTag? proxy = some wanted with
  | some index =>
    if filter.accepts wanted then { tags := [wanted], picks := [(subscription, index)] } else {}
  | none => {}

/-- What a member stands for. A built-in one that leads nowhere keeps the tag it is stored
with. -/
def expandMember (scope : Scope) (provider : Provider) (lists : ProxyLists)
    (filter : Pattern.Filter) (member : Member) : Compile Expansion :=
  match member.source with
  | .builtIn => do
    match ← scope.outbound member.id with
    | some tag => return { tags := [tag] }
    | none => return { tags := if member.tag = "" then [] else [member.tag] }
  | .subscription => do
    return expandList filter member.id (← lists.of member.id)
  | .proxy subscription => do
    let wanted := (provider.tag? subscription member.id).getD member.tag
    return expandProxy filter subscription wanted (← lists.of subscription)

/-- The filter of a group. -/
def groupFilter (outbound : Outbound) : Except Error Pattern.Filter :=
  match Pattern.Filter.plain outbound.wanted outbound.unwanted with
  | .ok filter => .ok filter
  | .error .wanted => .error (.filter outbound.tag .wanted)
  | .error .unwanted => .error (.filter outbound.tag .unwanted)

/-- What the members of a group stand for. -/
def expandMembers (scope : Scope) (provider : Provider) (lists : ProxyLists)
    (outbound : Outbound) : Compile Expansion := do
  let filter ← groupFilter outbound
  let expansions ← outbound.members.mapM (expandMember scope provider lists filter)
  return expansions.foldl Expansion.append {}

/-! ### Outbounds -/

/-- What an encoded outbound starts with. -/
def startOutbound (outbound : Outbound) : Json.Object :=
  [("type", .string outbound.type.name), ("tag", .string outbound.tag)] ++
    if outbound.type = .urltest then
      [("url", .string outbound.url),
        ("interval", .string outbound.interval),
        ("tolerance", .natural outbound.tolerance)]
    else []

/-- An outbound as the kernel takes it, and the proxies that it picks. -/
def encodeOutbound (scope : Scope) (provider : Provider) (lists : ProxyLists)
    (outbound : Outbound) : Compile (Json.Value × List Pick) := do
  let start := startOutbound outbound
  if outbound.type.isGroup then
    let expansion ← expandMembers scope provider lists outbound
    let written := start ++
      [("interrupt_exist_connections", .bool outbound.interruptExistConnections),
        ("outbounds", .strings expansion.tags)]
    return (.object written, expansion.picks)
  else return (.object start, [])

/-- The proxies that were picked, each once. -/
def pickedProxies (lists : ProxyLists) (picks : List Pick) : List Json.Value :=
  picks.eraseDups.filterMap fun (subscription, index) =>
    (lists.lookup subscription).bind fun proxies => proxies[index]?

/-- The outbounds as the kernel takes them, and the proxies behind them. -/
def encodeOutbounds (scope : Scope) (provider : Provider) (outbounds : List Outbound) :
    Compile (List Json.Value) := do
  let lists ← fetchLists provider outbounds
  let encoded ← outbounds.mapM (encodeOutbound scope provider lists)
  return encoded.map Prod.fst ++ pickedProxies lists (encoded.flatMap Prod.snd)

end ProxyProfile.Kernel
