/-
This file defines the rules by which traffic and name queries are matched.

Rules for traffic and rules for names are one kind of record. Its kind says what
the payload is compared with, its action what happens on a match. Two fields mean
different things under different actions: the outbound of a traffic rule holds an
id for the action `route`, options for `route-options` and a method for `reject`,
and the server of a name rule does the same.
-/

import ProxyProfile.Tree

namespace ProxyProfile

/-! ### Kinds -/

/-- What the payload of a rule is compared with. -/
inductive RuleKind
  | inbound
  | network
  | protocol
  | domain
  | domainSuffix
  | domainKeyword
  | domainRegex
  | sourceIpCidr
  | ipCidr
  | ipIsPrivate
  | sourcePort
  | sourcePortRange
  | port
  | portRange
  | processName
  | processPath
  | processPathRegex
  | clashMode
  | ruleSet
  /-- The outbound that asks for a name. -/
  | outbound
  /-- The payload is an object that says itself what to match. -/
  | inline
  /-- Any other field of the kernel, with a list of texts as its payload. -/
  | other (name : String)
deriving DecidableEq

namespace RuleKind

/-- The kernel's name for a kind. -/
def name : RuleKind → String
  | inbound => "inbound"
  | network => "network"
  | protocol => "protocol"
  | domain => "domain"
  | domainSuffix => "domain_suffix"
  | domainKeyword => "domain_keyword"
  | domainRegex => "domain_regex"
  | sourceIpCidr => "source_ip_cidr"
  | ipCidr => "ip_cidr"
  | ipIsPrivate => "ip_is_private"
  | sourcePort => "source_port"
  | sourcePortRange => "source_port_range"
  | port => "port"
  | portRange => "port_range"
  | processName => "process_name"
  | processPath => "process_path"
  | processPathRegex => "process_path_regex"
  | clashMode => "clash_mode"
  | ruleSet => "rule_set"
  | outbound => "outbound"
  | inline => "inline"
  | other name => name

/-- The kinds that have a name of their own. -/
def known : List RuleKind :=
  [inbound, network, protocol, domain, domainSuffix, domainKeyword, domainRegex, sourceIpCidr,
    ipCidr, ipIsPrivate, sourcePort, sourcePortRange, port, portRange, processName, processPath,
    processPathRegex, clashMode, ruleSet, outbound, inline]

/-- The kind with a name. -/
def ofName (name : String) : RuleKind :=
  (known.find? fun kind => kind.name = name).getD (other name)

/-- The payload is a list of port numbers. -/
def isNumeric (kind : RuleKind) : Bool :=
  kind = port || kind = sourcePort

/-- The payload is a truth value. -/
def isBoolean (kind : RuleKind) : Bool :=
  kind = ipIsPrivate

/-- The payload is one name out of a fixed set. -/
def isEnumerated (kind : RuleKind) : Bool :=
  kind = clashMode

end RuleKind

/-! ### Actions and strategies -/

/-- What happens on a match. -/
inductive RuleAction
  | route
  | routeOptions
  | reject
  | hijackDns
  | sniff
  | resolve
  /-- Answers a name query with a given answer. -/
  | predefined
deriving DecidableEq

namespace RuleAction

/-- The kernel's name for an action. -/
def name : RuleAction → String
  | route => "route"
  | routeOptions => "route-options"
  | reject => "reject"
  | hijackDns => "hijack-dns"
  | sniff => "sniff"
  | resolve => "resolve"
  | predefined => "predefined"

/-- All actions. -/
def all : List RuleAction :=
  [route, routeOptions, reject, hijackDns, sniff, resolve, predefined]

/-- The action with a name. -/
def ofName? (name : String) : Option RuleAction :=
  all.find? fun action => action.name = name

end RuleAction

/-- Which kind of addresses a name is resolved to. -/
inductive Strategy
  | default
  | preferIpv4
  | preferIpv6
  | ipv4Only
  | ipv6Only
deriving DecidableEq

namespace Strategy

/-- The kernel's name for a strategy. -/
def name : Strategy → String
  | default => "default"
  | preferIpv4 => "prefer_ipv4"
  | preferIpv6 => "prefer_ipv6"
  | ipv4Only => "ipv4_only"
  | ipv6Only => "ipv6_only"

/-- All strategies. -/
def all : List Strategy :=
  [default, preferIpv4, preferIpv6, ipv4Only, ipv6Only]

/-- The strategy with a name. -/
def ofName? (name : String) : Option Strategy :=
  all.find? fun strategy => strategy.name = name

end Strategy

/-! ### Rules -/

/-- A rule for traffic or for name queries. -/
structure Rule where
  id : String := ""
  kind : RuleKind := .ruleSet
  payload : String := ""
  /-- Whether the rule applies where it does not match. -/
  invert : Bool := false
  action : RuleAction := .route
  outbound : String := ""
  sniffer : List String := []
  strategy : Strategy := .default
  server : String := ""
  disableCache : Bool := false
  clientSubnet : String := ""

namespace Rule

/-- The fields of a written rule. -/
def schema : Tree.Schema :=
  [["id"], ["type"], ["payload"], ["invert"], ["action"], ["outbound"], ["sniffer"],
    ["strategy"], ["server"], ["disable_cache"], ["client_subnet"]]

/-- Reads a rule. -/
def read? (tree : Tree) : Option Rule := do
  let fields ← tree.record? schema
  return {
    id := ← fields.text "id"
    kind := ← fields.get "type" .ruleSet fun kind => kind.text?.map RuleKind.ofName
    payload := ← fields.text "payload"
    invert := ← fields.flag "invert"
    action := ← fields.choice "action" .route RuleAction.ofName?
    outbound := ← fields.text "outbound"
    sniffer := ← fields.texts "sniffer"
    strategy := ← fields.choice "strategy" .default Strategy.ofName?
    server := ← fields.text "server"
    disableCache := ← fields.flag "disable_cache"
    clientSubnet := ← fields.text "client_subnet" }

/-- A rule as a document. -/
def toJson (rule : Rule) : Json.Value :=
  .object [
    ("id", .string rule.id),
    ("type", .string rule.kind.name),
    ("payload", .string rule.payload),
    ("invert", .bool rule.invert),
    ("action", .string rule.action.name),
    ("outbound", .string rule.outbound),
    ("sniffer", .strings rule.sniffer),
    ("strategy", .string rule.strategy.name),
    ("server", .string rule.server),
    ("disable_cache", .bool rule.disableCache),
    ("client_subnet", .string rule.clientSubnet)]

end Rule

end ProxyProfile
