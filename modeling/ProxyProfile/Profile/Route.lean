/-
This file defines the routing part of a profile: its rules, its rule-sets and
what happens to traffic that no rule matches.

A rule-set is a list of conditions kept apart from the rules that use it. Its
rules stand in the profile itself, in a file that is already there, or at an
address from which the kernel fetches them.
-/

import ProxyProfile.Profile.Rule

namespace ProxyProfile

/-! ### Rule-sets -/

/-- Where the rules of a rule-set are. -/
inductive RuleSetType
  | inline
  | local
  | remote
deriving DecidableEq

namespace RuleSetType

/-- The kernel's name for a type. -/
def name : RuleSetType → String
  | inline => "inline"
  | .local => "local"
  | remote => "remote"

/-- All types. -/
def all : List RuleSetType :=
  [inline, .local, remote]

/-- The type with a name. -/
def ofName? (name : String) : Option RuleSetType :=
  all.find? fun type => type.name = name

end RuleSetType

/-- A rule-set. -/
structure RuleSet where
  id : String := ""
  type : RuleSetType := .local
  tag : String := ""
  format : String := ""
  /-- The rules themselves, as the text of a JSON array. -/
  rules : String := ""
  /-- The id of a rule-set file. -/
  path : String := ""
  url : String := ""
  downloadDetour : String := ""
  updateInterval : String := ""

namespace RuleSet

/-- The fields of a written rule-set. -/
def schema : Tree.Schema :=
  [["id"], ["type"], ["tag"], ["format"], ["rules"], ["path"], ["url"], ["download_detour"],
    ["update_interval"]]

/-- Reads a rule-set. -/
def read? (tree : Tree) : Option RuleSet := do
  let fields ← tree.record? schema
  return {
    id := ← fields.text "id"
    type := ← fields.choice "type" .local RuleSetType.ofName?
    tag := ← fields.text "tag"
    format := ← fields.text "format"
    rules := ← fields.text "rules"
    path := ← fields.text "path"
    url := ← fields.text "url"
    downloadDetour := ← fields.text "download_detour"
    updateInterval := ← fields.text "update_interval" }

/-- A rule-set as a document. -/
def toJson (ruleSet : RuleSet) : Json.Value :=
  .object [
    ("id", .string ruleSet.id),
    ("type", .string ruleSet.type.name),
    ("tag", .string ruleSet.tag),
    ("format", .string ruleSet.format),
    ("rules", .string ruleSet.rules),
    ("path", .string ruleSet.path),
    ("url", .string ruleSet.url),
    ("download_detour", .string ruleSet.downloadDetour),
    ("update_interval", .string ruleSet.updateInterval)]

end RuleSet

/-! ### Resolving domains -/

/-- How the domains in addresses of outbounds and servers are resolved. -/
structure DomainResolver where
  server : String := ""
  clientSubnet : String := ""

namespace DomainResolver

/-- The fields of a written resolver. -/
def schema : Tree.Schema :=
  [["server"], ["client_subnet"]]

/-- Reads a resolver. -/
def read? (tree : Tree) : Option DomainResolver := do
  let fields ← tree.record? schema
  return { server := ← fields.text "server", clientSubnet := ← fields.text "client_subnet" }

/-- A resolver as a document. -/
def toJson (resolver : DomainResolver) : Json.Value :=
  .object [("server", .string resolver.server), ("client_subnet", .string resolver.clientSubnet)]

end DomainResolver

/-! ### Routing -/

/-- The routing part of a profile. -/
structure Route where
  rules : List Rule := []
  ruleSets : List RuleSet := []
  /-- The id of the outbound for what no rule matches. -/
  finalOutbound : String := ""
  autoDetectInterface : Bool := true
  defaultInterface : String := ""
  findProcess : Bool := false
  defaultDomainResolver : DomainResolver := {}

namespace Route

/-- The fields of a written routing part. -/
def schema : Tree.Schema :=
  [["rules"], ["rule_set"], ["final"], ["auto_detect_interface"], ["default_interface"],
    ["find_process"], ["default_domain_resolver"]]

/-- Reads a routing part. -/
def read? (tree : Tree) : Option Route := do
  let fields ← tree.record? schema
  return {
    rules := ← fields.list "rules" Rule.read?
    ruleSets := ← fields.list "rule_set" RuleSet.read?
    finalOutbound := ← fields.text "final"
    autoDetectInterface := ← fields.get "auto_detect_interface" true Tree.flag?
    defaultInterface := ← fields.text "default_interface"
    findProcess := ← fields.flag "find_process"
    defaultDomainResolver := ← fields.get "default_domain_resolver" {} DomainResolver.read? }

/-- A routing part as a document. -/
def toJson (route : Route) : Json.Value :=
  .object [
    ("rules", .array (route.rules.map Rule.toJson)),
    ("rule_set", .array (route.ruleSets.map RuleSet.toJson)),
    ("final", .string route.finalOutbound),
    ("auto_detect_interface", .bool route.autoDetectInterface),
    ("default_interface", .string route.defaultInterface),
    ("find_process", .bool route.findProcess),
    ("default_domain_resolver", route.defaultDomainResolver.toJson)]

end Route

end ProxyProfile
