/-
This file encodes the routing part of a profile as the kernel takes it.

A rule-set in a file is named by the path of the file; the kernel runs one
directory deeper than the paths are relative to, so the first `data/` in a path
becomes `../`.
-/

import ProxyProfile.Kernel.Rule
import ProxyProfile.Subscription.Basic

namespace ProxyProfile.Kernel

/-- The path of a file as the kernel sees it. -/
def kernelPath (path : String) : String :=
  Text.replaceFirst "data/" "../" path

/-- A rule-set as the kernel takes it, with the files that are known. -/
def encodeRuleSet (scope : Scope) (files : List RuleSetFile) (ruleSet : RuleSet) :
    Compile Json.Value := do
  let start : Json.Object :=
    [("tag", .string ruleSet.tag), ("type", .string ruleSet.type.name)]
  match ruleSet.type with
  | .inline =>
    match Json.parse? ruleSet.rules with
    | some rules => return .object (start.insert "rules" rules)
    | none => throw (.json ("inline rule-set " ++ ruleSet.tag))
  | .local =>
    let path := (files.find? fun file => file.id = ruleSet.path).map fun file =>
      Json.Value.string (kernelPath file.path)
    return .object ((insertSome start "path" path).insert "format" (.string ruleSet.format))
  | .remote =>
    let written := (start.insert "url" (.string ruleSet.url)).insert "format"
      (.string ruleSet.format)
    let detour ← scope.outbound ruleSet.downloadDetour
    let written := insertSome written "download_detour" (detour.map .string)
    return .object (insertText written "update_interval" ruleSet.updateInterval)

/-- The default resolver as the kernel takes it; nothing if its server leads nowhere. -/
def encodeResolver (scope : Scope) (resolver : DomainResolver) :
    Compile (Option Json.Value) := do
  match ← scope.dnsServer resolver.server with
  | none => return none
  | some tag =>
    return some (.object (insertText [("server", .string tag)] "client_subnet"
      resolver.clientSubnet))

/-- The routing part as the kernel takes it. -/
def encodeRoute (scope : Scope) (files : List RuleSetFile) (route : Route) :
    Compile Json.Value := do
  let rules ← encodeRules (encodeRouteRule scope) route.rules
  let ruleSets ← route.ruleSets.mapM (encodeRuleSet scope files)
  let start : Json.Object := [
    ("rules", .array rules),
    ("rule_set", .array ruleSets),
    ("auto_detect_interface", .bool route.autoDetectInterface)]
  let final ← scope.outbound route.finalOutbound
  let written := insertSome start "final" (final.map .string)
  let written :=
    if route.autoDetectInterface then written
    else written.insert "default_interface" (.string route.defaultInterface)
  let written := insertFlag written "find_process" route.findProcess
  let resolver ← encodeResolver scope route.defaultDomainResolver
  return .object (insertSome written "default_domain_resolver" resolver)

end ProxyProfile.Kernel
