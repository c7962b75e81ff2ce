/-
This file proves that no reference of a compiled profile dangles.

What a part of the profile is encoded to refers to entries of other parts, and to
synthetic outbounds that are only added at the end. So each part is followed
under the assumption that the arrays of the document hold whatever the references
of the part reach, and the assumption is redeemed once: declared things have
entries with their tags, the synthetic outbounds were noted down by the very
references that reach them, and a proxy that a group lists was picked by it.
-/

import ProxyProfile.Kernel.Document
import ProxyProfile.Proofs.Naming

namespace ProxyProfile.Kernel

/-! ### Routing -/

/-- The references to outbounds that a rule-set resolves. -/
def ruleSetReferences (ruleSet : RuleSet) : List String :=
  if ruleSet.type = .remote then [ruleSet.downloadDetour] else []

/-- A rule-set has its tag, and a remote one the tag that its detour reaches. -/
structure RuleSetWritten (scope : Scope) (ruleSet : RuleSet) (written : Json.Value) : Prop where
  tag : written.get? "tag" = some (.string ruleSet.tag)
  detour : ruleSet.type = .remote →
    ∀ tag, scope.reachedOutbound? ruleSet.downloadDetour = some tag →
      written.get? "download_detour" = some (.string tag)

theorem settles_encodeRuleSet (scope : Scope) (files : List RuleSetFile) (ruleSet : RuleSet) :
    Settles scope (encodeRuleSet scope files ruleSet) (ruleSetReferences ruleSet)
      (RuleSetWritten scope ruleSet) := by
  unfold encodeRuleSet ruleSetReferences
  cases kind : ruleSet.type with
  | inline =>
    simp only
    cases Json.parse? ruleSet.rules with
    | none => exact settles_throw _
    | some rules => exact settles_pure _ ⟨rfl, fun remote => nomatch kind.symm.trans remote⟩
  | «local» =>
    refine settles_pure _ ⟨?_, fun remote => nomatch kind.symm.trans remote⟩
    show (Json.Object.insert _ "format" _).get? "tag" = _
    rw [Json.Object.get?_insert_of_ne _ _ (by decide), get?_insertSome_of_ne _ _ (by decide)]
    rfl
  | remote =>
    refine settles_before (settles_outbound scope ruleSet.downloadDetour) fun reached equal => ?_
    refine settles_pure _ ⟨?_, fun _ tag found => ?_⟩
    · show (insertText _ "update_interval" _).get? "tag" = _
      rw [get?_insertText_of_ne _ _ (by decide), get?_insertSome_of_ne _ _ (by decide)]
      rfl
    · show (insertText _ "update_interval" _).get? "download_detour" = _
      rw [get?_insertText_of_ne _ _ (by decide)]
      exact get?_insertSome_reached _ _ (equal.trans found)

/-- The default resolver asks the server that its reference reaches. -/
theorem settles_encodeResolver (scope : Scope) (resolver : DomainResolver) :
    Settles scope (encodeResolver scope resolver) [] fun written =>
      ∀ tag, scope.reachedDnsServer? resolver.server = some tag →
        ∃ value, written = some value ∧ value.get? "server" = some (.string tag) := by
  unfold encodeResolver
  refine settles_before (settles_dnsServer scope resolver.server) fun reached equal => ?_
  subst equal
  cases scope.reachedDnsServer? resolver.server with
  | none => exact settles_pure none nofun
  | some server =>
    refine settles_pure _ fun tag found => ⟨_, rfl, ?_⟩
    cases found
    exact get?_insertText_of_ne _ _ (by decide)

/-- The references to outbounds that the routing part resolves. -/
def routeReferences (scope : Scope) (route : Route) : List String :=
  route.rules.flatMap (ruleReferences scope) ++
    (route.ruleSets.flatMap ruleSetReferences ++ [route.finalOutbound])

/-- What the routing part is encoded to. -/
structure RouteWritten (scope : Scope) (route : Route) (written : Json.Value) : Prop where
  rules : List.Forall₂ (RouteRuleWritten scope) (route.rules.filter (keepsRule scope))
    (written.itemsAt ["rules"])
  ruleSets : List.Forall₂ (RuleSetWritten scope) route.ruleSets (written.itemsAt ["rule_set"])
  final : ∀ tag, scope.reachedOutbound? route.finalOutbound = some tag →
    written.get? "final" = some (.string tag)
  resolver : ∀ tag, scope.reachedDnsServer? route.defaultDomainResolver.server = some tag →
    written.at? ["default_domain_resolver", "server"] = some (.string tag)

/-- The routing part holds its rules, and its rule-sets with whatever is known of each. -/
theorem settles_encodeRoute_of (scope : Scope) (files : List RuleSetFile) (route : Route)
    {Encoded : RuleSet → Json.Value → Prop}
    (each : ∀ ruleSet, Settles scope (encodeRuleSet scope files ruleSet)
      (ruleSetReferences ruleSet) (Encoded ruleSet)) :
    Settles scope (encodeRoute scope files route) (routeReferences scope route) fun written =>
      List.Forall₂ (RouteRuleWritten scope) (route.rules.filter (keepsRule scope))
        (written.itemsAt ["rules"]) ∧
      List.Forall₂ Encoded route.ruleSets (written.itemsAt ["rule_set"]) ∧
      (∀ tag, scope.reachedOutbound? route.finalOutbound = some tag →
        written.get? "final" = some (.string tag)) ∧
      ∀ tag, scope.reachedDnsServer? route.defaultDomainResolver.server = some tag →
        written.at? ["default_domain_resolver", "server"] = some (.string tag) := by
  unfold encodeRoute
  refine settles_bind (settles_encodeRules route.rules (settles_encodeRouteRule scope))
    fun rules rulesWritten => ?_
  refine settles_bind (settles_mapM route.ruleSets fun ruleSet _ => each ruleSet)
    fun ruleSets ruleSetsWritten => ?_
  refine settles_before (settles_outbound scope route.finalOutbound) fun final finalEqual => ?_
  refine settles_before (settles_encodeResolver scope route.defaultDomainResolver)
    fun resolver resolverWritten => settles_pure _ ?_
  generalize startEqual : ([("rules", .array rules), ("rule_set", .array ruleSets),
    ("auto_detect_interface", .bool route.autoDetectInterface)] : Json.Object) = start
  generalize interfaceEqual : (if route.autoDetectInterface then
      insertSome start "final" (final.map .string)
    else (insertSome start "final" (final.map .string)).insert "default_interface"
      (.string route.defaultInterface)) = interface
  have kept : ∀ key ∉ ["default_interface", "find_process", "default_domain_resolver"],
      (Json.Value.object (insertSome (insertFlag interface "find_process" route.findProcess)
        "default_domain_resolver" resolver)).get? key =
          (insertSome start "final" (final.map .string)).get? key := by
    intro key other
    show (insertSome _ "default_domain_resolver" resolver).get? key = _
    rw [get?_insertSome_of_ne _ _ (ne_of_mem_of_not_mem (by decide) other),
      get?_insertFlag_of_ne _ _ (ne_of_mem_of_not_mem (by decide) other), ← interfaceEqual]
    split
    · rfl
    · exact Json.Object.get?_insert_of_ne _ _ (ne_of_mem_of_not_mem (by decide) other)
  refine ⟨?_, ?_, fun tag found => ?_, fun tag found => ?_⟩
  · rw [Json.Value.itemsAt_of_get? ((kept "rules" (by decide)).trans ?_)]
    · exact rulesWritten
    · rw [get?_insertSome_of_ne _ _ (by decide), ← startEqual]
      rfl
  · rw [Json.Value.itemsAt_of_get? ((kept "rule_set" (by decide)).trans ?_)]
    · exact ruleSetsWritten
    · rw [get?_insertSome_of_ne _ _ (by decide), ← startEqual]
      rfl
  · rw [kept "final" (by decide)]
    exact get?_insertSome_reached start "final" (finalEqual.trans found)
  · obtain ⟨value, rfl, served⟩ := resolverWritten tag found
    have placed := get?_insertSome_self (insertFlag interface "find_process" route.findProcess)
      "default_domain_resolver" value
    rw [Json.Value.at?_cons placed, Json.Value.at?_singleton, served]

theorem settles_encodeRoute (scope : Scope) (files : List RuleSetFile) (route : Route) :
    Settles scope (encodeRoute scope files route) (routeReferences scope route)
      (RouteWritten scope route) :=
  (settles_encodeRoute_of scope files route (settles_encodeRuleSet scope files)).imp
    fun _ ⟨rules, ruleSets, final, resolver⟩ => ⟨rules, ruleSets, final, resolver⟩

/-! ### Name service -/

/-- The keys at which a server has what its type needs. -/
def detailKeys : List String :=
  ["server", "server_port", "path", "predefined", "interface", "inet4_range", "inet6_range"]

theorem get?_insertAddress {server : DnsServer} {written after : Json.Object} {key : String}
    (other : key ∉ detailKeys) (success : insertAddress server written = .ok after) :
    after.get? key = written.get? key := by
  unfold insertAddress at success
  have addressed : (written.insert "server" (.string server.server)).get? key = written.get? key :=
    Json.Object.get?_insert_of_ne _ _ (ne_of_mem_of_not_mem (by decide) other)
  by_cases blank : Text.isBlankText server.serverPort
  · simp only [if_pos blank] at success
    cases success
    exact addressed
  · simp only [if_neg blank] at success
    cases port : readPort ("server_port of dns server " ++ server.tag) server.serverPort with
    | error error =>
      rw [port] at success
      cases success
    | ok number =>
      rw [port] at success
      cases success
      rw [Json.Object.get?_insert_of_ne _ _ (ne_of_mem_of_not_mem (by decide) other), addressed]

theorem get?_insertAddressPath {server : DnsServer} {written after : Json.Object} {key : String}
    (other : key ∉ detailKeys)
    (success : (do return insertText (← insertAddress server written) "path" server.path) =
      Except.ok after) : after.get? key = written.get? key := by
  cases addressed : insertAddress server written with
  | error error =>
    rw [addressed] at success
    cases success
  | ok object =>
    rw [addressed] at success
    cases success
    rw [get?_insertText_of_ne _ _ (ne_of_mem_of_not_mem (by decide) other)]
    exact get?_insertAddress other addressed

/-- What a server of its type needs stands at keys of its own. -/
theorem get?_insertDetails {server : DnsServer} {written after : Json.Object} {key : String}
    (other : key ∉ detailKeys) (success : insertDetails server written = .ok after) :
    after.get? key = written.get? key := by
  unfold insertDetails at success
  split at success
  · cases success
    rfl
  · cases success
    split
    · split
      · rfl
      · exact Json.Object.get?_insert_of_ne _ _ (ne_of_mem_of_not_mem (by decide) other)
    · rw [Json.Object.get?_insert_of_ne _ _ (ne_of_mem_of_not_mem (by decide) other)]
      split
      · rfl
      · exact Json.Object.get?_insert_of_ne _ _ (ne_of_mem_of_not_mem (by decide) other)
  · exact get?_insertAddress other success
  · exact get?_insertAddress other success
  · exact get?_insertAddress other success
  · exact get?_insertAddress other success
  · exact get?_insertAddressPath other success
  · exact get?_insertAddressPath other success
  · cases success
    exact get?_insertText_of_ne _ _ (ne_of_mem_of_not_mem (by decide) other)
  · cases success
    rw [get?_insertText_of_ne _ _ (ne_of_mem_of_not_mem (by decide) other),
      get?_insertText_of_ne _ _ (ne_of_mem_of_not_mem (by decide) other)]

/-- A server has its tag, and the tags that its references reach. -/
structure ServerWritten (scope : Scope) (server : DnsServer) (written : Json.Value) : Prop where
  tag : written.get? "tag" = some (.string server.tag)
  detour : ∀ tag, scope.reachedOutbound? server.detour = some tag →
    written.get? "detour" = some (.string tag)
  resolver : ∀ tag, scope.reachedDnsServer? server.domainResolver = some tag →
    written.get? "domain_resolver" = some (.string tag)

theorem settles_encodeServer (scope : Scope) (server : DnsServer) :
    Settles scope (encodeServer scope server) [server.detour] (ServerWritten scope server) := by
  unfold encodeServer
  refine settles_before (settles_outbound scope server.detour) fun detour detourEqual => ?_
  refine settles_before (settles_dnsServer scope server.domainResolver)
    fun resolver resolverEqual => ?_
  refine settles_before (settles_lift _) fun after success => settles_pure _ ?_
  refine ⟨?_, fun tag found => ?_, fun tag found => ?_⟩
  · refine (get?_insertDetails (by decide) success).trans ?_
    rw [get?_insertSome_of_ne _ _ (by decide), get?_insertSome_of_ne _ _ (by decide)]
    rfl
  · refine (get?_insertDetails (by decide) success).trans ?_
    rw [get?_insertSome_of_ne _ _ (by decide)]
    exact get?_insertSome_reached _ _ (detourEqual.trans found)
  · refine (get?_insertDetails (by decide) success).trans ?_
    exact get?_insertSome_reached _ _ (resolverEqual.trans found)

/-- What the name service part is encoded to. -/
structure DnsWritten (scope : Scope) (dns : Dns) (written : Json.Value) : Prop where
  servers : List.Forall₂ (ServerWritten scope) dns.servers (written.itemsAt ["servers"])
  rules : List.Forall₂ (DnsRuleWritten scope) (dns.rules.filter (keepsDnsRule scope dns.hasFakeIp))
    (written.itemsAt ["rules"])
  final : ∀ tag, scope.reachedDnsServer? dns.finalServer = some tag →
    written.get? "final" = some (.string tag)

/-- The name service part holds its servers, and its rules with whatever is known of each. -/
theorem settles_encodeDns_of (scope : Scope) (dns : Dns) {Encoded : Rule → Json.Value → Prop}
    (each : ∀ rule, Settles scope (encodeDnsRule scope dns.hasFakeIp rule) []
      (Leaves (keepsDnsRule scope dns.hasFakeIp rule) fun written =>
        Encoded rule (.object written))) :
    Settles scope (encodeDns scope dns) (dns.servers.map DnsServer.detour) fun written =>
      List.Forall₂ (ServerWritten scope) dns.servers (written.itemsAt ["servers"]) ∧
      List.Forall₂ Encoded (dns.rules.filter (keepsDnsRule scope dns.hasFakeIp))
        (written.itemsAt ["rules"]) ∧
      ∀ tag, scope.reachedDnsServer? dns.finalServer = some tag →
        written.get? "final" = some (.string tag) := by
  unfold encodeDns
  have servers := settles_mapM dns.servers fun server _ => settles_encodeServer scope server
  have rules := settles_encodeRules dns.rules each
  rw [flatMap_nil] at rules
  rw [List.map_eq_flatMap]
  refine settles_before servers fun servers serversWritten => ?_
  refine settles_before rules fun rules rulesWritten => ?_
  refine settles_before (settles_dnsServer scope dns.finalServer) fun final finalEqual => ?_
  refine settles_pure _ ?_
  generalize startEqual : ([("servers", .array servers), ("rules", .array rules),
    ("disable_cache", .bool dns.disableCache), ("disable_expire", .bool dns.disableExpire),
    ("independent_cache", .bool dns.independentCache)] : Json.Object) = start
  have kept : ∀ key ∉ ["strategy", "client_subnet"],
      (Json.Value.object (insertText (insertStrategy
        (insertSome start "final" (final.map .string)) dns.strategy)
        "client_subnet" dns.clientSubnet)).get? key =
          (insertSome start "final" (final.map .string)).get? key := by
    intro key other
    show (insertText _ "client_subnet" _).get? key = _
    rw [get?_insertText_of_ne _ _ (ne_of_mem_of_not_mem (by decide) other),
      get?_insertStrategy_of_ne _ _ (ne_of_mem_of_not_mem (by decide) other)]
  refine ⟨?_, ?_, fun tag found => ?_⟩
  · rw [Json.Value.itemsAt_of_get? ((kept "servers" (by decide)).trans ?_)]
    · exact serversWritten
    · rw [get?_insertSome_of_ne _ _ (by decide), ← startEqual]
      rfl
  · rw [Json.Value.itemsAt_of_get? ((kept "rules" (by decide)).trans ?_)]
    · exact rulesWritten
    · rw [get?_insertSome_of_ne _ _ (by decide), ← startEqual]
      rfl
  · rw [kept "final" (by decide)]
    exact get?_insertSome_reached start "final" (finalEqual.trans found)

theorem settles_encodeDns (scope : Scope) (dns : Dns) :
    Settles scope (encodeDns scope dns) (dns.servers.map DnsServer.detour)
      (DnsWritten scope dns) :=
  (settles_encodeDns_of scope dns (settles_encodeDnsRule scope dns.hasFakeIp)).imp
    fun _ ⟨servers, rules, final⟩ => ⟨servers, rules, final⟩

/-! ### Experimental settings and inbounds -/

theorem settles_encodeExperimental (scope : Scope) (experimental : Experimental) :
    Settles scope (encodeExperimental scope experimental)
      [experimental.clashApi.downloadDetour] fun written =>
        ∀ tag, scope.reachedOutbound? experimental.clashApi.downloadDetour = some tag →
          written.at? ["clash_api", "external_ui_download_detour"] = some (.string tag) := by
  unfold encodeExperimental
  refine settles_before (settles_outbound scope _) fun reached equal => settles_pure _ ?_
  intro tag found
  refine (Json.Value.at?_cons rfl _).trans ((Json.Value.at?_singleton _ _).trans ?_)
  exact get?_insertSome_reached _ _ (equal.trans found)

/-- An inbound has its tag unless its settings have one. -/
theorem encodeInbound_tag (inbound : Inbound)
    (plain : (inboundSettings inbound).get? "tag" = none) :
    (encodeInbound inbound).get? "tag" = some (.string inbound.tag) := by
  unfold inboundSettings at plain
  unfold encodeInbound
  by_cases device : inbound.type = .tun
  · rw [if_pos device] at plain
    simp only [if_pos device]
    show (Json.Object.insertAll _ (inbound.tun.getD [])).get? "tag" = _
    rw [Json.Object.get?_insertAll_of_none _ _ plain]
    rfl
  · rw [if_neg device] at plain
    simp only [if_neg device]
    show (Json.Object.insert (Json.Object.insertAll _ _) "users" _).get? "tag" = _
    rw [Json.Object.get?_insert_of_ne _ _ (by decide), Json.Object.get?_insertAll_of_none _ _ plain]
    rfl

/-! ### Proxies of groups -/

/-- Whatever tag a member draws from a subscription is the tag of a proxy that it picks. -/
theorem exists_pick_of_tag {scope : Scope} {provider : Provider} {filter : Pattern.Filter}
    {member : Member} {tag : String} (drawn : member.source ≠ .builtIn)
    (listed : tag ∈ memberTags scope provider filter member) :
    ∃ pick ∈ memberPicks provider filter member, ∃ proxy,
      (storedProxies provider pick.1)[pick.2]? = some proxy ∧ proxyTag? proxy = some tag := by
  unfold memberTags at listed
  unfold memberPicks
  cases source : member.source with
  | builtIn => exact absurd source drawn
  | subscription =>
    simp only [source] at listed
    obtain ⟨stored, accepted⟩ := List.mem_filter.mp listed
    obtain ⟨proxy, among, tagged⟩ := List.mem_filterMap.mp stored
    obtain ⟨index, place⟩ := List.mem_iff_getElem?.mp among
    refine ⟨(member.id, index), List.mem_map.mpr ⟨(proxy, index), ?_, rfl⟩, proxy, place, tagged⟩
    refine List.mem_filter.mpr ⟨List.mem_zipIdx_iff_getElem?.mpr place, ?_⟩
    rw [tagged]
    exact accepted
  | proxy subscription =>
    simp only [source] at listed
    split at listed
    · rename_i present
      obtain ⟨stored, accepted⟩ := present
      cases List.mem_singleton.mp listed
      obtain ⟨index, found⟩ := Option.isSome_iff_exists.mp
        ((findIdx?_proxyTag_isSome _ _).mpr stored)
      obtain ⟨bound, tagged, _⟩ := List.findIdx?_eq_some_iff_getElem.mp found
      refine ⟨(subscription, index), ?_, _, List.getElem?_eq_getElem bound, by simpa using tagged⟩
      simp only [if_pos accepted, found]
      exact List.mem_singleton_self _
    · cases listed

theorem get?_of_proxyTag? {proxy : Json.Value} {tag : String}
    (tagged : proxyTag? proxy = some tag) : proxy.get? "tag" = some (.string tag) := by
  unfold proxyTag? at tagged
  obtain ⟨value, found, text⟩ := Option.bind_eq_some_iff.mp tagged
  cases value with
  | string written =>
    cases text
    exact found
  | _ => cases text

/-! ### The parts together -/

/-- The references to outbounds that a profile resolves, in order. -/
def outboundReferences (scope : Scope) : List String :=
  [scope.profile.experimental.clashApi.downloadDetour] ++
    (scope.profile.outbounds.flatMap groupReferences ++
      (routeReferences scope scope.profile.route ++ scope.profile.dns.servers.map DnsServer.detour))

/-- What the parts of a profile are encoded to. -/
structure PartsWritten (scope : Scope) (provider : Provider) (document : Json.Value) : Prop where
  clash : ∀ tag,
    scope.reachedOutbound? scope.profile.experimental.clashApi.downloadDetour = some tag →
      document.at? ["experimental", "clash_api", "external_ui_download_detour"] =
        some (.string tag)
  inbounds : document.itemsAt ["inbounds"] = encodeInbounds scope.profile.inbounds
  outbounds : ∃ lists declared, fetchLists provider scope.profile.outbounds = .ok lists ∧
    List.Forall₂ (Expands scope provider) scope.profile.outbounds declared ∧
    document.itemsAt ["outbounds"] =
      declared ++ pickedProxies lists (scope.profile.outbounds.flatMap (groupPicks provider)) ++
        (noteAll [] ((outboundReferences scope).filterMap scope.synthetic?)).map Synthetic.toJson
  route : ∃ route, RouteWritten scope scope.profile.route route ∧
    ∀ keys, document.at? ("route" :: keys) = route.at? keys
  dns : ∃ dns, DnsWritten scope scope.profile.dns dns ∧
    ∀ keys, document.at? ("dns" :: keys) = dns.at? keys

/-- A compiled document is what a run of all parts gives. -/
theorem encodeParts_of_compileBase {environment : Environment} {profile : Profile}
    {document : Json.Value} (success : compileBase environment profile = .ok document) :
    ∃ after, (encodeParts environment profile).run [] = .ok (document, after) := by
  unfold compileBase at success
  rw [StateT.run'_eq] at success
  cases run : (encodeParts environment profile).run [] with
  | error error =>
    rw [run] at success
    cases success
  | ok both =>
    rw [run] at success
    cases success
    exact ⟨both.2, rfl⟩

/-- A successful run of all parts consists of runs of the parts, each behind what the ones before
it have noted down. -/
theorem encodeParts_runs {environment : Environment} {profile : Profile} {document : Json.Value}
    {after : List Synthetic}
    (success : (encodeParts environment profile).run [] = .ok (document, after)) :
    ∃ experimental first entries second route third dns,
      (encodeExperimental ⟨profile, environment.policy⟩ profile.experimental).run [] =
        .ok (experimental, first) ∧
      (encodeOutbounds ⟨profile, environment.policy⟩ environment.provider profile.outbounds).run
        first = .ok (entries, second) ∧
      (encodeRoute ⟨profile, environment.policy⟩ environment.ruleSetFiles profile.route).run
        second = .ok (route, third) ∧
      (encodeDns ⟨profile, environment.policy⟩ profile.dns).run third = .ok (dns, after) ∧
      document = .object [
        ("log", profile.log.toJson),
        ("experimental", experimental),
        ("inbounds", .array (encodeInbounds profile.inbounds)),
        ("outbounds", .array (entries ++ after.map Synthetic.toJson)),
        ("route", route),
        ("dns", dns)] := by
  obtain ⟨experimental, first, experimentalRun, success⟩ := run_bind_ok success
  obtain ⟨entries, second, outboundsRun, success⟩ := run_bind_ok success
  obtain ⟨route, third, routeRun, success⟩ := run_bind_ok success
  obtain ⟨dns, mentioned, dnsRun, success⟩ := run_bind_ok success
  cases success
  exact ⟨experimental, first, entries, second, route, third, dns, experimentalRun, outboundsRun,
    routeRun, dnsRun, rfl⟩

/-- What the parts note down, one behind the other, is told by the references of the profile. -/
theorem encodeParts_noted {environment : Environment} {profile : Profile} {document : Json.Value}
    {after : List Synthetic}
    (success : (encodeParts environment profile).run [] = .ok (document, after)) :
    after = noteAll [] ((outboundReferences ⟨profile, environment.policy⟩).filterMap
      (Scope.synthetic? ⟨profile, environment.policy⟩)) := by
  obtain ⟨experimental, first, entries, second, route, third, dns, experimentalRun, outboundsRun,
    routeRun, dnsRun, _⟩ := encodeParts_runs success
  obtain ⟨firstNoted, _⟩ := settles_encodeExperimental _ _ _ _ _ experimentalRun
  obtain ⟨secondNoted, _⟩ := settles_encodeOutbounds _ _ _ _ _ _ outboundsRun
  obtain ⟨thirdNoted, _⟩ := settles_encodeRoute _ _ _ _ _ _ routeRun
  obtain ⟨lastNoted, _⟩ := settles_encodeDns _ _ _ _ _ dnsRun
  unfold outboundReferences
  rw [lastNoted, thirdNoted, secondNoted, firstNoted, List.filterMap_append,
    List.filterMap_append, List.filterMap_append, noteAll_append, noteAll_append, noteAll_append]

theorem encodeParts_ok {environment : Environment} {profile : Profile} {document : Json.Value}
    {after : List Synthetic}
    (success : (encodeParts environment profile).run [] = .ok (document, after)) :
    PartsWritten ⟨profile, environment.policy⟩ environment.provider document := by
  have noted := encodeParts_noted success
  obtain ⟨experimental, first, entries, second, route, third, dns, experimentalRun, outboundsRun,
    routeRun, dnsRun, rfl⟩ := encodeParts_runs success
  obtain ⟨_, clash⟩ := settles_encodeExperimental _ _ _ _ _ experimentalRun
  obtain ⟨_, lists, declared, fetched, expanded, entriesEqual⟩ :=
    settles_encodeOutbounds _ _ _ _ _ _ outboundsRun
  obtain ⟨_, routeWritten⟩ := settles_encodeRoute _ _ _ _ _ _ routeRun
  obtain ⟨_, dnsWritten⟩ := settles_encodeDns _ _ _ _ _ dnsRun
  refine ⟨fun tag found => ?_, rfl, ⟨lists, declared, fetched, expanded, ?_⟩,
    ⟨route, routeWritten, fun keys => ?_⟩, ⟨dns, dnsWritten, fun keys => ?_⟩⟩
  · exact (Json.Value.at?_cons rfl _).trans (clash tag found)
  · rw [← entriesEqual, ← noted]
    rfl
  · exact Json.Value.at?_cons rfl keys
  · exact Json.Value.at?_cons rfl keys

/-! ### What the arrays of a document hold -/

theorem itemsAt_of_at? {document part : Json.Value} {key : String}
    (inside : ∀ keys, document.at? (key :: keys) = part.at? keys) (keys : List String) :
    document.itemsAt (key :: keys) = part.itemsAt keys := by
  unfold Json.Value.itemsAt
  rw [inside]

/-- Things that are written with their tags are named by them. -/
theorem named_of_forall₂ {Item : Type} {Written : Item → Json.Value → Prop} {items : List Item}
    {entries : List Json.Value} {tagOf : Item → String} (written : List.Forall₂ Written items entries)
    (tagged : ∀ item entry, Written item entry → entry.get? "tag" = some (.string (tagOf item)))
    {item : Item} (among : item ∈ items) : Named entries (tagOf item) := by
  induction written with
  | nil => cases among
  | @cons first entry rest others head _ inductionHypothesis =>
    rcases List.mem_cons.mp among with rfl | later
    · exact ⟨entry, List.mem_cons_self, tagged _ _ head⟩
    · obtain ⟨other, member, named⟩ := inductionHypothesis later
      exact ⟨other, List.mem_cons_of_mem _ member, named⟩

/-- If a look-up among things that are written with their tags finds a tag, it is named. -/
theorem named_of_find? {Item : Type} {Written : Item → Json.Value → Prop} {items : List Item}
    {entries : List Json.Value} {tagOf : Item → String} {isWanted : Item → Bool} {tag : String}
    (written : List.Forall₂ Written items entries)
    (tagged : ∀ item entry, Written item entry → entry.get? "tag" = some (.string (tagOf item)))
    (found : (items.find? isWanted).map tagOf = some tag) : Named entries tag := by
  obtain ⟨item, first, rfl⟩ := Option.map_eq_some_iff.mp found
  exact named_of_forall₂ written tagged (List.mem_of_find?_eq_some first)

theorem Named.append_left {entries : List Json.Value} {tag : String} (named : Named entries tag)
    (more : List Json.Value) : Named (entries ++ more) tag := by
  obtain ⟨entry, among, tagged⟩ := named
  exact ⟨entry, List.mem_append_left more among, tagged⟩

theorem Named.append_right {entries : List Json.Value} {tag : String} (named : Named entries tag)
    (before : List Json.Value) : Named (before ++ entries) tag := by
  obtain ⟨entry, among, tagged⟩ := named
  exact ⟨entry, List.mem_append_right before among, tagged⟩

section Document

variable {scope : Scope} {provider : Provider} {document : Json.Value}

/-- The document holds what references to servers, rule-sets and inbounds reach. -/
theorem serves_ofDocument (written : PartsWritten scope provider document) :
    Serves scope (Names.ofDocument document) := by
  obtain ⟨route, routeWritten, routeInside⟩ := written.route
  obtain ⟨dns, dnsWritten, dnsInside⟩ := written.dns
  refine ⟨fun id tag reached => ?_, fun id tag reached => ?_, fun plain id tag reached => ?_⟩
  · show Named (document.itemsAt ["dns", "servers"]) tag
    rw [itemsAt_of_at? dnsInside]
    unfold Scope.reachedDnsServer? at reached
    split at reached
    · cases reached
    · exact named_of_find? dnsWritten.servers (fun _ _ served => served.tag) reached
  · show Named (document.itemsAt ["route", "rule_set"]) tag
    rw [itemsAt_of_at? routeInside]
    unfold Scope.reachedRuleSet? at reached
    split at reached
    · cases reached
    · exact named_of_find? routeWritten.ruleSets (fun _ _ present => present.tag) reached
  · show Named (document.itemsAt ["inbounds"]) tag
    rw [written.inbounds]
    unfold Scope.inbound? at reached
    split at reached
    · rename_i inbound first
      split at reached
      · rename_i enabled
        cases reached
        have among := List.mem_of_find?_eq_some first
        refine ⟨encodeInbound inbound, ?_, encodeInbound_tag inbound (plain inbound among enabled)⟩
        exact List.mem_map_of_mem (List.mem_filter.mpr ⟨among, enabled⟩)
      · cases reached
    · cases reached

/-- The document holds what the references of its profile to outbounds reach: a declared
outbound, or a synthetic one that was noted down. -/
theorem covers_ofDocument (written : PartsWritten scope provider document) :
    Covers scope (Names.ofDocument document) (outboundReferences scope) := by
  obtain ⟨lists, declared, _, expanded, entries⟩ := written.outbounds
  refine ⟨serves_ofDocument written, fun id among tag reached => ?_⟩
  show Named (document.itemsAt ["outbounds"]) tag
  rw [entries]
  unfold Scope.reachedOutbound? at reached
  split at reached
  · cases reached
  · rcases Option.or_eq_some_iff.mp reached with found | ⟨missing, synthesized⟩
    · refine Named.append_left (Named.append_left ?_ _) _
      exact named_of_find? expanded (fun _ _ expands => expands.tag) found
    · -- No declared outbound has the id, so the reference has noted the synthetic one down.
      obtain ⟨synthetic, named, rfl⟩ := Option.map_eq_some_iff.mp synthesized
      refine Named.append_right ⟨synthetic.toJson, List.mem_map_of_mem ?_, rfl⟩ _
      rw [mem_noteAll]
      refine Or.inr (List.mem_filterMap.mpr ⟨id, among, ?_⟩)
      rw [Scope.synthetic?, missing, named]
      rfl

/-- A tag that a member draws from a subscription is the tag of a proxy in the document. -/
theorem named_of_drawn (written : PartsWritten scope provider document) {outbound : Outbound}
    {filter : Pattern.Filter} {member : Member} {tag : String}
    (declared : outbound ∈ scope.profile.outbounds) (group : outbound.type.isGroup)
    (read : groupFilter outbound = .ok filter) (among : member ∈ outbound.members)
    (drawn : member.source ≠ .builtIn) (listed : tag ∈ memberTags scope provider filter member) :
    Named (document.itemsAt ["outbounds"]) tag := by
  obtain ⟨lists, entries, fetched, _, equal⟩ := written.outbounds
  obtain ⟨pick, picked, proxy, place, tagged⟩ := exists_pick_of_tag drawn listed
  have collected := mem_groupPicks declared group read among picked
  rw [equal]
  refine Named.append_left (Named.append_right ⟨proxy, ?_, get?_of_proxyTag? tagged⟩ _) _
  exact mem_pickedProxies fetched collected place

end Document

/-! ### No reference dangles -/

/-- What a member of a group lists: the tag that its reference reaches, and only tags of
entries if it draws from a subscription. -/
structure MemberRefers (scope : Scope) (names : Names) (member : Member)
    (tags : List String) : Prop where
  builtIn : member.source = .builtIn → ∀ tag, scope.reachedOutbound? member.id = some tag →
    tags = [tag] ∧ Named names.outbounds tag
  drawn : member.source ≠ .builtIn → ∀ tag ∈ tags, Named names.outbounds tag

/-- What an entry for a group lists: the tags of its members, one behind the other. -/
def GroupRefers (scope : Scope) (provider : Provider) (names : Names) (outbound : Outbound)
    (entry : Json.Value) : Prop :=
  outbound.type.isGroup → ∃ filter, groupFilter outbound = .ok filter ∧
    entry.get? "outbounds" =
      some (.strings (outbound.members.flatMap (memberTags scope provider filter))) ∧
    ∀ member ∈ outbound.members,
      MemberRefers scope names member (memberTags scope provider filter member)

/-- The document of a profile does not name what is not there. -/
structure NoDangling (scope : Scope) (provider : Provider) (document : Json.Value) (names : Names) :
    Prop where
  clashDetour : Refers names.outbounds
    (scope.reachedOutbound? scope.profile.experimental.clashApi.downloadDetour)
    (document.at? ["experimental", "clash_api", "external_ui_download_detour"])
  groups : ∃ declared appended, document.itemsAt ["outbounds"] = declared ++ appended ∧
    List.Forall₂ (GroupRefers scope provider names) scope.profile.outbounds declared
  routeRules : List.Forall₂ (RouteRuleRefers scope names)
    (scope.profile.route.rules.filter (keepsRule scope)) (document.itemsAt ["route", "rules"])
  ruleSets : List.Forall₂
    (fun ruleSet written => ruleSet.type = .remote → Refers names.outbounds
      (scope.reachedOutbound? ruleSet.downloadDetour) (written.get? "download_detour"))
    scope.profile.route.ruleSets (document.itemsAt ["route", "rule_set"])
  routeFinal : Refers names.outbounds (scope.reachedOutbound? scope.profile.route.finalOutbound)
    (document.at? ["route", "final"])
  resolver : Refers names.dnsServers
    (scope.reachedDnsServer? scope.profile.route.defaultDomainResolver.server)
    (document.at? ["route", "default_domain_resolver", "server"])
  servers : List.Forall₂
    (fun server written =>
      Refers names.outbounds (scope.reachedOutbound? server.detour) (written.get? "detour") ∧
      Refers names.dnsServers (scope.reachedDnsServer? server.domainResolver)
        (written.get? "domain_resolver"))
    scope.profile.dns.servers (document.itemsAt ["dns", "servers"])
  dnsRules : List.Forall₂ (DnsRuleRefers scope names)
    (scope.profile.dns.rules.filter (keepsDnsRule scope scope.profile.dns.hasFakeIp))
    (document.itemsAt ["dns", "rules"])
  dnsFinal : Refers names.dnsServers (scope.reachedDnsServer? scope.profile.dns.finalServer)
    (document.at? ["dns", "final"])

/-- Related lists stay related if the relation follows for the members of the first. -/
theorem forall₂_imp_of_mem {Item Value : Type} {Related Follows : Item → Value → Prop}
    {items : List Item} {values : List Value} (related : List.Forall₂ Related items values)
    (follows : ∀ item ∈ items, ∀ value, Related item value → Follows item value) :
    List.Forall₂ Follows items values :=
  ((List.forall₂_and_left _ _).mpr ⟨fun _ among => among, related⟩).imp
    fun item value both => follows item both.1 value both.2

section Document

variable {scope : Scope} {provider : Provider} {document : Json.Value}

theorem groupRefers_of_expands (written : PartsWritten scope provider document)
    {outbound : Outbound} {entry : Json.Value} (declared : outbound ∈ scope.profile.outbounds)
    (expands : Expands scope provider outbound entry) :
    GroupRefers scope provider (Names.ofDocument document) outbound entry := by
  intro group
  obtain ⟨filter, read, listed⟩ := expands.members group
  refine ⟨filter, read, listed, fun member among => ⟨fun source tag reached => ?_, ?_⟩⟩
  · refine ⟨by simp only [memberTags, source, reached], ?_⟩
    have resolved : member.id ∈ groupReferences outbound := by
      rw [groupReferences, if_pos group]
      refine List.mem_flatMap.mpr ⟨member, among, ?_⟩
      simp only [memberReferences, source]
      exact List.mem_singleton_self _
    refine (covers_ofDocument written).outbound member.id ?_ tag reached
    refine List.mem_append_right _ (List.mem_append_left _ ?_)
    exact List.mem_flatMap.mpr ⟨outbound, declared, resolved⟩
  · intro drawn tag listed
    exact named_of_drawn written declared group read among drawn listed

theorem noDangling_of_written (written : PartsWritten scope provider document) :
    NoDangling scope provider document (Names.ofDocument document) := by
  have covers := covers_ofDocument written
  obtain ⟨lists, declared, _, expanded, entries⟩ := written.outbounds
  obtain ⟨route, routeWritten, routeInside⟩ := written.route
  obtain ⟨dns, dnsWritten, dnsInside⟩ := written.dns
  have routeCovers : Covers scope (Names.ofDocument document)
      (routeReferences scope scope.profile.route) :=
    covers.subset fun id among =>
      List.mem_append_right _ (List.mem_append_right _ (List.mem_append_left _ among))
  have detourCovers : ∀ server ∈ scope.profile.dns.servers,
      Covers scope (Names.ofDocument document) [server.detour] := by
    intro server among
    refine covers.subset fun id single => ?_
    rw [List.mem_singleton.mp single]
    exact List.mem_append_right _ (List.mem_append_right _
      (List.mem_append_right _ (List.mem_map_of_mem among)))
  refine ⟨?_, ?_, ?_, ?_, ?_, ?_, ?_, ?_, ?_⟩
  · exact covers.refers (List.mem_append_left _ (List.mem_singleton_self _)) written.clash
  · refine ⟨declared, _, by rw [entries, List.append_assoc], ?_⟩
    exact forall₂_imp_of_mem expanded fun outbound isDeclared entry =>
      groupRefers_of_expands written isDeclared
  · rw [itemsAt_of_at? routeInside]
    refine forall₂_imp_of_mem routeWritten.rules fun rule kept value ruleWritten => ?_
    refine ruleWritten _ (routeCovers.subset fun id among => List.mem_append_left _ ?_)
    exact List.mem_flatMap.mpr ⟨rule, (List.mem_filter.mp kept).1, among⟩
  · rw [itemsAt_of_at? routeInside]
    refine forall₂_imp_of_mem routeWritten.ruleSets fun ruleSet among value present remote => ?_
    refine routeCovers.refers ?_ (present.detour remote)
    refine List.mem_append_right _ (List.mem_append_left _ ?_)
    refine List.mem_flatMap.mpr ⟨ruleSet, among, ?_⟩
    rw [ruleSetReferences, if_pos remote]
    exact List.mem_singleton_self _
  · rw [routeInside, Json.Value.at?_singleton]
    refine routeCovers.refers ?_ routeWritten.final
    exact List.mem_append_right _ (List.mem_append_right _ (List.mem_singleton_self _))
  · rw [routeInside]
    exact covers.toServes.refersDnsServer routeWritten.resolver
  · rw [itemsAt_of_at? dnsInside]
    refine forall₂_imp_of_mem dnsWritten.servers fun server among value served => ⟨?_, ?_⟩
    · exact (detourCovers server among).refers (List.mem_singleton_self _) served.detour
    · exact covers.toServes.refersDnsServer served.resolver
  · rw [itemsAt_of_at? dnsInside]
    exact dnsWritten.rules.imp fun rule value ruleWritten => ruleWritten _ covers.toServes
  · rw [dnsInside, Json.Value.at?_singleton]
    exact covers.toServes.refersDnsServer dnsWritten.final

end Document

/-- Whatever profile compiles, no reference of the document dangles. -/
theorem compileBase_noDangling (environment : Environment) (profile : Profile)
    (document : Json.Value) (success : compileBase environment profile = .ok document) :
    NoDangling ⟨profile, environment.policy⟩ environment.provider document
      (Names.ofDocument document) := by
  unfold compileBase at success
  cases run : (encodeParts environment profile).run [] with
  | error error =>
    rw [StateT.run'_eq, run] at success
    cases success
  | ok both =>
    rw [StateT.run'_eq, run] at success
    cases success
    exact noDangling_of_written (encodeParts_ok run)

/-- A profile with references of every kind, some of which lead nowhere. -/
def referringProfile : Profile where
  inbounds := [
    { id := "mixed-in", tag := "Mixed" },
    { id := "tun-in", type := .tun, tag := "Tun", enabled := false }]
  outbounds := overlappingGroups
  experimental := { clashApi := { downloadDetour := "select" } }
  route := {
    rules := [
      { kind := .ruleSet, payload := "ads, gone, geo", outbound := "block" },
      { kind := .inbound, payload := " mixed-in ", outbound := "auto" },
      { kind := .inbound, payload := "tun-in", outbound := "select" },
      { kind := .domain, payload := "a.example,b.example", action := .resolve, server := "remote" }]
    ruleSets := [
      { id := "ads", tag := "Ads", type := .remote, downloadDetour := "direct" },
      { id := "geo", tag := "Geo" }]
    finalOutbound := "direct-out"
    defaultDomainResolver := { server := "local" } }
  dns := {
    servers := [
      { id := "local", tag := "Local" },
      { id := "remote", tag := "Remote", type := .tls, server := "1.1.1.1", detour := "select",
        domainResolver := "local" }]
    rules := [{ kind := .ruleSet, payload := "geo", server := "local" }]
    finalServer := "remote" }

theorem compileBase_noDangling_referring :
    ∃ document, compileBase { provider := twoProxies } referringProfile = .ok document ∧
      NoDangling ⟨referringProfile, .lenient⟩ twoProxies document (Names.ofDocument document) :=
  ⟨_, rfl, compileBase_noDangling { provider := twoProxies } referringProfile _ rfl⟩

end ProxyProfile.Kernel
