/-
This file proves that profiles, plugins, subscriptions and rule-set files survive
being saved.

For most fields there is nothing to show, for whatever they hold is read back. The
others hold what their readers let through: kinds of rules and triggers that
stand for themselves unless the library knows their name, numbers that fit, and
objects in which no key stands twice. What a record reads in such a field is one of
these, so the record that is written is read as the same record, from the parts of a
profile up to the profile.

What the library does not know is kept on the way: the names of triggers and
of the kinds of rules, and the members of options and of the control interface that
are not fields.
-/

import ProxyProfile.Plugin.Basic
import ProxyProfile.Profile.Basic
import ProxyProfile.Proofs.Surviving
import ProxyProfile.Subscription.Basic

namespace ProxyProfile

open Json ProxyProfile.Tree

/-! ### Choices -/

theorem Priority.ofName?_name (priority : Priority) : ofName? priority.name = some priority := by
  cases priority <;> rfl

theorem DnsServerType.ofName?_name (type : DnsServerType) : ofName? type.name = some type := by
  cases type <;> rfl

theorem InboundType.ofName?_name (type : InboundType) : ofName? type.name = some type := by
  cases type <;> rfl

theorem OutboundType.ofName?_name (type : OutboundType) : ofName? type.name = some type := by
  cases type <;> rfl

theorem RuleSetType.ofName?_name (type : RuleSetType) : ofName? type.name = some type := by
  cases type <;> rfl

theorem RuleAction.ofName?_name (action : RuleAction) : ofName? action.name = some action := by
  cases action <;> rfl

theorem Strategy.ofName?_name (strategy : Strategy) : ofName? strategy.name = some strategy := by
  cases strategy <;> rfl

theorem SubscriptionKind.ofName?_name (kind : SubscriptionKind) :
    ofName? kind.name = some kind := by
  cases kind <;> rfl

theorem PluginSource.ofName?_name (source : PluginSource) : ofName? source.name = some source := by
  cases source <;> rfl

theorem readsBack_texts (texts : List String) :
    listOf? text? (ofValue (.strings texts)) = some texts :=
  readsBack_list fun _ _ => rfl

/-! ### Rules -/

namespace RuleKind

/-- A kind has the name that it was read from, known or not. -/
theorem name_ofName (text : String) : (ofName text).name = text := by
  unfold ofName
  cases found : known.find? fun kind => kind.name = text with
  | none => rfl
  | some kind => simpa using List.find?_some found

theorem survives : Survives (fun tree => tree.text?.map ofName) fun kind => .string kind.name := by
  intro document kind given
  obtain ⟨text, _, rfl⟩ := Option.map_eq_some_iff.mp given
  show some (ofName (ofName text).name) = some (ofName text)
  rw [name_ofName]

theorem carries :
    Carries (fun tree => tree.text?.map ofName) (fun kind => .string kind.name) Eq := by
  intro document kind given
  obtain ⟨text, read, rfl⟩ := Option.map_eq_some_iff.mp given
  rw [carries_text document text read]
  exact congrArg Value.string (name_ofName text).symm

end RuleKind

namespace Rule

theorem readsBack {rule : Rule} (kind : RuleKind.ofName rule.kind.name = rule.kind) :
    ReadsBack read? toJson rule := by
  show (do
    let action ← RuleAction.ofName? rule.action.name
    let sniffer ← listOf? text? (ofValue (.strings rule.sniffer))
    let strategy ← Strategy.ofName? rule.strategy.name
    return { rule with kind := RuleKind.ofName rule.kind.name, action, sniffer, strategy }) =
      some rule
  rw [kind, RuleAction.ofName?_name, readsBack_texts, Strategy.ofName?_name]
  rfl

theorem exists_of_read? {document : Value} {rule : Rule}
    (read : Rule.read? (ofValue document) = some rule) :
    ∃ fields, Gives schema document fields ∧
      fields.get "type" .ruleSet (fun tree => tree.text?.map RuleKind.ofName) = some rule.kind := by
  unfold Rule.read? at read
  obtain ⟨fields, record, read⟩ := Option.bind_eq_some_iff.mp read
  obtain ⟨_, _, read⟩ := Option.bind_eq_some_iff.mp read
  obtain ⟨kind, given, read⟩ := Option.bind_eq_some_iff.mp read
  iterate 9 obtain ⟨_, _, read⟩ := Option.bind_eq_some_iff.mp read
  cases read
  exact ⟨fields, gives_of_record? record, given⟩

theorem survives : Survives read? toJson := by
  intro document rule read
  obtain ⟨fields, gives, kind⟩ := exists_of_read? read
  exact readsBack (Option.some.inj (readsBack_get gives kind RuleKind.survives rfl))

/-- A rule is written with the kind that it was given. -/
theorem carries : Carries read? toJson (Keeps schema "type" Eq) := by
  intro document rule read
  obtain ⟨fields, gives, kind⟩ := exists_of_read? read
  exact keeps_of_get gives kind RuleKind.carries rfl

end Rule

/-! ### Routing -/

theorem RuleSet.readsBack (ruleSet : RuleSet) :
    ReadsBack RuleSet.read? RuleSet.toJson ruleSet := by
  show (do
    let type ← RuleSetType.ofName? ruleSet.type.name
    return { ruleSet with type }) = some ruleSet
  rw [RuleSetType.ofName?_name]
  rfl

namespace Route

theorem readsBack {route : Route}
    (rules : listOf? Rule.read? (ofValue (.array (route.rules.map Rule.toJson))) =
      some route.rules) : ReadsBack read? toJson route := by
  have ruleSets : listOf? RuleSet.read? (ofValue (.array (route.ruleSets.map RuleSet.toJson))) =
      some route.ruleSets := readsBack_list fun ruleSet _ => RuleSet.readsBack ruleSet
  show (do
    let rules ← listOf? Rule.read? (ofValue (.array (route.rules.map Rule.toJson)))
    let ruleSets ← listOf? RuleSet.read? (ofValue (.array (route.ruleSets.map RuleSet.toJson)))
    return { route with rules, ruleSets }) = some route
  rw [rules, ruleSets]
  rfl

theorem exists_of_read? {document : Value} {route : Route}
    (read : Route.read? (ofValue document) = some route) :
    ∃ fields, Gives schema document fields ∧ fields.list "rules" Rule.read? = some route.rules := by
  unfold Route.read? at read
  obtain ⟨fields, record, read⟩ := Option.bind_eq_some_iff.mp read
  obtain ⟨rules, given, read⟩ := Option.bind_eq_some_iff.mp read
  iterate 6 obtain ⟨_, _, read⟩ := Option.bind_eq_some_iff.mp read
  cases read
  exact ⟨fields, gives_of_record? record, given⟩

theorem survives : Survives read? toJson := by
  intro document route read
  obtain ⟨fields, gives, rules⟩ := exists_of_read? read
  exact readsBack (readsBack_get gives rules (survives_list Rule.survives) rfl)

theorem carries :
    Carries read? toJson (Keeps schema "rules" (Itemwise (Keeps Rule.schema "type" Eq))) := by
  intro document route read
  obtain ⟨fields, gives, rules⟩ := exists_of_read? read
  exact keeps_of_get gives rules (carries_list Rule.carries) rfl

end Route

/-! ### The name service -/

namespace DnsServer

theorem readsBack {server : DnsServer}
    (predefined : object? (ofValue (.object server.predefined)) = some server.predefined) :
    ReadsBack read? toJson server := by
  show (do
    let type ← DnsServerType.ofName? server.type.name
    let hostsPath ← listOf? text? (ofValue (.strings server.hostsPath))
    let predefined ← object? (ofValue (.object server.predefined))
    return { server with type, hostsPath, predefined }) = some server
  rw [DnsServerType.ofName?_name, readsBack_texts, predefined]
  rfl

theorem survives : Survives read? toJson := by
  intro document server read
  unfold DnsServer.read? at read
  obtain ⟨fields, record, read⟩ := Option.bind_eq_some_iff.mp read
  iterate 12 obtain ⟨_, _, read⟩ := Option.bind_eq_some_iff.mp read
  obtain ⟨predefined, given, read⟩ := Option.bind_eq_some_iff.mp read
  cases read
  exact readsBack (readsBack_get (gives_of_record? record) given survives_object rfl)

end DnsServer

namespace Dns

theorem readsBack {dns : Dns}
    (servers : listOf? DnsServer.read? (ofValue (.array (dns.servers.map DnsServer.toJson))) =
      some dns.servers)
    (rules : listOf? Rule.read? (ofValue (.array (dns.rules.map Rule.toJson))) = some dns.rules) :
    ReadsBack read? toJson dns := by
  show (do
    let servers ← listOf? DnsServer.read? (ofValue (.array (dns.servers.map DnsServer.toJson)))
    let rules ← listOf? Rule.read? (ofValue (.array (dns.rules.map Rule.toJson)))
    let strategy ← Strategy.ofName? dns.strategy.name
    return { dns with servers, rules, strategy }) = some dns
  rw [servers, rules, Strategy.ofName?_name]
  rfl

theorem exists_of_read? {document : Value} {dns : Dns}
    (read : Dns.read? (ofValue document) = some dns) :
    ∃ fields, Gives schema document fields ∧
      fields.list "servers" DnsServer.read? = some dns.servers ∧
      fields.list "rules" Rule.read? = some dns.rules := by
  unfold Dns.read? at read
  obtain ⟨fields, record, read⟩ := Option.bind_eq_some_iff.mp read
  obtain ⟨servers, givenServers, read⟩ := Option.bind_eq_some_iff.mp read
  obtain ⟨rules, givenRules, read⟩ := Option.bind_eq_some_iff.mp read
  iterate 6 obtain ⟨_, _, read⟩ := Option.bind_eq_some_iff.mp read
  cases read
  exact ⟨fields, gives_of_record? record, givenServers, givenRules⟩

theorem survives : Survives read? toJson := by
  intro document dns read
  obtain ⟨fields, gives, servers, rules⟩ := exists_of_read? read
  exact readsBack (readsBack_get gives servers (survives_list DnsServer.survives) rfl)
    (readsBack_get gives rules (survives_list Rule.survives) rfl)

theorem carries :
    Carries read? toJson (Keeps schema "rules" (Itemwise (Keeps Rule.schema "type" Eq))) := by
  intro document dns read
  obtain ⟨fields, gives, _, rules⟩ := exists_of_read? read
  exact keeps_of_get gives rules (carries_list Rule.carries) rfl

end Dns

/-! ### Inbounds and outbounds -/

namespace Listener

theorem readsBack {listener : Listener}
    (listen : object? (ofValue (.object listener.listen)) = some listener.listen) :
    ReadsBack read? toJson listener := by
  show (do
    let listen ← object? (ofValue (.object listener.listen))
    let users ← listOf? text? (ofValue (.strings listener.users))
    return { listen, users }) = some listener
  rw [listen, readsBack_texts]
  rfl

theorem survives : Survives read? toJson := by
  intro document listener read
  unfold Listener.read? at read
  obtain ⟨fields, record, read⟩ := Option.bind_eq_some_iff.mp read
  obtain ⟨listen, given, read⟩ := Option.bind_eq_some_iff.mp read
  obtain ⟨users, _, read⟩ := Option.bind_eq_some_iff.mp read
  cases read
  exact readsBack (readsBack_get (gives_of_record? record) given survives_object rfl)

end Listener

namespace Inbound

/-- A block is read back from its document, if there is one. -/
def blockOf? {Block : Type} (read : Tree → Option Block) (write : Block → Value)
    (block : Option Block) : Option (Option Block) :=
  block.mapM fun block => read (ofValue (write block))

/-- What an inbound is read back as. A block that it does not have is left out, and what is
left out is read as nothing. -/
theorem read?_toJson (inbound : Inbound) : read? (ofValue inbound.toJson) = (do
    let type ← InboundType.ofName? inbound.type.name
    let mixed ← blockOf? Listener.read? Listener.toJson inbound.mixed
    let socks ← blockOf? Listener.read? Listener.toJson inbound.socks
    let http ← blockOf? Listener.read? Listener.toJson inbound.http
    let tun ← blockOf? object? .object inbound.tun
    return { inbound with type, mixed, socks, http, tun }) := by
  obtain ⟨id, type, tag, enabled, mixed, socks, http, tun⟩ := inbound
  cases mixed <;> cases socks <;> cases http <;> cases tun <;> rfl

/-- A block that is read is read back. -/
theorem blockOf?_of_get {Block : Type} {read : Tree → Option Block} {write : Block → Value}
    {schema : Schema} {document : Value} {fields : Fields} {name : String} {block : Option Block}
    (gives : Gives schema document fields) (survives : Survives read write)
    (given : fields.get name none (optional? read) = some block) :
    blockOf? read write block = some block := by
  unfold Fields.get at given
  rw [gives name] at given
  cases found : schema.given? document name with
  | none =>
    rw [found] at given
    cases given
    rfl
  | some value =>
    rw [found, Option.map_some] at given
    dsimp only [optional?] at given
    split at given
    · cases given
      rfl
    · obtain ⟨item, reads, rfl⟩ := Option.map_eq_some_iff.mp given
      show some <$> read (ofValue (write item)) = some (some item)
      rw [show read (ofValue (write item)) = some item from survives value item reads]
      rfl

theorem survives : Survives read? toJson := by
  intro document inbound read
  unfold Inbound.read? at read
  obtain ⟨fields, record, read⟩ := Option.bind_eq_some_iff.mp read
  iterate 4 obtain ⟨_, _, read⟩ := Option.bind_eq_some_iff.mp read
  obtain ⟨mixed, givenMixed, read⟩ := Option.bind_eq_some_iff.mp read
  obtain ⟨socks, givenSocks, read⟩ := Option.bind_eq_some_iff.mp read
  obtain ⟨http, givenHttp, read⟩ := Option.bind_eq_some_iff.mp read
  obtain ⟨tun, givenTun, read⟩ := Option.bind_eq_some_iff.mp read
  cases read
  have gives := gives_of_record? record
  unfold ReadsBack
  rw [read?_toJson]
  dsimp only
  rw [InboundType.ofName?_name, blockOf?_of_get gives Listener.survives givenMixed,
    blockOf?_of_get gives Listener.survives givenSocks,
    blockOf?_of_get gives Listener.survives givenHttp,
    blockOf?_of_get gives survives_object givenTun]
  rfl

end Inbound

theorem Member.readsBack (member : Member) : ReadsBack Member.read? Member.toJson member :=
  rfl

namespace Outbound

theorem readsBack {outbound : Outbound}
    (tolerance : natural? 32 (ofValue (.natural outbound.tolerance)) = some outbound.tolerance) :
    ReadsBack read? toJson outbound := by
  have members : listOf? Member.read? (ofValue (.array (outbound.members.map Member.toJson))) =
      some outbound.members := readsBack_list fun member _ => Member.readsBack member
  show (do
    let type ← OutboundType.ofName? outbound.type.name
    let members ← listOf? Member.read? (ofValue (.array (outbound.members.map Member.toJson)))
    let tolerance ← natural? 32 (ofValue (.natural outbound.tolerance))
    return { outbound with type, members, tolerance }) = some outbound
  rw [OutboundType.ofName?_name, members, tolerance]
  rfl

theorem survives : Survives read? toJson := by
  intro document outbound read
  unfold Outbound.read? at read
  obtain ⟨fields, record, read⟩ := Option.bind_eq_some_iff.mp read
  iterate 6 obtain ⟨_, _, read⟩ := Option.bind_eq_some_iff.mp read
  obtain ⟨tolerance, given, read⟩ := Option.bind_eq_some_iff.mp read
  iterate 3 obtain ⟨_, _, read⟩ := Option.bind_eq_some_iff.mp read
  cases read
  exact readsBack (readsBack_get (gives_of_record? record) given (survives_natural 32) rfl)

end Outbound

/-! ### Experimental settings -/

namespace ClashApi

/-- The members of a written control interface that are fields. -/
def known (api : ClashApi) : Object :=
  [("external_ui_download_detour", .string api.downloadDetour)]

theorem readsBack {api : ClashApi} {document : Value}
    (extra : IsExtra schema document api.extra) : ReadsBack read? toJson api := by
  have opened : openRecord? schema (ofValue api.toJson) =
      some ([("external_ui_download_detour", ofValue (.string api.downloadDetour))], api.extra) :=
    openRecord?_append api.known rfl extra.unknown extra.distinct
  unfold ReadsBack read?
  rw [opened]
  rfl

theorem exists_of_read? {document : Value} {api : ClashApi}
    (read : ClashApi.read? (ofValue document) = some api) : IsExtra schema document api.extra := by
  unfold ClashApi.read? at read
  obtain ⟨⟨fields, extra⟩, record, read⟩ := Option.bind_eq_some_iff.mp read
  obtain ⟨detour, _, read⟩ := Option.bind_eq_some_iff.mp read
  cases read
  exact (isExtra_of_openRecord? record).2

theorem survives : Survives read? toJson :=
  fun _ _ read => readsBack (exists_of_read? read)

theorem carries : Carries read? toJson (KeepsOthers schema) := by
  intro document api read distinct
  have extra := exists_of_read? read
  rw [← extra.whole distinct]
  exact others_append api.known (List.forall_mem_singleton.mpr rfl) extra.unknown

end ClashApi

namespace Experimental

theorem readsBack {experimental : Experimental}
    (clashApi : ReadsBack ClashApi.read? ClashApi.toJson experimental.clashApi)
    (cacheFile : object? (ofValue (.object experimental.cacheFile)) =
      some experimental.cacheFile) : ReadsBack read? toJson experimental := by
  unfold ReadsBack at clashApi
  show (do
    let clashApi ← ClashApi.read? (ofValue experimental.clashApi.toJson)
    let cacheFile ← object? (ofValue (.object experimental.cacheFile))
    return { clashApi, cacheFile }) = some experimental
  rw [clashApi, cacheFile]
  rfl

theorem exists_of_read? {document : Value} {experimental : Experimental}
    (read : Experimental.read? (ofValue document) = some experimental) :
    ∃ fields, Gives schema document fields ∧
      fields.get "clash_api" {} ClashApi.read? = some experimental.clashApi ∧
      fields.object "cache_file" = some experimental.cacheFile := by
  unfold Experimental.read? at read
  obtain ⟨fields, record, read⟩ := Option.bind_eq_some_iff.mp read
  obtain ⟨clashApi, givenApi, read⟩ := Option.bind_eq_some_iff.mp read
  obtain ⟨cacheFile, givenFile, read⟩ := Option.bind_eq_some_iff.mp read
  cases read
  exact ⟨fields, gives_of_record? record, givenApi, givenFile⟩

theorem survives : Survives read? toJson := by
  intro document experimental read
  obtain ⟨fields, gives, clashApi, cacheFile⟩ := exists_of_read? read
  exact readsBack (readsBack_get gives clashApi ClashApi.survives rfl)
    (readsBack_get gives cacheFile survives_object rfl)

theorem carries :
    Carries read? toJson (Keeps schema "clash_api" (KeepsOthers ClashApi.schema)) := by
  intro document experimental read
  obtain ⟨fields, gives, clashApi, _⟩ := exists_of_read? read
  exact keeps_of_get gives clashApi ClashApi.carries rfl

end Experimental

/-! ### Profiles -/

theorem Mixin.readsBack (mixin : Mixin) : ReadsBack Mixin.read? Mixin.toJson mixin := by
  show (do
    let priority ← Priority.ofName? mixin.priority.name
    return { mixin with priority }) = some mixin
  rw [Priority.ofName?_name]
  rfl

namespace Profile

/-- The parts of a profile in which not everything is read back, as they are written. -/
structure PartsReadBack (profile : Profile) : Prop where
  experimental : Experimental.read? (ofValue profile.experimental.toJson) =
    some profile.experimental
  inbounds : listOf? Inbound.read? (ofValue (.array (profile.inbounds.map Inbound.toJson))) =
    some profile.inbounds
  outbounds : listOf? Outbound.read? (ofValue (.array (profile.outbounds.map Outbound.toJson))) =
    some profile.outbounds
  route : Route.read? (ofValue profile.route.toJson) = some profile.route
  dns : Dns.read? (ofValue profile.dns.toJson) = some profile.dns

theorem readsBack {profile : Profile} (parts : PartsReadBack profile) :
    ReadsBack read? toJson profile := by
  have mixin : Mixin.read? (ofValue profile.mixin.toJson) = some profile.mixin :=
    profile.mixin.readsBack
  show (do
    let experimental ← Experimental.read? (ofValue profile.experimental.toJson)
    let inbounds ← listOf? Inbound.read? (ofValue (.array (profile.inbounds.map Inbound.toJson)))
    let outbounds ←
      listOf? Outbound.read? (ofValue (.array (profile.outbounds.map Outbound.toJson)))
    let route ← Route.read? (ofValue profile.route.toJson)
    let dns ← Dns.read? (ofValue profile.dns.toJson)
    let mixin ← Mixin.read? (ofValue profile.mixin.toJson)
    return { profile with experimental, inbounds, outbounds, route, dns, mixin }) = some profile
  rw [parts.experimental, parts.inbounds, parts.outbounds, parts.route, parts.dns, mixin]
  rfl

theorem exists_of_read? {document : Value} {profile : Profile}
    (read : Profile.read? (ofValue document) = some profile) :
    ∃ fields, Gives schema document fields ∧
      fields.get "experimental" {} Experimental.read? = some profile.experimental ∧
      fields.list "inbounds" Inbound.read? = some profile.inbounds ∧
      fields.list "outbounds" Outbound.read? = some profile.outbounds ∧
      fields.get "route" {} Route.read? = some profile.route ∧
      fields.get "dns" {} Dns.read? = some profile.dns := by
  unfold Profile.read? at read
  obtain ⟨fields, record, read⟩ := Option.bind_eq_some_iff.mp read
  iterate 3 obtain ⟨_, _, read⟩ := Option.bind_eq_some_iff.mp read
  obtain ⟨experimental, givenExperimental, read⟩ := Option.bind_eq_some_iff.mp read
  obtain ⟨inbounds, givenInbounds, read⟩ := Option.bind_eq_some_iff.mp read
  obtain ⟨outbounds, givenOutbounds, read⟩ := Option.bind_eq_some_iff.mp read
  obtain ⟨route, givenRoute, read⟩ := Option.bind_eq_some_iff.mp read
  obtain ⟨dns, givenDns, read⟩ := Option.bind_eq_some_iff.mp read
  iterate 2 obtain ⟨_, _, read⟩ := Option.bind_eq_some_iff.mp read
  cases read
  exact ⟨fields, gives_of_record? record, givenExperimental, givenInbounds, givenOutbounds,
    givenRoute, givenDns⟩

theorem survives : Survives read? toJson := by
  intro document profile read
  obtain ⟨fields, gives, experimental, inbounds, outbounds, route, dns⟩ := exists_of_read? read
  exact readsBack
    { experimental := readsBack_get gives experimental Experimental.survives rfl
      inbounds := readsBack_get gives inbounds (survives_list Inbound.survives) rfl
      outbounds := readsBack_get gives outbounds (survives_list Outbound.survives) rfl
      route := readsBack_get gives route Route.survives rfl
      dns := readsBack_get gives dns Dns.survives rfl }

/-- What a saved profile has in common with the document that it was read from, besides what
the library knows: the kinds of its rules, and what goes to the kernel as it is. -/
structure Kept (document saved : Value) : Prop where
  routeKinds : Keeps schema "route"
    (Keeps Route.schema "rules" (Itemwise (Keeps Rule.schema "type" Eq))) document saved
  dnsKinds : Keeps schema "dns"
    (Keeps Dns.schema "rules" (Itemwise (Keeps Rule.schema "type" Eq))) document saved
  clashApi : Keeps schema "experimental"
    (Keeps Experimental.schema "clash_api" (KeepsOthers ClashApi.schema)) document saved

theorem carries : Carries read? toJson Kept := by
  intro document profile read
  obtain ⟨fields, gives, experimental, _, _, route, dns⟩ := exists_of_read? read
  exact
    { routeKinds := keeps_of_get gives route Route.carries rfl
      dnsKinds := keeps_of_get gives dns Dns.carries rfl
      clashApi := keeps_of_get gives experimental Experimental.carries rfl }

end Profile

/-! ### Plugins -/

namespace TriggerName

/-- A trigger has the name that it was read from, known or not. -/
theorem text_ofText (text : String) : (ofText text).text = text := by
  unfold ofText Trigger.ofName?
  cases found : Trigger.all.find? fun trigger => trigger.name = text with
  | none => rfl
  | some trigger => exact of_decide_eq_true (List.find?_some found :)

theorem ofText_name (trigger : Trigger) : ofText trigger.name = known trigger := by
  cases trigger <;> rfl

/-- A trigger is read from its name, or from something that is no text and names a trigger
that is known. -/
theorem cases_of_read? {document : Value} {name : TriggerName}
    (read : TriggerName.read? (ofValue document) = some name) :
    (document = .string name.text ∧ name = ofText name.text) ∨
      ((∀ text, document ≠ .string text) ∧ ∃ trigger, name = known trigger) := by
  cases document with
  | string text =>
    cases read
    rw [text_ofText]
    exact Or.inl ⟨rfl, rfl⟩
  | object members =>
    refine Or.inr ⟨fun _ equal => (nomatch equal), ?_⟩
    rw [ofValue] at read
    unfold TriggerName.read? at read
    split at read
    · split at read
      · cases read
      · obtain ⟨trigger, _, read⟩ := Option.bind_eq_some_iff.mp read
        obtain ⟨value, _, read⟩ := Option.bind_eq_some_iff.mp read
        split at read <;> cases read
        exact ⟨trigger, rfl⟩
    · obtain ⟨value, means, read⟩ := Option.bind_eq_some_iff.mp read
      obtain ⟨text, holds, _⟩ := Option.bind_eq_some_iff.mp read
      obtain ⟨_, _, rfl⟩ := Option.map_eq_some_iff.mp (means : Option.map Value.object _ = _)
      cases holds
  | array items =>
    obtain ⟨value, means, read⟩ := Option.bind_eq_some_iff.mp read
    obtain ⟨text, holds, _⟩ := Option.bind_eq_some_iff.mp read
    obtain ⟨_, _, rfl⟩ := Option.map_eq_some_iff.mp (means : Option.map Value.array _ = _)
    cases holds
  | number number => cases number <;> cases read
  | _ => cases read

theorem survives : Survives TriggerName.read? fun name => .string name.text := by
  intro document name read
  show some (ofText name.text) = some name
  rcases cases_of_read? read with ⟨_, same⟩ | ⟨_, trigger, rfl⟩
  · rw [← same]
  · exact congrArg some (ofText_name trigger)

theorem carries : Carries TriggerName.read? (fun name => .string name.text)
    fun document other => ∀ text, document = .string text → other = .string text := by
  intro document name read text written
  rcases cases_of_read? read with ⟨same, _⟩ | ⟨silent, _⟩
  · exact same.symm.trans written
  · exact absurd written (silent text)

end TriggerName

namespace PluginOption

/-- The members of a written option that are fields. -/
def known (option : PluginOption) : Object :=
  [("key", .string option.key), ("value", option.value)]

theorem readsBack {option : PluginOption} {document : Value}
    (value : (ofValue option.value).value? = some option.value)
    (extra : IsExtra schema document option.extra) : ReadsBack read? toJson option := by
  have opened : openRecord? schema (ofValue option.toJson) =
      some ([("key", ofValue (.string option.key)), ("value", ofValue option.value)],
        option.extra) :=
    openRecord?_append option.known rfl extra.unknown extra.distinct
  unfold ReadsBack read?
  rw [opened]
  show (do
    let value ← (ofValue option.value).value?
    return { option with value }) = some option
  rw [value]
  rfl

theorem exists_of_read? {document : Value} {option : PluginOption}
    (read : PluginOption.read? (ofValue document) = some option) :
    ∃ fields, Gives schema document fields ∧ fields.text "key" = some option.key ∧
      fields.get "value" .null Tree.value? = some option.value ∧
      IsExtra schema document option.extra := by
  unfold PluginOption.read? at read
  obtain ⟨⟨fields, extra⟩, record, read⟩ := Option.bind_eq_some_iff.mp read
  obtain ⟨key, givenKey, read⟩ := Option.bind_eq_some_iff.mp read
  obtain ⟨value, givenValue, read⟩ := Option.bind_eq_some_iff.mp read
  cases read
  obtain ⟨gives, isExtra⟩ := isExtra_of_openRecord? record
  exact ⟨fields, gives, givenKey, givenValue, isExtra⟩

theorem survives : Survives read? toJson := by
  intro document option read
  obtain ⟨fields, gives, _, value, extra⟩ := exists_of_read? read
  exact readsBack (readsBack_get gives value survives_value rfl) extra

/-- What a saved option has in common with the one that it was read from. -/
structure Kept (document saved : Value) : Prop where
  key : Keeps schema "key" Eq document saved
  value : Keeps schema "value" (fun given written => given.hasDistinctKeys → given = written)
    document saved
  others : KeepsOthers schema document saved

theorem carries : Carries read? toJson Kept := by
  intro document option read
  obtain ⟨fields, gives, key, value, extra⟩ := exists_of_read? read
  refine ⟨keeps_of_get gives key carries_text rfl, keeps_of_get gives value carries_value rfl,
    fun distinct => ?_⟩
  rw [← extra.whole distinct]
  exact others_append option.known
    (List.forall_mem_cons.mpr ⟨rfl, List.forall_mem_singleton.mpr rfl⟩) extra.unknown

end PluginOption

namespace Plugin

theorem readsBack {plugin : Plugin}
    (triggers : listOf? TriggerName.read?
      (ofValue (.array (plugin.triggers.map fun name => .string name.text))) =
        some plugin.triggers)
    (configuration : listOf? PluginOption.read?
      (ofValue (.array (plugin.configuration.map PluginOption.toJson))) =
        some plugin.configuration)
    (status : integer? (ofValue (.number (.integer plugin.status))) = some plugin.status) :
    ReadsBack read? toJson plugin := by
  have written : Value.strings (plugin.triggers.map TriggerName.text) =
      .array (plugin.triggers.map fun name => .string name.text) :=
    congrArg Value.array List.map_map
  show (do
    let source ← PluginSource.ofName? plugin.source.name
    let triggers ← listOf? TriggerName.read?
      (ofValue (.strings (plugin.triggers.map TriggerName.text)))
    let configuration ← listOf? PluginOption.read?
      (ofValue (.array (plugin.configuration.map PluginOption.toJson)))
    let status ← integer? (ofValue (.number (.integer plugin.status)))
    return { plugin with source, triggers, configuration, status }) = some plugin
  rw [PluginSource.ofName?_name, written, triggers, configuration, status]
  rfl

theorem exists_of_read? {document : Value} {plugin : Plugin}
    (read : Plugin.read? (ofValue document) = some plugin) :
    ∃ fields, Gives schema document fields ∧
      fields.list "triggers" TriggerName.read? = some plugin.triggers ∧
      fields.list "configuration" PluginOption.read? = some plugin.configuration ∧
      fields.get "status" 0 integer? = some plugin.status := by
  unfold Plugin.read? at read
  obtain ⟨fields, record, read⟩ := Option.bind_eq_some_iff.mp read
  iterate 7 obtain ⟨_, _, read⟩ := Option.bind_eq_some_iff.mp read
  obtain ⟨triggers, givenTriggers, read⟩ := Option.bind_eq_some_iff.mp read
  obtain ⟨configuration, givenConfiguration, read⟩ := Option.bind_eq_some_iff.mp read
  iterate 3 obtain ⟨_, _, read⟩ := Option.bind_eq_some_iff.mp read
  obtain ⟨status, givenStatus, read⟩ := Option.bind_eq_some_iff.mp read
  cases read
  exact ⟨fields, gives_of_record? record, givenTriggers, givenConfiguration, givenStatus⟩

theorem survives : Survives read? toJson := by
  intro document plugin read
  obtain ⟨fields, gives, triggers, configuration, status⟩ := exists_of_read? read
  exact readsBack (readsBack_get gives triggers (survives_list TriggerName.survives) rfl)
    (readsBack_get gives configuration (survives_list PluginOption.survives) rfl)
    (readsBack_get gives status survives_integer rfl)

/-- What a saved plugin has in common with the document that it was read from: the names of its
triggers that are texts, and its options, each in the order in which they stood. -/
structure Kept (document saved : Value) : Prop where
  triggers : Keeps schema "triggers"
    (Itemwise fun given written => ∀ text, given = .string text → written = .string text)
    document saved
  options : Keeps schema "configuration" (Itemwise PluginOption.Kept) document saved

theorem carries : Carries read? toJson Kept := by
  intro document plugin read
  obtain ⟨fields, gives, triggers, configuration, _⟩ := exists_of_read? read
  refine ⟨keeps_of_get gives triggers (carries_list TriggerName.carries) ?_,
    keeps_of_get gives configuration (carries_list PluginOption.carries) rfl⟩
  exact congrArg (fun names => some (Value.array names)) List.map_map

end Plugin

/-! ### Subscriptions and rule-set files -/

theorem ProxyIndex.readsBack (entry : ProxyIndex) :
    ReadsBack ProxyIndex.read? ProxyIndex.toJson entry :=
  rfl

theorem Subscription.readsBack (subscription : Subscription) :
    ReadsBack Subscription.read? Subscription.toJson subscription := by
  have proxies :
      listOf? ProxyIndex.read? (ofValue (.array (subscription.proxies.map ProxyIndex.toJson))) =
        some subscription.proxies := readsBack_list fun entry _ => entry.readsBack
  show (do
    let kind ← SubscriptionKind.ofName? subscription.kind.name
    let proxies ←
      listOf? ProxyIndex.read? (ofValue (.array (subscription.proxies.map ProxyIndex.toJson)))
    return { subscription with kind, proxies }) = some subscription
  rw [SubscriptionKind.ofName?_name, proxies]
  rfl

theorem RuleSetFile.readsBack (file : RuleSetFile) :
    ReadsBack RuleSetFile.read? RuleSetFile.toJson file :=
  rfl

/-! ### Saving -/

/-- What is read from a document is read back from the document that is written for it, and what
the library does not know stands there as it stood in the document. -/
theorem survives_saving (document : Value) :
    (∀ profile, Profile.read? (ofValue document) = some profile →
      Profile.read? (ofValue profile.toJson) = some profile ∧
        Profile.Kept document profile.toJson) ∧
    (∀ plugin, Plugin.read? (ofValue document) = some plugin →
      Plugin.read? (ofValue plugin.toJson) = some plugin ∧ Plugin.Kept document plugin.toJson) ∧
    (∀ subscription, Subscription.read? (ofValue document) = some subscription →
      Subscription.read? (ofValue subscription.toJson) = some subscription) ∧
    (∀ file, RuleSetFile.read? (ofValue document) = some file →
      RuleSetFile.read? (ofValue file.toJson) = some file) :=
  ⟨fun profile read =>
      ⟨Profile.survives document profile read, Profile.carries document profile read⟩,
    fun plugin read => ⟨Plugin.survives document plugin read, Plugin.carries document plugin read⟩,
    fun subscription _ => subscription.readsBack, fun file _ => file.readsBack⟩

/-- A written profile with the other name of a field, a port that is a number, a rule of a kind
that the library does not know, and a setting of the control interface. -/
def profileOfOldNames : Value :=
  .object [
    ("inbounds", .array [.object [("enable", .bool false), ("http", .object [])]]),
    ("route", .object [("rules", .array [.object [("type", .string "wifi_ssid")]])]),
    ("dns", .object [
      ("servers", .array [.object [("server_port", .natural 53)]]),
      ("rules", .array [.array [.string "first", .string "wifi_bssid"]])]),
    ("experimental", .object [("clash_api", .object [("secret", .string "key")])])]

/-- A written plugin with a trigger that the library does not know, one that is written as a
table, and an option with a hint. -/
def pluginOfLater : Value :=
  .object [
    ("triggers", .array [.string "on::later", .object [("on::manual", .null)]]),
    ("configuration", .array [.object [("hint", .string "a number"), ("key", .string "limit")]])]

theorem survives_saving_unknown :
    (∃ profile, Profile.read? (ofValue profileOfOldNames) = some profile ∧
      Profile.read? (ofValue profile.toJson) = some profile ∧
      Profile.Kept profileOfOldNames profile.toJson) ∧
    (∃ plugin, Plugin.read? (ofValue pluginOfLater) = some plugin ∧
      Plugin.read? (ofValue plugin.toJson) = some plugin ∧
      Plugin.Kept pluginOfLater plugin.toJson) ∧
    (∃ subscription, Subscription.read? (ofValue (.array [.string "work"])) = some subscription ∧
      Subscription.read? (ofValue subscription.toJson) = some subscription) ∧
    ∃ file, RuleSetFile.read? (ofValue (.object [("name", .string "ads")])) = some file ∧
      RuleSetFile.read? (ofValue file.toJson) = some file :=
  ⟨⟨_, rfl, (survives_saving profileOfOldNames).1 _ rfl⟩,
    ⟨_, rfl, (survives_saving pluginOfLater).2.1 _ rfl⟩,
    ⟨_, rfl, (survives_saving (.array [.string "work"])).2.2.1 _ rfl⟩,
    ⟨_, rfl, (survives_saving (.object [("name", .string "ads")])).2.2.2 _ rfl⟩⟩

end ProxyProfile
