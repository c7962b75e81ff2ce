/-
This file compares the compilation of a profile with that of a renamed one.

Two compilations walk the same way as long as every reference resolves alike on
both sides. What it means for two results to be alike is left open: it may be
that an error names another id, or that one side gives up where the other side
goes on. All that is needed is that equal values are alike, that errors which
have nothing to do with references are, and that the relation is kept when
computations follow each other. Then each encoder is compared with itself once,
for every such relation and every renaming.
-/

import ProxyProfile.Kernel.Document
import ProxyProfile.Proofs.Renaming

namespace ProxyProfile

/-- An error is about a reference that leads nowhere. -/
def Error.isUnresolved : Error → Bool
  | .unresolved _ => true
  | _ => false

namespace Kernel

/-! ### Errors that are not about references -/

section Errors

variable {Item Value Other : Type}

/-- A computation does not fail for a reference that leads nowhere. -/
def NeverUnresolved (result : Except Error Value) : Prop :=
  ∀ error, result = .error error → error.isUnresolved = false

theorem neverUnresolved_ok (value : Value) : NeverUnresolved (.ok value) :=
  fun _ failed => nomatch failed

theorem neverUnresolved_error {error : Error} (other : error.isUnresolved = false) :
    NeverUnresolved (.error error : Except Error Value) := by
  intro failure failed
  cases failed
  exact other

theorem neverUnresolved_bind {result : Except Error Value} {next : Value → Except Error Other}
    (never : NeverUnresolved result) (after : ∀ value, NeverUnresolved (next value)) :
    NeverUnresolved (result >>= next) := by
  cases result with
  | error error => exact neverUnresolved_error (never error rfl)
  | ok value => exact after value

/-- An error of a list of computations is the error of one of them. -/
theorem exists_of_mapM_error {compute : Item → Except Error Value}
    {items : List Item} {error : Error} (failed : items.mapM compute = .error error) :
    ∃ item ∈ items, compute item = .error error := by
  induction items with
  | nil => cases failed
  | cons item rest inductionHypothesis =>
    rw [List.mapM_cons] at failed
    cases head : compute item with
    | error first =>
      rw [head] at failed
      cases failed
      exact ⟨item, List.mem_cons_self, head⟩
    | ok value =>
      rw [head] at failed
      cases tail : rest.mapM compute with
      | error later =>
        rw [tail] at failed
        cases failed
        obtain ⟨other, among, same⟩ := inductionHypothesis tail
        exact ⟨other, List.mem_cons_of_mem _ among, same⟩
      | ok values =>
        rw [tail] at failed
        cases failed

theorem neverUnresolved_mapM {compute : Item → Except Error Value} (items : List Item)
    (never : ∀ item ∈ items, NeverUnresolved (compute item)) :
    NeverUnresolved (items.mapM compute) := by
  intro error failed
  obtain ⟨item, among, same⟩ := exists_of_mapM_error failed
  exact never item among error same

end Errors

/-! ### Comparisons -/

/-- A way to compare results. `Shared` are the errors that both sides may have for the same
reason. -/
structure Comparison where
  Alike : {α : Type} → Except Error α → Except Error α → Prop
  Shared : Error → Prop
  ok : ∀ {α : Type} (value : α), Alike (.ok value) (.ok value)
  error : ∀ {α : Type} (error : Error), Shared error →
    Alike (.error error : Except Error α) (.error error)
  bind : ∀ {α β : Type} {first second : Except Error α} {next other : α → Except Error β},
    Alike first second → (∀ value, Alike (next value) (other value)) →
      Alike (first >>= next) (second >>= other)
  shared : ∀ error : Error, error.isUnresolved = false → Shared error

section Agreement

variable (comparison : Comparison) {α β : Type}

/-- Two parts of a compilation give alike results, whatever was noted down before. -/
def Comparison.Agree (first second : Compile α) : Prop :=
  ∀ noted, comparison.Alike (first.run noted) (second.run noted)

variable {comparison}

theorem agree_pure (value : α) : comparison.Agree (pure value) (pure value) :=
  fun noted => comparison.ok (value, noted)

theorem agree_throw {error : Error} (shared : comparison.Shared error) :
    comparison.Agree (throw error : Compile α) (throw error) :=
  fun _ => comparison.error error shared

theorem agree_bind {first second : Compile α} {next other : α → Compile β}
    (agree : comparison.Agree first second)
    (follow : ∀ value, comparison.Agree (next value) (other value)) :
    comparison.Agree (first >>= next) (second >>= other) := by
  intro noted
  rw [StateT.run_bind, StateT.run_bind]
  exact comparison.bind (agree noted) fun both => follow both.1 both.2

theorem agree_mention (synthetic : Synthetic) :
    comparison.Agree (mention synthetic) (mention synthetic) :=
  fun _ => comparison.ok _

theorem agree_get : comparison.Agree get get :=
  fun _ => comparison.ok _

/-- A computation on both sides agrees with itself if its errors may be shared. -/
theorem agree_same {result : Except Error α}
    (shared : ∀ error, result = .error error → comparison.Shared error) :
    comparison.Agree (liftM result) (liftM result) := by
  intro noted
  cases result with
  | error error => exact comparison.error error (shared error rfl)
  | ok value => exact comparison.ok (value, noted)

theorem agree_lift {result : Except Error α} (never : NeverUnresolved result) :
    comparison.Agree (liftM result) (liftM result) :=
  agree_same fun error failed => comparison.shared error (never error failed)

/-- The parts of a list agree one after the other. -/
theorem agree_mapM {Item : Type} {part other : Item → Compile β} {change : Item → Item}
    (items : List Item)
    (each : ∀ item ∈ items, comparison.Agree (part item) (other (change item))) :
    comparison.Agree (items.mapM part) ((items.map change).mapM other) := by
  induction items with
  | nil => exact agree_pure []
  | cons item rest inductionHypothesis =>
    rw [List.map_cons, List.mapM_cons, List.mapM_cons]
    refine agree_bind (each item List.mem_cons_self) fun first => ?_
    refine agree_bind (inductionHypothesis fun other member =>
      each other (List.mem_cons_of_mem _ member)) fun others => ?_
    exact agree_pure (first :: others)

end Agreement

/-- References in two scopes resolve alike, if one of them is given the new name of the id. -/
structure Corresponds (comparison : Comparison) (rename : String → String)
    (scope other : Scope) : Prop where
  outbound : ∀ id, comparison.Agree (scope.outbound id) (other.outbound (rename id))
  dnsServer : ∀ id, comparison.Agree (scope.dnsServer id) (other.dnsServer (rename id))
  ruleSet : ∀ id, comparison.Agree (scope.ruleSet id) (other.ruleSet (rename id))
  inbound : ∀ id, other.inbound? (rename id) = scope.inbound? id
  ruleSetIds : ∀ payload, ruleSetIds (Text.renameIds rename payload) =
    (ruleSetIds payload).map rename
  trim : ∀ text, Text.trim (Text.renameId rename text) = rename (Text.trim text)

/-! ### Rules -/

section Encoders

variable {comparison : Comparison} {rename : String → String} {scope other : Scope}

theorem agree_mergeText (written : Json.Object) (text ruleId : String) :
    comparison.Agree (mergeText written text ruleId) (mergeText written text ruleId) := by
  unfold mergeText
  split
  · exact agree_pure written
  · cases Json.parse? text with
    | none => exact agree_throw (comparison.shared _ rfl)
    | some value => exact agree_pure (Json.mergeInto written value)

theorem agree_encodeRuleSets (corresponds : Corresponds comparison rename scope other)
    (payload : String) :
    comparison.Agree (encodeRuleSets scope payload)
      (encodeRuleSets other (Text.renameIds rename payload)) := by
  unfold encodeRuleSets
  rw [corresponds.ruleSetIds]
  rcases ruleSetIds payload with _ | ⟨id, _ | ⟨second, rest⟩⟩
  · exact agree_pure none
  · exact agree_bind (corresponds.ruleSet id) fun _ => agree_pure _
  · refine agree_bind (agree_mapM (id :: second :: rest) fun id _ => ?_)
      fun _ => agree_pure _
    exact agree_bind (corresponds.ruleSet id) fun _ => agree_pure _

theorem neverUnresolved_readPort (context text : String) :
    NeverUnresolved (readPort context text) := by
  unfold readPort
  split
  · exact neverUnresolved_ok _
  · exact neverUnresolved_error rfl

/-- What a rule matches is written alike if its payload is renamed. -/
theorem agree_encodeMatch (corresponds : Corresponds comparison rename scope other)
    (rule renamed : Rule) (id : renamed.id = rule.id) (kind : renamed.kind = rule.kind)
    (payload : renamed.payload = rule.renamedPayload rename) (written : Json.Object) :
    comparison.Agree (encodeMatch scope rule written) (encodeMatch other renamed written) := by
  unfold encodeMatch
  rw [id, kind, payload]
  unfold Rule.renamedPayload
  cases rule.kind with
  | inline =>
    exact agree_bind (agree_mergeText written rule.payload rule.id) fun after =>
      agree_pure (some after)
  | ruleSet =>
    refine agree_bind (agree_encodeRuleSets corresponds rule.payload) fun value => ?_
    cases value <;> exact agree_pure _
  | inbound =>
    simp only [corresponds.trim, corresponds.inbound]
    cases scope.inbound? (Text.trim rule.payload) <;> exact agree_pure _
  | _ =>
    simp only
    split
    · exact agree_pure _
    · split
      · exact agree_pure _
      · split
        · exact agree_bind (agree_lift (neverUnresolved_mapM _ fun text _ =>
            neverUnresolved_readPort _ text)) fun _ => agree_pure _
        · exact agree_pure _

theorem agree_encodeRouteAction (corresponds : Corresponds comparison rename scope other)
    (rule : Rule) (written : Json.Object) :
    comparison.Agree (encodeRouteAction scope rule written)
      (encodeRouteAction other (rule.renameRoute rename) written) := by
  unfold encodeRouteAction Rule.renameRoute
  cases rule.action with
  | route => exact agree_bind (corresponds.outbound rule.outbound) fun _ => agree_pure _
  | resolve => exact agree_bind (corresponds.dnsServer rule.server) fun _ => agree_pure _
  | routeOptions => exact agree_mergeText written rule.outbound rule.id
  | reject =>
    simp only [reduceCtorEq, if_false]
    split <;> exact agree_pure _
  | sniff =>
    simp only
    split <;> exact agree_pure _
  | hijackDns => exact agree_pure written
  | predefined => exact agree_pure written

theorem agree_encodeRouteRule (corresponds : Corresponds comparison rename scope other)
    (rule : Rule) :
    comparison.Agree (encodeRouteRule scope rule)
      (encodeRouteRule other (rule.renameRoute rename)) := by
  unfold encodeRouteRule
  refine agree_bind (agree_encodeMatch corresponds rule (rule.renameRoute rename) rfl rfl rfl _)
    fun result => ?_
  cases result with
  | none => exact agree_pure none
  | some written =>
    exact agree_bind (agree_encodeRouteAction corresponds rule written) fun _ => agree_pure _

theorem agree_encodeDnsAction (corresponds : Corresponds comparison rename scope other)
    (rule : Rule) (written : Json.Object) :
    comparison.Agree (encodeDnsAction scope rule written)
      (encodeDnsAction other (rule.renameDns rename) written) := by
  unfold encodeDnsAction Rule.renameDns
  cases rule.action with
  | route => exact agree_bind (corresponds.dnsServer rule.server) fun _ => agree_pure _
  | routeOptions => exact agree_mergeText written rule.server rule.id
  | predefined => exact agree_mergeText written rule.server rule.id
  | reject => exact agree_pure _
  | hijackDns => exact agree_pure written
  | sniff => exact agree_pure written
  | resolve => exact agree_pure written

theorem agree_encodeDnsRule (corresponds : Corresponds comparison rename scope other)
    (hasFakeIp : Bool) (rule : Rule) :
    comparison.Agree (encodeDnsRule scope hasFakeIp rule)
      (encodeDnsRule other hasFakeIp (rule.renameDns rename)) := by
  unfold encodeDnsRule
  refine agree_bind (agree_encodeMatch corresponds rule (rule.renameDns rename) rfl rfl rfl _)
    fun result => ?_
  cases result with
  | none => exact agree_pure none
  | some written =>
    have kind : (rule.renameDns rename).kind = rule.kind := rfl
    simp only [kind]
    split
    · exact agree_pure none
    · exact agree_bind (agree_encodeDnsAction corresponds rule _) fun _ => agree_pure _

/-- Lists of rules agree if the rules do, for what is dropped is dropped on both sides. -/
theorem agree_encodeRules {encode renamed : Rule → Compile (Option Json.Object)}
    {change : Rule → Rule} (rules : List Rule)
    (each : ∀ rule, comparison.Agree (encode rule) (renamed (change rule))) :
    comparison.Agree (encodeRules encode rules) (encodeRules renamed (rules.map change)) :=
  agree_bind (agree_mapM rules fun rule _ => each rule) fun _ => agree_pure _

/-! ### Parts of a profile -/

theorem agree_encodeExperimental (corresponds : Corresponds comparison rename scope other)
    (experimental : Experimental) :
    comparison.Agree (encodeExperimental scope experimental)
      (encodeExperimental other (experimental.rename rename)) :=
  agree_bind (corresponds.outbound experimental.clashApi.downloadDetour) fun _ => agree_pure _

theorem agree_encodeRuleSet (corresponds : Corresponds comparison rename scope other)
    (files : List RuleSetFile) (ruleSet : RuleSet) :
    comparison.Agree (encodeRuleSet scope files ruleSet)
      (encodeRuleSet other files (ruleSet.rename rename)) := by
  unfold encodeRuleSet RuleSet.rename
  cases ruleSet.type with
  | inline =>
    simp only
    cases Json.parse? ruleSet.rules with
    | none => exact agree_throw (comparison.shared _ rfl)
    | some rules => exact agree_pure _
  | «local» => exact agree_pure _
  | remote => exact agree_bind (corresponds.outbound ruleSet.downloadDetour) fun _ => agree_pure _

theorem agree_encodeResolver (corresponds : Corresponds comparison rename scope other)
    (resolver : DomainResolver) :
    comparison.Agree (encodeResolver scope resolver)
      (encodeResolver other (resolver.rename rename)) := by
  unfold encodeResolver
  refine agree_bind (corresponds.dnsServer resolver.server) fun reached => ?_
  cases reached <;> exact agree_pure _

theorem agree_encodeRoute (corresponds : Corresponds comparison rename scope other)
    (files : List RuleSetFile) (route : Route) :
    comparison.Agree (encodeRoute scope files route)
      (encodeRoute other files (route.rename rename)) := by
  unfold encodeRoute
  refine agree_bind (agree_encodeRules route.rules fun rule =>
    agree_encodeRouteRule corresponds rule) fun rules => ?_
  refine agree_bind (agree_mapM route.ruleSets fun ruleSet _ =>
    agree_encodeRuleSet corresponds files ruleSet) fun ruleSets => ?_
  refine agree_bind (corresponds.outbound route.finalOutbound) fun final => ?_
  exact agree_bind (agree_encodeResolver corresponds route.defaultDomainResolver) fun _ =>
    agree_pure _

/-- What a server of its type needs is written alike, for it has no reference. -/
theorem neverUnresolved_insertDetails (server : DnsServer) (written : Json.Object) :
    NeverUnresolved (insertDetails server written) := by
  have address : NeverUnresolved (insertAddress server written) := by
    unfold insertAddress
    simp only
    split
    · exact neverUnresolved_ok _
    · exact neverUnresolved_bind (neverUnresolved_readPort _ _) fun _ => neverUnresolved_ok _
  have addressPath : NeverUnresolved
      (do return insertText (← insertAddress server written) "path" server.path) :=
    neverUnresolved_bind address fun _ => neverUnresolved_ok _
  unfold insertDetails
  cases server.type with
  | «local» => exact neverUnresolved_ok _
  | hosts => exact neverUnresolved_ok _
  | tcp => exact address
  | udp => exact address
  | tls => exact address
  | quic => exact address
  | https => exact addressPath
  | h3 => exact addressPath
  | dhcp => exact neverUnresolved_ok _
  | fakeip => exact neverUnresolved_ok _

theorem agree_encodeServer (corresponds : Corresponds comparison rename scope other)
    (server : DnsServer) :
    comparison.Agree (encodeServer scope server) (encodeServer other (server.rename rename)) := by
  unfold encodeServer
  refine agree_bind (corresponds.outbound server.detour) fun detour => ?_
  refine agree_bind (corresponds.dnsServer server.domainResolver) fun resolver => ?_
  exact agree_bind (agree_lift (neverUnresolved_insertDetails server _)) fun _ => agree_pure _

theorem agree_encodeDns (corresponds : Corresponds comparison rename scope other) (dns : Dns) :
    comparison.Agree (encodeDns scope dns) (encodeDns other (dns.rename rename)) := by
  have hasFakeIp : (dns.rename rename).hasFakeIp = dns.hasFakeIp := by
    show (dns.servers.map (DnsServer.rename rename)).any _ = _
    rw [List.any_map]
    rfl
  unfold encodeDns
  rw [hasFakeIp]
  refine agree_bind (agree_mapM dns.servers fun server _ =>
    agree_encodeServer corresponds server) fun servers => ?_
  refine agree_bind (agree_encodeRules dns.rules fun rule =>
    agree_encodeDnsRule corresponds dns.hasFakeIp rule) fun rules => ?_
  exact agree_bind (corresponds.dnsServer dns.finalServer) fun _ => agree_pure _

/-! ### Outbounds -/

theorem subscription?_rename (member : Member) :
    (member.rename rename).subscription? = member.subscription? := by
  unfold Member.rename
  cases source : member.source with
  | builtIn =>
    have same : ({ member with id := rename member.id } : Member).source = .builtIn := source
    simp only [Member.subscription?, source, same]
  | subscription => rfl
  | proxy subscription => rfl

/-- The groups of a renamed profile draw from the same subscriptions. -/
theorem drawnFrom_rename (outbounds : List Outbound) :
    drawnFrom (outbounds.map (Outbound.rename rename)) = drawnFrom outbounds := by
  have members : ∀ outbound : Outbound,
      (outbound.rename rename).members.filterMap Member.subscription? =
        outbound.members.filterMap Member.subscription? := by
    intro outbound
    show (outbound.members.map (Member.rename rename)).filterMap _ = _
    have source : Member.subscription? ∘ Member.rename rename = Member.subscription? :=
      funext subscription?_rename
    rw [List.filterMap_map, source]
  have groups : (fun outbound : Outbound => (outbound.rename rename).type.isGroup) =
      fun outbound => outbound.type.isGroup := rfl
  unfold drawnFrom
  simp only [List.filter_map, List.flatMap_map, Function.comp_def, groups, members]

theorem neverUnresolved_of (lists : ProxyLists) (subscription : String) :
    NeverUnresolved (lists.of subscription) := by
  unfold ProxyLists.of
  split
  · exact neverUnresolved_ok _
  · exact neverUnresolved_error rfl

theorem neverUnresolved_groupFilter (outbound : Outbound) :
    NeverUnresolved (groupFilter outbound) := by
  unfold groupFilter
  split
  · exact neverUnresolved_ok _
  · exact neverUnresolved_error rfl
  · exact neverUnresolved_error rfl

theorem agree_expandMember (corresponds : Corresponds comparison rename scope other)
    (provider : Provider) (lists : ProxyLists) (filter : Pattern.Filter) (member : Member) :
    comparison.Agree (expandMember scope provider lists filter member)
      (expandMember other provider lists filter (member.rename rename)) := by
  unfold Member.rename
  cases source : member.source with
  | builtIn =>
    have same : ({ member with id := rename member.id } : Member).source = .builtIn := source
    simp only [expandMember, source, same]
    refine agree_bind (corresponds.outbound member.id) fun reached => ?_
    cases reached <;> exact agree_pure _
  | subscription =>
    simp only [expandMember, source]
    exact agree_bind (agree_lift (neverUnresolved_of lists member.id)) fun _ => agree_pure _
  | proxy subscription =>
    simp only [expandMember, source]
    exact agree_bind (agree_lift (neverUnresolved_of lists subscription)) fun _ => agree_pure _

theorem agree_encodeOutbound (corresponds : Corresponds comparison rename scope other)
    (provider : Provider) (lists : ProxyLists) (outbound : Outbound) :
    comparison.Agree (encodeOutbound scope provider lists outbound)
      (encodeOutbound other provider lists (outbound.rename rename)) := by
  have expand : comparison.Agree (expandMembers scope provider lists outbound)
      (expandMembers other provider lists (outbound.rename rename)) := by
    refine agree_bind (agree_lift (neverUnresolved_groupFilter outbound)) fun filter => ?_
    exact agree_bind (agree_mapM outbound.members fun member _ =>
      agree_expandMember corresponds provider lists filter member) fun _ => agree_pure _
  have type : (outbound.rename rename).type = outbound.type := rfl
  unfold encodeOutbound
  simp only [type]
  split
  · exact agree_bind expand fun _ => agree_pure _
  · exact agree_pure _

/-- Outbounds agree if the errors of the provider may be shared. -/
theorem agree_encodeOutbounds (corresponds : Corresponds comparison rename scope other)
    (provider : Provider) (outbounds : List Outbound)
    (shared : ∀ id ∈ drawnFrom outbounds, ∀ error, provider.proxies id = .error error →
      comparison.Shared error) :
    comparison.Agree (encodeOutbounds scope provider outbounds)
      (encodeOutbounds other provider (outbounds.map (Outbound.rename rename))) := by
  -- Fetching is the only step whose errors the compilation does not make itself.
  have fetched : ∀ error, fetchLists provider outbounds = .error error →
      comparison.Shared error := by
    intro error failed
    obtain ⟨id, drawn, same⟩ := exists_of_mapM_error failed
    cases answer : provider.proxies id with
    | error reason =>
      rw [answer] at same
      cases same
      exact shared id drawn error answer
    | ok proxies =>
      rw [answer] at same
      cases same
  have lists : fetchLists provider (outbounds.map (Outbound.rename rename)) =
      fetchLists provider outbounds := by
    unfold fetchLists
    rw [drawnFrom_rename]
  unfold encodeOutbounds
  rw [lists]
  refine agree_bind (agree_same fetched) fun lists => ?_
  exact agree_bind (agree_mapM outbounds fun outbound _ =>
    agree_encodeOutbound corresponds provider lists outbound) fun _ => agree_pure _

end Encoders

/-! ### Profiles -/

theorem encodeInbounds_rename (rename : String → String) (inbounds : List Inbound) :
    encodeInbounds (inbounds.map (Inbound.rename rename)) = encodeInbounds inbounds := by
  unfold encodeInbounds
  rw [List.filter_map, List.map_map]
  rfl

/-- A profile and a renamed one compile alike, if references in them resolve alike and the
errors of the provider may be shared. -/
theorem alike_compileBase {comparison : Comparison} {rename : String → String}
    {environment second : Environment} {profile : Profile}
    (corresponds : Corresponds comparison rename ⟨profile, environment.policy⟩
      ⟨profile.rename rename, second.policy⟩)
    (provider : second.provider = environment.provider)
    (files : second.ruleSetFiles = environment.ruleSetFiles)
    (shared : ∀ id ∈ drawnFrom profile.outbounds, ∀ error,
      environment.provider.proxies id = .error error → comparison.Shared error) :
    comparison.Alike (compileBase environment profile)
      (compileBase second (profile.rename rename)) := by
  have parts : comparison.Agree (encodeParts environment profile)
      (encodeParts second (profile.rename rename)) := by
    unfold encodeParts
    rw [provider, files]
    refine agree_bind (agree_encodeExperimental corresponds profile.experimental)
      fun experimental => ?_
    refine agree_bind (agree_encodeOutbounds corresponds environment.provider profile.outbounds
      shared) fun outbounds => ?_
    refine agree_bind (agree_encodeRoute corresponds environment.ruleSetFiles profile.route)
      fun route => ?_
    refine agree_bind (agree_encodeDns corresponds profile.dns) fun dns => ?_
    refine agree_bind agree_get fun mentioned => ?_
    rw [show (profile.rename rename).inbounds = profile.inbounds.map (Inbound.rename rename) from
      rfl, encodeInbounds_rename]
    exact agree_pure _
  exact comparison.bind (parts []) fun both => comparison.ok both.1

end Kernel

end ProxyProfile
