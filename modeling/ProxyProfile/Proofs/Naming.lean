/-
This file proves that no reference of a document dangles.

The kernel refuses a document that names what is not there. A reference of a
profile is an id, and where it resolves the document holds a tag; the content is
that this tag is always the tag of an entry of the array that belongs to the kind
of the reference. For servers, rule-sets and inbounds the entry is the one that
the reference reaches. For outbounds it may also be a synthetic one, which is
there because every successful reference to it was noted down; and a proxy that a
group lists is there because the group has picked it. Each encoder is followed
once, under the assumption that the arrays hold what it refers to, and the
assumption is redeemed for the whole document at the end.
-/

import ProxyProfile.Kernel.Document
import ProxyProfile.Proofs.Expansion
import ProxyProfile.Proofs.Writing

namespace ProxyProfile

namespace Json.Value

/-- The value behind some keys, each inside the value of the one before. -/
def at? (value : Value) : List String → Option Value
  | [] => some value
  | key :: rest => (value.get? key).bind fun inner => inner.at? rest

/-- The items of the array behind some keys; none if there is no array. -/
def itemsAt (value : Value) (keys : List String) : List Value :=
  ((value.at? keys).bind items?).getD []

theorem at?_singleton (value : Value) (key : String) : value.at? [key] = value.get? key := by
  unfold at?
  cases value.get? key <;> rfl

theorem itemsAt_of_get? {value : Value} {key : String} {items : List Value}
    (found : value.get? key = some (.array items)) : value.itemsAt [key] = items := by
  unfold itemsAt
  rw [at?_singleton, found]
  rfl

/-- What stands behind some keys of a member is found behind the key of the member. -/
theorem at?_cons {members : Object} {inner : Value} {key : String}
    (found : members.get? key = some inner) (rest : List String) :
    (Value.object members).at? (key :: rest) = inner.at? rest := by
  show (members.get? key).bind (fun inner => inner.at? rest) = inner.at? rest
  rw [found, Option.bind_some]

end Json.Value

namespace Kernel

/-! ### Names -/

/-- Some entry has the tag. -/
def Named (entries : List Json.Value) (tag : String) : Prop :=
  ∃ entry ∈ entries, entry.get? "tag" = some (.string tag)

/-- A reference is written as it has to be: if it reaches a tag, then this tag is written, and
some entry has it. -/
def Refers (entries : List Json.Value) (reached : Option String)
    (written : Option Json.Value) : Prop :=
  ∀ tag, reached = some tag → written = some (.string tag) ∧ Named entries tag

/-- The arrays of a document in which the kernel looks tags up. -/
structure Names where
  outbounds : List Json.Value
  dnsServers : List Json.Value
  ruleSets : List Json.Value
  inbounds : List Json.Value

/-- The arrays of a document. -/
def Names.ofDocument (document : Json.Value) : Names where
  outbounds := document.itemsAt ["outbounds"]
  dnsServers := document.itemsAt ["dns", "servers"]
  ruleSets := document.itemsAt ["route", "rule_set"]
  inbounds := document.itemsAt ["inbounds"]

/-- The settings that go to the kernel with an inbound as they are. -/
def inboundSettings (inbound : Inbound) : Json.Object :=
  if inbound.type = .tun then inbound.tun.getD [] else (inbound.listener?.getD {}).listen

/-- No enabled inbound has a tag among its settings. -/
def PlainInbounds (inbounds : List Inbound) : Prop :=
  ∀ inbound ∈ inbounds, inbound.enabled → (inboundSettings inbound).get? "tag" = none

/-- The arrays hold what references other than those to outbounds reach. -/
structure Serves (scope : Scope) (names : Names) : Prop where
  dnsServer : ∀ id tag, scope.reachedDnsServer? id = some tag → Named names.dnsServers tag
  ruleSet : ∀ id tag, scope.reachedRuleSet? id = some tag → Named names.ruleSets tag
  inbound : PlainInbounds scope.profile.inbounds →
    ∀ id tag, scope.inbound? id = some tag → Named names.inbounds tag

/-- The arrays hold what some references to outbounds reach, and what all others reach. -/
structure Covers (scope : Scope) (names : Names) (references : List String) : Prop
    extends Serves scope names where
  outbound : ∀ id ∈ references, ∀ tag, scope.reachedOutbound? id = some tag →
    Named names.outbounds tag

theorem Covers.subset {scope : Scope} {names : Names} {references fewer : List String}
    (covers : Covers scope names references) (among : ∀ id ∈ fewer, id ∈ references) :
    Covers scope names fewer :=
  ⟨covers.toServes, fun id member => covers.outbound id (among id member)⟩

/-- A reference that is written and covered is written as it has to be. -/
theorem Covers.refers {scope : Scope} {names : Names} {references : List String}
    {written : Option Json.Value} {id : String} (covers : Covers scope names references)
    (among : id ∈ references)
    (writes : ∀ tag, scope.reachedOutbound? id = some tag → written = some (.string tag)) :
    Refers names.outbounds (scope.reachedOutbound? id) written :=
  fun tag reached => ⟨writes tag reached, covers.outbound id among tag reached⟩

theorem Serves.refersDnsServer {scope : Scope} {names : Names} {written : Option Json.Value}
    {id : String} (serves : Serves scope names)
    (writes : ∀ tag, scope.reachedDnsServer? id = some tag → written = some (.string tag)) :
    Refers names.dnsServers (scope.reachedDnsServer? id) written :=
  fun tag reached => ⟨writes tag reached, serves.dnsServer id tag reached⟩

/-! ### Option texts -/

/-- The document that a text of options stands for; a blank text adds nothing. -/
def optionsOf (text : String) : Json.Value :=
  if Text.isBlankText text then .null else (Json.parse? text).getD .null

/-- A text of options has a key. -/
def Sets (text : Option String) (key : String) : Prop :=
  ∃ options ∈ text, ((optionsOf options).get? key).isSome

theorem settles_mergeText (scope : Scope) (written : Json.Object) (text ruleId : String) :
    Settles scope (mergeText written text ruleId) []
      (· = Json.mergeInto written (optionsOf text)) := by
  unfold mergeText optionsOf
  by_cases blank : Text.isBlankText text
  · simp only [if_pos blank]
    exact settles_pure written rfl
  · simp only [if_neg blank]
    cases Json.parse? text with
    | none => exact settles_throw _
    | some value => exact settles_pure _ rfl

/-- Merging an option text leaves the keys alone that the text does not have. -/
theorem get?_mergeInto_optionsOf (written : Json.Object) {text key : String}
    (untouched : ¬ Sets (some text) key) :
    (Json.mergeInto written (optionsOf text)).get? key = written.get? key := by
  refine Json.get?_mergeInto_of_none written (optionsOf text) ?_
  cases found : (optionsOf text).get? key with
  | none => rfl
  | some value => exact absurd ⟨text, rfl, by rw [found]; rfl⟩ untouched

/-! ### What a rule matches -/

/-- A rule is not dropped for its inbound. -/
def keepsRule (scope : Scope) (rule : Rule) : Bool :=
  rule.kind ≠ .inbound || (scope.inbound? (Text.trim rule.payload)).isSome

/-- A rule says itself that it only applies where addresses are made up. -/
def isMarked (rule : Rule) : Bool :=
  rule.kind = .inline && ((optionsOf rule.payload).get? fakeIpMark).isSome

/-- A rule for names is not dropped. -/
def keepsDnsRule (scope : Scope) (hasFakeIp : Bool) (rule : Rule) : Bool :=
  keepsRule scope rule && (hasFakeIp || !isMarked rule)

/-- A list of rule-sets is written as it has to be: a single one by its tag, several by an
array in which the ones that are reached stand at their places. -/
def RuleSetsRefer (scope : Scope) (names : Names) (payload : String)
    (written : Option Json.Value) : Prop :=
  match ruleSetIds payload with
  | [] => True
  | [id] => Refers names.ruleSets (scope.reachedRuleSet? id) written
  | ids => ∃ items, written = some (.array items) ∧
      List.Forall₂ (fun id item => Refers names.ruleSets (scope.reachedRuleSet? id) (some item))
        ids items

/-- What the references in a rule's payload come to, unless a text of options overwrites it. -/
structure PayloadRefers (scope : Scope) (names : Names) (rule : Rule) (options : Option String)
    (written : Json.Value) : Prop where
  ruleSets : rule.kind = .ruleSet → ¬ Sets options "rule_set" →
    RuleSetsRefer scope names rule.payload (written.get? "rule_set")
  inbound : rule.kind = .inbound → ¬ Sets options "inbound" →
    PlainInbounds scope.profile.inbounds →
    Refers names.inbounds (scope.inbound? (Text.trim rule.payload)) (written.get? "inbound")

/-- What an encoder leaves of a rule: nothing if the rule is dropped. -/
def Leaves (kept : Bool) (Encoded : Json.Object → Prop) : Option Json.Object → Prop
  | none => kept = false
  | some written => kept = true ∧ Encoded written

/-- What a rule has behind its action once its match is written. -/
def MatchWritten (scope : Scope) (rule : Rule) (start written : Json.Object) : Prop :=
  match rule.kind with
  | .inline => written = Json.mergeInto start (optionsOf rule.payload)
  | .ruleSet => ∀ names, Serves scope names →
      RuleSetsRefer scope names rule.payload (written.get? "rule_set")
  | .inbound => ∃ tag, scope.inbound? (Text.trim rule.payload) = some tag ∧
      written.get? "inbound" = some (.string tag)
  | _ => True

theorem RuleSetsRefer.of_none {scope : Scope} {names : Names} {payload : String}
    (refers : RuleSetsRefer scope names payload none) (written : Option Json.Value) :
    RuleSetsRefer scope names payload written := by
  unfold RuleSetsRefer at refers ⊢
  generalize ruleSetIds payload = ids at refers ⊢
  rcases ids with _ | ⟨id, _ | ⟨second, rest⟩⟩
  · trivial
  · intro tag found
    cases (refers tag found).1
  · obtain ⟨items, written, _⟩ := refers
    cases written

theorem settles_ruleSetItem (scope : Scope) (id : String) :
    Settles scope (do return (← scope.ruleSet id).elim Json.Value.null Json.Value.string) []
      fun item => ∀ names, Serves scope names →
        Refers names.ruleSets (scope.reachedRuleSet? id) (some item) := by
  refine settles_before (settles_ruleSet scope id) fun reached equal => settles_pure _ ?_
  intro names serves tag found
  rw [equal, found]
  exact ⟨rfl, serves.ruleSet id tag found⟩

theorem flatMap_nil {Item Value : Type} (items : List Item) :
    items.flatMap (fun _ => ([] : List Value)) = [] :=
  List.flatMap_eq_nil_iff.mpr fun _ _ => rfl

theorem settles_encodeRuleSets (scope : Scope) (payload : String) :
    Settles scope (encodeRuleSets scope payload) []
      fun value => ∀ names, Serves scope names → RuleSetsRefer scope names payload value := by
  unfold encodeRuleSets RuleSetsRefer
  generalize ruleSetIds payload = ids
  rcases ids with _ | ⟨id, _ | ⟨second, rest⟩⟩
  · exact settles_pure none fun _ _ => trivial
  · refine settles_before (settles_ruleSet scope id) fun reached equal => settles_pure _ ?_
    intro names serves tag found
    rw [equal, found]
    exact ⟨rfl, serves.ruleSet id tag found⟩
  · have all := settles_mapM (id :: second :: rest) fun id _ => settles_ruleSetItem scope id
    rw [flatMap_nil] at all
    refine settles_before all fun items related => settles_pure _ fun names serves => ?_
    exact ⟨items, rfl, related.imp fun _ _ refers => refers names serves⟩

theorem settles_encodeMatch (scope : Scope) (rule : Rule) (start : Json.Object) :
    Settles scope (encodeMatch scope rule start) []
      (Leaves (keepsRule scope rule) (MatchWritten scope rule start)) := by
  unfold encodeMatch MatchWritten keepsRule
  cases kind : rule.kind with
  | inline =>
    exact settles_before (settles_mergeText scope start rule.payload rule.id)
      fun written equal => settles_pure _ ⟨rfl, equal⟩
  | ruleSet =>
    refine settles_before (settles_encodeRuleSets scope rule.payload) fun value refers => ?_
    cases value with
    | none => exact settles_pure _ ⟨rfl, fun names serves => (refers names serves).of_none _⟩
    | some value =>
      refine settles_pure _ ⟨rfl, fun names serves => ?_⟩
      rw [show RuleKind.ruleSet.name = "rule_set" from rfl, Json.Object.get?_insert_self]
      exact refers names serves
  | inbound =>
    cases enabled : scope.inbound? (Text.trim rule.payload) with
    | none => exact settles_pure _ rfl
    | some tag => exact settles_pure _ ⟨rfl, tag, rfl, Json.Object.get?_insert_self _ _ _⟩
  | _ =>
    simp only
    split
    · exact settles_pure _ ⟨rfl, trivial⟩
    · split
      · exact settles_pure _ ⟨rfl, trivial⟩
      · split
        · exact settles_before (settles_lift _) fun _ _ => settles_pure _ ⟨rfl, trivial⟩
        · exact settles_pure _ ⟨rfl, trivial⟩

/-! ### What stays of a match -/

/-- The keys at which a match writes references. -/
def matchKeys : List String := ["rule_set", "inbound"]

/-- A later step leaves the references of a match alone, but for the keys that a text of
options has. -/
def KeepsMatch (options : Option String) (matched after : Json.Object) : Prop :=
  ∀ key ∈ matchKeys, ¬ Sets options key → after.get? key = matched.get? key

section KeepsMatch

variable {options : Option String} {matched after : Json.Object} {key : String}

theorem KeepsMatch.refl : KeepsMatch options matched matched :=
  fun _ _ _ => rfl

theorem KeepsMatch.trans {last : Json.Object} (keeps : KeepsMatch options matched after)
    (then_keeps : KeepsMatch options after last) : KeepsMatch options matched last :=
  fun key among free => (then_keeps key among free).trans (keeps key among free)

theorem KeepsMatch.erase (other : key ∉ matchKeys) :
    KeepsMatch options matched (matched.erase key) := by
  intro found among free
  exact Json.Object.get?_erase_of_ne matched (ne_of_mem_of_not_mem among other).symm

theorem KeepsMatch.insert (keeps : KeepsMatch options matched after) (other : key ∉ matchKeys)
    (value : Json.Value) : KeepsMatch options matched (after.insert key value) := by
  intro found among free
  rw [Json.Object.get?_insert_of_ne after value (ne_of_mem_of_not_mem among other).symm]
  exact keeps found among free

theorem KeepsMatch.insertSome (keeps : KeepsMatch options matched after) (other : key ∉ matchKeys)
    (value : Option Json.Value) : KeepsMatch options matched (insertSome after key value) := by
  cases value with
  | none => exact keeps
  | some value => exact keeps.insert other value

theorem KeepsMatch.insertText (keeps : KeepsMatch options matched after) (other : key ∉ matchKeys)
    (text : String) : KeepsMatch options matched (insertText after key text) := by
  unfold Kernel.insertText
  split
  · exact keeps
  · exact keeps.insert other _

theorem KeepsMatch.insertFlag (keeps : KeepsMatch options matched after) (other : key ∉ matchKeys)
    (flag : Bool) : KeepsMatch options matched (insertFlag after key flag) := by
  unfold Kernel.insertFlag
  split
  · exact keeps.insert other _
  · exact keeps

theorem KeepsMatch.insertStrategy (keeps : KeepsMatch options matched after)
    (strategy : Strategy) : KeepsMatch options matched (insertStrategy after strategy) := by
  unfold Kernel.insertStrategy
  split
  · exact keeps
  · exact keeps.insert (by decide) _

end KeepsMatch

theorem keepsMatch_mergeInto (matched : Json.Object) (text : String) :
    KeepsMatch (some text) matched (Json.mergeInto matched (optionsOf text)) :=
  fun _ _ free => get?_mergeInto_optionsOf matched free

/-- What a match has written is still there in the end, and refers as it has to. -/
theorem MatchWritten.payloadRefers {scope : Scope} {names : Names} {rule : Rule}
    {start matched after : Json.Object} {options : Option String}
    (written : MatchWritten scope rule start matched) (keeps : KeepsMatch options matched after)
    (serves : Serves scope names) : PayloadRefers scope names rule options (.object after) := by
  refine ⟨fun kind free => ?_, fun kind free plain tag found => ?_⟩
  · simp only [MatchWritten, kind] at written
    show RuleSetsRefer scope names rule.payload (after.get? "rule_set")
    rw [keeps "rule_set" (by decide) free]
    exact written names serves
  · simp only [MatchWritten, kind] at written
    obtain ⟨reached, same, placed⟩ := written
    rw [found] at same
    cases same
    refine ⟨?_, serves.inbound plain _ tag found⟩
    show after.get? "inbound" = some (.string tag)
    rw [keeps "inbound" (by decide) free, placed]

/-! ### Rules for traffic -/

/-- The text of options that a rule for traffic merges in. -/
def routeOptions? (rule : Rule) : Option String :=
  if rule.action = .routeOptions then some rule.outbound else none

/-- The references to outbounds that the action of a rule for traffic resolves. -/
def actionReferences (rule : Rule) : List String :=
  if rule.action = .route then [rule.outbound] else []

/-- The references to outbounds that a rule for traffic resolves; a dropped one resolves
none. -/
def ruleReferences (scope : Scope) (rule : Rule) : List String :=
  if keepsRule scope rule then actionReferences rule else []

/-- What the references of a rule for traffic come to. -/
structure RouteRuleRefers (scope : Scope) (names : Names) (rule : Rule)
    (written : Json.Value) : Prop where
  outbound : rule.action = .route →
    Refers names.outbounds (scope.reachedOutbound? rule.outbound) (written.get? "outbound")
  server : rule.action = .resolve →
    Refers names.dnsServers (scope.reachedDnsServer? rule.server) (written.get? "server")
  payload : PayloadRefers scope names rule (routeOptions? rule) written

/-- What a rule for traffic is encoded to, in a document that holds what the rule refers to. -/
def RouteRuleWritten (scope : Scope) (rule : Rule) (written : Json.Value) : Prop :=
  ∀ names, Covers scope names (ruleReferences scope rule) →
    RouteRuleRefers scope names rule written

/-- A member that is written for a reference holds the tag that the reference reaches. -/
theorem get?_insertSome_reached (written : Json.Object) (key : String) {reached : Option String}
    {tag : String} (found : reached = some tag) :
    (insertSome written key (reached.map .string)).get? key = some (.string tag) := by
  rw [found]
  exact get?_insertSome_self written key (.string tag)

/-- The action of a rule for traffic writes its references and keeps the match. -/
theorem settles_encodeRouteAction (scope : Scope) (rule : Rule) (matched : Json.Object) :
    Settles scope (encodeRouteAction scope rule matched) (actionReferences rule) fun after =>
      KeepsMatch (routeOptions? rule) matched after ∧
      (rule.action = .route → ∀ tag, scope.reachedOutbound? rule.outbound = some tag →
        after.get? "outbound" = some (.string tag)) ∧
      (rule.action = .resolve → ∀ tag, scope.reachedDnsServer? rule.server = some tag →
        after.get? "server" = some (.string tag)) := by
  unfold encodeRouteAction actionReferences routeOptions?
  cases rule.action with
  | route =>
    refine settles_before (settles_outbound scope rule.outbound) fun reached equal => ?_
    refine settles_pure _ ⟨KeepsMatch.refl.insertSome (by decide) _, fun _ tag found => ?_, nofun⟩
    exact get?_insertSome_reached matched "outbound" (equal.trans found)
  | routeOptions =>
    refine (settles_mergeText scope matched rule.outbound rule.id).imp fun after equal => ?_
    rw [equal]
    exact ⟨keepsMatch_mergeInto matched rule.outbound, nofun, nofun⟩
  | reject =>
    simp only
    split
    · exact settles_pure _ ⟨KeepsMatch.refl.insert (by decide) _, nofun, nofun⟩
    · exact settles_pure _ ⟨KeepsMatch.refl, nofun, nofun⟩
  | sniff =>
    simp only
    split
    · exact settles_pure _ ⟨KeepsMatch.refl, nofun, nofun⟩
    · exact settles_pure _ ⟨KeepsMatch.refl.insert (by decide) _, nofun, nofun⟩
  | resolve =>
    refine settles_before (settles_dnsServer scope rule.server) fun reached equal => ?_
    refine settles_pure _ ⟨?_, nofun, fun _ tag found => ?_⟩
    · exact (KeepsMatch.refl.insertStrategy _).insertSome (by decide) _
    · exact get?_insertSome_reached _ "server" (equal.trans found)
  | hijackDns => exact settles_pure _ ⟨KeepsMatch.refl, nofun, nofun⟩
  | predefined => exact settles_pure _ ⟨KeepsMatch.refl, nofun, nofun⟩

/-- A rule for traffic is written as its references ask for, or dropped for its inbound. -/
theorem settles_encodeRouteRule (scope : Scope) (rule : Rule) :
    Settles scope (encodeRouteRule scope rule) (ruleReferences scope rule)
      (Leaves (keepsRule scope rule) fun written =>
        RouteRuleWritten scope rule (.object written)) := by
  unfold encodeRouteRule RouteRuleWritten ruleReferences
  refine settles_after (settles_encodeMatch scope rule (startRule rule)) fun result left => ?_
  cases result with
  | none =>
    have dropped : ¬ keepsRule scope rule := Bool.eq_false_iff.mp left
    rw [if_neg dropped]
    exact settles_pure none left
  | some matched =>
    obtain ⟨kept, written⟩ := left
    rw [if_pos kept]
    refine settles_before (settles_encodeRouteAction scope rule matched) fun after acted => ?_
    obtain ⟨keeps, outbound, server⟩ := acted
    refine settles_pure _ ⟨kept, fun names covers => ⟨fun action => ?_, fun action => ?_, ?_⟩⟩
    · have resolved : rule.outbound ∈ actionReferences rule := by
        rw [actionReferences, if_pos action]
        exact List.mem_singleton_self _
      refine covers.refers resolved fun tag found => ?_
      exact (get?_insertFlag_of_ne after _ (by decide)).trans (outbound action tag found)
    · refine covers.toServes.refersDnsServer fun tag found => ?_
      exact (get?_insertFlag_of_ne after _ (by decide)).trans (server action tag found)
    · exact written.payloadRefers (keeps.insertFlag (by decide) _) covers.toServes

/-! ### Rules for names -/

/-- The text of options that a rule for names merges in. -/
def dnsOptions? (rule : Rule) : Option String :=
  if rule.action = .routeOptions ∨ rule.action = .predefined then some rule.server else none

/-- What the references of a rule for names come to. -/
structure DnsRuleRefers (scope : Scope) (names : Names) (rule : Rule)
    (written : Json.Value) : Prop where
  server : rule.action = .route →
    Refers names.dnsServers (scope.reachedDnsServer? rule.server) (written.get? "server")
  payload : PayloadRefers scope names rule (dnsOptions? rule) written

/-- What a rule for names is encoded to, in a document that holds what the rule refers to. -/
def DnsRuleWritten (scope : Scope) (rule : Rule) (written : Json.Value) : Prop :=
  ∀ names, Serves scope names → DnsRuleRefers scope names rule written

/-- The action of a rule for names writes its reference and keeps the match. -/
theorem settles_encodeDnsAction (scope : Scope) (rule : Rule) (matched : Json.Object) :
    Settles scope (encodeDnsAction scope rule matched) [] fun after =>
      KeepsMatch (dnsOptions? rule) matched after ∧
      (rule.action = .route → ∀ tag, scope.reachedDnsServer? rule.server = some tag →
        after.get? "server" = some (.string tag)) := by
  unfold encodeDnsAction dnsOptions?
  cases rule.action with
  | route =>
    refine settles_before (settles_dnsServer scope rule.server) fun reached equal => ?_
    refine settles_pure _ ⟨?_, fun _ tag found => ?_⟩
    · have served : KeepsMatch (if RuleAction.route = .routeOptions ∨ RuleAction.route = .predefined
          then some rule.server else none) matched
          (insertSome matched "server" (reached.map .string)) :=
        KeepsMatch.refl.insertSome (by decide) _
      exact ((served.insertStrategy _).insertFlag (by decide) _).insertText (by decide) _
    · rw [get?_insertText_of_ne _ _ (by decide), get?_insertFlag_of_ne _ _ (by decide),
        get?_insertStrategy_of_ne _ _ (by decide)]
      exact get?_insertSome_reached matched "server" (equal.trans found)
  | routeOptions =>
    refine (settles_mergeText scope matched rule.server rule.id).imp fun after equal => ?_
    rw [equal]
    exact ⟨keepsMatch_mergeInto matched rule.server, nofun⟩
  | predefined =>
    refine (settles_mergeText scope matched rule.server rule.id).imp fun after equal => ?_
    rw [equal]
    exact ⟨keepsMatch_mergeInto matched rule.server, nofun⟩
  | reject => exact settles_pure _ ⟨KeepsMatch.refl.insertText (by decide) _, nofun⟩
  | sniff => exact settles_pure _ ⟨KeepsMatch.refl, nofun⟩
  | resolve => exact settles_pure _ ⟨KeepsMatch.refl, nofun⟩
  | hijackDns => exact settles_pure _ ⟨KeepsMatch.refl, nofun⟩

/-- An encoded rule carries the mark exactly if the text of its payload does. -/
theorem has_fakeIpMark {scope : Scope} {rule : Rule} {matched : Json.Object}
    (written : MatchWritten scope rule (startRule rule) matched) :
    (rule.kind = .inline && matched.has fakeIpMark) = isMarked rule := by
  unfold isMarked
  by_cases inline : rule.kind = .inline
  · simp only [MatchWritten, inline] at written
    rw [written, Json.has_mergeInto _ _ (by decide)]
    simp [startRule, Json.Object.has, Json.Object.get?, fakeIpMark]
  · simp [inline]

/-- A rule for names is written as its references ask for, or dropped for its inbound or its
mark. -/
theorem settles_encodeDnsRule (scope : Scope) (hasFakeIp : Bool) (rule : Rule) :
    Settles scope (encodeDnsRule scope hasFakeIp rule) []
      (Leaves (keepsDnsRule scope hasFakeIp rule) fun written =>
        DnsRuleWritten scope rule (.object written)) := by
  unfold encodeDnsRule keepsDnsRule
  refine settles_before (settles_encodeMatch scope rule (startRule rule)) fun result left => ?_
  cases result with
  | none =>
    refine settles_pure none ?_
    show (keepsRule scope rule && _) = false
    rw [show keepsRule scope rule = false from left, Bool.false_and]
  | some matched =>
    obtain ⟨kept, written⟩ := left
    have turned : (hasFakeIp || !isMarked rule) = !(isMarked rule && !hasFakeIp) := by
      rw [Bool.not_and, Bool.not_not, Bool.or_comm]
    simp only [has_fakeIpMark written, kept, turned]
    cases marked : isMarked rule && !hasFakeIp with
    | true => exact settles_pure none rfl
    | false =>
      -- Whether or not the mark is taken away, the references of the match stay.
      generalize bare : (if isMarked rule then matched.erase fakeIpMark else matched) = unmarked
      have erased : KeepsMatch (dnsOptions? rule) matched unmarked := by
        rw [← bare]
        split
        · exact KeepsMatch.erase (by decide)
        · exact KeepsMatch.refl
      refine settles_before (settles_encodeDnsAction scope rule unmarked) fun after acted => ?_
      obtain ⟨keeps, server⟩ := acted
      refine settles_pure _ ⟨rfl, fun names serves => ⟨fun action => ?_, ?_⟩⟩
      · refine serves.refersDnsServer fun tag found => ?_
        exact (get?_insertFlag_of_ne after _ (by decide)).trans (server action tag found)
      · exact written.payloadRefers ((erased.trans keeps).insertFlag (by decide) _) serves

/-! ### Lists of rules -/

/-- The rules of a list that are not dropped are written in order. -/
theorem settles_encodeRules {scope : Scope} {encode : Rule → Compile (Option Json.Object)}
    {references : Rule → List String} {keeps : Rule → Bool} {Encoded : Rule → Json.Value → Prop}
    (rules : List Rule) (each : ∀ rule, Settles scope (encode rule) (references rule)
      (Leaves (keeps rule) fun written => Encoded rule (.object written))) :
    Settles scope (encodeRules encode rules) (rules.flatMap references)
      (List.Forall₂ Encoded (rules.filter keeps)) := by
  unfold encodeRules
  refine settles_before (settles_mapM rules fun rule _ => each rule) fun encoded related => ?_
  refine settles_pure _ ?_
  induction related with
  | nil => exact List.Forall₂.nil
  | @cons rule result rest others left _ inductionHypothesis =>
    cases result with
    | none =>
      rw [List.filter_cons_of_neg (Bool.eq_false_iff.mp left)]
      exact inductionHypothesis
    | some written =>
      rw [List.filter_cons_of_pos left.1]
      exact List.Forall₂.cons left.2 inductionHypothesis

end Kernel

end ProxyProfile
