/-
This file proves that a group which picks a proxy by its index id gets the proxy
that the id was given to.

Three look-ups lie between the id and the proxy: the store finds the tag of the
id in the index, the compiler finds the first proxy with the tag in the list that
was read from the file, and it writes the proxy at that place. The index lists the
proxies in order and its ids determine their tags, so the first look-up gives
the tag of the right proxy; the list in the file is the one that was indexed;
and where no two proxies have the same tag, only the right one has it.

That the ids of the index determine their tags is handed on by the update: both
renewals keep it, and between them a script may write the record of the subscription,
but if it does not return an index, the record is read back with the index that
it had.
-/

import Mathlib.Data.List.Nodup
import ProxyProfile.Proofs.Expansion
import ProxyProfile.Proofs.Scripting

namespace ProxyProfile

namespace Subscription

/-! ### The index behind an update -/

/-- A script that gives no index leaves the subscription the one that it had. -/
theorem proxies_of_overlays {subscription updated : Subscription} {given : Json.Object}
    (overlays : Overlays subscription given updated) (absent : given.get? "proxies" = none) :
    updated.proxies = subscription.proxies := by
  have index := overlays.proxies
  unfold Overlaid at index
  rw [(Json.Object.last?_eq_none_iff _ _).mpr absent] at index
  exact index

/-- What a script that succeeds comes to: it is blank and changes nothing, or it is called and
its answer is taken over. -/
theorem runScript_ok {runner : Script.Runner} {subscription updated : Subscription}
    {proxies written : List Json.Value} {history calls : List Script.Call}
    (ran : (runScript runner subscription proxies).run.run history =
      (.ok (updated, written), calls)) :
    (Text.isBlankText subscription.script = true ∧ updated = subscription) ∨
      Text.isBlankText subscription.script = false ∧
        calls = history ++ [subscription.scriptCall proxies] ∧ ∃ answer given,
          runner.reply history (subscription.scriptCall proxies) = .ok answer ∧
          Answers answer written given ∧ Overlays subscription given updated := by
  cases filled : Text.isBlankText subscription.script with
  | true =>
    rw [run_runScript_of_blank runner proxies history filled] at ran
    cases ran
    exact Or.inl ⟨rfl, rfl⟩
  | false =>
    rw [run_runScript_of_filled runner proxies history filled] at ran
    obtain ⟨taken, called⟩ := Prod.mk.inj ran
    cases replied : runner.reply history (subscription.scriptCall proxies) with
    | error failure =>
      rw [replied] at taken
      cases taken
    | ok answer =>
      rw [replied] at taken
      obtain ⟨given, answers, overlays⟩ := answers_of_scriptResult taken
      exact Or.inr ⟨rfl, called.symm, answer, given, rfl, answers, overlays⟩

/-- No answer to a script among some calls returns an index. -/
def ReturnsNoIndex (runner : Script.Runner) (history made : List Script.Call) : Prop :=
  ∀ before call after, made = before ++ call :: after → call.plugin = none →
    ∀ answer, runner.reply (history ++ before) call = .ok answer →
      (answer.get? "subscription").bind (Json.Value.get? · "proxies") = none

/-- An update hands on that ids determine their tags, if no script writes the index. -/
theorem idsDetermineTags_ingest {host : Host} {storage : Memory} {subscription : Subscription}
    {body : String} {history made : List Script.Call} {ingestion : Ingestion Memory}
    {proxies : List Json.Value}
    (updates : (ingest host storage subscription body).run history =
      (ingestion, history ++ made))
    (succeeds : ingestion.result = .ok proxies)
    (determined : IdsDetermineTags subscription.proxies)
    (keeps : Text.isBlankText subscription.script = true ∨
      ReturnsNoIndex host.runner history made) :
    IdsDetermineTags ingestion.subscription.proxies := by
  obtain ⟨prepared, between, updated, prepares, scripts, subscribed, _⟩ :=
    exists_of_ingest_ok updates succeeds
  have renewed : IdsDetermineTags (subscription.refreshIndex prepared).proxies :=
    idsDetermineTags_refreshIndex determined
  suffices same : updated.proxies = (subscription.refreshIndex prepared).proxies by
    rw [subscribed]
    exact idsDetermineTags_refreshIndex (same ▸ renewed)
  rcases runScript_ok scripts with
    ⟨_, rfl⟩ | ⟨filled, called, answer, given, replied, answers, overlays⟩
  · rfl
  refine proxies_of_overlays overlays ?_
  rcases keeps with blank | silent
  · exact absurd blank (Bool.eq_false_iff.mp filled)
  · have adds : Run.Makes (fun _ => True) (prepare host subscription body) :=
      makes_prepare host subscription body fun _ _ => trivial
    obtain ⟨before, earlier, _⟩ := adds history
    rw [prepares] at earlier
    obtain rfl : between = history ++ before := earlier
    rw [List.append_assoc] at called
    have last := silent before _ [] (List.append_cancel_left called) rfl answer replied
    rw [answers.record] at last
    exact last

end Subscription

namespace Kernel

/-! ### Three look-ups -/

/-- What stands at a place of one list is related to what stands there in the other. -/
theorem exists_of_forall₂ {Item Value : Type} {Related : Item → Value → Prop} {items : List Item}
    {values : List Value} (related : List.Forall₂ Related items values) {place : Nat} {item : Item}
    (found : items[place]? = some item) :
    ∃ value, values[place]? = some value ∧ Related item value := by
  obtain ⟨bound, rfl⟩ := List.getElem?_eq_some_iff.mp found
  have inside : place < values.length := related.length_eq ▸ bound
  exact ⟨_, List.getElem?_eq_getElem inside, related.get bound inside⟩

/-- Every proxy has a tag that is a text, and no two have the same. -/
structure TaggedApart (proxies : List Json.Value) : Prop where
  tagged : ∀ proxy ∈ proxies, (proxyTag? proxy).isSome
  apart : (proxies.map proxyTag?).Nodup

section Tags

variable {proxies : List Json.Value} (apart : TaggedApart proxies)
include apart

theorem TaggedApart.proxyTag?_eq {proxy : Json.Value} (among : proxy ∈ proxies) :
    proxyTag? proxy = some (proxy.textAt "tag") := by
  obtain ⟨tag, tagged⟩ := Option.isSome_iff_exists.mp (apart.tagged proxy among)
  unfold Json.Value.textAt
  unfold proxyTag? at tagged ⊢
  rw [tagged, Option.getD_some]

/-- Where no two proxies have the same tag, the first with a tag is the only one. -/
theorem TaggedApart.findIdx?_eq {place : Nat} {proxy : Json.Value}
    (stored : proxies[place]? = some proxy) :
    proxies.findIdx? (fun other => proxyTag? other = some (proxy.textAt "tag")) =
      some place := by
  obtain ⟨bound, rfl⟩ := List.getElem?_eq_some_iff.mp stored
  have tagged := apart.proxyTag?_eq (List.getElem_mem bound)
  refine List.findIdx?_eq_some_iff_getElem.mpr ⟨bound, by simpa using tagged, ?_⟩
  intro other before same
  have inside : other < proxies.length := Nat.lt_trans before bound
  have equal : (proxies.map proxyTag?)[other]? = (proxies.map proxyTag?)[place]? := by
    rw [List.getElem?_map, List.getElem?_map, List.getElem?_eq_getElem inside,
      List.getElem?_eq_getElem bound, Option.map_some, Option.map_some, tagged]
    simpa using same
  have places := (List.getElem?_inj (by simpa using inside) apart.apart).mp equal
  omega

end Tags

/-! ### Picking -/

/-- A filter without patterns. -/
def acceptingAll : Pattern.Filter :=
  ⟨none, none⟩

theorem groupFilter_of_empty {outbound : Outbound} (wanted : outbound.wanted = "")
    (unwanted : outbound.unwanted = "") : groupFilter outbound = .ok acceptingAll := by
  unfold groupFilter
  rw [wanted, unwanted]
  rfl

section Members

variable {provider : Provider} {proxies : List Json.Value} {subscription : String}
  {member : Member} {place : Nat} {proxy : Json.Value}

/-- A member stands for the proxy that its id was given to, and for nothing else. -/
theorem memberTags_of_picked (scope : Scope) (source : member.source = .proxy subscription)
    (stored : storedProxies provider subscription = proxies)
    (known : provider.tag? subscription member.id = some (proxy.textAt "tag"))
    (apart : TaggedApart proxies) (among : proxy ∈ proxies) :
    memberTags scope provider acceptingAll member = [proxy.textAt "tag"] := by
  have present : proxy.textAt "tag" ∈ proxies.filterMap proxyTag? :=
    List.mem_filterMap.mpr ⟨proxy, among, apart.proxyTag?_eq among⟩
  unfold memberTags wantedTag
  simp only [source, stored, known, Option.getD_some]
  exact if_pos ⟨present, rfl⟩

theorem memberPicks_of_picked (source : member.source = .proxy subscription)
    (stored : storedProxies provider subscription = proxies)
    (known : provider.tag? subscription member.id = some (proxy.textAt "tag"))
    (apart : TaggedApart proxies) (found : proxies[place]? = some proxy) :
    memberPicks provider acceptingAll member = [(subscription, place)] := by
  unfold memberPicks wantedTag
  simp only [source, stored, known, Option.getD_some, apart.findIdx?_eq found]
  rfl

end Members

/-- A group without filters has a member that picks a single proxy, between some others. -/
structure PicksBetween (outbound : Outbound) (front behind : List Member) (member : Member) :
    Prop where
  group : outbound.type.isGroup
  wanted : outbound.wanted = ""
  unwanted : outbound.unwanted = ""
  members : outbound.members = front ++ member :: behind

theorem PicksBetween.among {outbound : Outbound} {front behind : List Member} {member : Member}
    (picks : PicksBetween outbound front behind member) : member ∈ outbound.members := by
  rw [picks.members]
  exact List.mem_append_right front List.mem_cons_self

/-- The entry of a group lists the tag of a proxy between the tags that the other members stand
for, and the proxy is an entry itself. -/
structure Picked (scope : Scope) (provider : Provider) (front behind : List Member)
    (proxy : Json.Value) (entry : Json.Value) (entries : List Json.Value) : Prop where
  listed : ∃ tag, proxyTag? proxy = some tag ∧ entry.get? "outbounds" = some (.strings
    (front.flatMap (memberTags scope provider acceptingAll) ++ tag ::
      behind.flatMap (memberTags scope provider acceptingAll)))
  appended : proxy ∈ entries

section Groups

variable {scope : Scope} {provider : Provider} {outbounds : List Outbound}
  {noted after : List Synthetic} {entries : List Json.Value}

/-- A member whose id is known to stand for the tag of a stored proxy picks that proxy. -/
theorem picked_of_encodeOutbounds {position place : Nat} {outbound : Outbound}
    {front behind : List Member} {member : Member} {subscription : String}
    {proxies : List Json.Value} {proxy : Json.Value}
    (encodes : (encodeOutbounds scope provider outbounds).run noted = .ok (entries, after))
    (declared : outbounds[position]? = some outbound)
    (picks : PicksBetween outbound front behind member)
    (source : member.source = .proxy subscription)
    (loaded : provider.proxies subscription = .ok proxies)
    (known : provider.tag? subscription member.id = some (proxy.textAt "tag"))
    (apart : TaggedApart proxies) (found : proxies[place]? = some proxy) :
    ∃ entry, entries[position]? = some entry ∧
      Picked scope provider front behind proxy entry entries := by
  obtain ⟨_, lists, written, fetched, expanded, rfl⟩ :=
    settles_encodeOutbounds scope provider outbounds noted entries after encodes
  have stored := storedProxies_of_ok loaded
  have among := List.mem_of_getElem? found
  have filtered := groupFilter_of_empty picks.wanted picks.unwanted
  obtain ⟨entry, placed, expands⟩ := exists_of_forall₂ expanded declared
  refine ⟨entry, ?_, ⟨_, apart.proxyTag?_eq among, ?_⟩, ?_⟩
  · rw [List.getElem?_append_left (List.getElem?_eq_some_iff.mp placed).1, placed]
  · obtain ⟨filter, read, listed⟩ := expands.members picks.group
    obtain rfl : acceptingAll = filter := Except.ok.inj (filtered.symm.trans read)
    rw [listed, picks.members, List.flatMap_append, List.flatMap_cons,
      memberTags_of_picked scope source stored known apart among, List.singleton_append]
  · have member : (subscription, place) ∈ memberPicks provider acceptingAll member := by
      rw [memberPicks_of_picked source stored known apart found]
      exact List.mem_cons_self
    have picked := mem_groupPicks (List.mem_of_getElem? declared) picks.group filtered
      picks.among member
    refine List.mem_append_right written (mem_pickedProxies fetched picked ?_)
    rw [stored]
    exact found

end Groups

/-- A store has a subscription that members can pick single proxies of: no other subscription has
its id, and the id is none that members use otherwise. -/
structure Offers {σ : Type} (store : SubscriptionStore σ) (subscription : Subscription) :
    Prop where
  held : subscription ∈ store.subscriptions
  unique : ∀ other ∈ store.subscriptions, other.id = subscription.id → other = subscription
  notBuiltIn : subscription.id ≠ "Built-in"
  notSubscription : subscription.id ≠ "Subscription"

theorem source_of_offers {σ : Type} {store : SubscriptionStore σ} {subscription : Subscription}
    (offers : Offers store subscription) {member : Member}
    (kind : member.kind = subscription.id) : member.source = .proxy subscription.id := by
  unfold Member.source
  rw [kind, if_neg offers.notBuiltIn, if_neg offers.notSubscription]

/-- An update after which the proxies of a subscription can be picked by their index ids: it
succeeds, the ids determined their tags before it, no script returns an index, and the tags
of the new proxies tell them apart. -/
structure Pickable (host : Host) (subscription : Subscription) (body : String)
    (before : Memory) (history made : List Script.Call)
    (ingestion : Subscription.Ingestion Memory) (proxies : List Json.Value) : Prop where
  updates : (Subscription.ingest host before subscription body).run history =
    (ingestion, history ++ made)
  succeeds : ingestion.result = .ok proxies
  determined : Subscription.IdsDetermineTags subscription.proxies
  keepsIndex : Text.isBlankText subscription.script = true ∨
    Subscription.ReturnsNoIndex host.runner history made
  apart : TaggedApart proxies
  storable : (Json.Value.array proxies).Storable

/-! ### A store behind an update -/

/-- A store with the updated subscription. -/
def laterStore : SubscriptionStore Memory where
  storage := Memory.put {} Subscription.scripted.path
    (Json.Value.array Subscription.twoTagged).pretty.toUTF8
  subscriptions := [Subscription.scriptedLater]

/-- A group with the tag `B` by its index id. -/
def groupOfOne : Outbound :=
  { tag := "Select", members := [⟨"sub-1", "sub", "old"⟩] }

theorem returnsNoIndex_addingHost (history made : List Script.Call) :
    Subscription.ReturnsNoIndex Subscription.addingHost.runner history made := by
  intro before call after _ _ answer replied
  obtain ⟨owner, name, code, handler, plugin, arguments⟩ := call
  rcases arguments with _ | ⟨first, rest⟩
  · cases replied
  · cases first <;> cases replied
    rfl

theorem pickable_scripted :
    Pickable Subscription.addingHost Subscription.scripted Subscription.bodyOfOne.compact {} []
      [Subscription.scripted.scriptCall [.object [("tag", .string "A")]]]
      ⟨.ok Subscription.twoTagged, Subscription.scriptedLater, laterStore.storage⟩
      Subscription.twoTagged where
  updates := Subscription.ingest_scripted []
  succeeds := rfl
  determined := by decide
  keepsIndex := Or.inr (returnsNoIndex_addingHost _ _)
  apart := ⟨by decide, by decide⟩
  storable := ⟨by decide, by decide⟩

theorem offers_laterStore : Offers laterStore Subscription.scriptedLater where
  held := List.mem_cons_self
  unique other among _ := List.mem_singleton.mp among
  notBuiltIn := by decide
  notSubscription := by decide

theorem fetchLists_laterStore :
    fetchLists laterStore.provider [groupOfOne] = .ok [("sub", Subscription.twoTagged)] := by
  have loaded : laterStore.provider.proxies "sub" = .ok Subscription.twoTagged :=
    (Subscription.inStep_of_ingest_ok pickable_scripted.updates rfl).loaded
      pickable_scripted.storable laterStore rfl offers_laterStore.held offers_laterStore.unique
  have drawn : drawnFrom [groupOfOne] = ["sub"] := by decide
  unfold fetchLists
  rw [drawn, List.mapM_cons, loaded]
  rfl

/-! ### The proxy of an id -/

/-- A group that picks a proxy by the id that an update gave it lists the tag of the proxy, and
the proxy is compiled unchanged. -/
theorem picked_of_ingest {host : Host} {subscription : Subscription} {body : String}
    {before : Memory} {history made : List Script.Call}
    {ingestion : Subscription.Ingestion Memory} {proxies : List Json.Value}
    (pickable : Pickable host subscription body before history made ingestion proxies)
    {store : SubscriptionStore Memory} (files : store.storage = ingestion.storage)
    (offers : Offers store ingestion.subscription)
    {scope : Scope} {outbounds : List Outbound} {noted after : List Synthetic}
    {entries : List Json.Value}
    (encodes : (encodeOutbounds scope store.provider outbounds).run noted = .ok (entries, after))
    {position place : Nat} {outbound : Outbound} {front behind : List Member} {member : Member}
    {index : ProxyIndex} {proxy : Json.Value}
    (declared : outbounds[position]? = some outbound)
    (picks : PicksBetween outbound front behind member)
    (kind : member.kind = ingestion.subscription.id)
    (indexed : ingestion.subscription.proxies[place]? = some index) (id : member.id = index.id)
    (found : proxies[place]? = some proxy) :
    ∃ entry, entries[position]? = some entry ∧
      Picked scope store.provider front behind proxy entry entries := by
  have inStep := Subscription.inStep_of_ingest_ok pickable.updates pickable.succeeds
  have determined := Subscription.idsDetermineTags_ingest pickable.updates pickable.succeeds
    pickable.determined pickable.keepsIndex
  have loaded := inStep.loaded pickable.storable store files offers.held offers.unique
  refine picked_of_encodeOutbounds encodes declared picks (source_of_offers offers kind) loaded ?_
    pickable.apart found
  obtain ⟨other, same, tag, _⟩ := exists_of_forall₂ inStep.index indexed
  obtain rfl : proxy = other := Option.some.inj (found.symm.trans same)
  show (store.get? ingestion.subscription.id).bind (fun held => held.tagOf? member.id) = _
  rw [SubscriptionStore.get?_of_unique offers.held offers.unique, Option.bind_some, id,
    Subscription.tagOf?_of_mem determined (List.mem_of_getElem? indexed), tag]

theorem picked_of_ingest_scripted :
    ∃ ingestion made entries after entry,
      Pickable Subscription.addingHost Subscription.scripted Subscription.bodyOfOne.compact {} []
        made ingestion Subscription.twoTagged ∧
      Offers laterStore ingestion.subscription ∧
      (encodeOutbounds ⟨{ outbounds := [groupOfOne] }, .lenient⟩ laterStore.provider
        [groupOfOne]).run [] = .ok (entries, after) ∧
      entries[0]? = some entry ∧
      Picked ⟨{ outbounds := [groupOfOne] }, .lenient⟩ laterStore.provider [] []
        (.object [("tag", .string "B")]) entry entries := by
  obtain ⟨entries, encodes⟩ : ∃ entries,
      (encodeOutbounds ⟨{ outbounds := [groupOfOne] }, .lenient⟩ laterStore.provider
        [groupOfOne]).run [] = .ok (entries, []) := by
    unfold encodeOutbounds
    rw [fetchLists_laterStore]
    exact ⟨_, rfl⟩
  have declared : [groupOfOne][0]? = some groupOfOne := rfl
  have picks : PicksBetween groupOfOne [] [] ⟨"sub-1", "sub", "old"⟩ := ⟨rfl, rfl, rfl, rfl⟩
  have indexed : Subscription.scriptedLater.proxies[1]? = some ⟨"sub-1", "B", ""⟩ := rfl
  obtain ⟨entry, placed, picked⟩ := picked_of_ingest pickable_scripted rfl offers_laterStore
    encodes declared picks rfl indexed rfl rfl
  exact ⟨_, _, _, _, _, pickable_scripted, offers_laterStore, encodes, placed, picked⟩

end Kernel

end ProxyProfile
