/-
This file proves what the groups of a profile expand to.

A member of a group stands for tags and picks proxies, and both can be said
without the compilation: by the tag that its reference reaches, by the stored
list of the subscription it draws from, and by the filter of its group. The
content is that nothing gets lost, repeated or out of order on the way. The
lists are fetched once, ahead of everything; every look-up in them succeeds, for
every subscription that a member draws from is fetched; and the picks of all
groups together, each kept at its first place, are the proxies that follow the
declared outbounds.
-/

import Mathlib.Data.List.Induction
import ProxyProfile.Kernel.Outbounds
import ProxyProfile.Proofs.Settling

namespace ProxyProfile.Kernel

/-! ### The first occurrences in a list -/

/-- The members of a list, each once and in the order of their first occurrences. -/
structure FirstOccurrences {α : Type} [BEq α] (all kept : List α) : Prop where
  once : kept.Nodup
  same : ∀ item, item ∈ kept ↔ item ∈ all
  ordered : kept.Pairwise fun first second => all.idxOf first < all.idxOf second

theorem eraseDups_concat {α : Type} [BEq α] [LawfulBEq α] (items : List α) (last : α) :
    (items ++ [last]).eraseDups =
      items.eraseDups ++ if items.contains last then [] else [last] := by
  have left : [last].removeAll items = if items.contains last then [] else [last] := by
    show [last].filter (fun item => !items.contains item) = _
    rw [List.filter_singleton]
    cases items.contains last <;> rfl
  rw [List.eraseDups_append, left]
  split
  · rw [List.eraseDups_nil]
  · rw [List.eraseDups_cons, List.filter_nil, List.eraseDups_nil]

/-- Taking repetitions out of a list keeps the first occurrences. -/
theorem firstOccurrences_eraseDups {α : Type} [BEq α] [LawfulBEq α] (items : List α) :
    FirstOccurrences items items.eraseDups := by
  have ordered : items.eraseDups.Pairwise fun first second =>
      items.idxOf first < items.idxOf second := by
    -- From the end: a last item that is new has the greatest place, the others keep theirs.
    induction items using List.reverseRecOn with
    | nil => simp
    | append_singleton items last inductionHypothesis =>
      have before : items.eraseDups.Pairwise fun first second =>
          (items ++ [last]).idxOf first < (items ++ [last]).idxOf second := by
        refine inductionHypothesis.imp_of_mem fun {first second} one other less => ?_
        rwa [List.idxOf_append_of_mem (List.mem_eraseDups.mp one),
          List.idxOf_append_of_mem (List.mem_eraseDups.mp other)]
      rw [eraseDups_concat]
      by_cases present : items.contains last
      · rwa [if_pos present, List.append_nil]
      · have absent : last ∉ items := by simpa using present
        rw [if_neg present, List.pairwise_append]
        refine ⟨before, List.pairwise_singleton _ _, fun first one second other => ?_⟩
        rw [List.mem_singleton.mp other, List.idxOf_append_of_mem (List.mem_eraseDups.mp one),
          List.idxOf_append_of_notMem absent]
        have bound := List.idxOf_lt_length_of_mem (List.mem_eraseDups.mp one)
        omega
  refine ⟨ordered.imp fun less equal => ?_, fun item => List.mem_eraseDups, ordered⟩
  rw [equal] at less
  exact absurd less (Nat.lt_irrefl _)

/-! ### What a member stands for -/

/-- The list that a provider holds for a subscription. -/
def storedProxies (provider : Provider) (subscription : String) : List Json.Value :=
  (provider.proxies subscription).toOption.getD []

/-- The tag that a single proxy is looked for by: the one that its index id stands for, or
else the one that the member is stored with. -/
def wantedTag (provider : Provider) (subscription : String) (member : Member) : String :=
  (provider.tag? subscription member.id).getD member.tag

/-- The tags that a member stands for in a group with a filter. -/
def memberTags (scope : Scope) (provider : Provider) (filter : Pattern.Filter)
    (member : Member) : List String :=
  match member.source with
  | .builtIn =>
    match scope.reachedOutbound? member.id with
    | some tag => [tag]
    | none => if member.tag = "" then [] else [member.tag]
  | .subscription => ((storedProxies provider member.id).filterMap proxyTag?).filter filter.accepts
  | .proxy subscription =>
    let wanted := wantedTag provider subscription member
    let stored := (storedProxies provider subscription).filterMap proxyTag?
    if wanted ∈ stored ∧ filter.accepts wanted then [wanted] else []

/-- The proxies that a member picks in a group with a filter. -/
def memberPicks (provider : Provider) (filter : Pattern.Filter) (member : Member) : List Pick :=
  match member.source with
  | .builtIn => []
  | .subscription =>
    let accepted := (storedProxies provider member.id).zipIdx.filter fun entry =>
      (proxyTag? entry.1).any filter.accepts
    accepted.map fun entry => (member.id, entry.2)
  | .proxy subscription =>
    let wanted := wantedTag provider subscription member
    let place := (storedProxies provider subscription).findIdx? fun proxy =>
      proxyTag? proxy = some wanted
    if filter.accepts wanted then place.toList.map (subscription, ·) else []

/-- The proxies that an outbound picks, member by member; none if it is no group. -/
def groupPicks (provider : Provider) (outbound : Outbound) : List Pick :=
  match outbound.type.isGroup, groupFilter outbound with
  | true, .ok filter => outbound.members.flatMap (memberPicks provider filter)
  | _, _ => []

/-- The references that a member resolves. -/
def memberReferences (member : Member) : List String :=
  match member.source with
  | .builtIn => [member.id]
  | .subscription => []
  | .proxy _ => []

/-- The references that the members of an outbound resolve; none if it is no group. -/
def groupReferences (outbound : Outbound) : List String :=
  if outbound.type.isGroup then outbound.members.flatMap memberReferences else []

/-! ### Lists -/

theorem expandList_tags (filter : Pattern.Filter) (subscription : String)
    (proxies : List Json.Value) :
    (expandList filter subscription proxies).tags =
      (proxies.filterMap proxyTag?).filter filter.accepts := by
  have entries : ∀ start, ((proxies.zipIdx start).filterMap fun entry =>
      ((proxyTag? entry.1).filter filter.accepts).map (·, entry.2)).map Prod.fst =
        (proxies.filterMap proxyTag?).filter filter.accepts := by
    induction proxies with
    | nil => intro start; rfl
    | cons proxy rest inductionHypothesis =>
      intro start
      rw [List.zipIdx_cons]
      cases tagged : proxyTag? proxy with
      | none => simpa [tagged] using inductionHypothesis (start + 1)
      | some tag =>
        by_cases accepted : filter.accepts tag
        · simpa [tagged, accepted] using inductionHypothesis (start + 1)
        · simpa [tagged, accepted] using inductionHypothesis (start + 1)
  exact entries 0

theorem expandList_picks (filter : Pattern.Filter) (subscription : String)
    (proxies : List Json.Value) :
    (expandList filter subscription proxies).picks =
      (proxies.zipIdx.filter fun entry => (proxyTag? entry.1).any filter.accepts).map
        fun entry => (subscription, entry.2) := by
  have entries : ∀ places : List (Json.Value × Nat), (places.filterMap fun entry =>
      ((proxyTag? entry.1).filter filter.accepts).map (·, entry.2)).map
          (fun entry : String × Nat => (subscription, entry.2)) =
        (places.filter fun entry => (proxyTag? entry.1).any filter.accepts).map
          fun entry => (subscription, entry.2) := by
    intro places
    induction places with
    | nil => rfl
    | cons entry rest inductionHypothesis =>
      obtain ⟨proxy, index⟩ := entry
      cases tagged : proxyTag? proxy with
      | none => simpa [tagged] using inductionHypothesis
      | some tag =>
        by_cases accepted : filter.accepts tag
        · simpa [tagged, accepted] using inductionHypothesis
        · simpa [tagged, accepted] using inductionHypothesis
  exact entries proxies.zipIdx

theorem findIdx?_proxyTag_isSome (proxies : List Json.Value) (wanted : String) :
    (proxies.findIdx? fun proxy => proxyTag? proxy = some wanted).isSome ↔
      wanted ∈ proxies.filterMap proxyTag? := by
  rw [List.findIdx?_isSome]
  simp

theorem expandProxy_eq (filter : Pattern.Filter) (subscription wanted : String)
    (proxies : List Json.Value) :
    (expandProxy filter subscription wanted proxies).tags =
        (if wanted ∈ proxies.filterMap proxyTag? ∧ filter.accepts wanted then [wanted] else []) ∧
      (expandProxy filter subscription wanted proxies).picks =
        if filter.accepts wanted then
          (proxies.findIdx? fun proxy => proxyTag? proxy = some wanted).toList.map (subscription, ·)
        else [] := by
  have present := findIdx?_proxyTag_isSome proxies wanted
  unfold expandProxy
  cases place : proxies.findIdx? fun proxy => proxyTag? proxy = some wanted with
  | none =>
    rw [place] at present
    have absent : wanted ∉ proxies.filterMap proxyTag? := by simpa using present
    simp [absent]
  | some index =>
    rw [place] at present
    have member : wanted ∈ proxies.filterMap proxyTag? := by simpa using present
    by_cases accepted : filter.accepts wanted
    · simp [accepted, member]
    · simp [accepted]

/-! ### Fetching -/

theorem storedProxies_of_ok {provider : Provider} {subscription : String}
    {proxies : List Json.Value} (loaded : provider.proxies subscription = .ok proxies) :
    storedProxies provider subscription = proxies := by
  unfold storedProxies
  rw [loaded]
  rfl

/-- Loading some subscriptions gives the lists that the provider holds for them. -/
theorem loadAll_ok {provider : Provider} {ids : List String} {lists : ProxyLists}
    (loaded : ids.mapM (fun id => do return (id, ← provider.proxies id)) = .ok lists) :
    lists = ids.map (fun id => (id, storedProxies provider id)) ∧
      ∀ id ∈ ids, provider.proxies id = .ok (storedProxies provider id) := by
  induction ids generalizing lists with
  | nil =>
    cases loaded
    exact ⟨rfl, fun id member => absurd member List.not_mem_nil⟩
  | cons first rest inductionHypothesis =>
    rw [List.mapM_cons] at loaded
    cases head : provider.proxies first with
    | error error =>
      rw [head] at loaded
      cases loaded
    | ok proxies =>
      rw [head] at loaded
      cases tail : rest.mapM fun id => do return (id, ← provider.proxies id) with
      | error error =>
        rw [tail] at loaded
        cases loaded
      | ok others =>
        rw [tail] at loaded
        cases loaded
        obtain ⟨listed, stored⟩ := inductionHypothesis tail
        have same := storedProxies_of_ok head
        refine ⟨by rw [List.map_cons, same, ← listed], fun id member => ?_⟩
        rcases List.mem_cons.mp member with rfl | later
        · rw [head, same]
        · exact stored id later

theorem lookup_map_pair {Value : Type} (value : String → Value) (keys : List String)
    (key : String) (member : key ∈ keys) :
    (keys.map fun key => (key, value key)).lookup key = some (value key) := by
  induction keys with
  | nil => exact absurd member List.not_mem_nil
  | cons first rest inductionHypothesis =>
    rw [List.map_cons, List.lookup_cons]
    by_cases same : key = first
    · rw [same, beq_self_eq_true]
    · have later : key ∈ rest := by
        rcases List.mem_cons.mp member with equal | later
        · exact absurd equal same
        · exact later
      rw [beq_false_of_ne same]
      exact inductionHypothesis later

/-- The lists of all subscriptions that some members draw from are at hand. -/
def Holds (lists : ProxyLists) (provider : Provider) (members : List Member) : Prop :=
  ∀ member ∈ members, ∀ id, member.subscription? = some id →
    lists.lookup id = some (storedProxies provider id)

theorem mem_drawnFrom {outbounds : List Outbound} {outbound : Outbound} {member : Member}
    {id : String} (declared : outbound ∈ outbounds) (group : outbound.type.isGroup)
    (among : member ∈ outbound.members) (draws : member.subscription? = some id) :
    id ∈ drawnFrom outbounds := by
  unfold drawnFrom
  rw [List.mem_eraseDups, List.mem_flatMap]
  refine ⟨outbound, List.mem_filter.mpr ⟨declared, group⟩, ?_⟩
  exact List.mem_filterMap.mpr ⟨member, among, draws⟩

theorem ProxyLists.of_eq {lists : ProxyLists} {subscription : String}
    {held proxies : List Json.Value} (found : lists.lookup subscription = some held)
    (given : lists.of subscription = .ok proxies) : proxies = held := by
  unfold ProxyLists.of at given
  rw [found] at given
  cases given
  rfl

/-- After fetching, no look-up that the members of a group make can miss. -/
theorem holds_fetched {provider : Provider} {outbounds : List Outbound} {lists : ProxyLists}
    (fetched : fetchLists provider outbounds = .ok lists) (outbound : Outbound)
    (declared : outbound ∈ outbounds) (group : outbound.type.isGroup) :
    Holds lists provider outbound.members := by
  intro member among id draws
  rw [(loadAll_ok fetched).1]
  exact lookup_map_pair (storedProxies provider) _ id (mem_drawnFrom declared group among draws)

/-! ### Groups -/

/-- A member gives its tags and its picks, and resolves its reference. -/
theorem settles_expandMember (scope : Scope) (provider : Provider) (lists : ProxyLists)
    (filter : Pattern.Filter) (member : Member) (holds : Holds lists provider [member]) :
    Settles scope (expandMember scope provider lists filter member) (memberReferences member)
      fun expansion => expansion.tags = memberTags scope provider filter member ∧
        expansion.picks = memberPicks provider filter member := by
  have at_hand := holds member List.mem_cons_self
  unfold expandMember memberReferences memberTags memberPicks
  cases source : member.source with
  | builtIn =>
    refine settles_before (settles_outbound scope member.id) fun reached equal => ?_
    subst equal
    cases scope.reachedOutbound? member.id with
    | some tag => exact settles_pure _ ⟨rfl, rfl⟩
    | none => exact settles_pure _ ⟨rfl, rfl⟩
  | subscription =>
    have found := at_hand member.id (by simp [Member.subscription?, source])
    refine settles_before (settles_lift (lists.of member.id)) fun proxies given => ?_
    rw [ProxyLists.of_eq found given]
    exact settles_pure _ ⟨expandList_tags _ _ _, expandList_picks _ _ _⟩
  | proxy subscription =>
    have found := at_hand subscription (by simp [Member.subscription?, source])
    refine settles_before (settles_lift (lists.of subscription)) fun proxies given => ?_
    rw [ProxyLists.of_eq found given]
    exact settles_pure _ (expandProxy_eq _ _ _ _)

theorem Expansion.foldl_append (expansions : List Expansion) (start : Expansion) :
    (expansions.foldl Expansion.append start).tags =
        start.tags ++ expansions.flatMap Expansion.tags ∧
      (expansions.foldl Expansion.append start).picks =
        start.picks ++ expansions.flatMap Expansion.picks := by
  induction expansions generalizing start with
  | nil => simp
  | cons first rest inductionHypothesis =>
    obtain ⟨tags, picks⟩ := inductionHypothesis (start.append first)
    rw [List.foldl_cons, tags, picks, List.flatMap_cons, List.flatMap_cons]
    exact ⟨List.append_assoc _ _ _, List.append_assoc _ _ _⟩

theorem flatMap_eq_of_forall₂ {Item Value Result : Type} {left : Item → List Result}
    {right : Value → List Result} {items : List Item} {values : List Value}
    (related : List.Forall₂ (fun item value => right value = left item) items values) :
    values.flatMap right = items.flatMap left := by
  induction related with
  | nil => rfl
  | cons head _ inductionHypothesis =>
    rw [List.flatMap_cons, List.flatMap_cons, head, inductionHypothesis]

/-- The members of a group give their tags and their picks, member by member. -/
theorem settles_expandMembers (scope : Scope) (provider : Provider) (lists : ProxyLists)
    (outbound : Outbound) (holds : Holds lists provider outbound.members) :
    Settles scope (expandMembers scope provider lists outbound)
      (outbound.members.flatMap memberReferences)
      fun expansion => ∃ filter, groupFilter outbound = .ok filter ∧
        expansion.tags = outbound.members.flatMap (memberTags scope provider filter) ∧
        expansion.picks = outbound.members.flatMap (memberPicks provider filter) := by
  unfold expandMembers
  refine settles_bind (settles_lift (groupFilter outbound)) fun filter read => ?_
  have each : ∀ member ∈ outbound.members,
      Settles scope (expandMember scope provider lists filter member) (memberReferences member)
        fun expansion => expansion.tags = memberTags scope provider filter member ∧
          expansion.picks = memberPicks provider filter member := by
    intro member among
    refine settles_expandMember scope provider lists filter member fun other single => ?_
    rw [List.mem_singleton.mp single]
    exact holds member among
  refine settles_before (settles_mapM outbound.members each) fun expansions related => ?_
  obtain ⟨tags, picks⟩ := Expansion.foldl_append expansions {}
  refine settles_pure _ ⟨filter, read, tags.trans ?_, picks.trans ?_⟩
  · exact flatMap_eq_of_forall₂ (related.imp fun _ _ both => both.1)
  · exact flatMap_eq_of_forall₂ (related.imp fun _ _ both => both.2)

/-! ### Outbounds -/

/-- An entry is what an outbound is to become: it has the type and the tag, and if the outbound
is a group, it lists the tags of the members in order. -/
structure Expands (scope : Scope) (provider : Provider) (outbound : Outbound)
    (entry : Json.Value) : Prop where
  type : entry.get? "type" = some (.string outbound.type.name)
  tag : entry.get? "tag" = some (.string outbound.tag)
  members : outbound.type.isGroup → ∃ filter, groupFilter outbound = .ok filter ∧
    entry.get? "outbounds" =
      some (.strings (outbound.members.flatMap (memberTags scope provider filter)))
  single : ¬ outbound.type.isGroup → entry.get? "outbounds" = none

/-- An outbound gives its entry and its picks, and resolves the references of its members. -/
theorem settles_encodeOutbound (scope : Scope) (provider : Provider) (lists : ProxyLists)
    (outbound : Outbound)
    (holds : outbound.type.isGroup → Holds lists provider outbound.members) :
    Settles scope (encodeOutbound scope provider lists outbound) (groupReferences outbound)
      fun encoded => Expands scope provider outbound encoded.1 ∧
        encoded.2 = groupPicks provider outbound := by
  unfold encodeOutbound groupReferences groupPicks
  by_cases group : outbound.type.isGroup
  · simp only [if_pos group]
    refine settles_before (settles_expandMembers scope provider lists outbound (holds group))
      fun expansion expanded => settles_pure _ ?_
    obtain ⟨filter, read, tags, picks⟩ := expanded
    refine ⟨⟨?_, ?_, fun _ => ⟨filter, read, ?_⟩, fun single => absurd group single⟩, ?_⟩
    · rfl
    · rfl
    · rw [← tags]
      cases kind : outbound.type <;> simp [startOutbound, kind, Json.Value.get?, Json.Value.object?,
        Json.Object.get?]
    · rw [group, read]
      exact picks
  · simp only [if_neg group]
    refine settles_pure _ ⟨⟨?_, ?_, fun other => absurd other group, fun _ => ?_⟩, ?_⟩
    · rfl
    · rfl
    · cases kind : outbound.type with
      | direct => simp [startOutbound, kind, Json.Value.get?, Json.Value.object?, Json.Object.get?]
      | selector => simp [OutboundType.isGroup, kind] at group
      | urltest => simp [OutboundType.isGroup, kind] at group
    · rw [Bool.eq_false_iff.mpr group]

/-- Where the lists are at hand, the outbounds give their entries and their picks. -/
theorem settles_mapM_encodeOutbound (scope : Scope) (provider : Provider) {lists : ProxyLists}
    {outbounds : List Outbound} (holds : ∀ outbound ∈ outbounds, outbound.type.isGroup →
      Holds lists provider outbound.members) :
    Settles scope (outbounds.mapM (encodeOutbound scope provider lists))
      (outbounds.flatMap groupReferences) fun encoded =>
        List.Forall₂ (Expands scope provider) outbounds (encoded.map Prod.fst) ∧
          encoded.flatMap Prod.snd = outbounds.flatMap (groupPicks provider) := by
  have each : ∀ outbound ∈ outbounds,
      Settles scope (encodeOutbound scope provider lists outbound) (groupReferences outbound)
        fun encoded => Expands scope provider outbound encoded.1 ∧
          encoded.2 = groupPicks provider outbound :=
    fun outbound declared => settles_encodeOutbound scope provider lists outbound
      (holds outbound declared)
  refine (settles_mapM outbounds each).imp fun encoded related => ⟨?_, ?_⟩
  · exact List.forall₂_map_right_iff.mpr (related.imp fun _ _ both => both.1)
  · exact flatMap_eq_of_forall₂ (related.imp fun _ _ both => both.2)

/-- All outbounds together give their entries, and behind them the proxies that they pick. -/
theorem settles_encodeOutbounds (scope : Scope) (provider : Provider) (outbounds : List Outbound) :
    Settles scope (encodeOutbounds scope provider outbounds) (outbounds.flatMap groupReferences)
      fun entries => ∃ lists declared, fetchLists provider outbounds = .ok lists ∧
        List.Forall₂ (Expands scope provider) outbounds declared ∧
        entries = declared ++ pickedProxies lists (outbounds.flatMap (groupPicks provider)) := by
  unfold encodeOutbounds
  refine settles_bind (settles_lift (fetchLists provider outbounds)) fun lists fetched => ?_
  refine settles_before (settles_mapM_encodeOutbound scope provider (holds_fetched fetched))
    fun encoded related => settles_pure _ ?_
  obtain ⟨expanded, picked⟩ := related
  exact ⟨lists, encoded.map Prod.fst, fetched, expanded, by rw [picked]⟩

/-! ### Picks -/

/-- A pick is a place in the list of a subscription that a member draws from. -/
theorem memberPicks_place {provider : Provider} {filter : Pattern.Filter} {member : Member}
    {pick : Pick} (picked : pick ∈ memberPicks provider filter member) :
    member.subscription? = some pick.1 ∧
      ∃ proxy, (storedProxies provider pick.1)[pick.2]? = some proxy := by
  unfold memberPicks at picked
  unfold Member.subscription?
  cases source : member.source with
  | builtIn =>
    rw [source] at picked
    cases picked
  | subscription =>
    rw [source] at picked
    obtain ⟨entry, accepted, rfl⟩ := List.mem_map.mp picked
    refine ⟨rfl, entry.1, ?_⟩
    exact List.mem_zipIdx_iff_getElem?.mp (List.mem_filter.mp accepted).1
  | proxy subscription =>
    rw [source] at picked
    simp only at picked
    split at picked
    · obtain ⟨place, found, rfl⟩ := List.mem_map.mp picked
      obtain ⟨bound, _⟩ := List.findIdx?_eq_some_iff_getElem.mp (Option.mem_toList.mp found)
      exact ⟨rfl, _, List.getElem?_eq_getElem bound⟩
    · cases picked

/-- What is picked is picked by a member of a group. -/
theorem member_of_picked {provider : Provider} {outbounds : List Outbound} {pick : Pick}
    (picked : pick ∈ outbounds.flatMap (groupPicks provider)) :
    ∃ outbound ∈ outbounds, outbound.type.isGroup ∧
      ∃ filter, ∃ member ∈ outbound.members, pick ∈ memberPicks provider filter member := by
  obtain ⟨outbound, declared, among⟩ := List.mem_flatMap.mp picked
  unfold groupPicks at among
  split at among
  · rename_i filter group _
    obtain ⟨member, listed, place⟩ := List.mem_flatMap.mp among
    exact ⟨outbound, declared, group, filter, member, listed, place⟩
  · cases among

/-- What groups pick, they pick from lists that are at hand, at places that are there. -/
theorem lookup_of_picked {provider : Provider} {outbounds : List Outbound} {lists : ProxyLists}
    (holds : ∀ outbound ∈ outbounds, outbound.type.isGroup →
      Holds lists provider outbound.members) {pick : Pick}
    (picked : pick ∈ outbounds.flatMap (groupPicks provider)) :
    lists.lookup pick.1 = some (storedProxies provider pick.1) ∧
      ∃ proxy, (storedProxies provider pick.1)[pick.2]? = some proxy := by
  obtain ⟨outbound, declared, group, filter, member, listed, place⟩ := member_of_picked picked
  obtain ⟨draws, found⟩ := memberPicks_place place
  exact ⟨holds outbound declared group member listed pick.1 draws, found⟩

/-- Every pick of a group is at hand once the lists are fetched. -/
theorem groupPicks_lookup {provider : Provider} {outbounds : List Outbound} {lists : ProxyLists}
    (fetched : fetchLists provider outbounds = .ok lists) {pick : Pick}
    (picked : pick ∈ outbounds.flatMap (groupPicks provider)) :
    lists.lookup pick.1 = some (storedProxies provider pick.1) ∧
      ∃ proxy, (storedProxies provider pick.1)[pick.2]? = some proxy :=
  lookup_of_picked (holds_fetched fetched) picked

/-- What is picked is drawn from a subscription. -/
theorem drawnFrom_of_picked {provider : Provider} {outbounds : List Outbound} {pick : Pick}
    (picked : pick ∈ outbounds.flatMap (groupPicks provider)) : pick.1 ∈ drawnFrom outbounds := by
  obtain ⟨outbound, declared, group, filter, member, listed, place⟩ := member_of_picked picked
  exact mem_drawnFrom declared group listed (memberPicks_place place).1

theorem forall₂_filterMap {Item Value : Type} {read : Item → Option Value}
    {Related : Item → Value → Prop} (items : List Item)
    (each : ∀ item ∈ items, ∃ value, read item = some value ∧ Related item value) :
    List.Forall₂ Related items (items.filterMap read) := by
  induction items with
  | nil => exact List.Forall₂.nil
  | cons item rest inductionHypothesis =>
    obtain ⟨value, reads, related⟩ := each item List.mem_cons_self
    rw [List.filterMap_cons_some reads]
    exact List.Forall₂.cons related
      (inductionHypothesis fun other member => each other (List.mem_cons_of_mem _ member))

/-- Where the lists are at hand, every pick leads to a proxy, and none is skipped. -/
theorem forall₂_pickedProxies_of {provider : Provider} {outbounds : List Outbound}
    {lists : ProxyLists} (holds : ∀ outbound ∈ outbounds, outbound.type.isGroup →
      Holds lists provider outbound.members) :
    List.Forall₂ (fun pick proxy => lists.lookup pick.1 = some (storedProxies provider pick.1) ∧
        (storedProxies provider pick.1)[pick.2]? = some proxy)
      (outbounds.flatMap (groupPicks provider)).eraseDups
      (pickedProxies lists (outbounds.flatMap (groupPicks provider))) := by
  refine forall₂_filterMap _ fun pick kept => ?_
  obtain ⟨found, proxy, place⟩ := lookup_of_picked holds (List.mem_eraseDups.mp kept)
  refine ⟨proxy, ?_, found, place⟩
  show (lists.lookup pick.1).bind (fun proxies => proxies[pick.2]?) = some proxy
  rw [found]
  exact place

/-- The proxies behind the declared outbounds are the stored ones at the picked places, none
of them skipped. -/
theorem forall₂_pickedProxies {provider : Provider} {outbounds : List Outbound}
    {lists : ProxyLists} (fetched : fetchLists provider outbounds = .ok lists) :
    List.Forall₂ (fun pick proxy => (storedProxies provider pick.1)[pick.2]? = some proxy)
      (outbounds.flatMap (groupPicks provider)).eraseDups
      (pickedProxies lists (outbounds.flatMap (groupPicks provider))) :=
  (forall₂_pickedProxies_of (holds_fetched fetched)).imp fun _ _ both => both.2

/-- What a member of a group picks is picked. -/
theorem mem_groupPicks {provider : Provider} {outbounds : List Outbound} {outbound : Outbound}
    {filter : Pattern.Filter} {member : Member} {pick : Pick} (declared : outbound ∈ outbounds)
    (group : outbound.type.isGroup) (read : groupFilter outbound = .ok filter)
    (among : member ∈ outbound.members) (picked : pick ∈ memberPicks provider filter member) :
    pick ∈ outbounds.flatMap (groupPicks provider) := by
  refine List.mem_flatMap.mpr ⟨outbound, declared, ?_⟩
  rw [groupPicks, group, read]
  exact List.mem_flatMap.mpr ⟨member, among, picked⟩

/-- A stored proxy at a picked place is among those behind the declared outbounds. -/
theorem mem_pickedProxies {provider : Provider} {outbounds : List Outbound} {lists : ProxyLists}
    (fetched : fetchLists provider outbounds = .ok lists) {pick : Pick}
    (picked : pick ∈ outbounds.flatMap (groupPicks provider)) {proxy : Json.Value}
    (stored : (storedProxies provider pick.1)[pick.2]? = some proxy) :
    proxy ∈ pickedProxies lists (outbounds.flatMap (groupPicks provider)) := by
  refine List.mem_filterMap.mpr ⟨pick, List.mem_eraseDups.mpr picked, ?_⟩
  show (lists.lookup pick.1).bind (fun proxies => proxies[pick.2]?) = some proxy
  rw [(groupPicks_lookup fetched picked).1]
  exact stored

/-! ### The expansion of a profile -/

/-- Some entries are what outbounds expand to. Every list that a group draws from is there. The
first entries stand for the declared outbounds, in order. What follows are the stored proxies,
unchanged, at the places that some group picks: each place once, in the order of the first
picks. -/
structure Expansion.Complete (scope : Scope) (provider : Provider) (outbounds : List Outbound)
    (entries : List Json.Value) : Prop where
  loaded : ∀ outbound ∈ outbounds, outbound.type.isGroup → ∀ member ∈ outbound.members,
    ∀ subscription, member.subscription? = some subscription →
      provider.proxies subscription = .ok (storedProxies provider subscription)
  arranged : ∃ declared order appended, entries = declared ++ appended ∧
    List.Forall₂ (Expands scope provider) outbounds declared ∧
    FirstOccurrences (outbounds.flatMap (groupPicks provider)) order ∧
    List.Forall₂ (fun pick proxy => (storedProxies provider pick.1)[pick.2]? = some proxy)
      order appended

/-- Whatever the outbounds are encoded to is their complete expansion. -/
theorem encodeOutbounds_complete (scope : Scope) (provider : Provider)
    (outbounds : List Outbound) (noted after : List Synthetic) (entries : List Json.Value)
    (success : (encodeOutbounds scope provider outbounds).run noted = .ok (entries, after)) :
    Expansion.Complete scope provider outbounds entries := by
  obtain ⟨_, lists, declared, fetched, expanded, equal⟩ :=
    settles_encodeOutbounds scope provider outbounds noted entries after success
  refine ⟨fun outbound among group member listed subscription draws => ?_, ?_⟩
  · exact (loadAll_ok fetched).2 subscription (mem_drawnFrom among group listed draws)
  · exact ⟨declared, _, _, equal, expanded, firstOccurrences_eraseDups _,
      forall₂_pickedProxies fetched⟩

/-- A provider that holds the proxies `A` and `B` for every subscription, and knows the second
one by an index id. -/
def twoProxies : Provider where
  proxies _ := .ok [.object [("tag", .string "A")], .object [("tag", .string "B")]]
  tag? _ proxy := if proxy = "second" then some "B" else none

/-- Two groups that pick the same proxy of one subscription, in different orders. -/
def overlappingGroups : List Outbound := [
  { id := "direct-out", tag := "Direct", type := .direct },
  { id := "select", tag := "Select", wanted := "A",
    members := [⟨"direct-out", "Built-in", ""⟩, ⟨"gone", "Built-in", "Old"⟩,
      ⟨"list", "Subscription", ""⟩] },
  { id := "auto", tag := "Auto", type := .urltest,
    members := [⟨"second", "list", ""⟩, ⟨"list", "Subscription", ""⟩,
      ⟨"block", "Built-in", ""⟩] }]

theorem encodeOutbounds_complete_overlapping :
    ∃ entries after,
      (encodeOutbounds ⟨{ outbounds := overlappingGroups }, .lenient⟩ twoProxies
        overlappingGroups).run [] = .ok (entries, after) ∧
      Expansion.Complete ⟨{ outbounds := overlappingGroups }, .lenient⟩ twoProxies
        overlappingGroups entries :=
  ⟨_, _, rfl, encodeOutbounds_complete _ _ _ [] _ _ rfl⟩

end ProxyProfile.Kernel
