/-
This file proves that the lists which are fetched ahead are the lists that the groups
need.

Which subscriptions to load is read off the members in one pass, and what a member
stands for is worked out in another one, which tells the kinds of members apart anew.
The loads run side by side, so their lists arrive in any order. Here the arrivals are
the steps of a system: what is awaited and what has arrived together stay the
subscriptions that the members draw from, each once. So every look-up that follows is
answered, with the same list in every order, and the only thing that can be missing is
what the provider itself has not got.
-/

import Mathlib.Logic.Relation
import ProxyProfile.Proofs.Comparison
import ProxyProfile.Proofs.Expansion

namespace ProxyProfile.Kernel

/-! ### What members draw from -/

/-- A member draws from a subscription: it stands for all of its proxies, or for one of them. -/
def Draws (member : Member) (id : String) : Prop :=
  (member.source = .subscription ∧ member.id = id) ∨ member.source = .proxy id

/-- A member of some selector or of some URL test draws from a subscription. -/
def DrawnBy (outbounds : List Outbound) (id : String) : Prop :=
  ∃ outbound ∈ outbounds, (outbound.type = .selector ∨ outbound.type = .urltest) ∧
    ∃ member ∈ outbound.members, Draws member id

theorem draws_iff (member : Member) (id : String) :
    Draws member id ↔ member.subscription? = some id := by
  unfold Draws Member.subscription?
  cases member.source with
  | builtIn => simp
  | subscription => simp
  | proxy subscription => simp

theorem isGroup_iff (type : OutboundType) :
    type.isGroup ↔ type = .selector ∨ type = .urltest := by
  simp [OutboundType.isGroup]

theorem mem_drawnFrom_iff (outbounds : List Outbound) (id : String) :
    id ∈ drawnFrom outbounds ↔ DrawnBy outbounds id := by
  unfold DrawnBy
  constructor
  · intro drawn
    obtain ⟨outbound, among, listed⟩ := List.mem_flatMap.mp (List.mem_eraseDups.mp drawn)
    obtain ⟨declared, group⟩ := List.mem_filter.mp among
    obtain ⟨member, held, draws⟩ := List.mem_filterMap.mp listed
    exact ⟨outbound, declared, (isGroup_iff _).mp group, member, held, (draws_iff _ _).mpr draws⟩
  · rintro ⟨outbound, declared, group, member, held, draws⟩
    exact mem_drawnFrom declared ((isGroup_iff _).mpr group) held ((draws_iff _ _).mp draws)

theorem nodup_drawnFrom (outbounds : List Outbound) : (drawnFrom outbounds).Nodup :=
  (firstOccurrences_eraseDups _).once

/-! ### Loads under way -/

/-- Loads under way: the subscriptions whose lists are awaited, and the lists that are there, in
the order of their arrival. -/
structure Loading where
  awaited : List String
  arrived : ProxyLists

/-- One of the awaited lists arrives. -/
inductive Arrives (provider : Provider) : Loading → Loading → Prop
  | list (before after : List String) (id : String) (proxies : List Json.Value)
      (arrived : ProxyLists) (loaded : provider.proxies id = .ok proxies) :
      Arrives provider ⟨before ++ id :: after, arrived⟩
        ⟨before ++ after, arrived ++ [(id, proxies)]⟩

/-- What loads under way may end with: with the lists, if none is awaited any more, or with the
error of an awaited one. -/
inductive Loading.EndsWith (provider : Provider) (loading : Loading) :
    Except Error ProxyLists → Prop
  | complete (nothing : loading.awaited = []) : EndsWith provider loading (.ok loading.arrived)
  | failed (id : String) (error : Error) (awaited : id ∈ loading.awaited)
      (fails : provider.proxies id = .error error) : EndsWith provider loading (.error error)

/-- An outcome that fetching can have: the lists have arrived in some order, or one of them
could not be loaded. -/
def Fetches (provider : Provider) (outbounds : List Outbound)
    (outcome : Except Error ProxyLists) : Prop :=
  ∃ last, Relation.ReflTransGen (Arrives provider) ⟨drawnFrom outbounds, []⟩ last ∧
    last.EndsWith provider outcome

/-- What is awaited and what has arrived together are some subscriptions, and what has arrived
are their lists. -/
structure Loading.Sound (provider : Provider) (ids : List String) (loading : Loading) : Prop where
  split : (loading.arrived.map Prod.fst ++ loading.awaited).Perm ids
  given : ∀ entry ∈ loading.arrived, provider.proxies entry.1 = .ok entry.2

/-- The arrival of a list loses no subscription and repeats none. -/
theorem Arrives.sound {provider : Provider} {ids : List String} {loading next : Loading}
    (arrives : Arrives provider loading next) (sound : loading.Sound provider ids) :
    next.Sound provider ids := by
  obtain ⟨before, after, id, proxies, arrived, loaded⟩ := arrives
  obtain ⟨split, given⟩ := sound
  refine ⟨?_, fun entry among => ?_⟩
  · refine List.Perm.trans ?_ split
    simp only [List.map_append, List.map_cons, List.map_nil, List.append_assoc, List.cons_append,
      List.nil_append]
    exact List.Perm.append_left _ List.perm_middle.symm
  · rcases List.mem_append.mp among with old | new
    · exact given entry old
    · rw [List.mem_singleton.mp new]
      exact loaded

/-- Whenever loads are under way, nothing is lost and nothing repeated. -/
theorem sound_of_arrivals {provider : Provider} {ids : List String} {loading : Loading}
    (arrivals : Relation.ReflTransGen (Arrives provider) ⟨ids, []⟩ loading) :
    loading.Sound provider ids := by
  induction arrivals with
  | refl => exact ⟨List.Perm.refl ids, fun entry among => absurd among List.not_mem_nil⟩
  | tail _ arrives sound => exact arrives.sound sound

/-- The awaited lists can arrive in every order. -/
theorem arrivals_of_perm {provider : Provider} {order ids : List String} (perm : order.Perm ids)
    (loads : ∀ id ∈ order, provider.proxies id = .ok (storedProxies provider id))
    (arrived : ProxyLists) :
    Relation.ReflTransGen (Arrives provider) ⟨ids, arrived⟩
      ⟨[], arrived ++ order.map fun id => (id, storedProxies provider id)⟩ := by
  induction order generalizing ids arrived with
  | nil =>
    rw [← perm.nil_eq, List.map_nil, List.append_nil]
  | cons first others inductionHypothesis =>
    obtain ⟨head, tail⟩ := List.forall_mem_cons.mp loads
    obtain ⟨before, after, rfl⟩ := List.append_of_mem (perm.subset List.mem_cons_self)
    refine Relation.ReflTransGen.head (.list before after first _ arrived head) ?_
    have others_perm := (perm.trans List.perm_middle).cons_inv
    have later := inductionHypothesis others_perm tail
      (arrived ++ [(first, storedProxies provider first)])
    rwa [List.append_assoc, List.singleton_append] at later

/-- Some lists are the provider's lists of the subscriptions that the groups draw from, each
there once. -/
structure Gathered (provider : Provider) (outbounds : List Outbound) (lists : ProxyLists) :
    Prop where
  keys : (lists.map Prod.fst).Perm (drawnFrom outbounds)
  given : ∀ entry ∈ lists, provider.proxies entry.1 = .ok entry.2

/-- Fetching ends with the gathered lists, or with the provider's answer for one of them. -/
theorem Fetches.cases {provider : Provider} {outbounds : List Outbound}
    {outcome : Except Error ProxyLists} (fetches : Fetches provider outbounds outcome) :
    (∃ lists, outcome = .ok lists ∧ Gathered provider outbounds lists) ∨
      ∃ id error, outcome = .error error ∧ DrawnBy outbounds id ∧
        provider.proxies id = .error error := by
  obtain ⟨last, arrivals, ends⟩ := fetches
  obtain ⟨split, given⟩ := sound_of_arrivals arrivals
  cases ends with
  | complete nothing =>
    rw [nothing, List.append_nil] at split
    exact Or.inl ⟨last.arrived, rfl, split, given⟩
  | failed id error awaited fails =>
    have drawn := split.subset (List.mem_append_right _ awaited)
    exact Or.inr ⟨id, error, rfl, (mem_drawnFrom_iff outbounds id).mp drawn, fails⟩

/-- Loading one list after the other is a way of fetching. -/
theorem fetches_fetchLists (provider : Provider) (outbounds : List Outbound) :
    Fetches provider outbounds (fetchLists provider outbounds) := by
  cases fetched : fetchLists provider outbounds with
  | ok lists =>
    obtain ⟨listed, loads⟩ := loadAll_ok fetched
    have arrivals := arrivals_of_perm (List.Perm.refl _) loads []
    rw [List.nil_append, ← listed] at arrivals
    exact ⟨_, arrivals, .complete rfl⟩
  | error error =>
    obtain ⟨id, drawn, failed⟩ := exists_of_mapM_error fetched
    refine ⟨_, Relation.ReflTransGen.refl, .failed id error drawn ?_⟩
    cases answer : provider.proxies id with
    | error reason =>
      rw [answer] at failed
      cases failed
      rfl
    | ok proxies =>
      rw [answer] at failed
      cases failed

/-! ### Parts that miss no list -/

section Missing

variable {α β : Type}

/-- A part of the compilation never fails for a subscription that is not there. -/
def NeverMisses (part : Compile α) : Prop :=
  ∀ noted id, part.run noted ≠ .error (.subscriptionNotFound id)

theorem neverMisses_pure (value : α) : NeverMisses (pure value) :=
  fun _ _ failed => nomatch failed

theorem neverMisses_lift {result : Except Error α}
    (never : ∀ id, result ≠ .error (.subscriptionNotFound id)) : NeverMisses (liftM result) := by
  intro noted id failed
  cases result with
  | error error =>
    cases failed
    exact never id rfl
  | ok value => cases failed

theorem neverMisses_bind {part : Compile α} {next : α → Compile β} (first : NeverMisses part)
    (second : ∀ value, NeverMisses (next value)) : NeverMisses (part >>= next) := by
  intro noted id failed
  rw [StateT.run_bind] at failed
  cases outcome : part.run noted with
  | error error =>
    rw [outcome] at failed
    cases failed
    exact first noted id outcome
  | ok both =>
    rw [outcome] at failed
    exact second both.1 both.2 id failed

theorem neverMisses_mapM {part : α → Compile β} (items : List α)
    (each : ∀ item ∈ items, NeverMisses (part item)) : NeverMisses (items.mapM part) := by
  induction items with
  | nil => exact neverMisses_pure []
  | cons item rest inductionHypothesis =>
    obtain ⟨head, others⟩ := List.forall_mem_cons.mp each
    rw [List.mapM_cons]
    refine neverMisses_bind head fun first => ?_
    exact neverMisses_bind (inductionHypothesis others) fun later => neverMisses_pure _

theorem neverMisses_resolve (scope : Scope) (kind : ReferenceKind) (id : String)
    (found : Option String) : NeverMisses (scope.resolve kind id found) := by
  unfold Scope.resolve
  split
  · exact neverMisses_pure none
  · cases found with
    | some tag => exact neverMisses_pure (some tag)
    | none =>
      unfold Scope.miss
      cases scope.policy with
      | lenient => exact neverMisses_pure none
      | strict => exact fun _ _ failed => nomatch failed

theorem neverMisses_outbound (scope : Scope) (id : String) : NeverMisses (scope.outbound id) := by
  unfold Scope.outbound
  split
  · exact fun _ _ failed => nomatch failed
  · exact neverMisses_resolve scope .outbound id _

theorem neverMisses_groupFilter (outbound : Outbound) :
    NeverMisses (liftM (groupFilter outbound)) := by
  refine neverMisses_lift fun id failed => ?_
  unfold groupFilter at failed
  split at failed <;> cases failed

end Missing

/-! ### Look-ups -/

/-- The outbounds as the kernel takes them, and the proxies behind them, once the lists are
there. -/
def encodeWith (scope : Scope) (provider : Provider) (lists : ProxyLists)
    (outbounds : List Outbound) : Compile (List Json.Value) := do
  let encoded ← outbounds.mapM (encodeOutbound scope provider lists)
  return encoded.map Prod.fst ++ pickedProxies lists (encoded.flatMap Prod.snd)

/-- The outbounds as the kernel takes them, for an outcome of fetching. -/
def encodeFetched (scope : Scope) (provider : Provider) (outbounds : List Outbound)
    (outcome : Except Error ProxyLists) : Compile (List Json.Value) := do
  let lists ← outcome
  encodeWith scope provider lists outbounds

theorem encodeOutbounds_eq (scope : Scope) (provider : Provider) (outbounds : List Outbound) :
    encodeOutbounds scope provider outbounds =
      encodeFetched scope provider outbounds (fetchLists provider outbounds) := rfl

/-- The lists of all subscriptions that the groups among some outbounds draw from are there. -/
def HoldsAll (lists : ProxyLists) (provider : Provider) (outbounds : List Outbound) : Prop :=
  ∀ id, DrawnBy outbounds id → lists.lookup id = some (storedProxies provider id)

section LookUps

variable {scope : Scope} {provider : Provider} {lists other : ProxyLists}
  {outbounds : List Outbound}

theorem HoldsAll.holds (all : HoldsAll lists provider outbounds) {outbound : Outbound}
    (declared : outbound ∈ outbounds) (group : outbound.type.isGroup) :
    Holds lists provider outbound.members := by
  intro member among id draws
  exact all id ⟨outbound, declared, (isGroup_iff _).mp group, member, among,
    (draws_iff _ _).mpr draws⟩

theorem ProxyLists.of_found {id : String} {proxies : List Json.Value}
    (found : lists.lookup id = some proxies) : lists.of id = .ok proxies := by
  unfold ProxyLists.of
  rw [found]

/-- What a member stands for only depends on the list that it draws from. -/
theorem expandMember_eq (filter : Pattern.Filter) {member : Member}
    (holds : Holds lists provider [member]) (also : Holds other provider [member]) :
    expandMember scope provider lists filter member =
      expandMember scope provider other filter member := by
  have equal : ∀ id, member.subscription? = some id → lists.of id = other.of id := by
    intro id draws
    rw [ProxyLists.of_found (holds member List.mem_cons_self id draws),
      ProxyLists.of_found (also member List.mem_cons_self id draws)]
  unfold expandMember
  cases source : member.source with
  | builtIn => rfl
  | subscription => simp only [equal member.id (by simp [Member.subscription?, source])]
  | proxy subscription => simp only [equal subscription (by simp [Member.subscription?, source])]

theorem neverMisses_expandMember (filter : Pattern.Filter) {member : Member}
    (holds : Holds lists provider [member]) :
    NeverMisses (expandMember scope provider lists filter member) := by
  have found : ∀ id, member.subscription? = some id → NeverMisses (liftM (lists.of id)) := by
    intro id draws
    rw [ProxyLists.of_found (holds member List.mem_cons_self id draws)]
    exact neverMisses_lift fun _ failed => nomatch failed
  unfold expandMember
  cases source : member.source with
  | builtIn =>
    refine neverMisses_bind (neverMisses_outbound scope member.id) fun reached => ?_
    cases reached <;> exact neverMisses_pure _
  | subscription =>
    exact neverMisses_bind (found member.id (by simp [Member.subscription?, source])) fun _ =>
      neverMisses_pure _
  | proxy subscription =>
    exact neverMisses_bind (found subscription (by simp [Member.subscription?, source])) fun _ =>
      neverMisses_pure _

theorem Holds.single {members : List Member} (holds : Holds lists provider members)
    {member : Member} (among : member ∈ members) : Holds lists provider [member] := by
  intro same single
  rw [List.mem_singleton.mp single]
  exact holds member among

theorem mapM_congr {Item Value : Type} {part same : Item → Compile Value} (items : List Item)
    (each : ∀ item ∈ items, part item = same item) : items.mapM part = items.mapM same := by
  induction items with
  | nil => rfl
  | cons item rest inductionHypothesis =>
    obtain ⟨head, others⟩ := List.forall_mem_cons.mp each
    rw [List.mapM_cons, List.mapM_cons, head, inductionHypothesis others]

/-- What an outbound is encoded to only depends on the lists that its members draw from. -/
theorem encodeOutbound_eq {outbound : Outbound}
    (holds : outbound.type.isGroup → Holds lists provider outbound.members)
    (also : outbound.type.isGroup → Holds other provider outbound.members) :
    encodeOutbound scope provider lists outbound =
      encodeOutbound scope provider other outbound := by
  unfold encodeOutbound
  by_cases group : outbound.type.isGroup
  · have expand : expandMembers scope provider lists outbound =
        expandMembers scope provider other outbound := by
      unfold expandMembers
      refine bind_congr fun filter => ?_
      rw [mapM_congr outbound.members fun member among =>
        expandMember_eq filter ((holds group).single among) ((also group).single among)]
    rw [expand]
  · simp only [if_neg group]

theorem neverMisses_encodeOutbound {outbound : Outbound}
    (holds : outbound.type.isGroup → Holds lists provider outbound.members) :
    NeverMisses (encodeOutbound scope provider lists outbound) := by
  unfold encodeOutbound
  by_cases group : outbound.type.isGroup
  · simp only [if_pos group]
    refine neverMisses_bind ?_ fun expansion => neverMisses_pure _
    refine neverMisses_bind (neverMisses_groupFilter outbound) fun filter => ?_
    refine neverMisses_bind ?_ fun expansions => neverMisses_pure _
    exact neverMisses_mapM outbound.members fun member among =>
      neverMisses_expandMember filter ((holds group).single among)
  · simp only [if_neg group]
    exact neverMisses_pure _

/-- The picks of outbounds that are encoded are the picks of the groups among them. -/
theorem picks_of_encoded (all : HoldsAll lists provider outbounds) {noted after : List Synthetic}
    {encoded : List (Json.Value × List Pick)}
    (success : (outbounds.mapM (encodeOutbound scope provider lists)).run noted =
      .ok (encoded, after)) :
    encoded.flatMap Prod.snd = outbounds.flatMap (groupPicks provider) :=
  (settles_mapM_encodeOutbound scope provider (fun _ => all.holds) noted encoded after
    success).2.2

theorem pickedProxies_eq (all : HoldsAll lists provider outbounds)
    (also : HoldsAll other provider outbounds) :
    pickedProxies lists (outbounds.flatMap (groupPicks provider)) =
      pickedProxies other (outbounds.flatMap (groupPicks provider)) := by
  refine List.filterMap_congr fun pick kept => ?_
  have picked := List.mem_eraseDups.mp kept
  show (lists.lookup pick.1).bind _ = (other.lookup pick.1).bind _
  rw [(lookup_of_picked (fun _ => all.holds) picked).1,
    (lookup_of_picked (fun _ => also.holds) picked).1]

/-- Lists in which the same is found give the same. -/
theorem encodeWith_of_holdsAll (all : HoldsAll lists provider outbounds)
    (also : HoldsAll other provider outbounds) :
    encodeWith scope provider lists outbounds = encodeWith scope provider other outbounds := by
  have encode : outbounds.mapM (encodeOutbound scope provider lists) =
      outbounds.mapM (encodeOutbound scope provider other) :=
    mapM_congr outbounds fun outbound declared =>
      encodeOutbound_eq (all.holds declared) (also.holds declared)
  funext noted
  unfold encodeWith
  rw [← encode]
  show ((outbounds.mapM (encodeOutbound scope provider lists)).run noted >>= _) =
    ((outbounds.mapM (encodeOutbound scope provider lists)).run noted >>= _)
  cases outcome : (outbounds.mapM (encodeOutbound scope provider lists)).run noted with
  | error error => rfl
  | ok both =>
    obtain ⟨encoded, after⟩ := both
    show Except.ok (encoded.map Prod.fst ++ pickedProxies lists (encoded.flatMap Prod.snd), after) =
      Except.ok (encoded.map Prod.fst ++ pickedProxies other (encoded.flatMap Prod.snd), after)
    rw [picks_of_encoded all outcome, pickedProxies_eq all also]

theorem neverMisses_encodeWith (all : HoldsAll lists provider outbounds) :
    NeverMisses (encodeWith scope provider lists outbounds) := by
  refine neverMisses_bind ?_ fun encoded => neverMisses_pure _
  exact neverMisses_mapM outbounds fun outbound declared =>
    neverMisses_encodeOutbound (all.holds declared)

end LookUps

/-! ### Fetching covers the expansion -/

/-- A pick leads to a proxy: the list of the subscription is there, and the proxy is at the
place. -/
def LeadsTo (lists : ProxyLists) (pick : Pick) (proxy : Json.Value) : Prop :=
  ∃ held, lists.lookup pick.1 = some held ∧ held[pick.2]? = some proxy

/-- Some lists cover what outbounds expand to. They are the lists of the subscriptions that the
groups draw from, each there once. What the outbounds are encoded to is told by what is found
for these subscriptions, and it is what the compilation gives. No look-up misses: neither one
for a member, nor one for a proxy that is to follow the declared outbounds. -/
structure CoversExpansion (scope : Scope) (provider : Provider) (outbounds : List Outbound)
    (lists : ProxyLists) : Prop where
  once : (lists.map Prod.fst).Nodup
  drawn : ∀ id, id ∈ lists.map Prod.fst ↔ DrawnBy outbounds id
  given : ∀ id, DrawnBy outbounds id →
    ∃ held, provider.proxies id = .ok held ∧ lists.of id = .ok held
  consulted : ∀ other : ProxyLists,
    (∀ id, DrawnBy outbounds id → other.lookup id = lists.lookup id) →
      encodeWith scope provider other outbounds = encodeWith scope provider lists outbounds
  same : encodeWith scope provider lists outbounds = encodeOutbounds scope provider outbounds
  found : NeverMisses (encodeWith scope provider lists outbounds)
  appended : ∀ noted encoded after,
    (outbounds.mapM (encodeOutbound scope provider lists)).run noted = .ok (encoded, after) →
      List.Forall₂ (LeadsTo lists) (encoded.flatMap Prod.snd).eraseDups
        (pickedProxies lists (encoded.flatMap Prod.snd))

section Covering

variable {scope : Scope} {provider : Provider} {outbounds : List Outbound} {lists : ProxyLists}

theorem Gathered.mem_keys (gathered : Gathered provider outbounds lists) (id : String) :
    id ∈ lists.map Prod.fst ↔ DrawnBy outbounds id :=
  gathered.keys.mem_iff.trans (mem_drawnFrom_iff outbounds id)

theorem Gathered.stored (gathered : Gathered provider outbounds lists) {id : String}
    (drawn : DrawnBy outbounds id) :
    provider.proxies id = .ok (storedProxies provider id) := by
  obtain ⟨entry, listed, rfl⟩ := List.mem_map.mp ((gathered.mem_keys id).mpr drawn)
  rw [storedProxies_of_ok (gathered.given entry listed)]
  exact gathered.given entry listed

/-- All gathered lists are found. -/
theorem Gathered.holdsAll (gathered : Gathered provider outbounds lists) :
    HoldsAll lists provider outbounds := by
  have stored : lists = (lists.map Prod.fst).map fun id => (id, storedProxies provider id) := by
    rw [List.map_map]
    refine (List.map_id lists).symm.trans (List.map_congr_left fun entry among => ?_)
    show entry = (entry.1, storedProxies provider entry.1)
    rw [storedProxies_of_ok (gathered.given entry among)]
  intro id drawn
  rw [stored]
  exact lookup_map_pair (storedProxies provider) _ id ((gathered.mem_keys id).mpr drawn)

/-- Loading one list after the other gives the same as loading them in any order. -/
theorem Gathered.encodeWith_eq (gathered : Gathered provider outbounds lists) :
    encodeWith scope provider lists outbounds = encodeOutbounds scope provider outbounds := by
  rw [encodeOutbounds_eq]
  rcases (fetches_fetchLists provider outbounds).cases with
    ⟨inOrder, fetched, also⟩ | ⟨id, error, _, drawn, fails⟩
  · rw [fetched]
    exact encodeWith_of_holdsAll gathered.holdsAll also.holdsAll
  · rw [gathered.stored drawn] at fails
    cases fails

/-- Gathered lists cover the expansion. -/
theorem Gathered.covers (gathered : Gathered provider outbounds lists) :
    CoversExpansion scope provider outbounds lists := by
  have all := gathered.holdsAll
  refine ⟨gathered.keys.nodup_iff.mpr (nodup_drawnFrom outbounds), gathered.mem_keys,
    fun id drawn => ?_, fun other agrees => ?_, gathered.encodeWith_eq,
    neverMisses_encodeWith all, fun noted encoded after success => ?_⟩
  · exact ⟨_, gathered.stored drawn, ProxyLists.of_found (all id drawn)⟩
  · exact encodeWith_of_holdsAll (fun id drawn => (agrees id drawn).trans (all id drawn)) all
  · rw [picks_of_encoded all success]
    exact (forall₂_pickedProxies_of fun _ => all.holds).imp fun _ _ both => ⟨_, both⟩

/-- A subscription that is reported missing is one that the provider has reported missing. -/
theorem missing_of_encodeFetched {outcome : Except Error ProxyLists}
    (fetches : Fetches provider outbounds outcome) {noted : List Synthetic} {id : String}
    (failed : (encodeFetched scope provider outbounds outcome).run noted =
      .error (.subscriptionNotFound id)) :
    ∃ drawn, DrawnBy outbounds drawn ∧
      provider.proxies drawn = .error (.subscriptionNotFound id) := by
  rcases fetches.cases with ⟨lists, rfl, gathered⟩ | ⟨drawn, error, rfl, draws, fails⟩
  · exact absurd failed (neverMisses_encodeWith gathered.holdsAll noted id)
  · cases failed
    exact ⟨drawn, draws, fails⟩

/-- Every order of the subscriptions drawn from is an order in which their lists can arrive. -/
theorem fetches_of_order
    (loads : ∀ id, DrawnBy outbounds id → ∃ held, provider.proxies id = .ok held)
    {order : List String} (once : order.Nodup)
    (drawn : ∀ id, id ∈ order ↔ DrawnBy outbounds id) :
    ∃ lists, Fetches provider outbounds (.ok lists) ∧ lists.map Prod.fst = order := by
  have perm : order.Perm (drawnFrom outbounds) :=
    (List.perm_ext_iff_of_nodup once (nodup_drawnFrom outbounds)).mpr fun id =>
      (drawn id).trans (mem_drawnFrom_iff outbounds id).symm
  have stored : ∀ id ∈ order, provider.proxies id = .ok (storedProxies provider id) := by
    intro id among
    obtain ⟨held, loaded⟩ := loads id ((drawn id).mp among)
    rw [storedProxies_of_ok loaded, loaded]
  refine ⟨_, ⟨_, arrivals_of_perm perm stored [], .complete rfl⟩, ?_⟩
  rw [List.nil_append, List.map_map]
  exact List.map_id order

end Covering

/-- Fetching covers the expansion. The compilation loads one list after the other, which is one
of the ways that loads can go. Whichever way they go, a subscription is only reported missing
if the provider has answered so for one that a group draws from. If all loads succeed, the
lists can arrive in every order, and whatever fetching ends with are lists that cover what the
outbounds expand to. -/
theorem fetching_covers (scope : Scope) (provider : Provider) (outbounds : List Outbound) :
    (Fetches provider outbounds (fetchLists provider outbounds) ∧
        encodeOutbounds scope provider outbounds =
          encodeFetched scope provider outbounds (fetchLists provider outbounds)) ∧
      (∀ outcome, Fetches provider outbounds outcome → ∀ noted id,
        (encodeFetched scope provider outbounds outcome).run noted =
            .error (.subscriptionNotFound id) →
          ∃ drawn, DrawnBy outbounds drawn ∧
            provider.proxies drawn = .error (.subscriptionNotFound id)) ∧
      ((∀ id, DrawnBy outbounds id → ∃ held, provider.proxies id = .ok held) →
        (∀ order : List String, order.Nodup → (∀ id, id ∈ order ↔ DrawnBy outbounds id) →
          ∃ lists, Fetches provider outbounds (.ok lists) ∧ lists.map Prod.fst = order) ∧
        ∀ outcome, Fetches provider outbounds outcome →
          ∃ lists, outcome = .ok lists ∧ CoversExpansion scope provider outbounds lists) := by
  refine ⟨⟨fetches_fetchLists provider outbounds, encodeOutbounds_eq scope provider outbounds⟩,
    fun outcome fetches noted id failed => missing_of_encodeFetched fetches failed, fun loads =>
    ⟨fun order once drawn => fetches_of_order loads once drawn, fun outcome fetches => ?_⟩⟩
  rcases fetches.cases with ⟨lists, rfl, gathered⟩ | ⟨id, error, rfl, drawn, fails⟩
  · exact ⟨lists, rfl, gathered.covers⟩
  · obtain ⟨held, loaded⟩ := loads id drawn
    rw [loaded] at fails
    cases fails

/-- Two groups that draw from two subscriptions, and an outbound that is no group. -/
def crossingGroups : List Outbound := [
  { id := "direct-out", tag := "Direct", type := .direct,
    members := [⟨"idle", "Subscription", ""⟩] },
  { id := "select", tag := "Select",
    members := [⟨"near", "Subscription", ""⟩, ⟨"second", "far", ""⟩] },
  { id := "auto", tag := "Auto", type := .urltest,
    members := [⟨"far", "Subscription", ""⟩, ⟨"near", "Subscription", ""⟩] }]

theorem fetching_covers_farFirst :
    ∃ lists, Fetches twoProxies crossingGroups (.ok lists) ∧
      lists.map Prod.fst = ["far", "near"] ∧
      (∃ entries after, (encodeWith ⟨{ outbounds := crossingGroups }, .strict⟩ twoProxies lists
        crossingGroups).run [] = .ok (entries, after)) ∧
      CoversExpansion ⟨{ outbounds := crossingGroups }, .strict⟩ twoProxies crossingGroups
        lists := by
  have drawn : ∀ id, id ∈ ["far", "near"] ↔ DrawnBy crossingGroups id := by
    intro id
    have ids : drawnFrom crossingGroups = ["near", "far"] := by decide
    rw [← mem_drawnFrom_iff, ids, List.mem_pair, List.mem_pair, or_comm]
  obtain ⟨_, _, succeeds⟩ := fetching_covers ⟨{ outbounds := crossingGroups }, .strict⟩ twoProxies
    crossingGroups
  obtain ⟨orders, covered⟩ := succeeds fun id _ => ⟨_, rfl⟩
  obtain ⟨lists, fetches, order⟩ := orders ["far", "near"] (by decide) drawn
  obtain ⟨same, equal, covers⟩ := covered _ fetches
  cases equal
  refine ⟨lists, fetches, order, ?_, covers⟩
  rw [covers.same]
  exact ⟨_, _, rfl⟩

end ProxyProfile.Kernel
