/-
This file proves that synthetic outbounds are added exactly where they are needed.

What a compilation notes down is told by the references that it resolves, and
these are known from the profile alone. So the entries behind the declared
outbounds are the synthetic ones that some compiled reference means, for no
declared outbound has their id; each stands there once, and they follow each other
as the first references to them do. The entries in front of them are what the
declared outbounds are encoded to, and what was noted down before has no part in
that.
-/

import ProxyProfile.Proofs.Dangling

namespace ProxyProfile.Kernel

/-! ### Parts that do not look at what was noted down -/

section Heedless

variable {α β : Type}

/-- A part gives one result whatever was noted down before. -/
def Heedless (part : Compile α) : Prop :=
  ∃ result : Except Error α, ∀ noted, part.run' noted = result

theorem heedless_pure (value : α) : Heedless (pure value) :=
  ⟨.ok value, fun _ => rfl⟩

theorem heedless_throw (error : Error) : Heedless (throw error : Compile α) :=
  ⟨.error error, fun _ => rfl⟩

theorem heedless_lift (result : Except Error α) : Heedless (liftM result) := by
  refine ⟨result, fun noted => ?_⟩
  cases result <;> rfl

theorem heedless_mention (synthetic : Synthetic) : Heedless (mention synthetic) :=
  ⟨.ok (), fun _ => rfl⟩

theorem heedless_bind {part : Compile α} {next : α → Compile β} (heedless : Heedless part)
    (follow : ∀ value, Heedless (next value)) : Heedless (part >>= next) := by
  obtain ⟨result, gives⟩ := heedless
  have same : ∀ value noted, (next value).run' noted = (next value).run' [] := by
    intro value noted
    obtain ⟨second, givesSecond⟩ := follow value
    rw [givesSecond noted, givesSecond []]
  refine ⟨result >>= fun value => (next value).run' [], fun noted => ?_⟩
  rw [← gives noted, StateT.run'_eq, StateT.run'_eq, StateT.run_bind]
  cases part.run noted with
  | error error => rfl
  | ok both => exact same both.1 both.2

theorem heedless_mapM {part : α → Compile β} (items : List α)
    (each : ∀ item, Heedless (part item)) : Heedless (items.mapM part) := by
  induction items with
  | nil => exact heedless_pure []
  | cons item rest inductionHypothesis =>
    rw [List.mapM_cons]
    refine heedless_bind (each item) fun first => ?_
    exact heedless_bind inductionHypothesis fun others => heedless_pure _

/-- What a heedless part gives behind others is what it gives in front of all. -/
theorem Heedless.run'_nil {part : Compile α} (heedless : Heedless part)
    {noted after : List Synthetic} {value : α} (success : part.run noted = .ok (value, after)) :
    part.run' [] = .ok value := by
  obtain ⟨result, gives⟩ := heedless
  rw [gives [], ← gives noted, StateT.run'_eq, success]
  rfl

end Heedless

theorem heedless_resolve (scope : Scope) (kind : ReferenceKind) (id : String)
    (found : Option String) : Heedless (scope.resolve kind id found) := by
  unfold Scope.resolve Scope.miss
  split
  · exact heedless_pure none
  · cases found with
    | some tag => exact heedless_pure (some tag)
    | none =>
      cases scope.policy with
      | lenient => exact heedless_pure none
      | strict => exact heedless_throw _

/-- Which tag a reference to an outbound gives does not depend on earlier references. -/
theorem heedless_outbound (scope : Scope) (id : String) : Heedless (scope.outbound id) := by
  unfold Scope.outbound
  split
  · exact heedless_bind (heedless_mention _) fun _ => heedless_pure _
  · exact heedless_resolve scope .outbound id _

theorem heedless_expandMember (scope : Scope) (provider : Provider) (lists : ProxyLists)
    (filter : Pattern.Filter) (member : Member) :
    Heedless (expandMember scope provider lists filter member) := by
  unfold expandMember
  cases member.source with
  | builtIn =>
    refine heedless_bind (heedless_outbound scope member.id) fun reached => ?_
    cases reached <;> exact heedless_pure _
  | subscription => exact heedless_bind (heedless_lift _) fun _ => heedless_pure _
  | proxy subscription => exact heedless_bind (heedless_lift _) fun _ => heedless_pure _

theorem heedless_encodeOutbound (scope : Scope) (provider : Provider) (lists : ProxyLists)
    (outbound : Outbound) : Heedless (encodeOutbound scope provider lists outbound) := by
  have expand : Heedless (expandMembers scope provider lists outbound) := by
    refine heedless_bind (heedless_lift (groupFilter outbound)) fun filter => ?_
    refine heedless_bind (heedless_mapM outbound.members fun member => ?_) fun _ => heedless_pure _
    exact heedless_expandMember scope provider lists filter member
  unfold encodeOutbound
  split
  · exact heedless_bind expand fun _ => heedless_pure _
  · exact heedless_pure _

/-- The declared outbounds are encoded alike whatever was noted down before. -/
theorem heedless_encodeOutbounds (scope : Scope) (provider : Provider)
    (outbounds : List Outbound) : Heedless (encodeOutbounds scope provider outbounds) := by
  refine heedless_bind (heedless_lift (fetchLists provider outbounds)) fun lists => ?_
  refine heedless_bind (heedless_mapM outbounds fun outbound => ?_) fun _ => heedless_pure _
  exact heedless_encodeOutbound scope provider lists outbound

/-! ### References that mean a synthetic outbound -/

/-- No declared outbound has an id. -/
def Undeclared (profile : Profile) (id : String) : Prop :=
  ∀ outbound ∈ profile.outbounds, outbound.id ≠ id

theorem Synthetic.ofId?_eq_some_iff (id : String) (synthetic : Synthetic) :
    Synthetic.ofId? id = some synthetic ↔ id = synthetic.tag := by
  constructor
  · intro named
    unfold Synthetic.ofId? at named
    split at named
    · cases named
      assumption
    · split at named
      · cases named
        assumption
      · cases named
  · rintro rfl
    cases synthetic <;> decide

theorem Synthetic.tag_injective : Function.Injective Synthetic.tag := by
  intro first second same
  have named := (Synthetic.ofId?_eq_some_iff first.tag second).mpr same
  rw [(Synthetic.ofId?_eq_some_iff first.tag first).mpr rfl] at named
  exact Option.some.inj named

theorem outboundTag?_eq_none_iff (scope : Scope) (id : String) :
    scope.outboundTag? id = none ↔ Undeclared scope.profile id := by
  unfold Scope.outboundTag? Undeclared
  rw [Option.map_eq_none_iff, List.find?_eq_none]
  simp only [decide_eq_true_eq, ne_eq]

/-- A reference means a synthetic outbound by its tag, unless a declared one has this id. -/
theorem synthetic?_eq_some_iff (scope : Scope) (id : String) (synthetic : Synthetic) :
    scope.synthetic? id = some synthetic ↔
      id = synthetic.tag ∧ Undeclared scope.profile synthetic.tag := by
  unfold Scope.synthetic?
  cases declared : scope.outboundTag? id with
  | some tag =>
    have shadowed : ¬ Undeclared scope.profile id := by
      rw [← outboundTag?_eq_none_iff, declared]
      exact nofun
    constructor
    · exact nofun
    · rintro ⟨rfl, undeclared⟩
      exact absurd undeclared shadowed
  | none =>
    have undeclared := (outboundTag?_eq_none_iff scope id).mp declared
    show Synthetic.ofId? id = some synthetic ↔ _
    rw [Synthetic.ofId?_eq_some_iff]
    constructor
    · rintro rfl
      exact ⟨rfl, undeclared⟩
    · exact And.left

/-! ### The order of first references -/

/-- What some references make a compilation note down: each synthetic outbound that one of them
means, once, in the order of the first such references. -/
structure NotedFor (profile : Profile) (references : List String) (noted : List Synthetic) :
    Prop where
  once : noted.Nodup
  meant : ∀ synthetic, synthetic ∈ noted ↔
    synthetic.tag ∈ references ∧ Undeclared profile synthetic.tag
  ordered : noted.Pairwise fun first second =>
    references.idxOf first.tag < references.idxOf second.tag

section NotedFor

variable {profile : Profile} {references : List String} {noted : List Synthetic}

/-- More references behind some that are noted for do not change the order among these. -/
theorem NotedFor.ordered_append (notedFor : NotedFor profile references noted)
    (more : List String) :
    noted.Pairwise fun first second =>
      (references ++ more).idxOf first.tag < (references ++ more).idxOf second.tag := by
  refine notedFor.ordered.imp_of_mem fun {first second} firstNoted secondNoted before => ?_
  rwa [List.idxOf_append_of_mem ((notedFor.meant first).mp firstNoted).1,
    List.idxOf_append_of_mem ((notedFor.meant second).mp secondNoted).1]

/-- What was noted for some references is noted for one more reference that means nothing
new. -/
theorem NotedFor.concat_old (notedFor : NotedFor profile references noted) (id : String)
    (old : ∀ synthetic : Synthetic, synthetic.tag = id → Undeclared profile synthetic.tag →
      synthetic ∈ noted) : NotedFor profile (references ++ [id]) noted := by
  refine ⟨notedFor.once, fun synthetic => ?_, notedFor.ordered_append [id]⟩
  rw [List.mem_append, List.mem_singleton]
  constructor
  · intro among
    obtain ⟨referred, undeclared⟩ := (notedFor.meant synthetic).mp among
    exact ⟨Or.inl referred, undeclared⟩
  · rintro ⟨referred | last, undeclared⟩
    · exact (notedFor.meant synthetic).mpr ⟨referred, undeclared⟩
    · exact old synthetic last undeclared

/-- A synthetic outbound that is meant for the first time comes last. -/
theorem NotedFor.concat_new (notedFor : NotedFor profile references noted)
    {synthetic : Synthetic} (undeclared : Undeclared profile synthetic.tag)
    (fresh : synthetic ∉ noted) :
    NotedFor profile (references ++ [synthetic.tag]) (noted ++ [synthetic]) := by
  have absent : synthetic.tag ∉ references := fun referred =>
    fresh ((notedFor.meant synthetic).mpr ⟨referred, undeclared⟩)
  refine ⟨?_, fun other => ?_, ?_⟩
  · refine List.nodup_append.mpr ⟨notedFor.once, List.pairwise_singleton _ _, ?_⟩
    intro other among last single
    rw [List.mem_singleton] at single
    rintro rfl
    exact fresh (single ▸ among)
  · rw [List.mem_append, List.mem_append, List.mem_singleton, List.mem_singleton]
    constructor
    · rintro (among | rfl)
      · obtain ⟨referred, free⟩ := (notedFor.meant other).mp among
        exact ⟨Or.inl referred, free⟩
      · exact ⟨Or.inr rfl, undeclared⟩
    · rintro ⟨referred | last, free⟩
      · exact Or.inl ((notedFor.meant other).mpr ⟨referred, free⟩)
      · exact Or.inr (Synthetic.tag_injective last)
  · refine List.pairwise_append.mpr
      ⟨notedFor.ordered_append _, List.pairwise_singleton _ _, fun other among last single => ?_⟩
    have referred := ((notedFor.meant other).mp among).1
    rw [List.mem_singleton.mp single, List.idxOf_append_of_mem referred,
      List.idxOf_append_of_notMem absent]
    exact Nat.lt_add_right _ (List.idxOf_lt_length_of_mem referred)

end NotedFor

/-- Noting down what references mean, one after the other, lists the first mentions. The
induction takes the last reference away, for it alone can be the one that adds an entry. -/
theorem notedFor_noteAll (scope : Scope) (references : List String) :
    NotedFor scope.profile references
      (noteAll [] (references.filterMap scope.synthetic?)) := by
  induction references using List.reverseRecOn with
  | nil => exact ⟨List.nodup_nil, fun _ => by simp [noteAll], List.Pairwise.nil⟩
  | append_singleton earlier id inductionHypothesis =>
    rw [List.filterMap_append, noteAll_append]
    generalize noteAll [] (earlier.filterMap scope.synthetic?) = noted at inductionHypothesis ⊢
    cases found : scope.synthetic? id with
    | none =>
      rw [List.filterMap_cons_none found, List.filterMap_nil]
      refine inductionHypothesis.concat_old id fun synthetic named undeclared => ?_
      rw [(synthetic?_eq_some_iff scope id synthetic).mpr ⟨named.symm, undeclared⟩] at found
      cases found
    | some synthetic =>
      obtain ⟨rfl, undeclared⟩ := (synthetic?_eq_some_iff scope id synthetic).mp found
      rw [List.filterMap_cons_some found, List.filterMap_nil]
      show NotedFor _ _ (note noted synthetic)
      unfold note
      split
      · rename_i present
        refine inductionHypothesis.concat_old _ fun other named free => ?_
        have same : some other = some synthetic := by
          rw [← found, (synthetic?_eq_some_iff scope _ other).mpr ⟨named.symm, free⟩]
        rw [Option.some.inj same]
        simpa using present
      · rename_i absent
        exact inductionHypothesis.concat_new undeclared (by simpa using absent)

/-! ### Where a profile refers to outbounds -/

/-- Some reference to an outbound that is compiled holds an id. There is one case for each place
that such references have. -/
inductive Cites (scope : Scope) : String → Prop
  /-- The detour of the user interface. -/
  | clash : Cites scope scope.profile.experimental.clashApi.downloadDetour
  /-- A member of a group that stands for an outbound. -/
  | member {outbound : Outbound} {member : Member} : outbound ∈ scope.profile.outbounds →
      outbound.type.isGroup → member ∈ outbound.members → member.source = .builtIn →
      Cites scope member.id
  /-- A rule for traffic that is not dropped and sends it somewhere. -/
  | rule {rule : Rule} : rule ∈ scope.profile.route.rules → keepsRule scope rule →
      rule.action = .route → Cites scope rule.outbound
  /-- The detour of a rule-set that is fetched. -/
  | ruleSet {ruleSet : RuleSet} : ruleSet ∈ scope.profile.route.ruleSets →
      ruleSet.type = .remote → Cites scope ruleSet.downloadDetour
  /-- Where traffic goes that no rule is about. -/
  | final : Cites scope scope.profile.route.finalOutbound
  /-- The detour of a name server. -/
  | server {server : DnsServer} : server ∈ scope.profile.dns.servers → Cites scope server.detour

theorem mem_memberReferences (member : Member) (id : String) :
    id ∈ memberReferences member ↔ member.source = .builtIn ∧ id = member.id := by
  unfold memberReferences
  cases member.source <;> simp

theorem mem_groupReferences (outbound : Outbound) (id : String) :
    id ∈ groupReferences outbound ↔ outbound.type.isGroup ∧
      ∃ member ∈ outbound.members, member.source = .builtIn ∧ id = member.id := by
  unfold groupReferences
  by_cases group : outbound.type.isGroup
  · rw [if_pos group]
    simp only [List.mem_flatMap, mem_memberReferences, group, true_and]
  · rw [if_neg group]
    simp only [List.not_mem_nil, group, Bool.false_eq_true, false_and]

theorem mem_ruleReferences (scope : Scope) (rule : Rule) (id : String) :
    id ∈ ruleReferences scope rule ↔
      keepsRule scope rule ∧ rule.action = .route ∧ id = rule.outbound := by
  unfold ruleReferences actionReferences
  by_cases kept : keepsRule scope rule
  · rw [if_pos kept]
    by_cases action : rule.action = .route
    · rw [if_pos action, List.mem_singleton]
      simp only [kept, action, true_and]
    · rw [if_neg action]
      simp only [List.not_mem_nil, action, false_and, and_false]
  · rw [if_neg kept]
    simp only [List.not_mem_nil, kept, Bool.false_eq_true, false_and]

theorem mem_ruleSetReferences (ruleSet : RuleSet) (id : String) :
    id ∈ ruleSetReferences ruleSet ↔ ruleSet.type = .remote ∧ id = ruleSet.downloadDetour := by
  unfold ruleSetReferences
  by_cases remote : ruleSet.type = .remote
  · rw [if_pos remote, List.mem_singleton]
    simp only [remote, true_and]
  · rw [if_neg remote]
    simp only [List.not_mem_nil, remote, false_and]

/-- The references that a compilation resolves are those at the places that a profile has for
them. -/
theorem mem_outboundReferences (scope : Scope) (id : String) :
    id ∈ outboundReferences scope ↔ Cites scope id := by
  unfold outboundReferences routeReferences
  simp only [List.mem_append, List.mem_flatMap, List.mem_singleton, List.mem_map,
    mem_groupReferences, mem_ruleReferences, mem_ruleSetReferences]
  constructor
  · rintro (rfl | ⟨outbound, declared, group, member, among, builtIn, rfl⟩ |
      (⟨rule, among, kept, action, rfl⟩ | ⟨ruleSet, among, remote, rfl⟩ | rfl) |
      ⟨server, among, rfl⟩)
    · exact .clash
    · exact .member declared group among builtIn
    · exact .rule among kept action
    · exact .ruleSet among remote
    · exact .final
    · exact .server among
  · intro cites
    cases cites with
    | clash => exact Or.inl rfl
    | member declared group among builtIn =>
      exact Or.inr (Or.inl ⟨_, declared, group, _, among, builtIn, rfl⟩)
    | rule among kept action =>
      exact Or.inr (Or.inr (Or.inl (Or.inl ⟨_, among, kept, action, rfl⟩)))
    | ruleSet among remote =>
      exact Or.inr (Or.inr (Or.inl (Or.inr (Or.inl ⟨_, among, remote, rfl⟩))))
    | final => exact Or.inr (Or.inr (Or.inl (Or.inr (Or.inr rfl))))
    | server among => exact Or.inr (Or.inr (Or.inr ⟨_, among, rfl⟩))

/-! ### The entries of a document -/

/-- The outbounds of a document are what the declared ones are encoded to, and behind them the
synthetic ones that are needed: each once, exactly those that a compiled reference means and
no declared outbound shadows, in the order of the first such references. -/
structure Supplied (scope : Scope) (compiled : List Json.Value) (noted : List Synthetic)
    (document : Json.Value) : Prop where
  entries : document.get? "outbounds" = some (.array (compiled ++ noted.map Synthetic.toJson))
  once : noted.Nodup
  needed : ∀ synthetic, synthetic ∈ noted ↔
    (∀ outbound ∈ scope.profile.outbounds, outbound.id ≠ synthetic.tag) ∧
      Cites scope synthetic.tag
  ordered : noted.Pairwise fun first second =>
    (outboundReferences scope).idxOf first.tag < (outboundReferences scope).idxOf second.tag

/-- The encoded outbounds of a profile stand in front of what was noted down. -/
theorem encodeParts_entries {environment : Environment} {profile : Profile}
    {document : Json.Value} {after : List Synthetic}
    (success : (encodeParts environment profile).run [] = .ok (document, after)) :
    ∃ compiled, (encodeOutbounds ⟨profile, environment.policy⟩ environment.provider
        profile.outbounds).run' [] = .ok compiled ∧
      document.get? "outbounds" = some (.array (compiled ++ after.map Synthetic.toJson)) := by
  obtain ⟨experimental, first, compiled, second, route, third, dns, _, encoded, _, _, rfl⟩ :=
    encodeParts_runs success
  exact ⟨compiled, (heedless_encodeOutbounds _ _ _).run'_nil encoded, rfl⟩

/-- Whatever profile compiles, its document has the synthetic outbounds that are needed and no
others. -/
theorem compileBase_supplied (environment : Environment) (profile : Profile)
    (document : Json.Value) (success : compileBase environment profile = .ok document) :
    ∃ compiled noted,
      (encodeOutbounds ⟨profile, environment.policy⟩ environment.provider
        profile.outbounds).run' [] = .ok compiled ∧
      Supplied ⟨profile, environment.policy⟩ compiled noted document := by
  unfold compileBase at success
  cases run : (encodeParts environment profile).run [] with
  | error error =>
    rw [StateT.run'_eq, run] at success
    cases success
  | ok both =>
    rw [StateT.run'_eq, run] at success
    cases success
    obtain ⟨compiled, encoded, entries⟩ := encodeParts_entries run
    have notedFor := notedFor_noteAll ⟨profile, environment.policy⟩
      (outboundReferences ⟨profile, environment.policy⟩)
    rw [← encodeParts_noted run] at notedFor
    refine ⟨compiled, both.2, encoded, entries, notedFor.once, fun synthetic => ?_,
      notedFor.ordered⟩
    rw [notedFor.meant, mem_outboundReferences, and_comm]
    exact Iff.rfl

theorem compileBase_supplied_referring :
    ∃ document, compileBase { provider := twoProxies } referringProfile = .ok document ∧
      ∃ compiled noted,
        (encodeOutbounds ⟨referringProfile, .lenient⟩ twoProxies
          referringProfile.outbounds).run' [] = .ok compiled ∧
        Supplied ⟨referringProfile, .lenient⟩ compiled noted document :=
  ⟨_, rfl, compileBase_supplied { provider := twoProxies } referringProfile _ rfl⟩

end ProxyProfile.Kernel
