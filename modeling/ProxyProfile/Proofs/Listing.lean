/-
This file proves what the groups of a document list under the strict policy.

A member of a group that draws from a subscription lists tags of proxies that are in
the document, whatever the policy. A member that stands for an outbound lists the tag
that its reference reaches; where it reaches none, the tag that the member is stored
with, which no entry needs to have. The strict policy does not let the second case
pass, but for a reference that is not set at all: an empty id is never a miss. So it
is enough to follow what a successful compilation requires of the references on its
way, from a single one to the whole, and the rest is known of every policy.
-/

import ProxyProfile.Proofs.Dangling

namespace ProxyProfile.Kernel

/-! ### What success requires -/

section Requires

variable {α β : Type}

/-- A part of the compilation only succeeds where something is the case. -/
def Requires (part : Compile α) (Condition : Prop) : Prop :=
  ∀ noted value after, part.run noted = .ok (value, after) → Condition

variable {Condition Premise : Prop}

theorem requires_of_condition {part : Compile α} (condition : Condition) :
    Requires part Condition :=
  fun _ _ _ _ => condition

theorem requires_throw (error : Error) : Requires (throw error : Compile α) Condition :=
  fun _ _ _ success => nomatch success

theorem requires_imp {part : Compile α} (requires : Premise → Requires part Condition) :
    Requires part (Premise → Condition) :=
  fun noted value after success premise => requires premise noted value after success

/-- Two parts require what the first one requires. -/
theorem requires_first {part : Compile α} (next : α → Compile β)
    (requires : Requires part Condition) : Requires (part >>= next) Condition := by
  intro noted value after success
  obtain ⟨given, between, first, _⟩ := run_bind_ok success
  exact requires noted given between first

/-- Two parts require what the second one requires, whatever the first one gives. -/
theorem requires_second (part : Compile α) {next : α → Compile β}
    (requires : ∀ value, Requires (next value) Condition) :
    Requires (part >>= next) Condition := by
  intro noted value after success
  obtain ⟨given, between, _, second⟩ := run_bind_ok success
  exact requires given between value after second

/-- The parts of a list require what each of them requires. -/
theorem requires_mapM {part : α → Compile β} {Each : α → Prop} (items : List α)
    (requires : ∀ item ∈ items, Requires (part item) (Each item)) :
    Requires (items.mapM part) (∀ item ∈ items, Each item) := by
  induction items with
  | nil => exact requires_of_condition fun item among => absurd among List.not_mem_nil
  | cons item rest inductionHypothesis =>
    obtain ⟨first, others⟩ := List.forall_mem_cons.mp requires
    rw [List.mapM_cons]
    intro noted value after success
    refine List.forall_mem_cons.mpr ⟨?_, ?_⟩
    · exact requires_first _ first noted value after success
    · exact requires_second _ (fun _ => requires_first _ (inductionHypothesis others))
        noted value after success

end Requires

/-! ### References under the strict policy -/

/-- A member that stands for an outbound reaches one, unless its reference is not set. -/
def IsReached (scope : Scope) (member : Member) : Prop :=
  member.source = .builtIn → member.id = "" ∨ (scope.reachedOutbound? member.id).isSome

section Strict

variable {scope : Scope} (strict : scope.policy = .strict)

include strict

theorem requires_resolve (kind : ReferenceKind) (id : String) (found : Option String) :
    Requires (scope.resolve kind id found) (id = "" ∨ found.isSome) := by
  unfold Scope.resolve
  by_cases unset : id = ""
  · exact requires_of_condition (.inl unset)
  · rw [if_neg unset]
    cases found with
    | some tag => exact requires_of_condition (.inr rfl)
    | none =>
      unfold Scope.miss
      rw [strict]
      exact requires_throw _

/-- A reference to an outbound reaches one if it is set. -/
theorem requires_outbound (id : String) :
    Requires (scope.outbound id) (id = "" ∨ (scope.reachedOutbound? id).isSome) := by
  by_cases unset : id = ""
  · exact requires_of_condition (.inl unset)
  unfold Scope.outbound Scope.reachedOutbound?
  rw [if_neg unset]
  cases declared : scope.outboundTag? id with
  | some tag => exact requires_of_condition (.inr rfl)
  | none =>
    cases named : Synthetic.ofId? id with
    | some synthetic => exact requires_of_condition (.inr rfl)
    | none => exact requires_resolve strict .outbound id none

theorem requires_expandMember (provider : Provider) (lists : ProxyLists)
    (filter : Pattern.Filter) (member : Member) :
    Requires (expandMember scope provider lists filter member) (IsReached scope member) := by
  unfold expandMember
  cases source : member.source with
  | builtIn => exact requires_first _ (requires_imp fun _ => requires_outbound strict member.id)
  | subscription => exact requires_of_condition fun other => nomatch source.symm.trans other
  | proxy subscription => exact requires_of_condition fun other => nomatch source.symm.trans other

theorem requires_encodeOutbound (provider : Provider) (lists : ProxyLists)
    (outbound : Outbound) :
    Requires (encodeOutbound scope provider lists outbound)
      (outbound.type.isGroup → ∀ member ∈ outbound.members, IsReached scope member) := by
  unfold encodeOutbound
  refine requires_imp fun group => ?_
  simp only [if_pos group]
  unfold expandMembers
  refine requires_first _ (requires_second _ fun filter => requires_first _ ?_)
  exact requires_mapM outbound.members fun member _ =>
    requires_expandMember strict provider lists filter member

/-- Whatever outbounds are encoded, the members of groups among them reach an outbound. -/
theorem requires_encodeOutbounds (provider : Provider) (outbounds : List Outbound) :
    Requires (encodeOutbounds scope provider outbounds)
      (∀ outbound ∈ outbounds, outbound.type.isGroup →
        ∀ member ∈ outbound.members, IsReached scope member) :=
  requires_second _ fun lists => requires_first _ <| requires_mapM outbounds fun outbound _ =>
    requires_encodeOutbound strict provider lists outbound

end Strict

/-! ### What groups list -/

/-- What an entry for an outbound lists: a group lists tags of entries, and beside them only what
members with some property are stored with; no other entry lists anything. -/
structure Lists (Stale : Member → Prop) (entries : List Json.Value) (outbound : Outbound)
    (entry : Json.Value) : Prop where
  type : entry.get? "type" = some (.string outbound.type.name)
  group : outbound.type.isGroup → ∃ tags, entry.get? "outbounds" = some (.strings tags) ∧
    ∀ tag ∈ tags, Named entries tag ∨
      ∃ member ∈ outbound.members, member.source = .builtIn ∧ Stale member ∧ member.tag = tag
  single : ¬ outbound.type.isGroup → entry.get? "outbounds" = none

/-- Whatever the policy, a tag that no entry has is what a member is stored with whose reference
reaches nothing. -/
theorem lists_of_expands {scope : Scope} {provider : Provider} {document entry : Json.Value}
    {outbound : Outbound} (written : PartsWritten scope provider document)
    (declared : outbound ∈ scope.profile.outbounds)
    (expands : Expands scope provider outbound entry) :
    Lists (fun member => scope.reachedOutbound? member.id = none)
      (document.itemsAt ["outbounds"]) outbound entry := by
  refine ⟨expands.type, fun group => ?_, expands.single⟩
  obtain ⟨filter, _, listed, members⟩ := groupRefers_of_expands written declared expands group
  refine ⟨_, listed, fun tag among => ?_⟩
  obtain ⟨member, isMember, stands⟩ := List.mem_flatMap.mp among
  by_cases source : member.source = .builtIn
  · cases reached : scope.reachedOutbound? member.id with
    | some found =>
      obtain ⟨single, named⟩ := (members member isMember).builtIn source found reached
      rw [single, List.mem_singleton] at stands
      exact .inl (stands ▸ named)
    | none =>
      simp only [memberTags, source, reached] at stands
      split at stands
      · cases stands
      · exact .inr ⟨member, isMember, source, reached, (List.mem_singleton.mp stands).symm⟩
  · exact .inl ((members member isMember).drawn source tag stands)

/-- If members reach an outbound unless their reference is not set, then what is listed beside tags
of entries is what members without a reference are stored with. -/
theorem Lists.of_isReached {scope : Scope} {entries : List Json.Value} {outbound : Outbound}
    {entry : Json.Value}
    (lists : Lists (fun member => scope.reachedOutbound? member.id = none) entries outbound entry)
    (reached : outbound.type.isGroup → ∀ member ∈ outbound.members, IsReached scope member) :
    Lists (fun member => member.id = "") entries outbound entry := by
  refine ⟨lists.type, fun group => ?_, lists.single⟩
  obtain ⟨tags, listed, each⟩ := lists.group group
  refine ⟨tags, listed, fun tag among => (each tag among).imp_right ?_⟩
  rintro ⟨member, isMember, source, missing, stored⟩
  refine ⟨member, isMember, source, ?_, stored⟩
  rcases reached group member isMember source with unset | found
  · exact unset
  · rw [missing] at found
    cases found

/-- What follows the declared outbounds is stored for subscriptions that groups draw from. -/
theorem stored_of_pickedProxies {provider : Provider} {outbounds : List Outbound}
    {lists : ProxyLists} (fetched : fetchLists provider outbounds = .ok lists) {proxy : Json.Value}
    (among : proxy ∈ pickedProxies lists (outbounds.flatMap (groupPicks provider))) :
    ∃ id ∈ drawnFrom outbounds, proxy ∈ storedProxies provider id := by
  obtain ⟨⟨id, place⟩, kept, found⟩ := List.mem_filterMap.mp among
  have picked := List.mem_eraseDups.mp kept
  dsimp only at found
  rw [(groupPicks_lookup fetched picked).1, Option.bind_some] at found
  exact ⟨id, drawnFrom_of_picked picked, List.mem_of_getElem? found⟩

/-- Under the strict policy the entries for declared groups list tags of entries, and beside them
only what members without a reference are stored with. The other entries are proxies as they are
stored, and synthetic outbounds. -/
theorem compileBase_strict_lists {environment : Environment} {profile : Profile}
    {document : Json.Value} (strict : environment.policy = .strict)
    (success : compileBase environment profile = .ok document) :
    ∃ (declared picked : List Json.Value) (noted : List Synthetic),
      document.itemsAt ["outbounds"] = declared ++ picked ++ noted.map Synthetic.toJson ∧
      List.Forall₂ (Lists (fun member => member.id = "") (document.itemsAt ["outbounds"]))
        profile.outbounds declared ∧
      ∀ proxy ∈ picked, ∃ id ∈ drawnFrom profile.outbounds,
        proxy ∈ storedProxies environment.provider id := by
  obtain ⟨after, run⟩ := encodeParts_of_compileBase success
  have written := encodeParts_ok run
  obtain ⟨_, _, _, _, _, _, _, _, outboundsRun, _⟩ := encodeParts_runs run
  have reached := requires_encodeOutbounds strict _ _ _ _ _ outboundsRun
  obtain ⟨lists, declared, fetched, expanded, entries⟩ := written.outbounds
  refine ⟨declared, _, _, entries, ?_, fun proxy among => stored_of_pickedProxies fetched among⟩
  refine forall₂_imp_of_mem expanded fun outbound isDeclared entry expands => ?_
  exact (lists_of_expands written isDeclared expands).of_isReached (reached outbound isDeclared)

/-- A proxy that is a group itself. -/
def innerGroup : Json.Value :=
  .object [("type", .string "selector"), ("tag", .string "Inner"), ("outbounds", .strings ["Outer"])]

/-- A provider with this proxy alone. -/
def nestedGroup : Provider where
  proxies _ := .ok [innerGroup]
  tag? _ _ := none

/-- A group with a member whose reference is not set, and with that proxy. -/
def staleGroups : Profile where
  outbounds := [
    { id := "select", tag := "Select",
      members := [⟨"", "Built-in", "Old"⟩, ⟨"list", "Subscription", ""⟩] }]

theorem compileBase_staleGroups : ∃ document,
    compileBase { provider := nestedGroup, policy := .strict } staleGroups = .ok document ∧
      document.itemsAt ["outbounds"] = [
        .object [("type", .string "selector"), ("tag", .string "Select"),
          ("interrupt_exist_connections", .bool true), ("outbounds", .strings ["Old", "Inner"])],
        innerGroup] :=
  ⟨_, rfl, rfl⟩

theorem compileBase_strict_lists_stale :
    ∃ document, compileBase { provider := nestedGroup, policy := .strict } staleGroups =
        .ok document ∧
      ∃ (declared picked : List Json.Value) (noted : List Synthetic),
        document.itemsAt ["outbounds"] = declared ++ picked ++ noted.map Synthetic.toJson ∧
        List.Forall₂ (Lists (fun member => member.id = "") (document.itemsAt ["outbounds"]))
          staleGroups.outbounds declared ∧
        ∀ proxy ∈ picked, ∃ id ∈ drawnFrom staleGroups.outbounds,
          proxy ∈ storedProxies nestedGroup id := by
  obtain ⟨document, success, _⟩ := compileBase_staleGroups
  exact ⟨document, success, compileBase_strict_lists rfl success⟩

/-- Under the strict policy too a group lists what is no tag of an entry: a declared one with a
member whose reference is not set, and one among the proxies. -/
theorem strict_lists_unnamed :
    ∃ document, compileBase { provider := nestedGroup, policy := .strict } staleGroups =
        .ok document ∧
      ∃ declared ∈ document.itemsAt ["outbounds"], ∃ picked ∈ document.itemsAt ["outbounds"],
        declared.get? "type" = some (.string "selector") ∧
        declared.get? "outbounds" = some (.strings ["Old", "Inner"]) ∧
        ¬ Named (document.itemsAt ["outbounds"]) "Old" ∧
        picked.get? "type" = some (.string "selector") ∧
        picked.get? "outbounds" = some (.strings ["Outer"]) ∧
        ¬ Named (document.itemsAt ["outbounds"]) "Outer" := by
  obtain ⟨document, success, entries⟩ := compileBase_staleGroups
  refine ⟨document, success, ?_⟩
  rw [entries]
  have unnamed : ∀ tag, tag ≠ "Select" → tag ≠ "Inner" → ¬ Named [
      .object [("type", .string "selector"), ("tag", .string "Select"),
        ("interrupt_exist_connections", .bool true), ("outbounds", .strings ["Old", "Inner"])],
      innerGroup] tag := by
    rintro tag notSelect notInner ⟨entry, among, tagged⟩
    rcases List.mem_pair.mp among with rfl | rfl
    · cases tagged
      exact notSelect rfl
    · cases tagged
      exact notInner rfl
  exact ⟨_, List.mem_cons_self, innerGroup, List.mem_cons_of_mem _ List.mem_cons_self, rfl, rfl,
    unnamed "Old" (by decide) (by decide), rfl, rfl, unnamed "Outer" (by decide) (by decide)⟩

end ProxyProfile.Kernel
