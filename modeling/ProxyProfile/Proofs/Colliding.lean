/-
This file proves when two entries among the outbounds of a document have the same tag.

The entries come from three sources, and each source keeps its own tags apart: the
declared outbounds as far as they are given different ones, the picked proxies since
each place of a list is picked once, and the synthetic outbounds since each is noted
down once. The first two stay apart as well, if the tags are different that a profile
and the lists behind it give. What is left is a synthetic outbound. Whether it is
added depends on the ids of the declared ones, and not on their tags, so the tag of
another entry can be its own.
-/

import Mathlib.Data.List.Nodup
import Mathlib.Data.List.Pairwise
import Mathlib.Data.Option.Basic
import ProxyProfile.Proofs.Mentioning

namespace ProxyProfile.Kernel

/-! ### Tags of entries -/

theorem proxyTag?_of_get? {entry : Json.Value} {tag : String}
    (tagged : entry.get? "tag" = some (.string tag)) : proxyTag? entry = some tag := by
  unfold proxyTag?
  rw [tagged]
  rfl

theorem map_eq_of_forall₂ {Item Value Result : Type} {left : Item → Result}
    {right : Value → Result} {items : List Item} {values : List Value}
    (related : List.Forall₂ (fun item value => right value = left item) items values) :
    values.map right = items.map left := by
  induction related with
  | nil => rfl
  | cons head _ inductionHypothesis =>
    rw [List.map_cons, List.map_cons, head, inductionHypothesis]

/-! ### Tags of picks -/

/-- The tags in the list of a subscription. -/
def listTags (provider : Provider) (subscription : String) : List String :=
  (storedProxies provider subscription).filterMap proxyTag?

/-- The tag of a picked proxy. -/
def pickTag? (provider : Provider) (pick : Pick) : Option String :=
  (storedProxies provider pick.1)[pick.2]?.bind proxyTag?

/-- A proxy without a tag is not picked. -/
theorem isSome_pickTag? {provider : Provider} {filter : Pattern.Filter} {member : Member}
    {pick : Pick} (picked : pick ∈ memberPicks provider filter member) :
    (pickTag? provider pick).isSome := by
  unfold memberPicks at picked
  unfold pickTag?
  cases source : member.source with
  | builtIn =>
    rw [source] at picked
    cases picked
  | subscription =>
    rw [source] at picked
    obtain ⟨⟨proxy, place⟩, kept, rfl⟩ := List.mem_map.mp picked
    obtain ⟨stored, accepted⟩ := List.mem_filter.mp kept
    rw [List.mem_zipIdx_iff_getElem?.mp stored, Option.bind_some]
    cases tagged : proxyTag? proxy with
    | none =>
      rw [tagged] at accepted
      cases accepted
    | some tag => rfl
  | proxy subscription =>
    rw [source] at picked
    dsimp only at picked
    split at picked
    · obtain ⟨place, found, rfl⟩ := List.mem_map.mp picked
      obtain ⟨bound, tagged, _⟩ := List.findIdx?_eq_some_iff_getElem.mp (Option.mem_toList.mp found)
      rw [List.getElem?_eq_getElem bound, Option.bind_some, of_decide_eq_true tagged]
      rfl
    · cases picked

theorem mem_listTags {provider : Provider} {pick : Pick} {tag : String}
    (tagged : pickTag? provider pick = some tag) : tag ∈ listTags provider pick.1 := by
  obtain ⟨proxy, stored, tagged⟩ := Option.bind_eq_some_iff.mp tagged
  exact List.mem_filterMap.mpr ⟨proxy, List.mem_of_getElem? stored, tagged⟩

/-- Where the values that are read from a list are different, each is read at one place. -/
theorem place_eq_of_nodup {Item Value : Type} {read : Item → Option Value} {items : List Item}
    (distinct : (items.filterMap read).Nodup) {first second : Nat} {value : Value}
    (one : items[first]?.bind read = some value) (other : items[second]?.bind read = some value) :
    first = second := by
  have apart := List.pairwise_iff_getElem.mp (List.pairwise_filterMap.mp distinct)
  obtain ⟨item, found, given⟩ := Option.bind_eq_some_iff.mp one
  obtain ⟨same, foundToo, givenToo⟩ := Option.bind_eq_some_iff.mp other
  obtain ⟨bound, rfl⟩ := List.getElem?_eq_some_iff.mp found
  obtain ⟨boundToo, rfl⟩ := List.getElem?_eq_some_iff.mp foundToo
  rcases Nat.lt_trichotomy first second with less | equal | greater
  · exact absurd rfl (apart first second bound boundToo less value given value givenToo)
  · exact equal
  · exact absurd rfl (apart second first boundToo bound greater value givenToo value given)

/-- Where the members of lists behind each other are different, each is in one of the lists. -/
theorem eq_of_nodup_flatMap {Item Value : Type} {list : Item → List Value} {items : List Item}
    (distinct : (items.flatMap list).Nodup) {first second : Item} (isFirst : first ∈ items)
    (isSecond : second ∈ items) {value : Value} (one : value ∈ list first)
    (other : value ∈ list second) : first = second := by
  have apart := (List.nodup_flatMap.mp distinct).2
  have symmetric : Std.Symm (Function.onFun List.Disjoint list) := 
    ⟨fun _ _ => List.disjoint_symm⟩
  by_contra differs
  exact apart.forall isFirst isSecond differs one other

section Picks

variable {provider : Provider} {outbounds : List Outbound}

theorem exists_pickTag {pick : Pick} (picked : pick ∈ outbounds.flatMap (groupPicks provider)) :
    ∃ tag, pickTag? provider pick = some tag := by
  obtain ⟨_, _, _, _, _, _, place⟩ := member_of_picked picked
  exact Option.isSome_iff_exists.mp (isSome_pickTag? place)

/-- If all tags are different in the lists that groups draw from, then no two picks have the same
tag. -/
theorem pick_eq_of_pickTag (distinct : ((drawnFrom outbounds).flatMap (listTags provider)).Nodup)
    {first second : Pick} (isFirst : first ∈ outbounds.flatMap (groupPicks provider))
    (isSecond : second ∈ outbounds.flatMap (groupPicks provider))
    (same : pickTag? provider first = pickTag? provider second) : first = second := by
  obtain ⟨tag, tagged⟩ := exists_pickTag isFirst
  have taggedToo := same.symm.trans tagged
  have lists : first.1 = second.1 :=
    eq_of_nodup_flatMap distinct (drawnFrom_of_picked isFirst) (drawnFrom_of_picked isSecond)
      (mem_listTags tagged) (mem_listTags taggedToo)
  obtain ⟨subscription, place⟩ := first
  obtain ⟨_, otherPlace⟩ := second
  obtain rfl : subscription = _ := lists
  have once := (List.nodup_flatMap.mp distinct).1 subscription (drawnFrom_of_picked isFirst)
  obtain rfl : place = otherPlace := place_eq_of_nodup once tagged taggedToo
  rfl

/-- The proxies behind the declared outbounds have the tags of the picks. -/
theorem proxyTag?_pickedProxies {lists : ProxyLists}
    (fetched : fetchLists provider outbounds = .ok lists) :
    (pickedProxies lists (outbounds.flatMap (groupPicks provider))).map proxyTag? =
      (outbounds.flatMap (groupPicks provider)).eraseDups.map (pickTag? provider) := by
  refine map_eq_of_forall₂ ((forall₂_pickedProxies fetched).imp fun pick proxy stored => ?_)
  rw [pickTag?, stored, Option.bind_some]

/-- The entries for declared outbounds have the tags of these. -/
theorem proxyTag?_declared {scope : Scope} {declared : List Json.Value}
    (expanded : List.Forall₂ (Expands scope provider) outbounds declared) :
    declared.map proxyTag? = outbounds.map fun outbound => some outbound.tag :=
  map_eq_of_forall₂ (expanded.imp fun _ _ expands => proxyTag?_of_get? expands.tag)

end Picks

/-! ### Which tags collide -/

/-- The tags that a profile and the lists behind it give: those of the declared outbounds, and
those of all proxies in the lists that groups draw from. -/
def givenTags (provider : Provider) (outbounds : List Outbound) : List String :=
  outbounds.map Outbound.tag ++ (drawnFrom outbounds).flatMap (listTags provider)

/-- A declared outbound has a tag, or a proxy that some group picks. -/
def Taken (provider : Provider) (outbounds : List Outbound) (tag : String) : Prop :=
  (∃ outbound ∈ outbounds, outbound.tag = tag) ∨
    ∃ pick ∈ outbounds.flatMap (groupPicks provider), pickTag? provider pick = some tag

/-- The tags of the entries in front of the synthetic ones. -/
def takenTags (provider : Provider) (outbounds : List Outbound) : List (Option String) :=
  outbounds.map (fun outbound => some outbound.tag) ++
    (outbounds.flatMap (groupPicks provider)).eraseDups.map (pickTag? provider)

theorem mem_takenTags (provider : Provider) (outbounds : List Outbound) (tag : String) :
    some tag ∈ takenTags provider outbounds ↔ Taken provider outbounds tag := by
  unfold takenTags Taken
  simp only [List.mem_append, List.mem_map, Option.some.injEq, List.mem_eraseDups]

theorem isSome_of_mem_takenTags {provider : Provider} {outbounds : List Outbound}
    {tag : Option String} (among : tag ∈ takenTags provider outbounds) : tag.isSome := by
  rcases List.mem_append.mp among with declared | picked
  · obtain ⟨_, _, rfl⟩ := List.mem_map.mp declared
    rfl
  · obtain ⟨pick, kept, rfl⟩ := List.mem_map.mp picked
    exact Option.isSome_iff_exists.mpr (exists_pickTag (List.mem_eraseDups.mp kept))

/-- Where all given tags are different, so are those in front of the synthetic ones. -/
theorem nodup_takenTags {provider : Provider} {outbounds : List Outbound}
    (distinct : (givenTags provider outbounds).Nodup) :
    (takenTags provider outbounds).Nodup := by
  obtain ⟨declared, drawn, apart⟩ := List.nodup_append.mp distinct
  refine List.nodup_append.mpr ⟨?_, ?_, ?_⟩
  · show (outbounds.map (some ∘ Outbound.tag)).Nodup
    rw [← List.map_map]
    exact declared.map (Option.some_injective _)
  · refine List.Nodup.map_on (fun first isFirst second isSecond same => ?_)
      (firstOccurrences_eraseDups _).once
    exact pick_eq_of_pickTag drawn (List.mem_eraseDups.mp isFirst) (List.mem_eraseDups.mp isSecond)
      same
  · rintro one isDeclared other isPicked rfl
    obtain ⟨outbound, among, rfl⟩ := List.mem_map.mp isDeclared
    obtain ⟨pick, kept, tagged⟩ := List.mem_map.mp isPicked
    have listed := List.mem_flatMap.mpr
      ⟨pick.1, drawnFrom_of_picked (List.mem_eraseDups.mp kept), mem_listTags tagged⟩
    exact apart outbound.tag (List.mem_map_of_mem among) outbound.tag listed rfl

/-- Synthetic outbounds that are different collide with nothing but what is in front of them. -/
theorem nodup_append_synthetic {tags : List (Option String)} {noted : List Synthetic}
    (distinct : tags.Nodup) (once : noted.Nodup) :
    (tags ++ noted.map fun synthetic => some synthetic.tag).Nodup ↔
      ∀ synthetic ∈ noted, some synthetic.tag ∉ tags := by
  have notedTags : (noted.map fun synthetic => some synthetic.tag).Nodup :=
    once.map fun first second same => Synthetic.tag_injective (Option.some.inj same)
  rw [List.nodup_append]
  constructor
  · rintro ⟨_, _, apart⟩ synthetic among taken
    exact apart _ taken _ (List.mem_map_of_mem among) rfl
  · intro free
    refine ⟨distinct, notedTags, ?_⟩
    rintro tag taken _ added rfl
    obtain ⟨synthetic, among, rfl⟩ := List.mem_map.mp added
    exact free synthetic among taken

/-- The tags of the entries among the outbounds of a document. -/
theorem proxyTag?_outbounds {scope : Scope} {provider : Provider} {document : Json.Value}
    (written : PartsWritten scope provider document) :
    (document.itemsAt ["outbounds"]).map proxyTag? =
      takenTags provider scope.profile.outbounds ++
        (noteAll [] ((outboundReferences scope).filterMap scope.synthetic?)).map
          fun synthetic => some synthetic.tag := by
  obtain ⟨lists, declared, fetched, expanded, entries⟩ := written.outbounds
  rw [entries, List.map_append, List.map_append, proxyTag?_pickedProxies fetched,
    proxyTag?_declared expanded, List.map_map]
  rfl

/-- Where all given tags are different, every entry among the outbounds of a document has a tag,
and these are different exactly if no other entry has the tag of a synthetic one that is added. -/
theorem compileBase_distinctTags {environment : Environment} {profile : Profile}
    {document : Json.Value}
    (distinct : (givenTags environment.provider profile.outbounds).Nodup)
    (success : compileBase environment profile = .ok document) :
    (∀ entry ∈ document.itemsAt ["outbounds"], (proxyTag? entry).isSome) ∧
      (((document.itemsAt ["outbounds"]).map proxyTag?).Nodup ↔
        ∀ synthetic : Synthetic, Cites ⟨profile, environment.policy⟩ synthetic.tag →
          Undeclared profile synthetic.tag →
          ¬ Taken environment.provider profile.outbounds synthetic.tag) := by
  obtain ⟨after, run⟩ := encodeParts_of_compileBase success
  have tags := proxyTag?_outbounds (encodeParts_ok run)
  have notedFor := notedFor_noteAll ⟨profile, environment.policy⟩
    (outboundReferences ⟨profile, environment.policy⟩)
  generalize noteAll [] _ = noted at tags notedFor
  refine ⟨fun entry among => ?_, ?_⟩
  · have tagged := List.mem_map_of_mem (f := proxyTag?) among
    rw [tags] at tagged
    rcases List.mem_append.mp tagged with taken | added
    · exact isSome_of_mem_takenTags taken
    · obtain ⟨_, _, same⟩ := List.mem_map.mp added
      rw [← same]
      rfl
  · rw [tags, nodup_append_synthetic (nodup_takenTags distinct) notedFor.once]
    simp only [notedFor.meant, mem_outboundReferences, mem_takenTags, and_imp]

theorem compileBase_distinctTags_referring :
    (givenTags twoProxies referringProfile.outbounds).Nodup ∧
      ∃ document, compileBase { provider := twoProxies } referringProfile = .ok document ∧
        (∀ entry ∈ document.itemsAt ["outbounds"], (proxyTag? entry).isSome) ∧
        (((document.itemsAt ["outbounds"]).map proxyTag?).Nodup ↔
          ∀ synthetic : Synthetic, Cites ⟨referringProfile, .lenient⟩ synthetic.tag →
            Undeclared referringProfile synthetic.tag →
            ¬ Taken twoProxies referringProfile.outbounds synthetic.tag) := by
  have distinct : (givenTags twoProxies referringProfile.outbounds).Nodup := by
    decide
  have compiles : ∃ document,
      compileBase { provider := twoProxies } referringProfile = .ok document :=
    ⟨_, rfl⟩
  obtain ⟨document, success⟩ := compiles
  exact ⟨distinct, document, success, compileBase_distinctTags distinct success⟩

/-- An outbound that has the tag of a synthetic one under another id, and a reference to the
synthetic one. -/
def collidingProfile : Profile where
  outbounds := [{ id := "home", tag := "direct", type := .direct }]
  route := { finalOutbound := "direct" }

/-- Different tags that are given do not make all tags different. -/
theorem compileBase_collidingTags :
    (givenTags twoProxies collidingProfile.outbounds).Nodup ∧
      ∃ document, compileBase { provider := twoProxies } collidingProfile = .ok document ∧
        (document.itemsAt ["outbounds"]).map proxyTag? = [some "direct", some "direct"] ∧
        ¬ ((document.itemsAt ["outbounds"]).map proxyTag?).Nodup := by
  have tags : ∃ document, compileBase { provider := twoProxies } collidingProfile = .ok document ∧
      (document.itemsAt ["outbounds"]).map proxyTag? = [some "direct", some "direct"] :=
    ⟨_, rfl, rfl⟩
  obtain ⟨document, success, tags⟩ := tags
  refine ⟨by decide, document, success, tags, ?_⟩
  rw [tags]
  decide

end ProxyProfile.Kernel
