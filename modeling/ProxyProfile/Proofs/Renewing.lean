/-
This file says which ids the entries of a renewed index have.

One renewal is easy to describe. An entry whose tag was known gets the id of the
first entry that had it; every other entry gets an id that no entry had and no other
entry gets. So if an id stood for one tag before, it does afterwards, and from the
tag of any proxy one comes to an id and back to the tag.

Several renewals in a row are not harder, but they show what an id belongs to: a
tag, not an entry. A tag that stands twice in a list gets two ids when it comes up,
and the next renewal gives the first of them to both. From an empty index on this is
the only way in which two entries come to have one id.
-/

import ProxyProfile.Proofs.Indexing

namespace ProxyProfile.Subscription

/-! ### One renewal -/

section Entries

variable {subscription : Subscription} {entry : ProxyIndex} {proxies : List Json.Value}

/-- A tag has no id exactly if no entry has it. -/
theorem idOf?_eq_none_iff (subscription : Subscription) (tag : String) :
    subscription.idOf? tag = none ↔ tag ∉ subscription.proxies.map ProxyIndex.tag := by
  simp [idOf?]

theorem not_hasId_iff (subscription : Subscription) (id : String) :
    subscription.hasId id = false ↔ id ∉ subscription.proxies.map ProxyIndex.id := by
  rw [← subscription.hasId_iff, Bool.not_eq_true]

/-- An entry of a renewed index whose tag was known has the id that was looked up for it. -/
theorem keeps_of_known (among : entry ∈ (subscription.refreshIndex proxies).proxies)
    (known : entry.tag ∈ subscription.proxies.map ProxyIndex.tag) : Keeps subscription entry := by
  rcases subscription.indexFrom_cases 0 proxies entry among with keeps | ⟨unknown, _⟩
  · exact keeps
  · exact absurd known ((subscription.idOf?_eq_none_iff entry.tag).mp unknown)

/-- One whose tag is new has an id that is new as well. -/
theorem not_hasId_of_unknown (among : entry ∈ (subscription.refreshIndex proxies).proxies)
    (unknown : entry.tag ∉ subscription.proxies.map ProxyIndex.tag) :
    subscription.hasId entry.id = false := by
  rcases subscription.indexFrom_cases 0 proxies entry among with keeps | ⟨_, free, _⟩
  · obtain ⟨old, before, _, tagged⟩ := subscription.mem_of_keeps keeps
    exact absurd (tagged ▸ List.mem_map_of_mem before) unknown
  · exact free

/-- The tags of a renewed index are those of the proxies. -/
theorem tags_of_listsProxies {index : List ProxyIndex} (lists : ListsProxies index proxies) :
    index.map ProxyIndex.tag = proxies.map fun proxy => proxy.textAt "tag" := by
  induction lists with
  | nil => rfl
  | cons same _ inductionHypothesis =>
    rw [List.map_cons, List.map_cons, same.1, inductionHypothesis]

/-- An entry that can be looked up by its tag is found by the id again, if ids determine tags. -/
theorem exists_idOf?_of_mem (determined : IdsDetermineTags subscription.proxies)
    (among : entry ∈ subscription.proxies) :
    ∃ id, subscription.idOf? entry.tag = some id ∧ subscription.tagOf? id = some entry.tag := by
  cases found : subscription.idOf? entry.tag with
  | none =>
    exact absurd (List.mem_map_of_mem among) ((subscription.idOf?_eq_none_iff entry.tag).mp found)
  | some id =>
    have keeps : Keeps subscription ⟨id, entry.tag, ""⟩ := found
    obtain ⟨old, one, rfl, tagged⟩ := subscription.mem_of_keeps keeps
    refine ⟨old.id, rfl, ?_⟩
    rw [tagOf?_of_mem determined one, tagged]

end Entries

/-- What a renewal makes of a subscription and a list of proxies. -/
structure Renews (before : Subscription) (proxies : List Json.Value) (after : Subscription) :
    Prop where
  /-- Nothing but the index changes. -/
  only_index : after = { before with proxies := after.proxies }
  /-- There is one entry for each proxy, in order, with its tag and its type. -/
  lists : ListsProxies after.proxies proxies
  /-- A known tag keeps the id of the first entry that had it. -/
  keeps : ∀ entry ∈ after.proxies, ∀ old,
    before.proxies.find? (fun old => old.tag = entry.tag) = some old → entry.id = old.id
  /-- A new tag gets an id that no entry had. -/
  fresh : ∀ entry ∈ after.proxies, entry.tag ∉ before.proxies.map ProxyIndex.tag →
    entry.id ∉ before.proxies.map ProxyIndex.id
  /-- And no other entry gets it. -/
  apart : after.proxies.Pairwise fun first second =>
    (first.tag ∉ before.proxies.map ProxyIndex.tag ∨
      second.tag ∉ before.proxies.map ProxyIndex.tag) → first.id ≠ second.id
  /-- An id goes on to stand for one tag. -/
  determined : IdsDetermineTags before.proxies → IdsDetermineTags after.proxies
  /-- From the tag of a proxy one comes to an id and back. -/
  returns : IdsDetermineTags before.proxies → ∀ proxy ∈ proxies, ∃ id,
    after.idOf? (proxy.textAt "tag") = some id ∧ after.tagOf? id = some (proxy.textAt "tag")

/-- Renewing an index does all of this, whatever the index and the proxies are. -/
theorem renews_refreshIndex (subscription : Subscription) (proxies : List Json.Value) :
    Renews subscription proxies (subscription.refreshIndex proxies) where
  only_index := rfl
  lists := listsProxies_refreshIndex subscription proxies
  keeps entry among old found := by
    have known : entry.tag ∈ subscription.proxies.map ProxyIndex.tag := by
      have tagged : old.tag = entry.tag := by simpa using List.find?_some found
      exact tagged ▸ List.mem_map_of_mem (List.mem_of_find?_eq_some found)
    have keeps := keeps_of_known among known
    unfold Keeps idOf? at keeps
    rw [found, Option.map_some] at keeps
    exact (Option.some.inj keeps).symm
  fresh entry among unknown :=
    (subscription.not_hasId_iff entry.id).mp (not_hasId_of_unknown among unknown)
  apart := by
    refine (subscription.indexFrom_apart 0 proxies).imp_of_mem fun one other shared new same => ?_
    have old := shared same
    rcases new with unknown | unknown
    · exact Bool.false_ne_true ((not_hasId_of_unknown one unknown).symm.trans old)
    · rw [same] at old
      exact Bool.false_ne_true ((not_hasId_of_unknown other unknown).symm.trans old)
  determined := idsDetermineTags_refreshIndex
  returns determined proxy among := by
    have tags := tags_of_listsProxies (listsProxies_refreshIndex subscription proxies)
    obtain ⟨entry, listed, tagged⟩ := List.mem_map.mp (tags ▸ List.mem_map_of_mem among)
    exact tagged ▸ exists_idOf?_of_mem (idsDetermineTags_refreshIndex determined) listed

/-! ### Ids of one tag -/

/-- Two entries of an index share an id exactly if they share a tag that is among those that were
known. -/
def ShareKnownTags (known : List String) (index : List ProxyIndex) : Prop :=
  index.Pairwise fun first second =>
    first.id = second.id ↔ first.tag = second.tag ∧ first.tag ∈ known

instance (known : List String) (index : List ProxyIndex) :
    Decidable (ShareKnownTags known index) :=
  inferInstanceAs (Decidable (List.Pairwise _ index))

/-- In a renewed index entries share an id exactly if they share a tag that the index had before,
provided that ids stood for one tag then. -/
theorem shareKnownTags_refreshIndex {subscription : Subscription}
    (determined : IdsDetermineTags subscription.proxies) (proxies : List Json.Value) :
    ShareKnownTags (subscription.proxies.map ProxyIndex.tag)
      (subscription.refreshIndex proxies).proxies := by
  have after := renews_refreshIndex subscription proxies
  refine after.apart.imp_of_mem fun {first second} one other apart => ⟨fun same => ?_, ?_⟩
  · refine ⟨after.determined determined first one second other same, ?_⟩
    by_contra unknown
    exact apart (Or.inl unknown) same
  · rintro ⟨tagged, known⟩
    have firstKeeps := keeps_of_known one known
    have secondKeeps := keeps_of_known other (tagged ▸ known)
    unfold Keeps at firstKeeps secondKeeps
    rw [tagged, secondKeeps] at firstKeeps
    exact (Option.some.inj firstKeeps).symm

/-- Where entries share ids by their tags, tags without repetition make for ids without one. -/
theorem ShareKnownTags.nodup_ids {known : List String} {index : List ProxyIndex}
    (shared : ShareKnownTags known index) (distinct : (index.map ProxyIndex.tag).Nodup) :
    (index.map ProxyIndex.id).Nodup := by
  rw [List.Nodup, List.pairwise_map] at distinct ⊢
  exact (shared.and distinct).imp fun ⟨shares, differs⟩ same => differs (shares.mp same).1

/-! ### Renewals in a row -/

/-- A subscription behind some renewals. -/
def renewed (subscription : Subscription) (lists : List (List Json.Value)) : Subscription :=
  lists.foldl refreshIndex subscription

/-- The list before the last one, if there is one. -/
def listBefore (lists : List (List Json.Value)) : List Json.Value :=
  lists.dropLast.getLastD []

theorem idsDetermineTags_renewed {subscription : Subscription}
    (determined : IdsDetermineTags subscription.proxies) (lists : List (List Json.Value)) :
    IdsDetermineTags (subscription.renewed lists).proxies := by
  induction lists generalizing subscription with
  | nil => exact determined
  | cons proxies lists inductionHypothesis =>
    exact inductionHypothesis (idsDetermineTags_refreshIndex determined)

theorem renewed_concat (subscription : Subscription) (lists : List (List Json.Value))
    (last : List Json.Value) :
    subscription.renewed (lists ++ [last]) = (subscription.renewed lists).refreshIndex last :=
  List.foldl_concat refreshIndex subscription last lists

/-- The tags of an index that was empty at first are those of the last list. -/
theorem tags_renewed {subscription : Subscription} (empty : subscription.proxies = [])
    (lists : List (List Json.Value)) :
    (subscription.renewed lists).proxies.map ProxyIndex.tag =
      (lists.getLastD []).map fun proxy => proxy.textAt "tag" := by
  rcases List.eq_nil_or_concat lists with rfl | ⟨earlier, last, rfl⟩
  · rw [renewed, List.foldl_nil, empty]
    rfl
  · rw [List.concat_eq_append, renewed_concat, List.getLastD_concat]
    exact tags_of_listsProxies (listsProxies_refreshIndex _ last)

/-- From an empty index on, two entries share an id exactly if they share a tag that the list before
the last one had. So no two do if the last list has no tag twice. -/
theorem shareKnownTags_renewed {subscription : Subscription} (empty : subscription.proxies = [])
    (lists : List (List Json.Value)) :
    ShareKnownTags ((listBefore lists).map fun proxy => proxy.textAt "tag")
        (subscription.renewed lists).proxies ∧
      (((lists.getLastD []).map fun proxy => proxy.textAt "tag").Nodup →
        ((subscription.renewed lists).proxies.map ProxyIndex.id).Nodup) := by
  have shared : ShareKnownTags ((listBefore lists).map fun proxy => proxy.textAt "tag")
      (subscription.renewed lists).proxies := by
    rcases List.eq_nil_or_concat lists with rfl | ⟨earlier, last, rfl⟩
    · rw [renewed, List.foldl_nil, empty]
      exact List.Pairwise.nil
    · have determined : IdsDetermineTags (subscription.renewed earlier).proxies :=
        idsDetermineTags_renewed (empty ▸ nofun) earlier
      rw [List.concat_eq_append, renewed_concat, listBefore, List.dropLast_concat,
        ← tags_renewed empty earlier]
      exact shareKnownTags_refreshIndex determined last
  exact ⟨shared, fun distinct => shared.nodup_ids (tags_renewed empty lists ▸ distinct)⟩

/-- Some proxies that have only a tag. -/
def tagged (tags : List String) : List Json.Value :=
  tags.map fun tag => .object [("tag", .string tag)]

/-- `A` was known and stands twice now, so its two entries share an id; `C` was not. -/
theorem shareKnownTags_renewed_repeated :
    ({ id := "sub" } : Subscription).proxies = [] ∧
      ShareKnownTags ["A", "B"]
        (renewed { id := "sub" } [tagged ["A", "B"], tagged ["A", "C", "A", "C"]]).proxies ∧
      (renewed { id := "sub" } [tagged ["A", "B"], tagged ["A", "C", "A", "C"]]).proxies.map
        ProxyIndex.id = ["sub-1", "sub-3", "sub-1", "sub-4"] := by
  have empty : ({ id := "sub" } : Subscription).proxies = [] := rfl
  have shared := shareKnownTags_renewed empty
    [tagged ["A", "B"], tagged ["A", "C", "A", "C"]]
  exact ⟨empty, shared.1, by decide +kernel⟩

/-- One list with a repeated tag, given twice, leaves one id for both entries. -/
theorem not_nodup_ids_repeated :
    ({ id := "sub" } : Subscription).proxies = [] ∧
      ¬ ((renewed { id := "sub" } [tagged ["A", "A"], tagged ["A", "A"]]).proxies.map
        ProxyIndex.id).Nodup := by
  decide +kernel

end ProxyProfile.Subscription
