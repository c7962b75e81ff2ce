/-
This file proves what renewing the index of a subscription does.

The new index lists the new proxies. An entry whose tag the old index knows has
the id of the tag there; any other entry has an id of its own, one that is neither
in the old index nor anywhere else in the new one. So when an id stands for one
tag only, it still does after a renewal, and an id that stood for a tag stands for
the same tag or is gone.

Nothing more can be said of an id that was gone for a while. A renewal looks at
the index before it and at no earlier one, so the id of a tag that disappeared is
free again one renewal later and may be given to another tag.
-/

import Mathlib.Data.List.Basic
import Mathlib.Data.List.Nodup
import Mathlib.Data.List.Perm.Subperm
import ProxyProfile.Subscription.Index

namespace ProxyProfile.Subscription

/-! ### Numbers -/

theorem numberedId_injective (subscription : Subscription) {first second : Nat}
    (same : subscription.numberedId first = subscription.numberedId second) : first = second := by
  unfold numberedId at same
  have digits : Decimal.digits first = Decimal.digits second := by
    simpa [Decimal.text] using congrArg String.toList same
  rw [← Decimal.value_digits first, digits, Decimal.value_digits]

theorem hasId_iff (subscription : Subscription) (id : String) :
    subscription.hasId id = true ↔ id ∈ subscription.proxies.map ProxyIndex.id := by
  simp [hasId]

/-- The ids with some numbers in a row. -/
def numberedIds (subscription : Subscription) (number count : Nat) : List String :=
  (List.range count).map fun steps => subscription.numberedId (number + steps)

theorem nodup_numberedIds (subscription : Subscription) (number count : Nat) :
    (subscription.numberedIds number count).Nodup := by
  refine (List.nodup_map_iff_inj_on List.nodup_range).mpr fun first _ second _ same => ?_
  exact Nat.add_left_cancel (subscription.numberedId_injective same)

/-- An index does not have more ids than entries. -/
theorem exists_fresh (subscription : Subscription) (number : Nat) :
    ∃ steps ≤ subscription.proxies.length,
      subscription.hasId (subscription.numberedId (number + steps)) = false := by
  by_contra taken
  push Not at taken
  have inside : subscription.numberedIds number (subscription.proxies.length + 1) ⊆
      subscription.proxies.map ProxyIndex.id := by
    intro id member
    obtain ⟨steps, among, rfl⟩ := List.mem_map.mp member
    have present := taken steps (Nat.lt_succ_iff.mp (List.mem_range.mp among))
    exact (subscription.hasId_iff _).mp (by simpa using present)
  have bound := (List.subperm_of_subset (subscription.nodup_numberedIds _ _) inside).length_le
  simp only [numberedIds, List.length_map, List.length_range] at bound
  omega

/-- A search that goes far enough ends at a number whose id is not in the index. -/
theorem freshNumber_free (subscription : Subscription) (fuel number : Nat)
    (found : ∃ steps ≤ fuel,
      subscription.hasId (subscription.numberedId (number + steps)) = false) :
    number ≤ subscription.freshNumber fuel number ∧
      subscription.hasId
        (subscription.numberedId (subscription.freshNumber fuel number)) = false := by
  induction fuel generalizing number with
  | zero =>
    obtain ⟨steps, bound, free⟩ := found
    obtain rfl : steps = 0 := by omega
    exact ⟨Nat.le_refl _, free⟩
  | succ fuel inductionHypothesis =>
    unfold freshNumber
    split
    · rename_i taken
      obtain ⟨steps, bound, free⟩ := found
      cases steps with
      | zero =>
        rw [Nat.add_zero, taken] at free
        cases free
      | succ steps =>
        have later := inductionHypothesis (number + 1)
          ⟨steps, by omega, by rwa [Nat.add_right_comm]⟩
        exact ⟨by omega, later.2⟩
    · rename_i free
      exact ⟨Nat.le_refl _, by simpa using free⟩

/-! ### The entries of a renewed index -/

/-- An index lists some proxies: one entry for each, in order, with its tag and its type. -/
def ListsProxies (index : List ProxyIndex) (proxies : List Json.Value) : Prop :=
  List.Forall₂ (fun entry proxy =>
    entry.tag = proxy.textAt "tag" ∧ entry.type = proxy.textAt "type") index proxies

/-- No id stands for two tags. -/
def IdsDetermineTags (index : List ProxyIndex) : Prop :=
  ∀ first ∈ index, ∀ second ∈ index, first.id = second.id → first.tag = second.tag

instance (index : List ProxyIndex) : Decidable (IdsDetermineTags index) :=
  inferInstanceAs (Decidable (∀ first ∈ index, ∀ second ∈ index, _))

/-- An id that stands for one tag only is looked up to it. -/
theorem tagOf?_of_mem {subscription : Subscription}
    (determined : IdsDetermineTags subscription.proxies) {entry : ProxyIndex}
    (among : entry ∈ subscription.proxies) : subscription.tagOf? entry.id = some entry.tag := by
  unfold tagOf?
  cases found : subscription.proxies.find? fun other => other.id = entry.id with
  | none => simpa using List.find?_eq_none.mp found entry among
  | some other =>
    have same : other.id = entry.id := by simpa using List.find?_some found
    rw [Option.map_some, determined other (List.mem_of_find?_eq_some found) entry among same]

section Entries

variable (subscription : Subscription)

/-- An entry has the id that the index has for its tag. -/
def Keeps (entry : ProxyIndex) : Prop :=
  subscription.idOf? entry.tag = some entry.id

/-- An entry has an id of its own, with a number beyond `last`. -/
def Founds (last : Nat) (entry : ProxyIndex) : Prop :=
  subscription.hasId entry.id = false ∧
    ∃ number, last < number ∧ entry.id = subscription.numberedId number

theorem listsProxies_indexFrom (last : Nat) (proxies : List Json.Value) :
    ListsProxies (subscription.indexFrom last proxies) proxies := by
  induction proxies generalizing last with
  | nil => exact List.Forall₂.nil
  | cons proxy rest inductionHypothesis =>
    unfold indexFrom
    dsimp only
    split
    · exact List.Forall₂.cons ⟨rfl, rfl⟩ (inductionHypothesis last)
    · exact List.Forall₂.cons ⟨rfl, rfl⟩ (inductionHypothesis _)

/-- The number behind the last one whose id is not in the index. -/
theorem freshNumber_founds (last : Nat) (tag type : String) :
    Founds subscription last
      ⟨subscription.numberedId
        (subscription.freshNumber subscription.proxies.length (last + 1)), tag, type⟩ := by
  obtain ⟨beyond, free⟩ := subscription.freshNumber_free subscription.proxies.length (last + 1)
    (subscription.exists_fresh (last + 1))
  exact ⟨free, _, beyond, rfl⟩

/-- An entry has the id that the index has for its tag, or the index has none and the id is
founded. -/
theorem indexFrom_cases (last : Nat) (proxies : List Json.Value) :
    ∀ entry ∈ subscription.indexFrom last proxies,
      Keeps subscription entry ∨
        subscription.idOf? entry.tag = none ∧ Founds subscription last entry := by
  induction proxies generalizing last with
  | nil => exact fun entry among => absurd among List.not_mem_nil
  | cons proxy rest inductionHypothesis =>
    intro entry among
    unfold indexFrom at among
    dsimp only at among
    split at among
    · rename_i id known
      rcases List.mem_cons.mp among with rfl | later
      · exact Or.inl known
      · exact inductionHypothesis last entry later
    · rename_i unknown
      have founds := subscription.freshNumber_founds last (proxy.textAt "tag")
        (proxy.textAt "type")
      rcases List.mem_cons.mp among with rfl | later
      · exact Or.inr ⟨unknown, founds⟩
      · rcases inductionHypothesis _ entry later with
          keeps | ⟨untagged, free, number, beyond, equal⟩
        · exact Or.inl keeps
        · have first := (subscription.freshNumber_free subscription.proxies.length (last + 1)
            (subscription.exists_fresh (last + 1))).1
          exact Or.inr ⟨untagged, free, number, by omega, equal⟩

theorem mem_of_keeps {entry : ProxyIndex} (keeps : Keeps subscription entry) :
    ∃ old ∈ subscription.proxies, old.id = entry.id ∧ old.tag = entry.tag := by
  obtain ⟨old, found, same⟩ := Option.map_eq_some_iff.mp keeps
  have tagged := List.find?_some found
  exact ⟨old, List.mem_of_find?_eq_some found, same, by simpa using tagged⟩

theorem hasId_of_mem {entry : ProxyIndex} (among : entry ∈ subscription.proxies) :
    subscription.hasId entry.id = true :=
  (subscription.hasId_iff entry.id).mpr (List.mem_map_of_mem among)

/-- Two entries share an id only if it comes from the old index. -/
theorem indexFrom_apart (last : Nat) (proxies : List Json.Value) :
    (subscription.indexFrom last proxies).Pairwise fun first second =>
      first.id = second.id → subscription.hasId first.id = true := by
  induction proxies generalizing last with
  | nil => exact List.Pairwise.nil
  | cons proxy rest inductionHypothesis =>
    unfold indexFrom
    dsimp only
    split
    · rename_i id known
      refine List.Pairwise.cons (fun _ _ _ => ?_) (inductionHypothesis last)
      have keeps : Keeps subscription ⟨id, proxy.textAt "tag", proxy.textAt "type"⟩ := known
      obtain ⟨old, among, same, _⟩ := subscription.mem_of_keeps keeps
      rw [← same]
      exact subscription.hasId_of_mem among
    · refine List.Pairwise.cons (fun second later same => ?_) (inductionHypothesis _)
      -- What comes later is from the old index or has a greater number.
      rcases subscription.indexFrom_cases _ rest second later with
        keeps | ⟨_, _, number, beyond, equal⟩
      · obtain ⟨old, among, shared, _⟩ := subscription.mem_of_keeps keeps
        rw [same, ← shared]
        exact subscription.hasId_of_mem among
      · rw [equal] at same
        have number := subscription.numberedId_injective same
        omega

/-- If two entries share an id, it is an old one or they share the tag as well. -/
def Apart (first second : ProxyIndex) : Prop :=
  first.id = second.id → subscription.hasId first.id = true ∨ first.tag = second.tag

end Entries

/-! ### Renewals -/

section Renewals

variable {subscription : Subscription} {proxies : List Json.Value}

theorem listsProxies_refreshIndex (subscription : Subscription) (proxies : List Json.Value) :
    ListsProxies (subscription.refreshIndex proxies).proxies proxies :=
  subscription.listsProxies_indexFrom 0 proxies

/-- An entry with an old id has the tag of an old entry with that id. -/
theorem exists_old_of_hasId {entry : ProxyIndex}
    (among : entry ∈ (subscription.refreshIndex proxies).proxies)
    (old : subscription.hasId entry.id = true) :
    ∃ earlier ∈ subscription.proxies, earlier.id = entry.id ∧ earlier.tag = entry.tag := by
  rcases subscription.indexFrom_cases 0 proxies entry among with keeps | ⟨_, free, _⟩
  · exact subscription.mem_of_keeps keeps
  · rw [old] at free
    cases free

/-- An id that a renewal keeps still stands for the same tag. -/
theorem tag_refreshIndex (determined : IdsDetermineTags subscription.proxies)
    {earlier later : ProxyIndex} (before : earlier ∈ subscription.proxies)
    (after : later ∈ (subscription.refreshIndex proxies).proxies) (same : later.id = earlier.id) :
    later.tag = earlier.tag := by
  have old : subscription.hasId later.id = true := by
    rw [same]
    exact subscription.hasId_of_mem before
  obtain ⟨first, among, shared, tagged⟩ := exists_old_of_hasId after old
  rw [← tagged]
  exact determined first among earlier before (shared.trans same)

/-- A renewal does not make an id stand for two tags. -/
theorem idsDetermineTags_refreshIndex (determined : IdsDetermineTags subscription.proxies) :
    IdsDetermineTags (subscription.refreshIndex proxies).proxies := by
  have forward : (subscription.refreshIndex proxies).proxies.Pairwise (Apart subscription) :=
    (subscription.indexFrom_apart 0 proxies).imp fun old same => Or.inl (old same)
  have backward : (subscription.refreshIndex proxies).proxies.Pairwise
      (flip (Apart subscription)) :=
    forward.imp fun apart same => by
      rw [same]
      exact (apart same.symm).imp_right Eq.symm
  have apart := List.Pairwise.forall_of_forall_of_flip (fun _ _ _ => Or.inr rfl) forward backward
  intro first one second other same
  rcases apart one other same with old | tagged
  · obtain ⟨earlier, before, equal, tagged⟩ := exists_old_of_hasId one old
    rw [← tagged]
    exact (tag_refreshIndex determined before other (same.symm.trans equal.symm)).symm
  · exact tagged

end Renewals

/-! ### Runs -/

/-- A subscription at the start and behind each of some renewals. -/
def renewals (subscription : Subscription) (lists : List (List Json.Value)) : List Subscription :=
  lists.scanl refreshIndex subscription

/-- No id that stood for a tag stands for another one later in a run. -/
def IdsKeepTags (run : List Subscription) : Prop :=
  run.Pairwise fun earlier later =>
    ∀ old ∈ earlier.proxies, ∀ new ∈ later.proxies, new.id = old.id → new.tag = old.tag

instance (run : List Subscription) : Decidable (IdsKeepTags run) :=
  inferInstanceAs (Decidable (List.Pairwise _ run))

/-- The first renewal drops the tag `A`, the second one gives its id to the tag `C`. -/
theorem not_idsKeepTags_reissued :
    IdsDetermineTags [⟨"sub-1", "A", ""⟩] ∧
      ¬IdsKeepTags (renewals { id := "sub", proxies := [⟨"sub-1", "A", ""⟩] }
        [[.object [("tag", .string "B")]],
          [.object [("tag", .string "B")], .object [("tag", .string "C")]]]) := by
  decide +kernel

/-- No id stands for another tag as long as it stays in the index: in a stretch of a run where
every index has an id, all entries with the id have the same tag. -/
def StayingIdsKeepTags (run : List Subscription) : Prop :=
  ∀ stretch, stretch <:+: run → ∀ id, (∀ state ∈ stretch, state.hasId id = true) →
    ∀ earlier ∈ stretch, ∀ later ∈ stretch, ∀ old ∈ earlier.proxies, ∀ new ∈ later.proxies,
      old.id = id → new.id = id → new.tag = old.tag

theorem renewals_cons (subscription : Subscription) (proxies : List Json.Value)
    (lists : List (List Json.Value)) :
    renewals subscription (proxies :: lists) =
      subscription :: renewals (subscription.refreshIndex proxies) lists :=
  List.scanl_cons

/-- A stretch from the start of a run on begins with the start. -/
theorem eq_start_of_begins {subscription first : Subscription} {lists : List (List Json.Value)}
    {rest : List Subscription} (begins : first :: rest <+: renewals subscription lists) :
    first = subscription := by
  cases lists with
  | nil => exact (List.cons_prefix_cons.mp begins).1
  | cons proxies lists =>
    rw [renewals_cons] at begins
    exact (List.cons_prefix_cons.mp begins).1

/-- A stretch from the start of a run on keeps the tag that an id has at the start. -/
theorem tag_of_stays {subscription : Subscription} {lists : List (List Json.Value)}
    (determined : IdsDetermineTags subscription.proxies) {start : ProxyIndex}
    (present : start ∈ subscription.proxies) {stretch : List Subscription}
    (begins : stretch <+: renewals subscription lists)
    (stays : ∀ state ∈ stretch, state.hasId start.id = true) :
    ∀ state ∈ stretch, ∀ entry ∈ state.proxies, entry.id = start.id → entry.tag = start.tag := by
  induction lists generalizing subscription start stretch with
  | nil =>
    intro state among entry one same
    obtain rfl : state = subscription := List.mem_singleton.mp (begins.subset among)
    exact determined entry one start present same
  | cons proxies lists inductionHypothesis =>
    intro state among entry one same
    rw [renewals_cons] at begins
    obtain _ | ⟨first, later⟩ := stretch
    · exact absurd among List.not_mem_nil
    obtain ⟨rfl, follows⟩ := List.cons_prefix_cons.mp begins
    rcases List.mem_cons.mp among with rfl | among
    · exact determined entry one start present same
    -- The id is in the next index too, so that index can be taken as the start.
    obtain _ | ⟨next, others⟩ := later
    · exact absurd among List.not_mem_nil
    obtain rfl := eq_start_of_begins follows
    have remains : ∀ other ∈ first.refreshIndex proxies :: others,
        other.hasId start.id = true :=
      fun other one => stays other (List.mem_cons_of_mem _ one)
    obtain ⟨second, kept, shared⟩ := List.mem_map.mp
      ((hasId_iff _ _).mp (remains _ List.mem_cons_self))
    rw [← shared] at remains same
    calc entry.tag
        = second.tag := inductionHypothesis (idsDetermineTags_refreshIndex determined) kept
          follows remains state among entry one same
      _ = start.tag := tag_refreshIndex determined present kept shared

/-- Every stretch of a run begins some run, again from an index whose ids determine their tags. -/
theorem begins_of_part {subscription : Subscription} {lists : List (List Json.Value)}
    (determined : IdsDetermineTags subscription.proxies) {stretch : List Subscription}
    (part : stretch <:+: renewals subscription lists) :
    ∃ start later, IdsDetermineTags start.proxies ∧ stretch <+: renewals start later := by
  induction lists generalizing subscription with
  | nil =>
    rcases List.infix_cons_iff.mp part with begins | inside
    · exact ⟨subscription, [], determined, begins⟩
    · rw [List.infix_nil.mp inside]
      exact ⟨subscription, [], determined, List.nil_prefix⟩
  | cons proxies lists inductionHypothesis =>
    rw [renewals_cons] at part
    rcases List.infix_cons_iff.mp part with begins | inside
    · exact ⟨subscription, proxies :: lists, determined, by rwa [renewals_cons]⟩
    · exact inductionHypothesis (idsDetermineTags_refreshIndex determined) inside

/-- From an index whose ids determine their tags on, an id stands for one tag as long as it stays
in the index, however often the index is renewed. -/
theorem stayingIdsKeepTags_renewals {subscription : Subscription}
    (determined : IdsDetermineTags subscription.proxies) (lists : List (List Json.Value)) :
    StayingIdsKeepTags (renewals subscription lists) := by
  intro stretch part id stays earlier one later other old before new after stood stands
  obtain ⟨start, lists, determined, begins⟩ := begins_of_part determined part
  obtain _ | ⟨first, rest⟩ := stretch
  · exact absurd one List.not_mem_nil
  obtain rfl := eq_start_of_begins begins
  obtain ⟨entry, present, rfl⟩ := List.mem_map.mp
    ((hasId_iff _ _).mp (stays first List.mem_cons_self))
  have keeps := tag_of_stays determined present begins stays
  calc new.tag
      = entry.tag := keeps later other new after stands
    _ = old.tag := (keeps earlier one old before stood).symm

/-- The tag `A` stays, `B` comes and goes. -/
theorem stayingIdsKeepTags_renewals_passing :
    IdsDetermineTags [⟨"sub-1", "A", ""⟩] ∧
      StayingIdsKeepTags (renewals { id := "sub", proxies := [⟨"sub-1", "A", ""⟩] }
        [[.object [("tag", .string "B")], .object [("tag", .string "A")]],
          [.object [("tag", .string "A")]]]) :=
  have determined : IdsDetermineTags [⟨"sub-1", "A", ""⟩] := by decide
  ⟨determined, stayingIdsKeepTags_renewals determined _⟩

end ProxyProfile.Subscription
