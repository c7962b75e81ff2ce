/-
This file proves that the search for new ids ends, and says which numbers it finds.

A renewal counts up and tries one number after the other; nothing in the search
itself says that some number is free. So it is taken apart into turns here. A turn
gives a proxy its entry or passes over a taken id, and an id that is passed over is
an old one: the ids given out so far have smaller numbers, and numbers tell ids
apart. Every turn thus uses up a proxy or an old id. There are not more turns than
that, and as a turn counts up by one at most, no number gets beyond that either.

What the turns lead to is the renewed index. The numbers in it can be read off one
after the other: each is the least one behind the number before it whose id is not
an old one.
-/

import Mathlib.Data.Finset.Card
import Mathlib.Data.List.Chain
import Mathlib.Order.Bounds.Basic
import ProxyProfile.Proofs.Renewing

namespace ProxyProfile.Subscription

/-! ### The next number -/

/-- The ids in the index, each once. -/
def knownIds (subscription : Subscription) : Finset String :=
  (subscription.proxies.map ProxyIndex.id).toFinset

theorem not_mem_knownIds_iff (subscription : Subscription) (id : String) :
    id ∉ subscription.knownIds ↔ subscription.hasId id = false := by
  rw [not_hasId_iff, knownIds, List.mem_toFinset]

/-- A number comes next behind another one: it is the least greater one whose id is not in the
index. -/
def NextFree (subscription : Subscription) (last number : Nat) : Prop :=
  IsLeast {later | last < later ∧ subscription.numberedId later ∉ subscription.knownIds} number

section Numbers

variable (before : Subscription)

/-- A search does not go beyond a number whose id is not in the index. -/
theorem freshNumber_le (fuel : Nat) {number later : Nat} (behind : number ≤ later)
    (free : before.hasId (before.numberedId later) = false) :
    before.freshNumber fuel number ≤ later := by
  induction fuel generalizing number with
  | zero => exact behind
  | succ fuel inductionHypothesis =>
    unfold freshNumber
    split
    · rename_i taken
      refine inductionHypothesis (Nat.lt_of_le_of_ne behind ?_)
      rintro rfl
      rw [taken] at free
      cases free
    · exact behind

/-- The search finds the number that comes next. -/
theorem nextFree_freshNumber (last : Nat) :
    before.NextFree last (before.freshNumber before.proxies.length (last + 1)) := by
  obtain ⟨beyond, free⟩ := before.freshNumber_free before.proxies.length (last + 1)
    (before.exists_fresh (last + 1))
  refine ⟨⟨beyond, (before.not_mem_knownIds_iff _).mpr free⟩, fun later ⟨greater, untaken⟩ => ?_⟩
  exact before.freshNumber_le _ greater ((before.not_mem_knownIds_iff _).mp untaken)

variable {before}

theorem nextFree_succ {last : Nat} (free : before.numberedId (last + 1) ∉ before.knownIds) :
    before.NextFree last (last + 1) :=
  ⟨⟨Nat.lt_succ_self last, free⟩, fun _ ⟨greater, _⟩ => greater⟩

/-- A number whose id is taken can be passed over. -/
theorem NextFree.passes {last number : Nat} (next : before.NextFree (last + 1) number)
    (taken : before.numberedId (last + 1) ∈ before.knownIds) : before.NextFree last number := by
  obtain ⟨⟨beyond, free⟩, least⟩ := next
  refine ⟨⟨Nat.lt_of_succ_lt beyond, free⟩, fun later ⟨greater, untaken⟩ => ?_⟩
  refine least ⟨Nat.lt_of_le_of_ne greater ?_, untaken⟩
  rintro rfl
  exact untaken taken

end Numbers

/-! ### Entries -/

/-- The entry of a proxy that gets an id. -/
def entryOf (id : String) (proxy : Json.Value) : ProxyIndex :=
  ⟨id, proxy.textAt "tag", proxy.textAt "type"⟩

/-- The ids in some index that stand for a tag which the index before it does not have. -/
def newIds (before : Subscription) (index : List ProxyIndex) : List String :=
  (index.filter fun entry => entry.tag ∉ before.proxies.map ProxyIndex.tag).map ProxyIndex.id

section Entries

variable {before : Subscription} {proxy : Json.Value}

theorem indexFrom_known {id : String} (known : before.idOf? (proxy.textAt "tag") = some id)
    (last : Nat) (rest : List Json.Value) :
    before.indexFrom last (proxy :: rest) = entryOf id proxy :: before.indexFrom last rest := by
  simp only [indexFrom, known]
  rfl

theorem indexFrom_new {last number : Nat} (unknown : before.idOf? (proxy.textAt "tag") = none)
    (next : before.NextFree last number) (rest : List Json.Value) :
    before.indexFrom last (proxy :: rest) =
      entryOf (before.numberedId number) proxy :: before.indexFrom number rest := by
  obtain rfl := next.unique (before.nextFree_freshNumber last)
  simp only [indexFrom, unknown]
  rfl

theorem newIds_append (first second : List ProxyIndex) :
    before.newIds (first ++ second) = before.newIds first ++ before.newIds second := by
  simp only [newIds, List.filter_append, List.map_append]

theorem newIds_cons_known {id : String} (known : before.idOf? (proxy.textAt "tag") = some id)
    (index : List ProxyIndex) :
    before.newIds (entryOf id proxy :: index) = before.newIds index := by
  have listed : proxy.textAt "tag" ∈ before.proxies.map ProxyIndex.tag := by
    by_contra absent
    rw [(before.idOf?_eq_none_iff _).mpr absent] at known
    cases known
  rw [newIds, List.filter_cons_of_neg (by simpa [entryOf] using listed), newIds]

theorem newIds_cons_new (unknown : before.idOf? (proxy.textAt "tag") = none) (id : String)
    (index : List ProxyIndex) :
    before.newIds (entryOf id proxy :: index) = id :: before.newIds index := by
  have absent := (before.idOf?_eq_none_iff _).mp unknown
  rw [newIds, List.filter_cons_of_pos (by simpa [entryOf] using absent), List.map_cons, newIds]
  rfl

theorem newIds_concat_known {id : String} (known : before.idOf? (proxy.textAt "tag") = some id)
    (index : List ProxyIndex) :
    before.newIds (index ++ [entryOf id proxy]) = before.newIds index := by
  rw [newIds_append, newIds_cons_known known]
  exact List.append_nil _

theorem newIds_concat_new (unknown : before.idOf? (proxy.textAt "tag") = none) (id : String)
    (index : List ProxyIndex) :
    before.newIds (index ++ [entryOf id proxy]) = before.newIds index ++ [id] := by
  rw [newIds_append, newIds_cons_new unknown]
  rfl

/-- The new ids of an index have numbers of which each comes next behind the one before it. -/
theorem exists_numbers (before : Subscription) (last : Nat) (proxies : List Json.Value) :
    ∃ numbers, before.newIds (before.indexFrom last proxies) = numbers.map before.numberedId ∧
      (last :: numbers).IsChain before.NextFree := by
  induction proxies generalizing last with
  | nil => exact ⟨[], rfl, List.IsChain.singleton last⟩
  | cons proxy rest inductionHypothesis =>
    cases found : before.idOf? (proxy.textAt "tag") with
    | some id =>
      rw [indexFrom_known found, newIds_cons_known found]
      exact inductionHypothesis last
    | none =>
      have next := before.nextFree_freshNumber last
      obtain ⟨numbers, ids, chain⟩ := inductionHypothesis
        (before.freshNumber before.proxies.length (last + 1))
      refine ⟨_ :: numbers, ?_, List.isChain_cons_cons.mpr ⟨next, chain⟩⟩
      rw [indexFrom_new found next, newIds_cons_new found, ids, List.map_cons]

end Entries

/-! ### Turns -/

/-- A renewal under way. -/
structure Renewal where
  /-- The ids that must not be given out: the old ones and those given out so far. -/
  used : Finset String
  /-- The number that was tried last. -/
  counter : Nat
  /-- The entries so far. -/
  index : List ProxyIndex
  /-- The proxies that have no entry yet. -/
  waiting : List Json.Value

namespace Renewal

/-- A renewal at its start. -/
def start (before : Subscription) (proxies : List Json.Value) : Renewal :=
  ⟨before.knownIds, 0, [], proxies⟩

/-- One turn: the first proxy gets the id of its tag, or the next number is tried for it. There is
none when all proxies have their entries. -/
def next? (before : Subscription) (renewal : Renewal) : Option Renewal :=
  match renewal.waiting with
  | [] => none
  | proxy :: rest =>
    match before.idOf? (proxy.textAt "tag") with
    | some id =>
      some { renewal with index := renewal.index ++ [entryOf id proxy], waiting := rest }
    | none =>
      let candidate := before.numberedId (renewal.counter + 1)
      if candidate ∈ renewal.used then
        some { renewal with counter := renewal.counter + 1 }
      else
        some {
          used := insert candidate renewal.used
          counter := renewal.counter + 1
          index := renewal.index ++ [entryOf candidate proxy]
          waiting := rest }

/-- Where a renewal stands a number of turns later, if it goes on for so long. -/
def after? (before : Subscription) : Nat → Renewal → Option Renewal
  | 0, renewal => some renewal
  | turns + 1, renewal => (renewal.next? before).bind (after? before turns)

variable {before : Subscription} {proxies : List Json.Value} {renewal next : Renewal}

theorem waiting_of_ended (ended : renewal.next? before = none) : renewal.waiting = [] := by
  unfold next? at ended
  split at ended
  · assumption
  · split at ended
    · cases ended
    · dsimp only at ended
      split at ended <;> cases ended

/-- A turn keeps a known id, passes over a taken one or gives out a new one. -/
theorem next?_cases (turn : renewal.next? before = some next) :
    ∃ proxy rest, renewal.waiting = proxy :: rest ∧
      ((∃ id, before.idOf? (proxy.textAt "tag") = some id ∧
          next = ⟨renewal.used, renewal.counter, renewal.index ++ [entryOf id proxy], rest⟩) ∨
        before.idOf? (proxy.textAt "tag") = none ∧
          ((before.numberedId (renewal.counter + 1) ∈ renewal.used ∧
              next = { renewal with counter := renewal.counter + 1 }) ∨
            before.numberedId (renewal.counter + 1) ∉ renewal.used ∧
              next = ⟨insert (before.numberedId (renewal.counter + 1)) renewal.used,
                renewal.counter + 1,
                renewal.index ++ [entryOf (before.numberedId (renewal.counter + 1)) proxy],
                rest⟩)) := by
  unfold next? at turn
  split at turn
  · cases turn
  · rename_i proxy rest waits
    refine ⟨proxy, rest, waits, ?_⟩
    split at turn
    · rename_i id known
      exact Or.inl ⟨id, known, (Option.some.inj turn).symm⟩
    · rename_i unknown
      refine Or.inr ⟨unknown, ?_⟩
      dsimp only at turn
      split at turn
      · rename_i taken
        exact Or.inl ⟨taken, (Option.some.inj turn).symm⟩
      · rename_i free
        exact Or.inr ⟨free, (Option.some.inj turn).symm⟩

/-! ### What is left to do -/

/-- The ids that were tried when a counter has some value. -/
def triedIds (before : Subscription) (counter : Nat) : Finset String :=
  (Finset.range counter).image fun steps => before.numberedId (steps + 1)

theorem triedIds_succ (before : Subscription) (counter : Nat) :
    triedIds before (counter + 1) =
      insert (before.numberedId (counter + 1)) (triedIds before counter) := by
  rw [triedIds, Finset.range_add_one, Finset.image_insert, triedIds]

/-- Numbers tell ids apart, so no id is tried that has a greater number. -/
theorem le_of_mem_triedIds {counter number : Nat}
    (tried : before.numberedId number ∈ triedIds before counter) : number ≤ counter := by
  obtain ⟨steps, among, same⟩ := Finset.mem_image.mp tried
  rw [← before.numberedId_injective same]
  exact Finset.mem_range.mp among

theorem not_mem_triedIds (before : Subscription) (counter : Nat) :
    before.numberedId (counter + 1) ∉ triedIds before counter :=
  fun tried => Nat.not_succ_le_self counter (le_of_mem_triedIds tried)

/-- What turns can use up: old ids that were not tried, and proxies without an entry. -/
def remaining (before : Subscription) (renewal : Renewal) : Nat :=
  (before.knownIds \ triedIds before renewal.counter).card + renewal.waiting.length

theorem remaining_start (before : Subscription) (proxies : List Json.Value) :
    (start before proxies).remaining before = before.knownIds.card + proxies.length := by
  rw [remaining, start, triedIds, Finset.range_zero, Finset.image_empty, Finset.sdiff_empty]

/-! ### What stays true -/

/-- What holds of a renewal at any time. -/
structure Sound (before : Subscription) (proxies : List Json.Value) (renewal : Renewal) : Prop where
  /-- The entries so far and those of the proxies that wait make up the renewed index. -/
  completes : renewal.index ++ before.indexFrom renewal.counter renewal.waiting =
    before.indexFrom 0 proxies
  /-- Used are the old ids and the new ones. -/
  uses : renewal.used = before.knownIds ∪ (before.newIds renewal.index).toFinset
  /-- The new ids were tried. -/
  tried : ∀ id ∈ before.newIds renewal.index, id ∈ triedIds before renewal.counter
  /-- The counter and what is left go up to what there was at the start. -/
  spent : renewal.counter + renewal.remaining before ≤ before.knownIds.card + proxies.length

theorem sound_start (before : Subscription) (proxies : List Json.Value) :
    (start before proxies).Sound before proxies where
  completes := rfl
  uses := (Finset.union_empty _).symm
  tried _ among := absurd among List.not_mem_nil
  spent := by rw [remaining_start, start, Nat.zero_add]

/-- The next id is used exactly if it is an old one. -/
theorem Sound.mem_used_iff (sound : renewal.Sound before proxies) :
    before.numberedId (renewal.counter + 1) ∈ renewal.used ↔
      before.numberedId (renewal.counter + 1) ∈ before.knownIds := by
  rw [sound.uses, Finset.mem_union, List.mem_toFinset]
  exact or_iff_left fun given => not_mem_triedIds before renewal.counter (sound.tried _ given)

/-- A turn uses up a proxy or an old id. -/
theorem Sound.remaining_lt (sound : renewal.Sound before proxies)
    (turn : renewal.next? before = some next) :
    next.remaining before < renewal.remaining before := by
  obtain ⟨proxy, rest, waits, ⟨id, _, rfl⟩ | ⟨_, ⟨taken, rfl⟩ | ⟨_, rfl⟩⟩⟩ := next?_cases turn
  · simp only [remaining, waits, List.length_cons]
    omega
  · have old : before.numberedId (renewal.counter + 1) ∈
        before.knownIds \ triedIds before renewal.counter :=
      Finset.mem_sdiff.mpr ⟨sound.mem_used_iff.mp taken, not_mem_triedIds before renewal.counter⟩
    simp only [remaining, triedIds_succ, Finset.sdiff_insert]
    exact Nat.add_lt_add_right (Finset.card_erase_lt_of_mem old) _
  · simp only [remaining, triedIds_succ, Finset.sdiff_insert, waits, List.length_cons]
    exact Nat.lt_succ_of_le (Nat.add_le_add_right Finset.card_erase_le _)

theorem counter_le (turn : renewal.next? before = some next) :
    next.counter ≤ renewal.counter + 1 := by
  obtain ⟨_, _, _, ⟨_, _, rfl⟩ | ⟨_, ⟨_, rfl⟩ | ⟨_, rfl⟩⟩⟩ := next?_cases turn
  · exact Nat.le_succ _
  · exact Nat.le_refl _
  · exact Nat.le_refl _

/-- What a turn uses up makes up for the number that it tries. -/
theorem Sound.spent_turn (sound : renewal.Sound before proxies)
    (turn : renewal.next? before = some next) :
    next.counter + next.remaining before ≤ before.knownIds.card + proxies.length := by
  have fewer := sound.remaining_lt turn
  have small := counter_le turn
  have spent := sound.spent
  omega

/-- A turn leaves all of it true. -/
theorem Sound.turn (sound : renewal.Sound before proxies)
    (turn : renewal.next? before = some next) : next.Sound before proxies := by
  have spent := sound.spent_turn turn
  have old := sound.mem_used_iff
  obtain ⟨completes, uses, tried, _⟩ := sound
  obtain ⟨proxy, rest, waits, ⟨id, known, rfl⟩ | ⟨unknown, ⟨taken, rfl⟩ | ⟨free, rfl⟩⟩⟩ :=
    next?_cases turn
  · refine ⟨?_, ?_, ?_, spent⟩
    · rw [← completes, waits, indexFrom_known known, List.append_assoc, List.singleton_append]
    · rw [newIds_concat_known known, uses]
    · rw [newIds_concat_known known]
      exact tried
  · -- The number that comes next stays the same, and so do the entries to come.
    have later := before.nextFree_freshNumber (renewal.counter + 1)
    have passes := later.passes (old.mp taken)
    refine ⟨?_, uses, fun id among => ?_, spent⟩
    · rw [← completes, waits, indexFrom_new unknown later, indexFrom_new unknown passes]
    · rw [triedIds_succ]
      exact Finset.mem_insert_of_mem (tried id among)
  · have comes := nextFree_succ (mt old.mpr free)
    refine ⟨?_, ?_, fun id among => ?_, spent⟩
    · rw [← completes, waits, indexFrom_new unknown comes, List.append_assoc,
        List.singleton_append]
    · rw [newIds_concat_new unknown, List.toFinset_append, ← Finset.union_assoc, ← uses,
        Finset.insert_eq, Finset.union_comm]
      rfl
    · rw [newIds_concat_new unknown] at among
      rw [triedIds_succ, Finset.mem_insert]
      exact (List.mem_append.mp among).symm.imp List.mem_singleton.mp (tried id)

/-- A number that was given out is not greater than the old ids and the proxies are many. -/
theorem Sound.number_le (sound : renewal.Sound before proxies) {number : Nat}
    (given : before.numberedId number ∈ before.newIds renewal.index) :
    number ≤ before.knownIds.card + proxies.length :=
  calc number
      ≤ renewal.counter := le_of_mem_triedIds (sound.tried _ given)
    _ ≤ renewal.counter + renewal.remaining before := Nat.le_add_right _ _
    _ ≤ before.knownIds.card + proxies.length := sound.spent

/-- At the end the entries are those of the renewed index. -/
theorem Sound.index_eq (sound : renewal.Sound before proxies)
    (ended : renewal.next? before = none) : renewal.index = before.indexFrom 0 proxies := by
  rw [← sound.completes, waiting_of_ended ended]
  exact (List.append_nil _).symm

/-- A renewal comes to its end, with no more turns than there is left to use up. -/
theorem Sound.exists_end (sound : renewal.Sound before proxies) :
    ∃ turns ≤ renewal.remaining before, ∃ last, after? before turns renewal = some last ∧
      last.next? before = none ∧ last.Sound before proxies := by
  induction left : renewal.remaining before using Nat.strongRecOn generalizing renewal with
  | ind left inductionHypothesis =>
    cases turn : renewal.next? before with
    | none => exact ⟨0, Nat.zero_le _, renewal, rfl, turn, sound⟩
    | some next =>
      have fewer := sound.remaining_lt turn
      obtain ⟨turns, bound, last, run, ended, kept⟩ :=
        inductionHypothesis _ (left ▸ fewer) (sound.turn turn) rfl
      refine ⟨turns + 1, by omega, last, ?_, ended, kept⟩
      rw [after?, turn, Option.bind_some, run]

end Renewal

/-! ### The end of the search -/

/-- A renewal ends after some turns, with some numbers given out. -/
structure Finishes (before : Subscription) (proxies : List Json.Value) (turns : Nat)
    (last : Renewal) (numbers : List Nat) : Prop where
  /-- So many turns lead there, and there is no further one. -/
  reached : Renewal.after? before turns (Renewal.start before proxies) = some last
  ended : last.next? before = none
  /-- Turns are not more than there are old ids and proxies. -/
  soon : turns ≤ before.knownIds.card + proxies.length
  /-- The entries at the end are the renewed index. -/
  renewed : before.refreshIndex proxies = { before with proxies := last.index }
  /-- The ids given out are the id of the subscription, a dash and a number. -/
  ids : before.newIds last.index = numbers.map fun number =>
    before.id ++ "-" ++ Decimal.text number
  /-- They are used at the end, together with the old ids, and nothing else is. -/
  issued : last.used = before.knownIds ∪ (before.newIds last.index).toFinset
  positive : ∀ number ∈ numbers, 0 < number
  increasing : numbers.Pairwise (· < ·)
  /-- No number is greater than the old ids and the proxies are many. -/
  bounded : ∀ number ∈ numbers, number ≤ before.knownIds.card + proxies.length
  /-- Each is the least one behind the one before it whose id is not an old one. -/
  least : (0 :: numbers).IsChain before.NextFree

/-- Every renewal ends, whatever the index and the proxies are. -/
theorem exists_finishes (before : Subscription) (proxies : List Json.Value) :
    ∃ turns last numbers, Finishes before proxies turns last numbers := by
  obtain ⟨turns, soon, last, reached, ended, sound⟩ :=
    (Renewal.sound_start before proxies).exists_end
  obtain ⟨numbers, ids, chain⟩ := before.exists_numbers 0 proxies
  have complete := sound.index_eq ended
  rw [← complete] at ids
  have ordered : (0 :: numbers).Pairwise (· < ·) :=
    List.isChain_iff_pairwise.mp (chain.imp fun _ _ next => next.1.1)
  obtain ⟨positive, increasing⟩ := List.pairwise_cons.mp ordered
  refine ⟨turns, last, numbers, reached, ended, ?_, ?_, ids, sound.uses, positive, increasing,
    fun number among => ?_, chain⟩
  · rwa [Renewal.remaining_start] at soon
  · rw [refreshIndex, complete]
  · exact sound.number_le (ids ▸ List.mem_map_of_mem among)

/-- The tag `A` is known by the id that the second number has, so `C` gets the third one. -/
example :
    (Renewal.after? { id := "sub", proxies := [⟨"sub-2", "A", ""⟩] } 4
      (Renewal.start { id := "sub", proxies := [⟨"sub-2", "A", ""⟩] }
        (["B", "A", "C"].map fun tag => .object [("tag", .string tag)]))).map
        (fun renewal => renewal.index.map ProxyIndex.id) =
      some ["sub-1", "sub-2", "sub-3"] := by
  decide +kernel

end ProxyProfile.Subscription
