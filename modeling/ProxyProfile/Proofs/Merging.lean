/-
This file proves what a merge makes of two documents.

An object is told by its keys, in order, and by the value at each key. A merge
keeps the keys of the target and puts the new ones of the source behind them; at
a key of the source it merges the two values, and at any other key nothing
happens. Merging a document into itself changes nothing, and so does merging the
same document a second time, into the result or under it. Arrays are replaced as
a whole, so the induction goes down through objects only.
-/

import ProxyProfile.Proofs.Distinctness
import ProxyProfile.Proofs.Writing

namespace ProxyProfile

namespace Json

/-! ### Induction through objects -/

/-- What holds of every value that is no object, and of an object if it holds of the values of
its members, holds of every value. -/
@[elab_as_elim]
theorem Value.objectInduction {motive : Value → Prop}
    (flat : ∀ value, value.object? = none → motive value)
    (object : ∀ members, (∀ member ∈ members, motive member.2) → motive (.object members))
    (value : Value) : motive value := by
  match value with
  | .null => exact flat .null rfl
  | .bool flag => exact flat (.bool flag) rfl
  | .number amount => exact flat (.number amount) rfl
  | .string text => exact flat (.string text) rfl
  | .array items => exact flat (.array items) rfl
  | .object members =>
    refine object members fun member among => ?_
    have smaller : sizeOf member.2 < sizeOf (Value.object members) := by
      have inside := List.sizeOf_lt_of_mem among
      obtain ⟨name, inner⟩ := member
      rw [Prod.mk.sizeOf_spec] at inside
      rw [Value.object.sizeOf_spec]
      dsimp only
      omega
    exact objectInduction flat object member.2
termination_by sizeOf value
decreasing_by exact smaller

/-! ### Keys and values -/

namespace Object

theorem keys_cons (member : String × Value) (rest : Object) :
    keys (member :: rest) = member.1 :: keys rest :=
  rfl

theorem distinct_cons (member : String × Value) (rest : Object) :
    Distinct (member :: rest) ↔ member.1 ∉ keys rest ∧ Distinct rest :=
  List.nodup_cons

theorem get?_eq_none_iff (object : Object) (key : String) :
    object.get? key = none ↔ key ∉ object.keys := by
  induction object with
  | nil => simp [get?, keys]
  | cons member rest inductionHypothesis =>
    obtain ⟨name, value⟩ := member
    by_cases same : name = key
    · simp [get?, keys, same]
    · have other : key ≠ name := Ne.symm same
      simp only [keys] at inductionHypothesis
      simp [get?, keys, same, other, inductionHypothesis]

theorem mem_of_get? {object : Object} {key : String} {value : Value}
    (found : object.get? key = some value) : (key, value) ∈ object := by
  induction object with
  | nil => cases found
  | cons member rest inductionHypothesis =>
    obtain ⟨name, first⟩ := member
    by_cases same : name = key
    · rw [get?, if_pos same] at found
      cases found
      rw [same]
      exact List.mem_cons_self
    · rw [get?, if_neg same] at found
      exact List.mem_cons_of_mem _ (inductionHypothesis found)

theorem get?_of_mem {object : Object} (distinct : object.Distinct) {key : String} {value : Value}
    (among : (key, value) ∈ object) : object.get? key = some value := by
  induction object with
  | nil => exact absurd among List.not_mem_nil
  | cons member rest inductionHypothesis =>
    obtain ⟨name, first⟩ := member
    obtain ⟨fresh, distinct⟩ := (distinct_cons _ _).mp distinct
    rcases List.mem_cons.mp among with equal | later
    · cases equal
      rw [get?, if_pos rfl]
    · have other : name ≠ key := by
        rintro rfl
        exact fresh (List.mem_map.mpr ⟨_, later, rfl⟩)
      rw [get?, if_neg other]
      exact inductionHypothesis distinct later

/-- Writing what stands at a key already changes nothing. -/
theorem insert_of_get? {object : Object} {key : String} {value : Value}
    (found : object.get? key = some value) : object.insert key value = object := by
  induction object with
  | nil => cases found
  | cons member rest inductionHypothesis =>
    obtain ⟨name, first⟩ := member
    by_cases same : name = key
    · rw [get?, if_pos same] at found
      cases found
      rw [insert, if_pos same]
    · rw [get?, if_neg same] at found
      rw [insert, if_neg same, inductionHypothesis found]

/-- Writing a key first and then the new ones among others is writing the new ones among all. -/
theorem keys_insert_append (object : Object) {key : String} (value : Value) {others : List String}
    (fresh : key ∉ others) :
    ((object.insert key value).keys ++
        others.filter fun other => other ∉ (object.insert key value).keys) =
      object.keys ++ (key :: others).filter fun other => other ∉ object.keys := by
  rw [keys_insert]
  by_cases present : key ∈ object.keys
  · rw [if_pos present, List.filter_cons_of_neg (by simp [present])]
  · have same : (others.filter fun other => other ∉ object.keys ++ [key]) =
        others.filter fun other => other ∉ object.keys := by
      refine List.filter_congr fun other among => ?_
      have differs : other ≠ key := by
        rintro rfl
        exact fresh among
      simp [differs]
    rw [if_neg present, same, List.filter_cons_of_pos (by simp [present]), List.append_assoc,
      List.singleton_append]

/-- Objects without a key that stands twice are equal if they have the same keys in the same
order, and the same value at each. -/
theorem eq_of_get? {first second : Object} (distinct : first.Distinct)
    (sameKeys : first.keys = second.keys) (sameValues : ∀ key, first.get? key = second.get? key) :
    first = second := by
  induction first generalizing second with
  | nil => exact (List.map_eq_nil_iff.mp sameKeys.symm).symm
  | cons member rest inductionHypothesis =>
    obtain ⟨name, value⟩ := member
    cases second with
    | nil => cases sameKeys
    | cons other others =>
      obtain ⟨otherName, otherValue⟩ := other
      obtain ⟨fresh, distinct⟩ := (distinct_cons _ _).mp distinct
      rw [keys_cons, keys_cons] at sameKeys
      obtain ⟨rfl, sameRest⟩ := List.cons.inj sameKeys
      have head : value = otherValue := by
        have values := sameValues name
        rw [get?, if_pos rfl, get?, if_pos rfl] at values
        exact Option.some.inj values
      have tail : rest = others := by
        refine inductionHypothesis distinct sameRest fun key => ?_
        by_cases same : name = key
        · have absent : key ∉ keys others := by
            rw [← same, ← sameRest]
            exact fresh
          rw [(get?_eq_none_iff others key).mpr absent]
          rw [← sameRest] at absent
          exact (get?_eq_none_iff rest key).mpr absent
        · have values := sameValues key
          rwa [get?, if_neg same, get?, if_neg same] at values
      rw [head, tail]

end Object

/-! ### One merge -/

theorem eq_object_of_object? {value : Value} {members : Object}
    (shape : value.object? = some members) : value = .object members := by
  cases value <;> cases shape
  rfl

theorem mergeUnder_of_flat (old : Value) {value : Value} (flat : value.object? = none) :
    mergeUnder old value = value := by
  cases value with
  | object members => cases flat
  | _ => rfl

theorem mergeUnder_object (old : Value) (members : Object) :
    mergeUnder old (.object members) = .object (mergeMembers (old.object?.getD []) members) := by
  rw [mergeUnder]

/-- At a key of the source the two values are merged. -/
theorem get?_mergeMembers (target : Object) {source : Object} (distinct : source.Distinct)
    {key : String} (merged : key ≠ reservedKey) {value : Value}
    (given : source.get? key = some value) :
    (mergeMembers target source).get? key =
      some (mergeUnder ((target.get? key).getD .null) value) := by
  induction source generalizing target with
  | nil => cases given
  | cons member rest inductionHypothesis =>
    obtain ⟨name, first⟩ := member
    obtain ⟨fresh, distinct⟩ := (Object.distinct_cons _ _).mp distinct
    rw [mergeMembers]
    by_cases same : name = key
    · rw [Object.get?, if_pos same] at given
      cases given
      have absent : Object.get? rest key = none := by
        rw [Object.get?_eq_none_iff, ← same]
        exact fresh
      rw [get?_mergeMembers_of_none _ _ absent, same, if_neg merged, Object.get?_insert_self]
    · rw [Object.get?, if_neg same] at given
      rw [inductionHypothesis _ distinct given]
      split
      · rfl
      · rw [Object.get?_insert_of_ne _ _ same]

/-- The key that a merge passes over keeps the value it has in the target. -/
theorem get?_mergeMembers_reserved (target source : Object) :
    (mergeMembers target source).get? reservedKey = target.get? reservedKey := by
  induction source generalizing target with
  | nil => rfl
  | cons member rest inductionHypothesis =>
    obtain ⟨name, first⟩ := member
    rw [mergeMembers, inductionHypothesis]
    split
    · rfl
    · rename_i other
      exact Object.get?_insert_of_ne _ _ other

/-- The keys of the target come first, then those that only the source has. -/
theorem keys_mergeMembers (target : Object) {source : Object} (distinct : source.Distinct) :
    (mergeMembers target source).keys =
      target.keys ++ source.keys.filter fun key => key ≠ reservedKey ∧ key ∉ target.keys := by
  have parts (keys known : List String) :
      (keys.filter fun key => key ≠ reservedKey ∧ key ∉ known) =
        (keys.filter fun key => key ≠ reservedKey).filter fun key => key ∉ known := by
    simp [List.filter_filter, Bool.and_comm]
  induction source generalizing target with
  | nil => simp [mergeMembers, Object.keys]
  | cons member rest inductionHypothesis =>
    obtain ⟨name, first⟩ := member
    obtain ⟨fresh, distinct⟩ := (Object.distinct_cons _ _).mp distinct
    rw [mergeMembers, inductionHypothesis _ distinct, Object.keys_cons, parts, parts]
    by_cases reserved : name = reservedKey
    · rw [if_pos reserved, List.filter_cons_of_neg (by simp [reserved])]
    · have fresh : name ∉ (Object.keys rest).filter fun key => key ≠ reservedKey := by
        simp [fresh]
      rw [if_neg reserved, List.filter_cons_of_pos (by simp [reserved]),
        Object.keys_insert_append target _ fresh]

theorem distinct_mergeMembers {target : Object} (distinct : target.Distinct) (source : Object) :
    (mergeMembers target source).Distinct := by
  induction source generalizing target with
  | nil => exact distinct
  | cons member rest inductionHypothesis =>
    obtain ⟨name, first⟩ := member
    rw [mergeMembers]
    split
    · exact inductionHypothesis distinct
    · exact inductionHypothesis (distinct.insert _ _)

/-- A merge of the result of a merge has no keys to bring. -/
theorem keys_mergeMembers_result {target members : Object} (distinctTarget : target.Distinct)
    (distinct : members.Distinct) :
    (mergeMembers target (mergeMembers target members)).keys =
      (mergeMembers target members).keys := by
  have known : (target.keys.filter fun key => key ≠ reservedKey ∧ key ∉ target.keys) = [] := by
    refine List.filter_eq_nil_iff.mpr fun key among => ?_
    simp [among]
  rw [keys_mergeMembers target (distinct_mergeMembers distinctTarget members),
    keys_mergeMembers target distinct, List.filter_append, known, List.nil_append,
    List.filter_filter]
  simp only [Bool.and_self]

/-- A merge changes nothing if everything it brings is there already. -/
theorem mergeMembers_of_absorbed {object members : Object}
    (absorbed : ∀ key value, (key, value) ∈ members → key ≠ reservedKey →
      ∃ old, object.get? key = some old ∧ mergeUnder old value = old) :
    mergeMembers object members = object := by
  induction members with
  | nil => rfl
  | cons member rest inductionHypothesis =>
    obtain ⟨name, first⟩ := member
    have kept : (if name = reservedKey then object
        else object.insert name (mergeUnder ((object.get? name).getD .null) first)) = object := by
      split
      · rfl
      · rename_i merged
        obtain ⟨old, found, same⟩ := absorbed name first List.mem_cons_self merged
        rw [found, Option.getD_some, same]
        exact Object.insert_of_get? found
    rw [mergeMembers, kept]
    exact inductionHypothesis fun key value among =>
      absorbed key value (List.mem_cons_of_mem _ among)

/-! ### Merging again -/

/-- Merging a document into itself changes nothing. -/
theorem mergeUnder_self (value : Value) (distinct : value.hasDistinctKeys) :
    mergeUnder value value = value := by
  induction value using Value.objectInduction with
  | flat value flat => exact mergeUnder_of_flat value flat
  | object members inductionHypothesis =>
    obtain ⟨distinct, inner⟩ := (hasDistinctKeys_object members).mp distinct
    rw [mergeUnder_object]
    refine congrArg Value.object (mergeMembers_of_absorbed fun key value among merged => ?_)
    exact ⟨value, Object.get?_of_mem distinct among,
      inductionHypothesis _ among (inner _ among)⟩

/-- Merging a document a second time into the result changes nothing. -/
theorem mergeUnder_twice (old new : Value) (distinct : new.hasDistinctKeys) :
    mergeUnder (mergeUnder old new) new = mergeUnder old new := by
  induction new using Value.objectInduction generalizing old with
  | flat value flat => rw [mergeUnder_of_flat _ flat, mergeUnder_of_flat _ flat]
  | object members inductionHypothesis =>
    obtain ⟨distinct, inner⟩ := (hasDistinctKeys_object members).mp distinct
    rw [mergeUnder_object, mergeUnder_object]
    refine congrArg Value.object (mergeMembers_of_absorbed fun key value among merged => ?_)
    have given := Object.get?_of_mem distinct among
    exact ⟨_, get?_mergeMembers _ distinct merged given,
      inductionHypothesis _ among _ (inner _ among)⟩

/-- The members of an object value have distinct keys if the value has; any other value has no
members. -/
theorem hasDistinctKeys_members {value : Value} (distinct : value.hasDistinctKeys) :
    (Value.object (value.object?.getD [])).hasDistinctKeys := by
  cases value with
  | object members => exact distinct
  | _ => rfl

theorem hasDistinctKeys_get? {target : Object} (distinct : (Value.object target).hasDistinctKeys)
    (key : String) : ((target.get? key).getD .null).hasDistinctKeys := by
  cases found : target.get? key with
  | none => rfl
  | some value =>
    exact ((hasDistinctKeys_object target).mp distinct).2 _ (Object.mem_of_get? found)

/-- A value of a result stands over what the target has at its key: it is the target's own, or it
comes from a merge over it. -/
theorem mergeUnder_value {target members : Object}
    (distinctTarget : (Value.object target).hasDistinctKeys) (distinct : members.Distinct)
    (again : ∀ member ∈ members, ∀ old : Value, old.hasDistinctKeys →
      mergeUnder old (mergeUnder old member.2) = mergeUnder old member.2)
    {key : String} (merged : key ≠ reservedKey) {value : Value}
    (given : (mergeMembers target members).get? key = some value) :
    mergeUnder ((target.get? key).getD .null) value = value := by
  have inner := hasDistinctKeys_get? distinctTarget key
  cases brought : members.get? key with
  | none =>
    rw [get?_mergeMembers_of_none target members brought] at given
    rw [given, Option.getD_some] at inner ⊢
    exact mergeUnder_self value inner
  | some new =>
    rw [get?_mergeMembers target distinct merged brought] at given
    cases given
    exact again _ (Object.mem_of_get? brought) _ inner

/-- Merging the result over the same target again changes nothing. -/
theorem mergeUnder_result (old new : Value) (distinctOld : old.hasDistinctKeys)
    (distinctNew : new.hasDistinctKeys) :
    mergeUnder old (mergeUnder old new) = mergeUnder old new := by
  induction new using Value.objectInduction generalizing old with
  | flat value flat => rw [mergeUnder_of_flat old flat, mergeUnder_of_flat old flat]
  | object members inductionHypothesis =>
    obtain ⟨distinct, inner⟩ := (hasDistinctKeys_object members).mp distinctNew
    have distinctMembers := hasDistinctKeys_members distinctOld
    rw [mergeUnder_object, mergeUnder_object]
    generalize old.object?.getD [] = target at distinctMembers ⊢
    have distinctTarget : target.Distinct := ((hasDistinctKeys_object target).mp distinctMembers).1
    have distinctResult := distinct_mergeMembers distinctTarget members
    refine congrArg Value.object (Object.eq_of_get? (distinct_mergeMembers distinctTarget _)
      (keys_mergeMembers_result distinctTarget distinct) fun key => ?_)
    show (mergeMembers target (mergeMembers target members)).get? key =
      (mergeMembers target members).get? key
    by_cases reserved : key = reservedKey
    · rw [reserved, get?_mergeMembers_reserved, get?_mergeMembers_reserved]
    cases given : (mergeMembers target members).get? key with
    | none =>
      have absent := (Object.get?_eq_none_iff _ key).mp given
      rw [keys_mergeMembers target distinct, List.mem_append, not_or] at absent
      rw [get?_mergeMembers_of_none target _ given]
      exact (Object.get?_eq_none_iff target key).mpr absent.1
    | some value =>
      have again (member : String × Value) (among : member ∈ members) (old : Value)
          (distinct : old.hasDistinctKeys) :=
        inductionHypothesis member among old distinct (inner member among)
      rw [get?_mergeMembers target distinctResult reserved given,
        mergeUnder_value distinctMembers distinct again reserved given]

end Json

end ProxyProfile
