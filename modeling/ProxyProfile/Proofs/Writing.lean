/-
This file says what stands at a key of an object that was written step by step.

An encoder starts with a few members and writes more of them behind, some only if
there is something to say, and some taken from an option text. A key is changed
by the steps that write it and by no other; so what an encoder wrote early is
still there at the end, unless a later step or an option text has the same key.
-/

import ProxyProfile.Kernel.Rule

namespace ProxyProfile

namespace Json

/-! ### Objects -/

namespace Object

theorem get?_insertAll_of_none (object more : Object) {key : String}
    (absent : more.get? key = none) : (object.insertAll more).get? key = object.get? key := by
  induction more generalizing object with
  | nil => rfl
  | cons entry rest inductionHypothesis =>
    obtain ⟨name, value⟩ := entry
    by_cases same : name = key
    · simp [get?, same] at absent
    · rw [get?, if_neg same] at absent
      show ((object.insert name value).insertAll rest).get? key = object.get? key
      rw [inductionHypothesis _ absent, get?_insert_of_ne object value same]

theorem get?_erase_of_ne (object : Object) {key other : String} (differs : key ≠ other) :
    (object.erase key).get? other = object.get? other := by
  induction object with
  | nil => rfl
  | cons entry rest inductionHypothesis =>
    obtain ⟨name, value⟩ := entry
    unfold erase at inductionHypothesis ⊢
    by_cases dropped : name = key
    · have kept : ¬ name = other := fun equal => differs (dropped.symm.trans equal)
      rw [List.filter_cons_of_neg (by simp [dropped]), inductionHypothesis, get?, if_neg kept]
    · rw [List.filter_cons_of_pos (by simp [dropped])]
      unfold get?
      rw [inductionHypothesis]

theorem has_insert (object : Object) (key other : String) (value : Value) :
    (object.insert key value).has other = (object.has other || key = other) := by
  unfold has
  by_cases same : key = other
  · rw [same, get?_insert_self]
    simp
  · rw [get?_insert_of_ne object value same]
    simp [same]

end Object

/-! ### Merging -/

/-- A merge leaves the keys alone that its source does not have. -/
theorem get?_mergeMembers_of_none (target members : Object) {key : String}
    (absent : Object.get? members key = none) :
    (mergeMembers target members).get? key = target.get? key := by
  induction members generalizing target with
  | nil => rfl
  | cons entry rest inductionHypothesis =>
    obtain ⟨name, value⟩ := entry
    by_cases same : name = key
    · simp [Object.get?, same] at absent
    · rw [Object.get?, if_neg same] at absent
      rw [mergeMembers, inductionHypothesis _ absent]
      split
      · rfl
      · exact Object.get?_insert_of_ne _ _ same

/-- After a merge an object has the keys it had and those of the source. -/
theorem has_mergeMembers (target members : Object) {key : String} (merged : key ≠ reservedKey) :
    (mergeMembers target members).has key = (target.has key || Object.has members key) := by
  induction members generalizing target with
  | nil => simp [mergeMembers, Object.has, Object.get?]
  | cons entry rest inductionHypothesis =>
    obtain ⟨name, value⟩ := entry
    rw [mergeMembers, inductionHypothesis]
    by_cases reserved : name = reservedKey
    · have other : ¬ name = key := fun equal => merged (equal.symm.trans reserved)
      rw [if_pos reserved]
      simp [Object.has, Object.get?, other]
    · rw [if_neg reserved, Object.has_insert]
      by_cases same : name = key
      · simp [Object.has, Object.get?, same]
      · simp [Object.has, Object.get?, same]

theorem get?_mergeInto_of_none (target : Object) (source : Value) {key : String}
    (absent : source.get? key = none) : (mergeInto target source).get? key = target.get? key := by
  unfold mergeInto
  cases members : source.object? with
  | none => rfl
  | some object =>
    refine get?_mergeMembers_of_none target object ?_
    simpa [Value.get?, members] using absent

theorem has_mergeInto (target : Object) (source : Value) {key : String}
    (merged : key ≠ reservedKey) :
    (mergeInto target source).has key = (target.has key || (source.get? key).isSome) := by
  unfold mergeInto
  rw [has_mergeMembers target _ merged]
  cases members : source.object? with
  | none => simp [Value.get?, members, Object.has, Object.get?]
  | some object => simp [Value.get?, members, Object.has]

end Json

namespace Kernel

/-! ### Optional members -/

theorem get?_insertSome_self (written : Json.Object) (key : String) (value : Json.Value) :
    (insertSome written key (some value)).get? key = some value :=
  Json.Object.get?_insert_self written key value

theorem get?_insertSome_of_none {written : Json.Object} {key : String}
    (absent : written.get? key = none) (value : Option Json.Value) :
    (insertSome written key value).get? key = value := by
  cases value with
  | none => exact absent
  | some value => exact get?_insertSome_self written key value

theorem get?_insertSome_of_ne (written : Json.Object) {key other : String}
    (value : Option Json.Value) (differs : key ≠ other) :
    (insertSome written key value).get? other = written.get? other := by
  cases value with
  | none => rfl
  | some value => exact Json.Object.get?_insert_of_ne written value differs

theorem get?_insertText_of_ne (written : Json.Object) {key other : String} (text : String)
    (differs : key ≠ other) : (insertText written key text).get? other = written.get? other := by
  unfold insertText
  split
  · rfl
  · exact Json.Object.get?_insert_of_ne written _ differs

theorem get?_insertFlag_of_ne (written : Json.Object) {key other : String} (flag : Bool)
    (differs : key ≠ other) : (insertFlag written key flag).get? other = written.get? other := by
  unfold insertFlag
  split
  · exact Json.Object.get?_insert_of_ne written _ differs
  · rfl

theorem get?_insertStrategy_of_ne (written : Json.Object) {other : String} (strategy : Strategy)
    (differs : "strategy" ≠ other) :
    (insertStrategy written strategy).get? other = written.get? other := by
  unfold insertStrategy
  split
  · rfl
  · exact Json.Object.get?_insert_of_ne written _ differs

end Kernel

end ProxyProfile
