/-
This file proves what the override of a profile makes of a document.

One side wins and the other one loses, by the priority of the override. What the
result has behind a path of keys is told by the winner alone as long as the winner
has something there or is in the way; where an object of the winner lacks a key
of the path, the loser's value stays, with all that is inside it. Whichever side
wins, a second application changes nothing: the winner is merged into a result
that has it already, or the result is merged over the loser that it came from.
-/

import ProxyProfile.Kernel.Mixin
import ProxyProfile.Proofs.Merging
import ProxyProfile.Proofs.Naming

namespace ProxyProfile

namespace Json

/-! ### Paths -/

namespace Value

/-- What a side of a merge counts as: one that is no object is an empty one. -/
def asObject (value : Value) : Value :=
  .object (value.object?.getD [])

/-- The keys of the object behind a path, in order; none if there is no object. -/
def keysAt (value : Value) (path : List String) : List String :=
  Object.keys (((value.at? path).bind object?).getD [])

/-- The object that is reached by all keys of a path but the last one lacks the last one. -/
def LacksLastKey (value : Value) (path : List String) : Prop :=
  ∃ front key, path = front ++ [key] ∧
    ∃ members, value.at? front = some (.object members) ∧ Object.get? members key = none

/-- Some object that is reached along a path lacks the next key. -/
def LacksKey (value : Value) (path : List String) : Prop :=
  ∃ front key back, path = front ++ key :: back ∧
    ∃ members, value.at? front = some (.object members) ∧ Object.get? members key = none

theorem not_lacksKey_nil (value : Value) : ¬LacksKey value [] := by
  rintro ⟨front, key, back, split, _⟩
  cases front <;> cases split

theorem at?_cons_of_flat {value : Value} (flat : value.object? = none) (key : String)
    (rest : List String) : value.at? (key :: rest) = none := by
  rw [at?, get?, flat]
  rfl

theorem not_lacksKey_of_flat {value : Value} (flat : value.object? = none) (path : List String) :
    ¬LacksKey value path := by
  rintro ⟨front, key, back, _, members, reached, _⟩
  cases front with
  | nil =>
    cases reached
    cases flat
  | cons first others =>
    rw [at?_cons_of_flat flat] at reached
    cases reached

theorem lacksKey_of_none {members : Object} {key : String} (absent : members.get? key = none)
    (rest : List String) : LacksKey (.object members) (key :: rest) :=
  ⟨[], key, rest, rfl, members, rfl, absent⟩

theorem lacksKey_cons {members : Object} {key : String} {inner : Value}
    (found : members.get? key = some inner) (rest : List String) :
    LacksKey (.object members) (key :: rest) ↔ LacksKey inner rest := by
  constructor
  · rintro ⟨front, last, back, split, object, reached, absent⟩
    cases front with
    | nil =>
      cases split
      cases reached
      rw [found] at absent
      cases absent
    | cons first others =>
      cases split
      rw [at?_cons found] at reached
      exact ⟨others, last, back, rfl, object, reached, absent⟩
  · rintro ⟨front, last, back, rfl, object, reached, absent⟩
    exact ⟨key :: front, last, back, rfl, object, by rw [at?_cons found, reached], absent⟩

theorem hasDistinctKeys_at? {value inner : Value} (distinct : value.hasDistinctKeys)
    {path : List String} (reached : value.at? path = some inner) : inner.hasDistinctKeys := by
  induction path generalizing value with
  | nil =>
    cases reached
    exact distinct
  | cons key rest inductionHypothesis =>
    obtain ⟨next, found, follows⟩ := Option.bind_eq_some_iff.mp reached
    obtain ⟨members, object, found⟩ := Option.bind_eq_some_iff.mp found
    have inside := hasDistinctKeys_members distinct
    rw [object, Option.getD_some, hasDistinctKeys_object] at inside
    exact inductionHypothesis (inside.2 _ (Object.mem_of_get? found)) follows

end Value

/-! ### A merge along a path -/

/-- What stands behind a path after `new` was merged over `old`. -/
structure MergesAt (old new : Value) (path : List String) : Prop where
  merged : ∀ value, new.at? path = some value →
    (mergeUnder old new).at? path = some (mergeUnder ((old.at? path).getD .null) value)
  kept : new.LacksKey path → (mergeUnder old new).at? path = old.at? path
  hidden : new.at? path = none → ¬new.LacksKey path → (mergeUnder old new).at? path = none

theorem mergesAt_nil (old new : Value) : MergesAt old new [] where
  merged value reached := by
    cases reached
    rfl
  kept lacks := absurd lacks (Value.not_lacksKey_nil new)
  hidden nothing := nomatch nothing

/-- A value that is no object takes the place of everything. -/
theorem mergesAt_of_flat (old : Value) {new : Value} (flat : new.object? = none) (key : String)
    (rest : List String) : MergesAt old new (key :: rest) where
  merged value reached := by
    rw [Value.at?_cons_of_flat flat] at reached
    cases reached
  kept lacks := absurd lacks (Value.not_lacksKey_of_flat flat _)
  hidden nothing _ := by
    rw [mergeUnder_of_flat old flat]
    exact nothing

theorem get?_members (value : Value) (key : String) :
    Object.get? (value.object?.getD []) key = value.get? key := by
  unfold Value.get?
  cases value.object? <;> rfl

/-- Behind a key that an object lacks stands what stood there before. -/
theorem mergesAt_of_none (old : Value) {members : Object} {key : String}
    (absent : members.get? key = none) (rest : List String) :
    MergesAt old (.object members) (key :: rest) where
  merged value reached := by
    rw [Value.at?, Value.get?, Value.object?, Option.bind_some, absent] at reached
    cases reached
  kept _ := by
    rw [mergeUnder_object]
    show ((mergeMembers _ members).get? key).bind _ = (old.get? key).bind _
    rw [get?_mergeMembers_of_none _ _ absent, get?_members]
  hidden _ full := absurd (Value.lacksKey_of_none absent rest) full

/-- Nothing and null have the same inside. -/
theorem at?_getD_null (found : Option Value) (rest : List String) :
    ((found.getD .null).at? rest).getD .null =
      (found.bind fun inner => inner.at? rest).getD .null := by
  cases found with
  | some value => rfl
  | none => cases rest <;> rfl

theorem at?_getD_null_of_ne_nil (found : Option Value) {rest : List String} (more : rest ≠ []) :
    (found.getD .null).at? rest = found.bind fun inner => inner.at? rest := by
  cases found with
  | some value => rfl
  | none =>
    cases rest with
    | nil => exact absurd rfl more
    | cons key others => rfl

/-- Behind a key that an object has, the two values at the key are merged. -/
theorem mergesAt_cons (old : Value) {members : Object} (distinct : members.Distinct)
    {key : String} (merged : key ≠ reservedKey) {inner : Value}
    (found : members.get? key = some inner) {rest : List String}
    (follows : MergesAt ((old.get? key).getD .null) inner rest) :
    MergesAt old (.object members) (key :: rest) := by
  have reach : (Value.object members).at? (key :: rest) = inner.at? rest :=
    Value.at?_cons found rest
  have result : (mergeUnder old (.object members)).at? (key :: rest) =
      (mergeUnder ((old.get? key).getD .null) inner).at? rest := by
    rw [mergeUnder_object]
    refine Value.at?_cons ?_ rest
    rw [get?_mergeMembers _ distinct merged found, get?_members]
  have lacks := Value.lacksKey_cons found rest
  refine ⟨fun value reached => ?_, fun lacking => ?_, fun nothing full => ?_⟩
  · rw [reach] at reached
    rw [result, follows.merged value reached, at?_getD_null]
    rfl
  · have more : rest ≠ [] := by
      rintro rfl
      exact Value.not_lacksKey_nil inner (lacks.mp lacking)
    rw [result, follows.kept (lacks.mp lacking), at?_getD_null_of_ne_nil _ more]
    rfl
  · rw [reach] at nothing
    rw [result]
    exact follows.hidden nothing fun lacking => full (lacks.mpr lacking)

/-- What stands behind a path after a merge, whatever the path is. -/
theorem mergesAt (old new : Value) (distinct : new.hasDistinctKeys) (path : List String)
    (merged : reservedKey ∉ path) : MergesAt old new path := by
  induction path generalizing old new with
  | nil => exact mergesAt_nil old new
  | cons key rest inductionHypothesis =>
    rw [List.mem_cons, not_or] at merged
    cases shape : new.object? with
    | none => exact mergesAt_of_flat old shape key rest
    | some members =>
      obtain rfl := eq_object_of_object? shape
      obtain ⟨apart, inner⟩ := (hasDistinctKeys_object members).mp distinct
      cases found : Object.get? members key with
      | none => exact mergesAt_of_none old found rest
      | some value =>
        exact mergesAt_cons old apart (Ne.symm merged.1) found
          (inductionHypothesis _ value (inner _ (Object.mem_of_get? found)) merged.2)

/-! ### Winners and losers -/

/-- The document that a winner and a loser make, path by path; a path along which the winner
`Lacks` something is left to the loser. -/
structure MergedByPath (Lacks : Value → List String → Prop) (winner loser result : Value) :
    Prop where
  /-- What the winner has, if it is no object, is there. -/
  flat : ∀ path, reservedKey ∉ path → ∀ value, winner.at? path = some value →
    value.isObject = false → result.at? path = some value
  /-- Where the winner has an object, there is an object. -/
  object : ∀ path, reservedKey ∉ path → ∀ value, winner.at? path = some value → value.isObject →
    ∃ merged, result.at? path = some merged ∧ merged.isObject
  /-- What the loser has is there, and nothing if it has nothing. -/
  kept : ∀ path, reservedKey ∉ path → Lacks winner path → result.at? path = loser.at? path
  /-- Anywhere else there is nothing. -/
  hidden : ∀ path, reservedKey ∉ path → winner.at? path = none → ¬Lacks winner path →
    result.at? path = none
  /-- The keys of the loser come first, then those that only the winner has, each in order. -/
  keys : ∀ path, reservedKey ∉ path → ∀ members, result.at? path = some (.object members) →
    Object.keys members = loser.keysAt path ++
      (winner.keysAt path).filter fun key => key ≠ reservedKey ∧ key ∉ loser.keysAt path

theorem merge_eq (target source : Value) :
    target.merge source = mergeUnder target.asObject source.asObject := by
  unfold Value.asObject
  rw [mergeUnder_object]
  rfl

theorem object?_of_isObject {value : Value} (flat : value.isObject = false) :
    value.object? = none := by
  unfold Value.isObject at flat
  exact Option.isNone_iff_eq_none.mp (Option.isSome_eq_false_iff.mp flat)

theorem keysAt_of_at? {value inner : Value} {path : List String}
    (reached : value.at? path = some inner) :
    value.keysAt path = Object.keys (inner.object?.getD []) := by
  unfold Value.keysAt
  rw [reached, Option.bind_some]

theorem keysAt_of_none {value : Value} {path : List String} (nothing : value.at? path = none) :
    value.keysAt path = [] := by
  unfold Value.keysAt
  rw [nothing]
  rfl

theorem keysAt_eq (value : Value) (path : List String) :
    value.keysAt path = Object.keys ((((value.at? path).getD .null).object?).getD []) := by
  cases reached : value.at? path with
  | none => exact keysAt_of_none reached
  | some inner => exact keysAt_of_at? reached

/-- The keys of an object of the result. -/
theorem keys_of_mergesAt {old new : Value} (distinct : new.hasDistinctKeys) {path : List String}
    (merges : MergesAt old new path) {members : Object}
    (reached : (mergeUnder old new).at? path = some (.object members)) :
    members.keys = old.keysAt path ++
      (new.keysAt path).filter fun key => key ≠ reservedKey ∧ key ∉ old.keysAt path := by
  cases there : new.at? path with
  | none =>
    by_cases lacks : new.LacksKey path
    · rw [merges.kept lacks] at reached
      rw [keysAt_of_at? reached, keysAt_of_none there, List.filter_nil, List.append_nil]
      rfl
    · rw [merges.hidden there lacks] at reached
      cases reached
  | some value =>
    have result := merges.merged value there
    rw [reached] at result
    cases shape : value.object? with
    | none =>
      rw [mergeUnder_of_flat _ shape] at result
      cases result
      cases shape
    | some brought =>
      obtain rfl := eq_object_of_object? shape
      obtain ⟨apart, _⟩ := (hasDistinctKeys_object brought).mp
        (Value.hasDistinctKeys_at? distinct there)
      rw [mergeUnder_object] at result
      cases result
      rw [keys_mergeMembers _ apart, keysAt_of_at? there, keysAt_eq old]
      rfl

/-- A merge makes such a document of its source, which wins, and its target. -/
theorem mergedByPath_merge (target : Value) {source : Value} (distinct : source.hasDistinctKeys) :
    MergedByPath Value.LacksKey source.asObject target.asObject (target.merge source) := by
  rw [merge_eq]
  have distinct : source.asObject.hasDistinctKeys := hasDistinctKeys_members distinct
  generalize source.asObject = new at distinct ⊢
  generalize target.asObject = old
  have merges := mergesAt old new distinct
  refine ⟨fun path merged value reached flat => ?_, fun path merged value reached shape => ?_,
    fun path merged lacks => (merges path merged).kept lacks,
    fun path merged nothing full => (merges path merged).hidden nothing full,
    fun path merged members reached => ?_⟩
  · rw [(merges path merged).merged value reached,
      mergeUnder_of_flat _ (object?_of_isObject flat)]
  · refine ⟨_, (merges path merged).merged value reached, ?_⟩
    cases value with
    | object members =>
      rw [mergeUnder_object]
      rfl
    | _ => cases shape
  · exact keys_of_mergesAt distinct (merges path merged) reached

end Json

namespace Kernel

/-! ### Overrides -/

/-- The side that wins. -/
def winner (priority : Priority) (document override : Json.Value) : Json.Value :=
  match priority with
  | .mixin => override
  | .gui => document

/-- The side that loses. -/
def loser (priority : Priority) (document override : Json.Value) : Json.Value :=
  match priority with
  | .mixin => document
  | .gui => override

theorem overlay_eq (priority : Priority) (document override : Json.Value) :
    overlay priority document override =
      (loser priority document override).merge (winner priority document override) := by
  cases priority <;> rfl

theorem applyMixin_of_parse? {mixin : Mixin} {override : Json.Value}
    (written : Text.isBlankText mixin.config = false)
    (parsed : Yaml.parse? mixin.config = some override) (document : Json.Value) :
    applyMixin mixin document = .ok (overlay mixin.priority document override) := by
  unfold applyMixin
  rw [written, if_neg Bool.false_ne_true, parsed]

/-! ### Overrides that can be read -/

deriving instance DecidableEq for Yaml.Properties, Yaml.Event

/-- A text that is grouped into events is read as the tree that they stand for. -/
theorem tree?_of_events {text : String} {events : List Yaml.Event}
    (grouped : (Yaml.tokens? text).bind Yaml.events? = some events)
    (written : events.isEmpty = false) :
    Yaml.tree? text = some
      (Yaml.treeOf events ((2 * events.length + 2) * (Yaml.depthLimit + 2)) Yaml.depthLimit
        (Yaml.jumpFactor * events.length) events).1 := by
  obtain ⟨tokens, cut, grouped⟩ := Option.bind_eq_some_iff.mp grouped
  unfold Yaml.tree?
  rw [cut, Option.bind_eq_bind, Option.bind_some, grouped, Option.bind_eq_bind, Option.bind_some,
    if_neg (by rw [written]; exact Bool.false_ne_true)]
  rfl

theorem parse?_of_events {text : String} {events : List Yaml.Event}
    (grouped : (Yaml.tokens? text).bind Yaml.events? = some events)
    (written : events.isEmpty = false) :
    Yaml.parse? text =
      (Yaml.treeOf events ((2 * events.length + 2) * (Yaml.depthLimit + 2)) Yaml.depthLimit
        (Yaml.jumpFactor * events.length) events).1.value? := by
  unfold Yaml.parse?
  rw [tree?_of_events grouped written, Option.bind_some]

/-- An override that asks for a level of the log. -/
def leveled : Json.Value :=
  .object [("log", .object [("level", .string "warn")])]

/-- The override with a priority. -/
def leveling (priority : Priority) : Mixin :=
  { priority, config := leveled.compact }

/-- A document whose log has another level. -/
def logging : Json.Object :=
  [("dns", .array []), ("log", .object [("disabled", .bool true), ("level", .string "info")])]

theorem parse?_leveling (priority : Priority) :
    Yaml.parse? (leveling priority).config = some leveled := by
  have grouped : (Yaml.tokens? leveled.compact).bind Yaml.events? =
      some [.startTable {}, .scalar {} .quoted "log", .startTable {}, .scalar {} .quoted "level",
        .scalar {} .quoted "warn", .stop, .stop] := by
    decide +kernel
  rw [leveling, parse?_of_events grouped rfl]
  show (Yaml.treeOf _ 2080 128 700 _).1.value? = _
  simp only [Yaml.treeOf, Yaml.membersOf]
  rfl

theorem parse?_emptyObjectText : Yaml.parse? emptyObjectText = some (.object []) := by
  have grouped : (Yaml.tokens? emptyObjectText).bind Yaml.events? =
      some [.startTable {}, .stop] := by
    decide +kernel
  rw [parse?_of_events grouped rfl]
  show (Yaml.treeOf _ 780 128 200 _).1.value? = _
  simp only [Yaml.treeOf, Yaml.membersOf]
  rfl

/-! ### Overrides applied -/

section Overrides

variable {mixin : Mixin} {document : Json.Object} {override : Json.Value}

/-- The result of an override has, path by path, what the winner has, and where an object of
the winner lacks a key of the path, what the loser has. -/
theorem mergedByPath_applyMixin (distinct : (Json.Value.object document).hasDistinctKeys)
    (written : Text.isBlankText mixin.config = false)
    (parsed : Yaml.parse? mixin.config = some override) :
    ∃ result, applyMixin mixin (.object document) = .ok result ∧
      Json.MergedByPath Json.Value.LacksKey
        (winner mixin.priority (.object document) override).asObject
        (loser mixin.priority (.object document) override).asObject result := by
  refine ⟨_, applyMixin_of_parse? written parsed _, ?_⟩
  rw [overlay_eq]
  refine Json.mergedByPath_merge _ ?_
  cases mixin.priority with
  | mixin => exact Yaml.hasDistinctKeys_of_parse? parsed
  | gui => exact distinct

end Overrides

theorem mergedByPath_applyMixin_leveling :
    (Json.Value.object logging).hasDistinctKeys ∧
      Text.isBlankText (leveling .gui).config = false ∧
      Yaml.parse? (leveling .gui).config = some leveled ∧
      ∃ result, applyMixin (leveling .gui) (.object logging) = .ok result ∧
        Json.MergedByPath Json.Value.LacksKey (Json.Value.object logging).asObject
          leveled.asObject result :=
  have written : Text.isBlankText (leveling .gui).config = false := by decide +kernel
  ⟨rfl, written, parse?_leveling .gui,
    mergedByPath_applyMixin rfl written (parse?_leveling .gui)⟩

/-- A document with an object inside an object. -/
def nesting : Json.Object :=
  [("dns", .object [("final", .string "local")])]

/-- It is not only the last key of a path that the winner may lack: the empty override wins,
and yet all that is inside the objects of the document stays. -/
theorem not_mergedByPath_lacksLastKey :
    (Json.Value.object nesting).hasDistinctKeys ∧
      Text.isBlankText ({} : Mixin).config = false ∧
      Yaml.parse? ({} : Mixin).config = some (.object []) ∧
      applyMixin {} (.object nesting) = .ok (.object nesting) ∧
      ¬Json.MergedByPath Json.Value.LacksLastKey
        (winner ({} : Mixin).priority (.object nesting) (.object [])).asObject
        (loser ({} : Mixin).priority (.object nesting) (.object [])).asObject
        (.object nesting) := by
  have written : Text.isBlankText ({} : Mixin).config = false := by decide
  refine ⟨rfl, written, parse?_emptyObjectText,
    applyMixin_of_parse? written parse?_emptyObjectText _, fun merged => ?_⟩
  have full : ¬(Json.Value.object []).LacksLastKey ["dns", "final"] := by
    rintro ⟨front, key, split, members, reached, _⟩
    have split : ["dns"] ++ ["final"] = front ++ [key] := split
    obtain ⟨rfl, _⟩ := List.append_inj' split rfl
    cases reached
  have nothing := merged.hidden ["dns", "final"] (by decide) rfl full
  cases nothing

/-! ### Overrides applied again -/

/-- Whichever side wins, the result with the same override is the result. -/
theorem overlay_overlay (priority : Priority) {document override : Json.Value}
    (distinctDocument : document.hasDistinctKeys) (distinctOverride : override.hasDistinctKeys) :
    overlay priority (overlay priority document override) override =
      overlay priority document override := by
  have object (target source : Json.Value) : (target.merge source).asObject = target.merge source :=
    rfl
  have distinctDocument := Json.hasDistinctKeys_members distinctDocument
  have distinctOverride := Json.hasDistinctKeys_members distinctOverride
  cases priority with
  | mixin =>
    show (document.merge override).merge override = document.merge override
    rw [Json.merge_eq (document.merge override), object, Json.merge_eq document]
    exact Json.mergeUnder_twice _ _ distinctOverride
  | gui =>
    show override.merge (override.merge document) = override.merge document
    rw [Json.merge_eq override (override.merge document), object, Json.merge_eq override document]
    exact Json.mergeUnder_result _ _ distinctOverride distinctDocument

/-- An override that is applied a second time changes nothing. -/
theorem applyMixin_idempotent {mixin : Mixin} {document : Json.Object}
    (distinct : (Json.Value.object document).hasDistinctKeys)
    (readable : Text.isBlankText mixin.config ∨ (Yaml.parse? mixin.config).isSome) :
    ∃ result, applyMixin mixin (.object document) = .ok result ∧
      applyMixin mixin result = .ok result := by
  by_cases blank : Text.isBlankText mixin.config
  · have same (value : Json.Value) : applyMixin mixin value = .ok value := by
      unfold applyMixin
      rw [if_pos blank]
    exact ⟨.object document, same _, same _⟩
  · have written : Text.isBlankText mixin.config = false := Bool.eq_false_iff.mpr blank
    obtain ⟨override, parsed⟩ := Option.isSome_iff_exists.mp (readable.resolve_left blank)
    refine ⟨_, applyMixin_of_parse? written parsed _, ?_⟩
    rw [applyMixin_of_parse? written parsed,
      overlay_overlay mixin.priority distinct (Yaml.hasDistinctKeys_of_parse? parsed)]

theorem applyMixin_idempotent_leveling :
    (Json.Value.object logging).hasDistinctKeys ∧
      (Yaml.parse? (leveling .gui).config).isSome ∧
      ∃ result, applyMixin (leveling .gui) (.object logging) = .ok result ∧
        applyMixin (leveling .gui) result = .ok result :=
  have readable : (Yaml.parse? (leveling .gui).config).isSome := by
    rw [parse?_leveling]
    rfl
  ⟨rfl, readable, applyMixin_idempotent rfl (Or.inr readable)⟩

end Kernel

end ProxyProfile
