/-
This file proves how far the reserved key of an override gets.

A merge passes over the key in its source, at every depth, and does not touch it in
its target. An override that wins is the source, and the key gets nowhere. An
override that loses is the target, and there the key stays: at the root, and in
every object that the document leaves alone or merges its own members into. The
document is in the way only where it has something at a path that is no object.
-/

import ProxyProfile.Proofs.Overlaying

namespace ProxyProfile

namespace Json

namespace Value

/-- No path through the reserved key leads anywhere. Paths go through objects and not into
arrays. -/
def AvoidsReserved (value : Value) : Prop :=
  ∀ path, reservedKey ∈ path → value.at? path = none

/-- What is merged under a document keeps its object behind a path: the document has an object
there too, or lacks a key on the way. -/
def LeavesObject (value : Value) (path : List String) : Prop :=
  value.LacksKey path ∨ ∃ members, value.at? path = some (.object members)

theorem at?_append (value : Value) (front back : List String) :
    value.at? (front ++ back) = (value.at? front).bind fun inner => inner.at? back := by
  induction front generalizing value with
  | nil => rfl
  | cons key rest inductionHypothesis =>
    show (value.get? key).bind (fun inner => inner.at? (rest ++ back)) =
      ((value.get? key).bind fun inner => inner.at? rest).bind _
    simp only [inductionHypothesis, Option.bind_assoc]

theorem at?_concat (value : Value) (front : List String) (key : String) :
    value.at? (front ++ [key]) = (value.at? front).bind fun inner => inner.get? key := by
  simp only [at?_append, at?_singleton]

/-- A value that is no object has as much behind a key as the empty object. -/
theorem at?_asObject_concat (value : Value) (front : List String) (key : String) :
    value.asObject.at? (front ++ [key]) = value.at? (front ++ [key]) := by
  cases value with
  | object members => rfl
  | _ => cases front <;> rfl

/-- It is enough to look for the key behind paths without it. -/
theorem avoidsReserved_iff (value : Value) :
    value.AvoidsReserved ↔
      ∀ front, reservedKey ∉ front → value.at? (front ++ [reservedKey]) = none := by
  constructor
  · intro avoids front _
    exact avoids _ (List.mem_append_right _ List.mem_cons_self)
  · intro absent path among
    obtain ⟨front, back, rfl, fresh⟩ := List.eq_append_cons_of_mem among
    rw [← List.singleton_append, ← List.append_assoc, at?_append, absent front fresh,
      Option.bind_none]

theorem avoidsReserved_of_flat {value : Value} (flat : value.object? = none) :
    value.AvoidsReserved := by
  intro path among
  cases path with
  | nil => exact absurd among List.not_mem_nil
  | cons key rest => exact at?_cons_of_flat flat key rest

theorem avoidsReserved_object {members : Object} (absent : members.get? reservedKey = none)
    (inner : ∀ key value, members.get? key = some value → value.AvoidsReserved) :
    (Value.object members).AvoidsReserved := by
  intro path among
  cases path with
  | nil => exact absurd among List.not_mem_nil
  | cons key rest =>
    show (members.get? key).bind (fun value => value.at? rest) = none
    rcases List.mem_cons.mp among with rfl | later
    · rw [absent, Option.bind_none]
    · cases found : members.get? key with
      | none => rfl
      | some value => exact inner key value found rest later

end Value

/-! ### The key in a merge -/

section Merges

variable {old new : Value} {front : List String}

/-- In an object of the source that is merged, the key has the value that it has in the
target. -/
theorem at?_reserved_of_object (merges : MergesAt old new front) {members : Object}
    (reached : new.at? front = some (.object members)) :
    (mergeUnder old new).at? (front ++ [reservedKey]) = old.at? (front ++ [reservedKey]) := by
  rw [Value.at?_concat, Value.at?_concat, merges.merged _ reached, Option.bind_some,
    mergeUnder_object]
  show (mergeMembers _ members).get? reservedKey = _
  rw [get?_mergeMembers_reserved, get?_members]
  cases old.at? front <;> rfl

/-- What the source leaves of the key is what the target has at it. -/
theorem at?_reserved_of_leaves (merges : MergesAt old new front) (leaves : new.LeavesObject front) :
    (mergeUnder old new).at? (front ++ [reservedKey]) = old.at? (front ++ [reservedKey]) := by
  rcases leaves with lacks | ⟨members, reached⟩
  · rw [Value.at?_concat, Value.at?_concat, merges.kept lacks]
  · exact at?_reserved_of_object merges reached

/-- Behind a path that the source has a value in the way of there is no key. -/
theorem at?_reserved_of_not_leaves (merges : MergesAt old new front)
    (closed : ¬new.LeavesObject front) :
    (mergeUnder old new).at? (front ++ [reservedKey]) = none := by
  obtain ⟨full, noObject⟩ := not_or.mp closed
  rw [Value.at?_concat]
  cases there : new.at? front with
  | none => rw [merges.hidden there full, Option.bind_none]
  | some value =>
    have flat : value.object? = none := by
      cases value with
      | object members => exact absurd ⟨members, there⟩ noObject
      | _ => rfl
    rw [merges.merged _ there, mergeUnder_of_flat _ flat, Option.bind_some, Value.get?, flat,
      Option.bind_none]

end Merges

/-- After a merge the key stands where the target has it and the source leaves the object around
it. -/
theorem at?_reserved_merge (target : Value) {source : Value} (distinct : source.hasDistinctKeys)
    {front : List String} (fresh : reservedKey ∉ front) (value : Value) :
    (target.merge source).at? (front ++ [reservedKey]) = some value ↔
      target.asObject.at? (front ++ [reservedKey]) = some value ∧
        source.asObject.LeavesObject front := by
  have merges : MergesAt target.asObject source.asObject front :=
    mergesAt _ _ (hasDistinctKeys_members distinct) front fresh
  rw [merge_eq]
  by_cases leaves : source.asObject.LeavesObject front
  · rw [at?_reserved_of_leaves merges leaves]
    exact (and_iff_left leaves).symm
  · rw [at?_reserved_of_not_leaves merges leaves]
    exact iff_of_false (nomatch ·) fun both => leaves both.2

/-- A target without the key stays without it, whatever is merged over it. -/
theorem avoidsReserved_merge {target source : Value} (distinct : source.hasDistinctKeys)
    (avoids : target.asObject.AvoidsReserved) : (target.merge source).AvoidsReserved := by
  rw [Value.avoidsReserved_iff] at avoids ⊢
  intro front fresh
  cases found : (target.merge source).at? (front ++ [reservedKey]) with
  | none => rfl
  | some value =>
    have kept := ((at?_reserved_merge target distinct fresh value).mp found).1
    rw [avoids front fresh] at kept
    cases kept

end Json

namespace Kernel

/-! ### The key in an override -/

section Overrides

variable {mixin : Mixin} {document : Json.Object} {result : Json.Value}

/-- An override that is applied is blank and does nothing, or is read and laid over or under the
document. -/
theorem applyMixin_ok {document : Json.Value} (applied : applyMixin mixin document = .ok result) :
    Text.isBlankText mixin.config ∧ result = document ∨
      Text.isBlankText mixin.config = false ∧ ∃ override,
        Yaml.parse? mixin.config = some override ∧
        result = overlay mixin.priority document override := by
  unfold applyMixin at applied
  split at applied
  · rename_i blank
    exact Or.inl ⟨blank, (Except.ok.inj applied).symm⟩
  · rename_i written
    split at applied
    · rename_i override parsed
      exact Or.inr ⟨Bool.eq_false_iff.mpr written, override, parsed, (Except.ok.inj applied).symm⟩
    · cases applied

/-- An override that wins brings the reserved key nowhere. -/
theorem avoidsReserved_applyMixin (wins : mixin.priority = .mixin)
    (avoids : (Json.Value.object document).AvoidsReserved)
    (applied : applyMixin mixin (.object document) = .ok result) : result.AvoidsReserved := by
  rcases applyMixin_ok applied with ⟨_, rfl⟩ | ⟨_, override, parsed, rfl⟩
  · exact avoids
  · rw [wins]
    exact Json.avoidsReserved_merge (Yaml.hasDistinctKeys_of_parse? parsed) avoids

/-- Where an override loses, the result has the reserved key exactly where the override has it and
the document leaves the object around it. -/
theorem at?_reserved_applyMixin (loses : mixin.priority = .gui)
    (distinct : (Json.Value.object document).hasDistinctKeys)
    (avoids : (Json.Value.object document).AvoidsReserved)
    (applied : applyMixin mixin (.object document) = .ok result)
    {front : List String} (fresh : Json.reservedKey ∉ front) (value : Json.Value) :
    result.at? (front ++ [Json.reservedKey]) = some value ↔
      Text.isBlankText mixin.config = false ∧ ∃ override,
        Yaml.parse? mixin.config = some override ∧
        override.at? (front ++ [Json.reservedKey]) = some value ∧
        (Json.Value.object document).LeavesObject front := by
  rcases applyMixin_ok applied with ⟨blank, rfl⟩ | ⟨written, override, parsed, rfl⟩
  · rw [(Json.Value.avoidsReserved_iff _).mp avoids front fresh]
    exact iff_of_false (nomatch ·) fun both => by
      rw [blank] at both
      cases both.1
  · rw [loses]
    have survives : (override.merge (.object document)).at? (front ++ [Json.reservedKey]) =
        some value ↔ override.at? (front ++ [Json.reservedKey]) = some value ∧
          (Json.Value.object document).LeavesObject front := by
      rw [Json.at?_reserved_merge override distinct fresh, Json.Value.at?_asObject_concat]
      rfl
    constructor
    · intro found
      exact ⟨written, override, parsed, survives.mp found⟩
    · rintro ⟨_, other, same, both⟩
      rw [parsed] at same
      cases same
      exact survives.mpr both

/-- An override that wins brings the reserved key nowhere. One that loses keeps the key at each
path where it has it and where the document leaves the object around it, and nowhere else. -/
theorem reservedKey_applyMixin (distinct : (Json.Value.object document).hasDistinctKeys)
    (avoids : (Json.Value.object document).AvoidsReserved)
    (applied : applyMixin mixin (.object document) = .ok result) :
    (mixin.priority = .mixin → result.AvoidsReserved) ∧
      (mixin.priority = .gui → ∀ front, Json.reservedKey ∉ front → ∀ value,
        (result.at? (front ++ [Json.reservedKey]) = some value ↔
          Text.isBlankText mixin.config = false ∧ ∃ override,
            Yaml.parse? mixin.config = some override ∧
            override.at? (front ++ [Json.reservedKey]) = some value ∧
            (Json.Value.object document).LeavesObject front)) :=
  ⟨fun wins => avoidsReserved_applyMixin wins avoids applied,
    fun loses _ fresh value => at?_reserved_applyMixin loses distinct avoids applied fresh value⟩

end Overrides

/-! ### An override with the key -/

/-- A document with a list and an object. -/
def listing : Json.Object :=
  [("dns", .array []), ("log", .object [("level", .string "info")])]

/-- An override that has the reserved key at the root, where the document has a list, and where
it has an object. -/
def reserving : Json.Value :=
  .object [("__proto__", .object [("polluted", .string "yes")]),
    ("dns", .object [("__proto__", .string "yes")]), ("log", .object [("__proto__", .string "yes")])]

/-- The override, which loses. -/
def reservingMixin : Mixin :=
  { priority := .gui, config := reserving.compact }

/-- The key is at the root and in the log. -/
def reserved : Json.Object :=
  [("__proto__", .object [("polluted", .string "yes")]), ("dns", .array []),
    ("log", .object [("__proto__", .string "yes"), ("level", .string "info")])]

theorem parse?_reserving : Yaml.parse? reservingMixin.config = some reserving := by
  have grouped : (Yaml.tokens? reserving.compact).bind Yaml.events? =
      some [.startTable {}, .scalar {} .quoted "__proto__", .startTable {},
        .scalar {} .quoted "polluted", .scalar {} .quoted "yes", .stop,
        .scalar {} .quoted "dns", .startTable {}, .scalar {} .quoted "__proto__",
        .scalar {} .quoted "yes", .stop, .scalar {} .quoted "log", .startTable {},
        .scalar {} .quoted "__proto__", .scalar {} .quoted "yes", .stop, .stop] := by
    decide +kernel
  rw [reservingMixin, parse?_of_events grouped rfl]
  show (Yaml.treeOf _ 4680 128 1700 _).1.value? = _
  simp only [Yaml.treeOf, Yaml.membersOf]
  rfl

theorem applyMixin_reserving : applyMixin reservingMixin (.object listing) = .ok (.object reserved) :=
  applyMixin_of_parse? (by decide +kernel) parse?_reserving _

theorem avoidsReserved_listing : (Json.Value.object listing).AvoidsReserved := by
  refine Json.Value.avoidsReserved_object rfl fun key value found => ?_
  have among := Json.Object.mem_of_get? found
  simp only [listing, List.mem_cons, List.not_mem_nil, or_false, Prod.mk.injEq] at among
  rcases among with ⟨_, rfl⟩ | ⟨_, rfl⟩
  · exact Json.Value.avoidsReserved_of_flat rfl
  · refine Json.Value.avoidsReserved_object rfl fun key value found => ?_
    have among := Json.Object.mem_of_get? found
    simp only [List.mem_singleton, Prod.mk.injEq] at among
    rw [among.2]
    exact Json.Value.avoidsReserved_of_flat rfl

theorem reservedKey_applyMixin_reserving :
    (Json.Value.object listing).hasDistinctKeys ∧ (Json.Value.object listing).AvoidsReserved ∧
      applyMixin reservingMixin (.object listing) = .ok (.object reserved) ∧
      (reservingMixin.priority = .mixin → (Json.Value.object reserved).AvoidsReserved) ∧
      (reservingMixin.priority = .gui → ∀ front, Json.reservedKey ∉ front → ∀ value,
        ((Json.Value.object reserved).at? (front ++ [Json.reservedKey]) = some value ↔
          Text.isBlankText reservingMixin.config = false ∧ ∃ override,
            Yaml.parse? reservingMixin.config = some override ∧
            override.at? (front ++ [Json.reservedKey]) = some value ∧
            (Json.Value.object listing).LeavesObject front)) :=
  ⟨rfl, avoidsReserved_listing, applyMixin_reserving,
    reservedKey_applyMixin rfl avoidsReserved_listing applyMixin_reserving⟩

/-- So it does reach a document, by an override that loses. -/
theorem not_avoidsReserved_reserving :
    (Json.Value.object listing).AvoidsReserved ∧
      applyMixin reservingMixin (.object listing) = .ok (.object reserved) ∧
      ¬(Json.Value.object reserved).AvoidsReserved := by
  refine ⟨avoidsReserved_listing, applyMixin_reserving, fun avoids => ?_⟩
  have nothing := avoids [Json.reservedKey] List.mem_cons_self
  cases nothing

end Kernel

end ProxyProfile
