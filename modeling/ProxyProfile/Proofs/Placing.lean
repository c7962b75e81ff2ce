/-
This file proves that a list of rule-sets keeps its places.

The payload of a rule for rule-sets is a list of ids, in which blanks and empty pieces
mean nothing. What is written for it is positional: among several ids each has its
place in an array, with a null where there is no such rule-set, while a single id
stands for itself and leaves nothing behind if it leads nowhere. How a payload may
spell a list of ids is said by a grammar that knows nothing of the reader, and what
the written member must look like is said by the ids alone. The strict policy writes
the same where nothing is missing, and otherwise names the first id that is.
-/

import ProxyProfile.Proofs.Composing
import ProxyProfile.Proofs.Renaming

namespace ProxyProfile.Kernel

/-! ### Payloads that list ids -/

/-- Pieces of a text that are blank, or ids with blanks around them, and the ids in order. -/
inductive Spells : List (List Char) → List String → Prop
  | nil : Spells [] []
  | blank {piece : List Char} {pieces : List (List Char)} {ids : List String}
      (blank : ∀ c ∈ piece, Text.isBlank c) (rest : Spells pieces ids) :
      Spells (piece :: pieces) ids
  | id {before after : List Char} {id : String} {pieces : List (List Char)} {ids : List String}
      (blankBefore : ∀ c ∈ before, Text.isBlank c) (plain : PlainId id)
      (blankAfter : ∀ c ∈ after, Text.isBlank c) (rest : Spells pieces ids) :
      Spells ((before ++ id.toList ++ after) :: pieces) (id :: ids)

/-- A payload is a list of ids: pieces that spell them, with commas in between. -/
def ListsIds (payload : String) (ids : List String) : Prop :=
  ∃ pieces, Spells pieces ids ∧ payload.toList = Text.joinChars ',' pieces

theorem Spells.notMem_comma {pieces : List (List Char)} {ids : List String}
    (spells : Spells pieces ids) : ∀ piece ∈ pieces, ',' ∉ piece := by
  have comma : ¬ Text.isBlank ',' := by decide
  induction spells with
  | nil => exact nofun
  | blank blank _ inductionHypothesis =>
    exact List.forall_mem_cons.mpr ⟨fun inside => comma (blank _ inside), inductionHypothesis⟩
  | id blankBefore plain blankAfter _ inductionHypothesis =>
    refine List.forall_mem_cons.mpr ⟨fun inside => ?_, inductionHypothesis⟩
    rcases List.mem_append.mp inside with inner | after
    · rcases List.mem_append.mp inner with before | core
      · exact comma (blankBefore _ before)
      · exact plain.single core
    · exact comma (blankAfter _ after)

/-- The trimmed pieces that are not empty are the ids. -/
theorem Spells.filter_trim {pieces : List (List Char)} {ids : List String}
    (spells : Spells pieces ids) :
    ((pieces.map String.ofList).map Text.trim).filter (· ≠ "") = ids := by
  induction spells with
  | nil => rfl
  | @blank piece pieces ids blank _ inductionHypothesis =>
    have nothing : Text.trim (String.ofList piece) = "" := by
      rw [Text.trim, String.toList_ofList, Text.trimChars_of_blank blank, String.ofList_nil]
    rw [List.map_cons, List.map_cons, nothing, List.filter_cons_of_neg (by decide)]
    exact inductionHypothesis
  | @id before after id pieces ids blankBefore plain blankAfter _ inductionHypothesis =>
    have trimmed := congrArg String.toList plain.trimmed
    rw [Text.trim, String.toList_ofList] at trimmed
    have core : Text.trim (String.ofList (before ++ id.toList ++ after)) = id := by
      rw [Text.trim, String.toList_ofList, Text.trimChars_append blankBefore blankAfter trimmed,
        String.ofList_toList]
    rw [List.map_cons, List.map_cons, core, List.filter_cons_of_pos (by simpa using plain.given),
      inductionHypothesis]

theorem Spells.given {pieces : List (List Char)} {ids : List String}
    (spells : Spells pieces ids) : ∀ id ∈ ids, id ≠ "" := by
  intro id among
  rw [← spells.filter_trim] at among
  simpa using List.of_mem_filter among

/-- The ids that are read from a payload are the ids that it lists. -/
theorem ruleSetIds_of_spells {payload : String} {pieces : List (List Char)} {ids : List String}
    (spells : Spells pieces ids) (glued : payload.toList = Text.joinChars ',' pieces) :
    ruleSetIds payload = ids := by
  unfold ruleSetIds Text.split
  rw [glued]
  cases spells with
  | nil => rfl
  | blank blank rest =>
    have all := Spells.blank blank rest
    rw [Text.splitChars_joinChars (List.cons_ne_nil _ _) all.notMem_comma]
    exact all.filter_trim
  | id blankBefore plain blankAfter rest =>
    have all := Spells.id blankBefore plain blankAfter rest
    rw [Text.splitChars_joinChars (List.cons_ne_nil _ _) all.notMem_comma]
    exact all.filter_trim

/-! ### Places -/

/-- The tag of the first rule-set of a profile with an id. -/
def firstTag? (profile : Profile) (id : String) : Option String :=
  (profile.route.ruleSets.find? fun ruleSet => ruleSet.id = id).map RuleSet.tag

/-- What is written for some ids keeps their places: several are written as an array of their
tags, with a null for each that is missing, and a single one as its tag if it is there. -/
structure KeepsPlaces (profile : Profile) (ids : List String)
    (written : Option Json.Value) : Prop where
  none : ids = [] → written = none
  single : ∀ id, ids = [id] → written = (firstTag? profile id).map .string
  several : 2 ≤ ids.length → ∃ items : List Json.Value, written = some (.array items) ∧
    items.length = ids.length ∧
    ∀ (k : Nat) (id : String), ids[k]? = some id →
      items[k]? = some ((firstTag? profile id).elim .null .string)

section Places

variable {scope : Scope} {payload : String} {ids : List String}

theorem reachedRuleSet?_eq (scope : Scope) {id : String} (given : id ≠ "") :
    scope.reachedRuleSet? id = firstTag? scope.profile id :=
  if_neg given

/-- What is written keeps the places of the ids, if none that is missing is refused. -/
theorem gives_encodeRuleSets (given : ∀ id ∈ ids, id ≠ "") (read : ruleSetIds payload = ids)
    (granted : scope.policy = .lenient ∨ ∀ id ∈ ids, (firstTag? scope.profile id).isSome) :
    Gives (encodeRuleSets scope payload) (KeepsPlaces scope.profile ids) := by
  have tag : ∀ id ∈ ids, Gives (scope.ruleSet id) (· = firstTag? scope.profile id) := by
    intro id among
    have reached := reachedRuleSet?_eq scope (given id among)
    rw [← reached]
    refine gives_ruleSet (granted.imp_right fun there => Or.inr ?_)
    rw [reached]
    exact there id among
  unfold encodeRuleSets
  rw [read]
  rcases ids with _ | ⟨first, _ | ⟨second, rest⟩⟩
  · exact gives_pure _ ⟨fun _ => rfl, nofun, nofun⟩
  · refine gives_bind (tag first List.mem_cons_self) fun found equal => gives_pure _ ?_
    refine ⟨nofun, fun other same => ?_, fun long => absurd long (by simp)⟩
    rw [equal, (List.cons.inj same).1]
  · have each : ∀ id ∈ first :: second :: rest,
        Gives (do return (← scope.ruleSet id).elim Json.Value.null Json.Value.string)
          (· = (firstTag? scope.profile id).elim .null .string) := fun id among =>
      gives_bind (tag id among) fun found equal => gives_pure _ (by rw [equal])
    refine gives_bind (gives_mapM _ each) fun items equal => gives_pure _ ?_
    refine ⟨nofun, nofun, fun _ => ⟨items, rfl, ?_, fun k id found => ?_⟩⟩
    · rw [equal, List.length_map]
    · rw [equal, List.getElem?_map, found]
      rfl

/-- The strict policy refuses the first id that is missing. -/
theorem fails_encodeRuleSets (strict : scope.policy = .strict) {front back : List String}
    {id : String} (given : ∀ id ∈ ids, id ≠ "") (read : ruleSetIds payload = ids)
    (split : ids = front ++ id :: back)
    (there : ∀ earlier ∈ front, (firstTag? scope.profile earlier).isSome)
    (missing : firstTag? scope.profile id = none) :
    Fails (encodeRuleSets scope payload) (.unresolved ⟨.ruleSet, id⟩) := by
  have refused : Fails (scope.ruleSet id) (.unresolved ⟨.ruleSet, id⟩) :=
    fails_ruleSet strict (given id (by simp [split])) missing
  have found : ∀ earlier ∈ front, Gives (scope.ruleSet earlier) fun _ => True := by
    intro earlier among
    have set := given earlier (by simp [split, among])
    refine (gives_ruleSet (Or.inr (Or.inr ?_))).imp fun _ _ => trivial
    rw [reachedRuleSet?_eq scope set]
    exact there earlier among
  unfold encodeRuleSets
  rw [read]
  rcases ids with _ | ⟨first, _ | ⟨second, rest⟩⟩
  · simp at split
  · obtain ⟨rfl, rfl, rfl⟩ : front = [] ∧ first = id ∧ back = [] := by
      cases front <;> simp_all
    exact fails_first refused _
  · have before : ∀ earlier ∈ front,
        Gives (do return (← scope.ruleSet earlier).elim Json.Value.null Json.Value.string)
          fun _ => True := fun earlier among =>
      gives_bind (found earlier among) fun _ _ => gives_pure _ trivial
    show Fails ((first :: second :: rest).mapM _ >>= _) _
    rw [split]
    exact fails_first (fails_mapM before (fails_first refused _) back) _

end Places

/-! ### Rules -/

section Rules

variable {scope : Scope} {rule : Rule}

theorem encodeMatch_ruleSet (kind : rule.kind = .ruleSet) (start : Json.Object) :
    encodeMatch scope rule start = (do
      return some (insertSome start "rule_set" (← encodeRuleSets scope rule.payload))) := by
  have named : rule.kind.name = "rule_set" := by rw [kind]; rfl
  unfold encodeMatch
  rw [named]
  simp only [kind]
  refine congrArg _ (funext fun value => ?_)
  cases value <;> rfl

theorem ruleSet_notMem_laterKeys (encoder : RuleEncoder) :
    "rule_set" ∉ encoder.laterKeys := by
  cases encoder with
  | traffic => decide
  | names _ => exact (by decide : "rule_set" ∉ "invert" :: dnsActionKeys)

theorem mergesNothing_of_action (encoder : RuleEncoder)
    (noOptions : rule.action ≠ .routeOptions) (noAnswer : rule.action ≠ .predefined) :
    encoder.MergesNothing rule := by
  have nothing : encoder.options? rule = none := by
    cases encoder with
    | traffic => exact if_neg noOptions
    | names _ => exact if_neg (not_or.mpr ⟨noOptions, noAnswer⟩)
  intro text merged
  rw [nothing] at merged
  cases merged

/-- A part of the compilation encodes a rule so that some ids keep their places. -/
def EncodesPlaces (profile : Profile) (ids : List String)
    (part : Compile (Option Json.Object)) : Prop :=
  Gives part fun result => ∃ encoded, result = some encoded ∧
    KeepsPlaces profile ids (encoded.get? "rule_set")

/-- The rule-sets of a rule keep their places, if none that is missing is refused. -/
theorem encodesPlaces_encode (encoder : RuleEncoder) (scope : Scope) {ids : List String}
    (kind : rule.kind = .ruleSet) (plain : encoder.MergesNothing rule)
    (lists : ListsIds rule.payload ids)
    (granted : scope.policy = .lenient ∨
      (∀ id ∈ ids, (firstTag? scope.profile id).isSome) ∧ encoder.Reaches scope rule) :
    EncodesPlaces scope.profile ids (encoder.encode scope rule) := by
  obtain ⟨pieces, spells, glued⟩ := lists
  have keyed : rule.kind ≠ .inline := by simp [kind]
  have matching : Gives (encodeMatch scope rule (startRule rule)) fun result =>
      ∃ matched, result = some matched ∧
        KeepsPlaces scope.profile ids (matched.get? "rule_set") := by
    rw [encodeMatch_ruleSet kind]
    refine gives_bind (gives_encodeRuleSets spells.given (ruleSetIds_of_spells spells glued)
      (granted.imp_right And.left)) fun value keeps => gives_pure _ ⟨_, rfl, ?_⟩
    rwa [get?_insertSome_of_none rfl]
  refine (encoder.gives_encode keyed plain (granted.imp_right And.right) matching).imp ?_
  rintro _ ⟨matched, encoded, rfl, placed, keeps⟩
  refine ⟨encoded, rfl, ?_⟩
  rwa [keeps "rule_set" (ruleSet_notMem_laterKeys encoder)]

/-- A rule with a missing rule-set is refused under the strict policy, for the first one. -/
theorem fails_encode_ruleSet (encoder : RuleEncoder) (scope : Scope)
    (strict : scope.policy = .strict) {front back : List String} {id : String}
    (kind : rule.kind = .ruleSet)
    (lists : ListsIds rule.payload (front ++ id :: back))
    (there : ∀ earlier ∈ front, (firstTag? scope.profile earlier).isSome)
    (missing : firstTag? scope.profile id = none) :
    Fails (encoder.encode scope rule) (.unresolved ⟨.ruleSet, id⟩) := by
  obtain ⟨pieces, spells, glued⟩ := lists
  have keyed : rule.kind ≠ .inline := by simp [kind]
  refine encoder.fails_encode keyed ?_
  rw [encodeMatch_ruleSet kind]
  exact fails_first (fails_encodeRuleSets strict spells.given
    (ruleSetIds_of_spells spells glued) rfl there missing) _

/-- Both encoders write the rule-sets that a payload lists at their places. The lenient policy
always does, with what is missing left open; the strict one does where nothing is missing and the
reference of the action is not refused, and it refuses the first rule-set that is missing. -/
theorem encode_places (encoder : RuleEncoder) (profile : Profile) (rule : Rule)
    (ids : List String) (kind : rule.kind = .ruleSet) (noOptions : rule.action ≠ .routeOptions)
    (noAnswer : rule.action ≠ .predefined) (lists : ListsIds rule.payload ids) :
    EncodesPlaces profile ids (encoder.encode ⟨profile, .lenient⟩ rule) ∧
    ((∀ id ∈ ids, (firstTag? profile id).isSome) →
      encoder.Reaches ⟨profile, .strict⟩ rule →
      EncodesPlaces profile ids (encoder.encode ⟨profile, .strict⟩ rule)) ∧
    ∀ front id back, ids = front ++ id :: back →
      (∀ earlier ∈ front, (firstTag? profile earlier).isSome) → firstTag? profile id = none →
      Fails (encoder.encode ⟨profile, .strict⟩ rule) (.unresolved ⟨.ruleSet, id⟩) := by
  have plain := mergesNothing_of_action encoder noOptions noAnswer
  refine ⟨?_, fun there reaches => ?_, fun front id back split there missing => ?_⟩
  · exact encodesPlaces_encode encoder ⟨profile, .lenient⟩ kind plain lists (Or.inl rfl)
  · exact encodesPlaces_encode encoder ⟨profile, .strict⟩ kind plain lists
      (Or.inr ⟨there, reaches⟩)
  · subst split
    exact fails_encode_ruleSet encoder ⟨profile, .strict⟩ rfl kind lists there missing

/-- A profile with two rule-sets of one id, and another one. -/
def repeatingProfile : Profile where
  route := { ruleSets := [
    { id := "rs-ads", tag := "Ads" },
    { id := "rs-ads", tag := "More ads" },
    { id := "rs-cn", tag := "Domestic" }] }

/-- A rule with an id that is repeated, one that is missing, and pieces that say nothing. -/
def scatteredRule : Rule where
  payload := " rs-ads ,, rs-gone,rs-cn , ,rs-ads"
  action := .reject

/-- A rule whose rule-sets are all there. -/
def servedRule : Rule where
  payload := "rs-cn, rs-ads"
  action := .route

example :
    ((encodeRouteRule ⟨repeatingProfile, .lenient⟩ scatteredRule).run []).toOption.bind
      (fun given => given.1.bind fun encoded =>
        (encoded.get? "rule_set").map Json.Value.compact) =
      some "[\"Ads\",null,\"Domestic\",\"Ads\"]" := by
  decide +kernel

theorem plainId_repeating : ∀ id ∈ ["rs-ads", "rs-gone", "rs-cn"], PlainId id :=
  fun id among => ⟨by decide +revert, by decide +revert, by decide +revert⟩

theorem listsIds_scatteredRule :
    ListsIds scatteredRule.payload ["rs-ads", "rs-gone", "rs-cn", "rs-ads"] := by
  have ads := plainId_repeating "rs-ads" (by decide)
  have gone := plainId_repeating "rs-gone" (by decide)
  have domestic := plainId_repeating "rs-cn" (by decide)
  have bare : ∀ c ∈ ([] : List Char), Text.isBlank c := List.forall_mem_nil _
  have space : ∀ c ∈ [' '], Text.isBlank c := List.forall_mem_singleton.mpr rfl
  exact ⟨_, .id space ads space <| .blank bare <| .id space gone bare <|
    .id bare domestic space <| .blank space <| .id bare ads bare .nil, by decide⟩

theorem listsIds_servedRule : ListsIds servedRule.payload ["rs-cn", "rs-ads"] := by
  have ads := plainId_repeating "rs-ads" (by decide)
  have domestic := plainId_repeating "rs-cn" (by decide)
  have bare : ∀ c ∈ ([] : List Char), Text.isBlank c := List.forall_mem_nil _
  have space : ∀ c ∈ [' '], Text.isBlank c := List.forall_mem_singleton.mpr rfl
  exact ⟨_, .id bare domestic bare <| .id space ads bare .nil, by decide⟩

theorem encode_places_repeating :
    EncodesPlaces repeatingProfile ["rs-ads", "rs-gone", "rs-cn", "rs-ads"]
      (RuleEncoder.traffic.encode ⟨repeatingProfile, .lenient⟩ scatteredRule) ∧
    Fails (RuleEncoder.traffic.encode ⟨repeatingProfile, .strict⟩ scatteredRule)
      (.unresolved ⟨.ruleSet, "rs-gone"⟩) ∧
    EncodesPlaces repeatingProfile ["rs-cn", "rs-ads"]
      ((RuleEncoder.names true).encode ⟨repeatingProfile, .strict⟩ servedRule) := by
  have scattered := encode_places .traffic repeatingProfile scatteredRule _ rfl nofun nofun
    listsIds_scatteredRule
  have served := encode_places (.names true) repeatingProfile servedRule _ rfl nofun nofun
    listsIds_servedRule
  refine ⟨scattered.1, ?_, ?_⟩
  · exact scattered.2.2 ["rs-ads"] "rs-gone" ["rs-cn", "rs-ads"] rfl (by decide) (by decide)
  · refine served.2.1 (by decide) fun id reached own => ?_
    cases own
    exact Or.inl rfl

end Rules

end ProxyProfile.Kernel
