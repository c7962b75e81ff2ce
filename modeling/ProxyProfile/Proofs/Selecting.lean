/-
This file says what the filters and the prefix of a subscription make of its proxies.

The selection reads four patterns in two pairs before it looks at any proxy, so the
first one that is no pattern decides, also over an empty list. When all of them
are patterns, every proxy is judged for itself, by its tag and its type as they
were fetched, and what stays is in order and as often as it was there. Writing the
prefix touches one member: the tag keeps its place among the others, or comes
last where there was none. Afterwards the tag begins with the prefix, and so the
prefix is not written a second time.

All of it is said of objects. What becomes of other values is a matter of its own.
-/

import Mathlib.Data.List.Forall2
import ProxyProfile.Proofs.Distinctness
import ProxyProfile.Subscription.Selection

namespace ProxyProfile

/-! ### Patterns -/

namespace Pattern

/-- The pattern of a text that may stand between slashes. -/
def smart? (pattern : String) : Option Node :=
  parse? (unslash pattern)

/-- Whether a text can be used in a filter: it is empty or a pattern. -/
def isUsable (pattern : String) : Bool :=
  pattern = "" || (smart? pattern).isSome

/-- Whether a text matches a pattern. -/
def isMatchOf (pattern text : String) : Bool :=
  (smart? pattern).any (·.isMatch text)

/-- Whether a text matches the one pattern and not the other; an empty one asks nothing. -/
def admits (wanted unwanted text : String) : Bool :=
  (wanted = "" || isMatchOf wanted text) && (unwanted = "" || !isMatchOf unwanted text)

theorem readSide?_eq_none_iff (pattern : String) :
    readSide? smart? pattern = none ↔ isUsable pattern = false := by
  unfold readSide? isUsable
  by_cases empty : pattern = "" <;> simp [empty]

theorem all_of_readSide? {pattern : String} {side : Option Node}
    (read : readSide? smart? pattern = some side) (text : String) :
    side.all (·.isMatch text) = (pattern = "" || isMatchOf pattern text) := by
  unfold readSide? at read
  unfold isMatchOf
  by_cases empty : pattern = ""
  · rw [if_pos empty] at read
    cases read
    simp [empty]
  · rw [if_neg empty] at read
    obtain ⟨node, parsed, rfl⟩ := Option.map_eq_some_iff.mp read
    simp [empty, parsed]

theorem any_of_readSide? {pattern : String} {side : Option Node}
    (read : readSide? smart? pattern = some side) (text : String) :
    (!side.any (·.isMatch text)) = (pattern = "" || !isMatchOf pattern text) := by
  unfold readSide? at read
  unfold isMatchOf
  by_cases empty : pattern = ""
  · rw [if_pos empty] at read
    cases read
    simp [empty]
  · rw [if_neg empty] at read
    obtain ⟨node, parsed, rfl⟩ := Option.map_eq_some_iff.mp read
    simp [empty, parsed]

/-- What comes of reading the two patterns of a filter. -/
inductive Reads (wanted unwanted : String) : Except Side Filter → Prop
  | noWanted : isUsable wanted = false → Reads wanted unwanted (.error .wanted)
  | noUnwanted : isUsable wanted → isUsable unwanted = false →
      Reads wanted unwanted (.error .unwanted)
  | filter (filter : Filter) : isUsable wanted → isUsable unwanted →
      (∀ text, filter.accepts text = admits wanted unwanted text) →
      Reads wanted unwanted (.ok filter)

theorem reads_smart (wanted unwanted : String) :
    Reads wanted unwanted (Filter.smart wanted unwanted) := by
  show Reads wanted unwanted (Filter.build smart? wanted unwanted)
  unfold Filter.build
  have usable : ∀ {pattern : String} {side : Option Node},
      readSide? smart? pattern = some side → isUsable pattern := by
    intro pattern side read
    by_contra unusable
    rw [(readSide?_eq_none_iff pattern).mpr (Bool.eq_false_iff.mpr unusable)] at read
    cases read
  cases first : readSide? smart? wanted with
  | none => exact .noWanted ((readSide?_eq_none_iff wanted).mp first)
  | some left =>
    cases second : readSide? smart? unwanted with
    | none => exact .noUnwanted (usable first) ((readSide?_eq_none_iff unwanted).mp second)
    | some right =>
      refine .filter ⟨left, right⟩ (usable first) (usable second) fun text => ?_
      unfold Filter.accepts admits
      rw [all_of_readSide? first, any_of_readSide? second]

end Pattern

namespace Subscription

open Pattern (isUsable admits Reads reads_smart)

/-! ### Filters -/

/-- The patterns of a subscription, in the order in which they are read. -/
def patterns (subscription : Subscription) : List (FilterField × String) :=
  [(.wanted, subscription.wanted), (.unwanted, subscription.unwanted),
    (.wantedProtocol, subscription.wantedProtocol),
    (.unwantedProtocol, subscription.unwantedProtocol)]

/-- The first pattern of a subscription that is none. -/
def unusable? (subscription : Subscription) : Option FilterField :=
  (subscription.patterns.find? fun pattern => !isUsable pattern.2).map Prod.fst

/-- Whether a proxy is wanted, by its tag and its type. -/
def wants (subscription : Subscription) (proxy : Json.Value) : Bool :=
  admits subscription.wanted subscription.unwanted (proxy.textAt "tag") &&
    admits subscription.wantedProtocol subscription.unwantedProtocol (proxy.textAt "type")

/-- The two filters are read, or the first pattern that is none is named. -/
theorem select_eq (subscription : Subscription) (proxies : List Json.Value) :
    subscription.select proxies =
      match subscription.unusable? with
      | some field => .error (.filter subscription.name field)
      | none => (proxies.filter subscription.wants).mapM (addPrefix subscription.proxyPrefix) := by
  have tagsRead := reads_smart subscription.wanted subscription.unwanted
  have typesRead := reads_smart subscription.wantedProtocol subscription.unwantedProtocol
  unfold select tagFilter typeFilter
  generalize Pattern.Filter.smart subscription.wanted subscription.unwanted = tags at tagsRead ⊢
  generalize Pattern.Filter.smart subscription.wantedProtocol subscription.unwantedProtocol = types
    at typesRead ⊢
  cases tagsRead with
  | noWanted bad =>
    have first : unusable? subscription = some .wanted := by simp [unusable?, patterns, bad]
    rw [first]
    rfl
  | noUnwanted good bad =>
    have first : unusable? subscription = some .unwanted := by
      simp [unusable?, patterns, good, bad]
    rw [first]
    rfl
  | filter tags wantedGood unwantedGood tagged =>
    cases typesRead with
    | noWanted bad =>
      have first : unusable? subscription = some .wantedProtocol := by
        simp [unusable?, patterns, wantedGood, unwantedGood, bad]
      rw [first]
      rfl
    | noUnwanted good bad =>
      have first : unusable? subscription = some .unwantedProtocol := by
        simp [unusable?, patterns, wantedGood, unwantedGood, good, bad]
      rw [first]
      rfl
    | filter types wantedTypes unwantedTypes typed =>
      have none : unusable? subscription = none := by
        simp [unusable?, patterns, wantedGood, unwantedGood, wantedTypes, unwantedTypes]
      have passing : passes tags types = subscription.wants := by
        funext proxy
        unfold passes wants
        rw [tagged, typed]
      rw [none, ← passing]
      rfl

/-! ### Prefixes -/

/-- An object with another tag. All other members are as they were. -/
inductive Retagged (tag : String) : Json.Object → Json.Object → Prop
  /-- The tag keeps its place. -/
  | inPlace (before : Json.Object) (old : Json.Value) (after : Json.Object) :
      "tag" ∉ before.keys →
      Retagged tag (before ++ ("tag", old) :: after) (before ++ ("tag", .string tag) :: after)
  /-- Where there was none it comes last. -/
  | atEnd (members : Json.Object) : "tag" ∉ members.keys →
      Retagged tag members (members ++ [("tag", .string tag)])

theorem Retagged.cons {tag name : String} {members written : Json.Object} (value : Json.Value)
    (other : "tag" ≠ name) (retagged : Retagged tag members written) :
    Retagged tag ((name, value) :: members) ((name, value) :: written) := by
  cases retagged with
  | inPlace before old after absent =>
    exact .inPlace ((name, value) :: before) old after
      (List.not_mem_cons_of_ne_of_not_mem other absent)
  | atEnd _ absent =>
    exact .atEnd ((name, value) :: members) (List.not_mem_cons_of_ne_of_not_mem other absent)

theorem retagged_insert (tag : String) (members : Json.Object) :
    Retagged tag members (members.insert "tag" (.string tag)) := by
  induction members with
  | nil => exact .atEnd [] List.not_mem_nil
  | cons member rest inductionHypothesis =>
    obtain ⟨name, value⟩ := member
    rw [Json.Object.insert]
    by_cases same : name = "tag"
    · rw [if_pos same, same]
      exact .inPlace [] value rest List.not_mem_nil
    · rw [if_neg same]
      exact inductionHypothesis.cons value (Ne.symm same)

/-- What a prefix makes of a proxy. -/
structure Prefixed (start : String) (proxy kept : Json.Value) : Prop where
  /-- A proxy whose tag begins with the prefix stays as it is. -/
  same : start.toList <+: (proxy.textAt "tag").toList → kept = proxy
  /-- Any other one gets the prefix in front of its tag. -/
  retagged : ¬ start.toList <+: (proxy.textAt "tag").toList → ∃ members written,
    proxy = .object members ∧ kept = .object written ∧
      Retagged (start ++ proxy.textAt "tag") members written
  /-- Afterwards its tag begins with the prefix. -/
  begins : start.toList <+: (kept.textAt "tag").toList
  /-- So the same prefix changes nothing any more. -/
  settled : addPrefix start kept = .ok kept

theorem addPrefix_of_begins {start : String} {proxy : Json.Value}
    (begins : start.toList <+: (proxy.textAt "tag").toList) :
    addPrefix start proxy = .ok proxy := by
  unfold addPrefix
  simp [(Text.dropStart?_isSome_iff _ _).mpr begins]

/-- An object with a prefix in front of its tag. -/
def retag (start : String) (members : Json.Object) : Json.Value :=
  .object (Json.Object.insert members "tag"
    (.string (start ++ (Json.Value.object members).textAt "tag")))

theorem textAt_retag (start : String) (members : Json.Object) :
    (retag start members).textAt "tag" = start ++ (Json.Value.object members).textAt "tag" := by
  unfold retag
  rw [Json.Value.textAt, Json.Value.get?, Json.Value.object?, Option.bind_some,
    Json.Object.get?_insert_self, Option.bind_some, Json.Value.text?, Option.getD_some]

/-- The prefix can be written into every object. -/
theorem exists_prefixed (start : String) {proxy : Json.Value} (object : proxy.isObject) :
    ∃ kept, addPrefix start proxy = .ok kept ∧ Prefixed start proxy kept := by
  by_cases begins : start.toList <+: (proxy.textAt "tag").toList
  · have unchanged := addPrefix_of_begins begins
    exact ⟨proxy, unchanged, fun _ => rfl, fun other => absurd begins other, begins, unchanged⟩
  · obtain ⟨members, rfl⟩ : ∃ members, proxy = .object members := by
      cases proxy with
      | object members => exact ⟨members, rfl⟩
      | _ => cases object
    have filled : start ≠ "" := by
      rintro rfl
      exact begins List.nil_prefix
    have missing := mt (Text.dropStart?_isSome_iff _ _).mp begins
    have added : addPrefix start (.object members) = .ok (retag start members) := by
      unfold addPrefix
      simp [filled, missing]
      rfl
    have tagged := textAt_retag start members
    have starts : start.toList <+: ((retag start members).textAt "tag").toList := by
      rw [tagged, String.toList_append]
      exact List.prefix_append _ _
    exact ⟨_, added, fun other => absurd other begins,
      fun _ => ⟨members, _, rfl, rfl, retagged_insert _ members⟩, starts,
      addPrefix_of_begins starts⟩

/-- A list of objects gets the prefix one by one. -/
theorem exists_mapM_prefixed (start : String) {proxies : List Json.Value}
    (objects : ∀ proxy ∈ proxies, proxy.isObject) :
    ∃ kept, proxies.mapM (addPrefix start) = .ok kept ∧
      List.Forall₂ (Prefixed start) proxies kept := by
  induction proxies with
  | nil => exact ⟨[], rfl, List.Forall₂.nil⟩
  | cons proxy rest inductionHypothesis =>
    rw [List.forall_mem_cons] at objects
    obtain ⟨first, added, prefixed⟩ := exists_prefixed start objects.1
    obtain ⟨others, more, related⟩ := inductionHypothesis objects.2
    refine ⟨first :: others, ?_, List.Forall₂.cons prefixed related⟩
    rw [List.mapM_cons, added, more]
    rfl

/-! ### Selections -/

/-- A subscription whose patterns can all be used selects, from any list of objects, the proxies
that it wants, in order and each as often as it is there, with the prefix in front of their tags.
If one of the patterns cannot be used, the error names the first of them, whatever the list is. -/
theorem select_wanted (subscription : Subscription) (proxies : List Json.Value) :
    match subscription.unusable? with
    | some field => subscription.select proxies = .error (.filter subscription.name field)
    | none => (∀ proxy ∈ proxies, proxy.isObject) → ∃ kept,
        subscription.select proxies = .ok kept ∧
          List.Forall₂ (Prefixed subscription.proxyPrefix) (proxies.filter subscription.wants)
            kept := by
  have selected := subscription.select_eq proxies
  cases usable : subscription.unusable? with
  | some field =>
    rw [usable] at selected
    exact selected
  | none =>
    rw [usable] at selected
    intro objects
    rw [selected]
    exact exists_mapM_prefixed _ fun proxy among => objects proxy (List.mem_of_mem_filter among)

/-- A subscription that takes some proxies and puts a prefix in front of their tags. -/
def marking : Subscription where
  wanted := "^(P-)?n"
  unwanted := "old$"
  wantedProtocol := "vmess|trojan"
  proxyPrefix := "P-"

/-- One proxy twice, one with the prefix already, one that is not wanted by its tag, one by its
type, and one without a tag. -/
def fetched : List Json.Value :=
  [.object [("tag", .string "n1"), ("type", .string "vmess")],
    .object [("type", .string "trojan"), ("tag", .string "P-n2")],
    .object [("tag", .string "n3 old"), ("type", .string "vmess")],
    .object [("tag", .string "n4"), ("type", .string "http")],
    .object [("type", .string "vmess")],
    .object [("tag", .string "n1"), ("type", .string "vmess")]]

theorem select_wanted_marking :
    marking.unusable? = none ∧ (∀ proxy ∈ fetched, proxy.isObject) ∧
      (fetched.filter marking.wants).map (·.textAt "tag") = ["n1", "P-n2", "n1"] ∧
      ∃ kept, marking.select fetched = .ok kept ∧
        List.Forall₂ (Prefixed marking.proxyPrefix) (fetched.filter marking.wants) kept := by
  have usable : marking.unusable? = none := by decide +kernel
  have objects : ∀ proxy ∈ fetched, proxy.isObject := by decide
  have selected := select_wanted marking fetched
  rw [usable] at selected
  exact ⟨usable, objects, by decide +kernel, selected objects⟩

/-- The patterns are looked at in a fixed order, and only the first bad one is named. -/
example : ({ unwanted := "(", wantedProtocol := "[" } : Subscription).unusable? = some .unwanted := by
  decide +kernel

end Subscription

end ProxyProfile
