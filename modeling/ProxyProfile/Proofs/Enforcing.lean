/-
This file proves what every document for the kernel has, and what it keeps.

Plugins, the override and the script of the user can leave anything in the places
that the kernel depends on, nothing at all included. What is forced there is a few
members written into an object; the members under other keys stay as they are, and
no key that was there changes its place. The same is said four times, of the
document, its log, its experimental settings and the cache inside these, and where
one of them is no object, an empty one is taken. As nothing is written that is not
there afterwards, forcing the same again changes nothing.
-/

import ProxyProfile.Kernel.Document
import ProxyProfile.Proofs.Calling
import ProxyProfile.Proofs.Expansion
import ProxyProfile.Proofs.Handing
import ProxyProfile.Proofs.Merging

namespace ProxyProfile

namespace Json.Object

/-! ### Written members -/

/-- The members under other keys than some. -/
def without (object : Object) (names : List String) : Object :=
  object.filter fun member => member.1 ∉ names

/-- An object after some members were written into the object before. -/
structure Rewrites (members before after : Object) : Prop where
  /-- The written members are there. -/
  written : ∀ member ∈ members, after.get? member.1 = some member.2
  /-- All others are what they were. -/
  others : after.without members.keys = before.without members.keys
  /-- The keys that were there stand where they stood; those that were not stand behind. -/
  keys : after.keys = before.keys ++ members.keys.filter fun key => key ∉ before.keys

theorem insertAll_cons (object : Object) (member : String × Value) (rest : Object) :
    object.insertAll (member :: rest) = (object.insert member.1 member.2).insertAll rest :=
  rfl

theorem without_insert (object : Object) {key : String} (value : Value) {names : List String}
    (among : key ∈ names) : (object.insert key value).without names = object.without names := by
  unfold without
  induction object with
  | nil => simp [insert, among]
  | cons member rest inductionHypothesis =>
    obtain ⟨name, old⟩ := member
    by_cases same : name = key
    · rw [insert, if_pos same, List.filter_cons_of_neg (by simp [same, among]),
        List.filter_cons_of_neg (by simp [same, among])]
    · rw [insert, if_neg same, List.filter_cons, List.filter_cons, inductionHypothesis]

theorem without_insertAll (object : Object) (members : Object) {names : List String}
    (among : ∀ member ∈ members, member.1 ∈ names) :
    (object.insertAll members).without names = object.without names := by
  induction members generalizing object with
  | nil => rfl
  | cons member rest inductionHypothesis =>
    obtain ⟨first, others⟩ := List.forall_mem_cons.mp among
    rw [insertAll_cons, inductionHypothesis _ others, without_insert object _ first]

theorem get?_insertAll_of_mem (object : Object) {members : Object} (distinct : members.Distinct) :
    ∀ member ∈ members, (object.insertAll members).get? member.1 = some member.2 := by
  induction members generalizing object with
  | nil => exact fun member among => absurd among List.not_mem_nil
  | cons first rest inductionHypothesis =>
    obtain ⟨fresh, distinct⟩ := (distinct_cons _ _).mp distinct
    intro member among
    rw [insertAll_cons]
    rcases List.mem_cons.mp among with rfl | later
    · rw [get?_insertAll_of_none _ _ ((get?_eq_none_iff rest _).mpr fresh), get?_insert_self]
    · exact inductionHypothesis _ distinct member later

theorem keys_insertAll (object : Object) {members : Object} (distinct : members.Distinct) :
    (object.insertAll members).keys =
      object.keys ++ members.keys.filter fun key => key ∉ object.keys := by
  induction members generalizing object with
  | nil => exact (List.append_nil _).symm
  | cons member rest inductionHypothesis =>
    obtain ⟨fresh, distinct⟩ := (distinct_cons _ _).mp distinct
    rw [insertAll_cons, inductionHypothesis _ distinct, keys_cons]
    exact keys_insert_append object member.2 fresh

theorem rewrites_insertAll (object : Object) {members : Object} (distinct : members.Distinct) :
    Rewrites members object (object.insertAll members) where
  written := get?_insertAll_of_mem object distinct
  others := without_insertAll object members fun _ among => List.mem_map_of_mem among
  keys := keys_insertAll object distinct

/-- Members that are there already are written without effect. -/
theorem insertAll_of_written {object members : Object}
    (written : ∀ member ∈ members, object.get? member.1 = some member.2) :
    object.insertAll members = object := by
  induction members with
  | nil => rfl
  | cons member rest inductionHypothesis =>
    obtain ⟨first, others⟩ := List.forall_mem_cons.mp written
    rw [insertAll_cons, insert_of_get? first, inductionHypothesis others]

/-- What was written is written a second time without effect. -/
theorem insertAll_insertAll (object : Object) {members : Object} (distinct : members.Distinct) :
    (object.insertAll members).insertAll members = object.insertAll members :=
  insertAll_of_written (get?_insertAll_of_mem object distinct)

end Json.Object

namespace Kernel

open Json.Object (Rewrites)

/-! ### Levels -/

/-- The level that a log asks for, the default if the kernel does not know it. -/
def levelOf (log : Json.Object) : String :=
  let asked := ((log.get? "level").bind Json.Value.text?).getD ""
  if logLevels.contains asked then asked else defaultLevel

theorem levelOf_mem (log : Json.Object) : levelOf log ∈ logLevels := by
  unfold levelOf
  dsimp only
  split
  · rename_i known
    exact List.contains_iff_mem.mp known
  · decide

/-- A level that the kernel knows is a text, so a log that asks for it has a text there. -/
theorem get?_level_of_known {log : Json.Object} {level : String} (known : level ∈ logLevels)
    (asked : ((log.get? "level").bind Json.Value.text?).getD "" = level) :
    log.get? "level" = some (.string level) := by
  have proper : level ≠ "" := by
    rintro rfl
    revert known
    decide
  cases found : (log.get? "level").bind Json.Value.text? with
  | none =>
    rw [found] at asked
    exact absurd asked.symm proper
  | some text =>
    rw [found] at asked
    obtain ⟨value, given, text⟩ := Option.bind_eq_some_iff.mp found
    cases value with
    | string written =>
      cases text
      rw [given, ← asked]
      rfl
    | _ => cases text

theorem levelOf_of_get? {log : Json.Object} {level : String} (known : level ∈ logLevels)
    (asked : log.get? "level" = some (.string level)) : levelOf log = level := by
  unfold levelOf
  rw [asked]
  exact if_pos (List.contains_iff_mem.mpr known)

theorem levelOf_of_ne {log : Json.Object}
    (unknown : ∀ level ∈ logLevels, log.get? "level" ≠ some (.string level)) :
    levelOf log = defaultLevel := by
  unfold levelOf
  refine if_neg fun known => ?_
  have known := List.contains_iff_mem.mp known
  exact unknown _ known (get?_level_of_known known rfl)

/-! ### Forcing the parts -/

/-- The members of a log that are forced. -/
def logMembers (level : String) : Json.Object :=
  [("disabled", .bool false), ("output", .string ""), ("level", .string level)]

/-- The members of a cache that are forced. -/
def cacheMembers : Json.Object :=
  [("path", .string cachePath)]

/-- The members of experimental settings that are forced. -/
def experimentalMembers (experimental : Json.Object) : Json.Object :=
  [("cache_file", .object ((objectAt experimental "cache_file").insertAll cacheMembers))]

/-- The members of a document that are forced. -/
def rootMembers (root : Json.Object) : Json.Object :=
  [("log", .object (enforceLog (objectAt root "log"))),
    ("experimental", .object (enforceCache (objectAt root "experimental")))]

theorem distinct_logMembers (level : String) : (logMembers level).Distinct := by
  show ["disabled", "output", "level"].Nodup
  decide

theorem distinct_cacheMembers : cacheMembers.Distinct := by
  show ["path"].Nodup
  decide

theorem distinct_experimentalMembers (experimental : Json.Object) :
    (experimentalMembers experimental).Distinct := by
  show ["cache_file"].Nodup
  decide

theorem distinct_rootMembers (root : Json.Object) : (rootMembers root).Distinct := by
  show ["log", "experimental"].Nodup
  decide

/-- A level that is kept counts as written, in its place. -/
theorem enforceLog_eq (log : Json.Object) :
    enforceLog log = log.insertAll (logMembers (levelOf log)) := by
  have same : Json.Object.get? ((log.insert "disabled" (.bool false)).insert "output" (.string ""))
      "level" = log.get? "level" := by
    rw [Json.Object.get?_insert_of_ne _ _ (by decide),
      Json.Object.get?_insert_of_ne _ _ (by decide)]
  unfold enforceLog levelOf
  dsimp only
  rw [same]
  split
  · rename_i known
    have asked := get?_level_of_known (List.contains_iff_mem.mp known) rfl
    exact (Json.Object.insert_of_get? (same.trans asked)).symm
  · rfl

theorem enforceCache_eq (experimental : Json.Object) :
    enforceCache experimental = experimental.insertAll (experimentalMembers experimental) :=
  rfl

theorem objectAt_of_get? {object inner : Json.Object} {key : String}
    (found : object.get? key = some (.object inner)) : objectAt object key = inner := by
  unfold objectAt
  rw [found]
  rfl

theorem objectAt_insert_of_ne (object : Json.Object) {key other : String} (value : Json.Value)
    (differs : key ≠ other) : objectAt (object.insert key value) other = objectAt object other := by
  unfold objectAt
  rw [Json.Object.get?_insert_of_ne _ _ differs]

theorem enforce_eq (document : Json.Value) :
    enforce document = .object ((document.object?.getD []).insertAll
      (rootMembers (document.object?.getD []))) := by
  unfold enforce rootMembers
  dsimp only
  rw [objectAt_insert_of_ne _ _ (by decide)]
  rfl

/-! ### Forcing again -/

theorem enforceLog_enforceLog (log : Json.Object) :
    enforceLog (enforceLog log) = enforceLog log := by
  have written := Json.Object.get?_insertAll_of_mem log (distinct_logMembers (levelOf log))
  have level : levelOf (enforceLog log) = levelOf log := by
    refine levelOf_of_get? (levelOf_mem log) ?_
    rw [enforceLog_eq]
    exact written ("level", .string (levelOf log)) (by simp [logMembers])
  rw [enforceLog_eq (enforceLog log), level, enforceLog_eq log,
    Json.Object.insertAll_insertAll _ (distinct_logMembers _)]

theorem enforceCache_enforceCache (experimental : Json.Object) :
    enforceCache (enforceCache experimental) = enforceCache experimental := by
  have written := Json.Object.get?_insertAll_of_mem experimental
    (distinct_experimentalMembers experimental)
  have same : experimentalMembers (enforceCache experimental) =
      experimentalMembers experimental := by
    unfold experimentalMembers
    rw [enforceCache_eq, objectAt_of_get? (written _ List.mem_cons_self),
      Json.Object.insertAll_insertAll _ distinct_cacheMembers]
  rw [enforceCache_eq (enforceCache experimental), same, enforceCache_eq experimental,
    Json.Object.insertAll_insertAll _ (distinct_experimentalMembers _)]

/-- Forcing what was forced changes nothing. -/
theorem enforce_enforce (document : Json.Value) :
    enforce (enforce document) = enforce document := by
  rw [enforce_eq document, enforce_eq, Json.Value.object?, Option.getD_some]
  generalize document.object?.getD [] = root
  have written := Json.Object.get?_insertAll_of_mem root (distinct_rootMembers root)
  have same : rootMembers (root.insertAll (rootMembers root)) = rootMembers root := by
    rw [rootMembers, objectAt_of_get? (written _ List.mem_cons_self),
      objectAt_of_get? (written _ (List.mem_cons_of_mem _ List.mem_cons_self)),
      enforceLog_enforceLog, enforceCache_enforceCache]
    rfl
  rw [same, Json.Object.insertAll_insertAll _ (distinct_rootMembers root)]

/-! ### What a document has, and what it keeps -/

/-- The members of a document that came out of an object by forcing, with its log, its cache and
its experimental settings, and the level of the log. -/
structure Enforced (root : Json.Object) (level : String)
    (log cache experimental document : Json.Object) : Prop where
  /-- The kernel knows the level; it is the one asked for if the kernel knows that. -/
  known : level ∈ ["trace", "debug", "info", "warn", "error"]
  asked : ∀ asked ∈ ["trace", "debug", "info", "warn", "error"],
    (objectAt root "log").get? "level" = some (.string asked) → level = asked
  unasked : (∀ asked ∈ ["trace", "debug", "info", "warn", "error"],
    (objectAt root "log").get? "level" ≠ some (.string asked)) → level = "info"
  /-- Each of the four objects has its forced members, and its others as they were. -/
  inLog : Rewrites [("disabled", .bool false), ("output", .string ""), ("level", .string level)]
    (objectAt root "log") log
  inCache : Rewrites [("path", .string "cache.db")]
    (objectAt (objectAt root "experimental") "cache_file") cache
  inExperimental : Rewrites [("cache_file", .object cache)] (objectAt root "experimental")
    experimental
  inDocument : Rewrites [("log", .object log), ("experimental", .object experimental)] root
    document

theorem enforced_enforce (root : Json.Object) :
    ∃ level log cache experimental document, enforce (.object root) = .object document ∧
      Enforced root level log cache experimental document := by
  refine ⟨levelOf (objectAt root "log"), enforceLog (objectAt root "log"),
    (objectAt (objectAt root "experimental") "cache_file").insertAll cacheMembers,
    enforceCache (objectAt root "experimental"), _, enforce_eq _, levelOf_mem _,
    fun asked known given => levelOf_of_get? known given, levelOf_of_ne, ?_,
    Json.Object.rewrites_insertAll _ distinct_cacheMembers,
    Json.Object.rewrites_insertAll _ (distinct_experimentalMembers _),
    Json.Object.rewrites_insertAll _ (distinct_rootMembers root)⟩
  rw [enforceLog_eq]
  exact Json.Object.rewrites_insertAll _ (distinct_logMembers _)

/-! ### Documents are objects -/

theorem isObject_encodeParts {environment : Environment} {profile : Profile}
    {document : Json.Value} {mentioned : List Synthetic}
    (success : (encodeParts environment profile).run [] = .ok (document, mentioned)) :
    document.isObject := by
  obtain ⟨_, _, _, success⟩ := run_bind_ok success
  obtain ⟨_, _, _, success⟩ := run_bind_ok success
  obtain ⟨_, _, _, success⟩ := run_bind_ok success
  obtain ⟨_, _, _, success⟩ := run_bind_ok success
  cases success
  rfl

theorem isObject_compileBase {environment : Environment} {profile : Profile}
    {document : Json.Value} (success : compileBase environment profile = .ok document) :
    document.isObject := by
  unfold compileBase at success
  rw [StateT.run'_eq] at success
  cases run : (encodeParts environment profile).run [] with
  | error error =>
    rw [run] at success
    cases success
  | ok both =>
    rw [run] at success
    cases success
    exact isObject_encodeParts run

theorem isObject_applyMixin {mixin : Mixin} {document result : Json.Value}
    (object : document.isObject) (success : applyMixin mixin document = .ok result) :
    result.isObject := by
  unfold applyMixin at success
  split at success
  · cases success
    exact object
  · split at success
    · cases success
      unfold overlay
      cases mixin.priority <;> rfl
    · cases success

theorem yields_runScript (runner : Script.Runner) (profile : Profile) {document : Json.Value}
    (object : document.isObject) :
    Run.Yields (fun answer => answer.isObject) (runScript runner profile document) := by
  unfold runScript
  split
  · exact Run.yields_pure object
  · refine Run.yields_bind (Run.yields_anything _) fun answer _ => ?_
    split
    · rename_i shape
      exact Run.yields_pure shape
    · exact Run.yields_throw _

/-- What the script leaves is an object. -/
theorem yields_compileDraft (host : Host) (environment : Environment) (profile : Profile) :
    Run.Yields (fun draft => draft.isObject) (compileDraft host environment profile) := by
  unfold compileDraft
  refine Run.yields_bind (Run.yields_lift fun base => isObject_compileBase) fun base shape => ?_
  refine Run.yields_bind (host.yields_passDocument _ _ (fun _ _ _ _ _ _ _ shape => shape) shape)
    fun handed shape => ?_
  refine Run.yields_bind (Run.yields_lift fun merged => isObject_applyMixin shape)
    fun merged shape => ?_
  exact yields_runScript host.runner profile shape

theorem run_compile (host : Host) (environment : Environment) (profile : Profile)
    (history : List Script.Call) :
    (compile host environment profile).run.run history =
      match (compileDraft host environment profile).run.run history with
      | (.ok draft, calls) => (.ok (enforce draft), calls)
      | (.error error, calls) => (.error error, calls) := by
  unfold compile
  rw [Run.run_bind]
  generalize (compileDraft host environment profile).run.run history = both
  obtain ⟨result, calls⟩ := both
  cases result <;> rfl

/-- A profile that compiles gives an object that has what every document has to have, and keeps
everything else of the object that the script has left; forcing it again changes nothing. -/
theorem enforced_compile {host : Host} {environment : Environment} {profile : Profile}
    {history calls : List Script.Call} {document : Json.Value}
    (success : (compile host environment profile).run.run history = (.ok document, calls)) :
    ∃ root level log cache experimental members,
      (compileDraft host environment profile).run.run history = (.ok (.object root), calls) ∧
      document = .object members ∧
      Enforced root level log cache experimental members ∧
      enforce document = document := by
  rw [run_compile] at success
  cases drafted : (compileDraft host environment profile).run.run history with
  | mk result calls =>
    rw [drafted] at success
    cases result with
    | error error => cases success
    | ok draft =>
      cases success
      have shape := yields_compileDraft host environment profile _ _ _ drafted
      obtain ⟨root, object⟩ := Option.isSome_iff_exists.mp shape
      obtain rfl := Json.eq_object_of_object? object
      obtain ⟨level, log, cache, experimental, members, forced, enforced⟩ := enforced_enforce root
      exact ⟨root, level, log, cache, experimental, members, rfl, forced, enforced,
        enforce_enforce _⟩

/-- What a careless script leaves: a level that the kernel does not know, and settings that are
no object. -/
def carelessDraft : Json.Object :=
  [("experimental", .string "none"),
    ("log", .object [("level", .string "verbose"), ("timestamp", .bool true)])]

/-- A host without plugins whose scripts are careless. -/
def carelessHost : Host where
  registry := .new [] []
  runner := ⟨.stateless fun _ => .answer (.object carelessDraft), Script.defaultDeadline⟩

/-- A profile with a script and without an override. -/
def carelessProfile : Profile where
  id := "home"
  mixin := { config := "" }
  script := { code := "onGenerate = replace" }

theorem enforced_compile_careless :
    ∃ document call,
      (compile carelessHost { provider := twoProxies } carelessProfile).run.run [] =
        (.ok document, [call]) ∧
      ∃ root level log cache experimental members,
        (compileDraft carelessHost { provider := twoProxies } carelessProfile).run.run [] =
          (.ok (.object root), [call]) ∧
        document = .object members ∧
        Enforced root level log cache experimental members ∧
        enforce document = document :=
  ⟨_, _, rfl, enforced_compile rfl⟩

end Kernel

end ProxyProfile
