/-
This file proves what the program writes where a profile is asked for.

The two ways to write a document are one: a profile is compiled, the plugins are asked
or not, and what there is then is written. What the kernel depends on is forced last of
all that compiling does. Plugins that are asked before the kernel starts come after
that and have the last word; so the document has what the kernel depends on if they
are not asked, and as far as they keep it if they are. The induction for this is on the
plugins, from one answer to the next.
-/

import ProxyProfile.Command.Basic
import ProxyProfile.Proofs.Enforcing
import ProxyProfile.Proofs.Handing
import ProxyProfile.Proofs.Naming
import ProxyProfile.Proofs.Overlaying
import ProxyProfile.Proofs.Storing

namespace ProxyProfile

namespace Kernel

/-! ### Posture -/

/-- What the kernel depends on: it logs to its own output and at a level that it knows, and its
cache is where the program looks for it. -/
structure HasPosture (document : Json.Value) : Prop where
  disabled : document.at? ["log", "disabled"] = some (.bool false)
  output : document.at? ["log", "output"] = some (.string "")
  level : ∃ level ∈ ["trace", "debug", "info", "warn", "error"],
    document.at? ["log", "level"] = some (.string level)
  cache : document.at? ["experimental", "cache_file", "path"] = some (.string "cache.db")

/-- A document is forced to have it. -/
theorem hasPosture_enforce (document : Json.Value) : HasPosture (enforce document) := by
  rw [enforce_eq]
  generalize document.object?.getD [] = root
  have inRoot := Json.Object.get?_insertAll_of_mem root (distinct_rootMembers root)
  have inLog := Json.Object.get?_insertAll_of_mem (objectAt root "log")
    (distinct_logMembers (levelOf (objectAt root "log")))
  have inExperimental := Json.Object.get?_insertAll_of_mem (objectAt root "experimental")
    (distinct_experimentalMembers (objectAt root "experimental"))
  have inCache := Json.Object.get?_insertAll_of_mem
    (objectAt (objectAt root "experimental") "cache_file") distinct_cacheMembers
  have log := inRoot ("log", .object (enforceLog (objectAt root "log"))) (by simp [rootMembers])
  have experimental := inRoot
    ("experimental", .object (enforceCache (objectAt root "experimental"))) (by simp [rootMembers])
  rw [enforceLog_eq] at log
  rw [enforceCache_eq] at experimental
  have cache := inExperimental ("cache_file", _) List.mem_cons_self
  exact {
    disabled := by
      rw [Json.Value.at?_cons log, Json.Value.at?_singleton]
      exact inLog ("disabled", _) (by simp [logMembers])
    output := by
      rw [Json.Value.at?_cons log, Json.Value.at?_singleton]
      exact inLog ("output", _) (by simp [logMembers])
    level := by
      refine ⟨levelOf (objectAt root "log"), levelOf_mem _, ?_⟩
      rw [Json.Value.at?_cons log, Json.Value.at?_singleton]
      exact inLog ("level", _) (by simp [logMembers])
    cache := by
      rw [Json.Value.at?_cons experimental, Json.Value.at?_cons cache, Json.Value.at?_singleton]
      exact inCache ("path", _) List.mem_cons_self }

/-- A document that has what the kernel depends on is not written as an empty one. -/
theorem pretty_ne_of_hasPosture {document : Json.Value} (posture : HasPosture document) :
    document.pretty ≠ (Json.Value.object []).pretty := by
  have disabled := posture.disabled
  intro same
  have characters : document.prettyChars 0 = (Json.Value.object []).prettyChars 0 :=
    String.ofList_injective same
  cases document with
  | object members =>
    cases members with
    | nil => cases disabled
    | cons member rest =>
      revert characters
      simp [Json.Value.prettyChars, Json.newline]
  | _ => cases disabled

/-- A compiled document has it. -/
theorem yields_compile (host : Host) (environment : Environment) (profile : Profile) :
    Run.Yields HasPosture (compile host environment profile) :=
  Run.yields_bind (Run.yields_anything _) fun draft _ => Run.yields_pure (hasPosture_enforce draft)

/-! ### Compiling into a file -/

/-- A profile is compiled, and what it compiles to is written. -/
theorem run_compileFile {σ : Type} [Storage σ] (host : Host) (environment : Environment)
    (storage : σ) (path : String) (profile : Profile) (history : List Script.Call) :
    compileFile host environment storage path profile history =
      match (compile host environment profile).run.run history with
      | (.error error, calls) => ((.error error, storage), calls)
      | (.ok document, calls) =>
        ((((Storage.writeText storage path document.pretty).1.mapError Error.storage).map
          fun _ => document, (Storage.writeText storage path document.pretty).2), calls) := by
  show (compileFile host environment storage path profile).run history = _
  unfold compileFile
  rw [StateT.run_bind]
  generalize (compile host environment profile).run.run history = both
  obtain ⟨result, calls⟩ := both
  cases result with
  | error error => rfl
  | ok document =>
    dsimp only [Id.run, bind]
    generalize Storage.writeText storage path document.pretty = both
    obtain ⟨result, storage⟩ := both
    cases result <;> rfl

end Kernel

namespace Host

/-! ### Plugins that keep the posture -/

/-- Handed a document that has what the kernel depends on, a plugin answers one that has it. -/
def KeepsPosture (host : Host) (trigger : Trigger) (profile : Profile) (plugin : Plugin) : Prop :=
  ∀ history document answer, Kernel.HasPosture document →
    host.runner.reply history (host.handingCall trigger.handler profile.toJson
      (plugin, host.registry.codeOf plugin) document) = .ok answer →
    answer.isObject → Kernel.HasPosture answer

theorem yields_documentChain {host : Host} {trigger : Trigger} {profile : Profile}
    (keeps : ∀ plugin ∈ host.registry.recipients trigger, host.KeepsPosture trigger profile plugin)
    {document : Json.Value} (posture : Kernel.HasPosture document) :
    Run.Yields Kernel.HasPosture (host.documentChain trigger document profile) := by
  unfold documentChain
  rw [Registry.eligible_eq]
  refine yields_passDocument host _ _ (fun recipient among => ?_) posture
  obtain ⟨plugin, recipient, rfl⟩ := List.mem_map.mp among
  exact keeps plugin recipient

end Host

namespace Command

/-! ### Steps -/

namespace Step

variable {α β : Type} (directory : Directory)

theorem run_get_bind (next : Directory → Step β) :
    (get >>= next).run.run directory = (next directory).run.run directory :=
  rfl

theorem run_load_bind (read : Tree → Option α) (path : String)
    (next : Except Error (List α) → Step β) :
    (load read path >>= next).run.run directory =
      (next (Store.loadList read directory path)).run.run directory :=
  rfl

theorem run_orFail_bind (result : Except Error α) (next : α → Step β) :
    (orFail result >>= next).run.run directory =
      match result with
      | .error error => (.error error.message, directory)
      | .ok value => (next value).run.run directory := by
  cases result <;> rfl

theorem run_orFailWith_bind {ε : Type} (text : String) (result : Except ε α)
    (next : α → Step β) :
    (orFailWith text result >>= next).run.run directory =
      match result with
      | .error _ => (.error text, directory)
      | .ok value => (next value).run.run directory := by
  cases result <;> rfl

theorem run_settle (written : Except StorageError Unit × Directory) :
    (settle written).run.run directory =
      (written.1.mapError fun error => (Error.storage error).message, written.2) := by
  obtain ⟨result, after⟩ := written
  cases result <;> rfl

/-- What compiling into a file leaves behind is taken over. -/
theorem run_compiledFile (compiled : (Except Error Json.Value × Directory) × List Script.Call) :
    (match compiled with
      | ((result, directory), _) => do
        set directory
        let _ ← orFail result : Step Unit).run.run directory =
      ((compiled.1.1.mapError Error.message).map fun _ => (), compiled.1.2) := by
  obtain ⟨⟨result, after⟩, _⟩ := compiled
  cases result <;> rfl

end Step

/-! ### The three stages -/

theorem fresh_eq {α : Type} (run : Run α) : fresh run = (run.run.run []).1 :=
  rfl

/-- The profile that is asked for and what surrounds it, as the lists of a directory tell. -/
def chosen (settings : Settings) (wanted : String) (directory : Directory) :
    Except String (Profile × Kernel.Environment) :=
  match Store.loadList Profile.read? directory settings.profilesPath with
  | .error _ => .error "Failed to load profiles"
  | .ok profiles =>
    match profiles.find? fun profile => profile.id = wanted || profile.name = wanted with
    | none => .error ("Profile " ++ wanted ++ " not found")
    | some profile =>
      match Store.loadList Subscription.read? directory settings.subscriptionsPath with
      | .error error => .error error.message
      | .ok subscriptions =>
        match Store.loadList RuleSetFile.read? directory settings.ruleSetsPath with
        | .error error => .error error.message
        | .ok ruleSetFiles =>
          let store : SubscriptionStore Directory := { storage := directory, subscriptions }
          .ok (profile, { provider := store.provider, ruleSetFiles, policy := settings.policy })

/-- The document that is written for a profile: the compiled one, or what the plugins make of it
before the kernel starts. -/
def delivered (host : Host) (environment : Kernel.Environment) (profile : Profile)
    (beforeCoreStart : Bool) : Run Json.Value := do
  let document ← Kernel.compile host environment profile
  if beforeCoreStart then host.onBeforeCoreStart document profile else return document

theorem delivered_false (host : Host) (environment : Kernel.Environment) (profile : Profile) :
    delivered host environment profile false = Kernel.compile host environment profile := by
  simp only [delivered, Bool.false_eq_true, if_false, bind_pure]

/-- What is left behind where a document is to be written. -/
def leave (before : Directory) (path : String) :
    Except Error Json.Value → Except String Unit × Directory
  | .error error => (.error error.message, before)
  | .ok document =>
    let written := Storage.writeText before path document.pretty
    (written.1.mapError fun error => (Error.storage error).message, written.2)

/-- A profile is compiled into a file just so. -/
theorem compileFile_leave (host : Host) (environment : Kernel.Environment) (before : Directory)
    (path : String) (profile : Profile) :
    (((Kernel.compileFile host environment before path profile []).1.1.mapError
        Error.message).map fun _ => (),
      (Kernel.compileFile host environment before path profile []).1.2) =
      leave before path (fresh (Kernel.compile host environment profile)) := by
  rw [Kernel.run_compileFile, fresh_eq]
  generalize (Kernel.compile host environment profile).run.run [] = both
  obtain ⟨result, calls⟩ := both
  cases result with
  | error error => rfl
  | ok document =>
    unfold leave
    dsimp only
    generalize Storage.writeText before path document.pretty = both
    obtain ⟨result, after⟩ := both
    cases result <;> rfl

/-- What is asked for is found, the document is made, and it is written; only the last of the three
changes the directory. -/
theorem run_generate (settings : Settings) (host : Host) (wanted : String)
    (output : Option String) (beforeCoreStart : Bool) (before : Directory) :
    (generate settings host wanted output beforeCoreStart).run.run before =
      match chosen settings wanted before with
      | .error text => (.error text, before)
      | .ok (profile, environment) =>
        leave before (output.getD settings.outputPath)
          (fresh (delivered host environment profile beforeCoreStart)) := by
  unfold generate chosen
  -- Where a list cannot be loaded, both sides end with the same text.
  rw [Step.run_load_bind, Step.run_orFailWith_bind]
  cases Store.loadList Profile.read? before settings.profilesPath with
  | error error => rfl
  | ok profiles =>
    dsimp only
    cases profiles.find? fun profile => profile.id = wanted || profile.name = wanted with
    | none => rfl
    | some profile =>
      dsimp only
      rw [Step.run_load_bind, Step.run_orFail_bind]
      cases Store.loadList Subscription.read? before settings.subscriptionsPath with
      | error error => rfl
      | ok subscriptions =>
        dsimp only
        rw [Step.run_load_bind, Step.run_orFail_bind]
        cases Store.loadList RuleSetFile.read? before settings.ruleSetsPath with
        | error error => rfl
        | ok ruleSetFiles =>
          dsimp only
          rw [Step.run_get_bind]
          cases beforeCoreStart with
          | true =>
            simp only [delivered, if_true]
            rw [Step.run_orFail_bind]
            cases fresh _ with
            | error error => rfl
            | ok document =>
              dsimp only
              rw [Step.run_get_bind, Step.run_settle]
              rfl
          | false =>
            simp only [delivered_false, Bool.false_eq_true, if_false]
            rw [Step.run_get_bind, ← compileFile_leave]
            exact Step.run_compiledFile before _

/-- A written file is read back as the document. -/
theorem readText_of_leave {before after : Directory} {path : String}
    {result : Except Error Json.Value} (success : leave before path result = (.ok (), after)) :
    ∃ document, result = .ok document ∧ Storage.readText after path = .ok document.pretty := by
  unfold leave at success
  cases result with
  | error error => cases success
  | ok document =>
    cases written : Storage.writeText before path document.pretty with
    | mk outcome directory =>
      dsimp only at success
      rw [written] at success
      cases outcome with
      | error error => cases success
      | ok done =>
        cases success
        exact ⟨document, rfl, Directory.readText_of_writeText written⟩

/-! ### What is written -/

/-- A document that is written, next to the compiled one that it comes from and the calls made
until then. -/
structure Delivers (host : Host) (profile : Profile) (beforeCoreStart : Bool)
    (calls : List Script.Call) (compiled document : Json.Value) : Prop where
  /-- The compiled document has what the kernel depends on. -/
  posture : Kernel.HasPosture compiled
  /-- It is written as it is, unless the plugins are asked for. -/
  asCompiled : beforeCoreStart = false → document = compiled
  /-- If they are, it is handed along those that hear of it, and the last answer is written. -/
  handed : beforeCoreStart = true → ∃ made answers,
    Host.HandedAlong host Trigger.beforeCoreStart.handler profile.toJson
      ((host.registry.recipients .beforeCoreStart).map fun plugin =>
        (plugin, host.registry.codeOf plugin))
      compiled calls made answers (.ok document)
  /-- So the document keeps what the kernel depends on wherever each of these plugins does. -/
  kept : (beforeCoreStart = true → ∀ plugin ∈ host.registry.recipients .beforeCoreStart,
    host.KeepsPosture .beforeCoreStart profile plugin) → Kernel.HasPosture document

theorem delivers_delivered {host : Host} {environment : Kernel.Environment} {profile : Profile}
    {beforeCoreStart : Bool} {document : Json.Value}
    (success : fresh (delivered host environment profile beforeCoreStart) = .ok document) :
    ∃ compiled calls,
      (Kernel.compile host environment profile).run.run [] = (.ok compiled, calls) ∧
      Delivers host profile beforeCoreStart calls compiled document := by
  rw [fresh_eq, delivered, Run.run_bind] at success
  cases compiled : (Kernel.compile host environment profile).run.run [] with
  | mk result calls =>
    rw [compiled] at success
    cases result with
    | error error => cases success
    | ok base =>
      have posture := Kernel.yields_compile host environment profile _ _ _ compiled
      refine ⟨base, calls, rfl, ?_⟩
      cases beforeCoreStart with
      | false =>
        cases success
        exact ⟨posture, fun _ => rfl, (nomatch ·), fun _ => posture⟩
      | true =>
        simp only [if_true] at success
        obtain ⟨made, answers, _, handed⟩ :=
          Host.handsAlong_documentChain host .beforeCoreStart base profile calls
        unfold Host.onBeforeCoreStart at success
        rw [success] at handed
        refine ⟨posture, (nomatch ·), fun _ => ⟨made, answers, handed⟩, fun keep => ?_⟩
        exact Host.yields_documentChain (keep rfl) posture _ _ _ (Prod.ext success rfl)

/-- Where a profile is compiled into a file, the file holds what is made of the compiled document;
by itself the compiled document has what the kernel depends on. -/
theorem generate_delivers {settings : Settings} {host : Host} {wanted : String}
    {output : Option String} {beforeCoreStart : Bool} {before after : Directory}
    (success : (generate settings host wanted output beforeCoreStart).run.run before =
      (.ok (), after)) :
    ∃ profile environment compiled calls document,
      chosen settings wanted before = .ok (profile, environment) ∧
      (Kernel.compile host environment profile).run.run [] = (.ok compiled, calls) ∧
      Delivers host profile beforeCoreStart calls compiled document ∧
      Storage.readText after (output.getD settings.outputPath) = .ok document.pretty := by
  rw [run_generate] at success
  cases found : chosen settings wanted before with
  | error text =>
    rw [found] at success
    cases success
  | ok both =>
    obtain ⟨profile, environment⟩ := both
    rw [found] at success
    obtain ⟨document, given, written⟩ := readText_of_leave success
    obtain ⟨compiled, calls, made, delivers⟩ := delivers_delivered given
    exact ⟨profile, environment, compiled, calls, document, rfl, made, delivers, written⟩

/-- A profile with nothing in it. -/
def bareProfile : Profile where
  id := "home"
  mixin := { config := "" }

/-- A list of it, written as JSON; this is YAML too. -/
def bareText : String :=
  (Json.Value.array
    [.object [("id", .string "home"), ("mixin", .object [("config", .string "")])]]).compact

/-- A directory with that list and no other. -/
def bareDirectory : Directory where
  disk := ({ directories := [["data"]] } : Disk).put ["data", "profiles.yaml"]
    bareText.toUTF8
  current := []
  root := "."

/-- A host with one plugin, which answers an empty document before the kernel starts. -/
def emptyingHost : Host where
  registry := {
    plugins := [{ id := "last", name := "Last", triggers := [.known .beforeCoreStart] }]
    codes := [("last", "onBeforeCoreStart = empty")]
    settings := [] }
  runner := ⟨.stateless fun _ => .answer (.object []), Script.defaultDeadline⟩

theorem parseList?_bareText : Store.parseList? Profile.read? bareText = some [bareProfile] := by
  have grouped : (Yaml.tokens? bareText).bind Yaml.events? =
      some [.startList {}, .startTable {}, .scalar {} .quoted "id", .scalar {} .quoted "home",
        .scalar {} .quoted "mixin", .startTable {}, .scalar {} .quoted "config",
        .scalar {} .quoted "", .stop, .stop, .stop] := by
    decide +kernel
  unfold Store.parseList?
  rw [if_neg (by decide +kernel), Kernel.tree?_of_events grouped rfl, Option.bind_some]
  show (Tree.listOf? Profile.read? (Yaml.treeOf _ 3120 128 1100 _).1) = _
  simp only [Yaml.treeOf, Yaml.membersOf, Yaml.itemsOf]
  rfl

theorem loadList_of_missing {α : Type} {read : Tree → Option α} {directory : Directory}
    {path : String} (missing : Storage.readText directory path = .error (.notFound path)) :
    Store.loadList read directory path = .ok [] := by
  unfold Store.loadList
  rw [missing]

theorem loadList_of_text {α : Type} {read : Tree → Option α} {directory : Directory}
    {path text : String} {items : List α} (found : Storage.readText directory path = .ok text)
    (parsed : Store.parseList? read text = some items) :
    Store.loadList read directory path = .ok items := by
  unfold Store.loadList
  rw [found]
  dsimp only
  rw [parsed]

theorem chosen_bare : ∃ environment,
    chosen {} "home" bareDirectory = .ok (bareProfile, environment) := by
  have profiles : Store.loadList Profile.read? bareDirectory "data/profiles.yaml" =
      .ok [bareProfile] :=
    loadList_of_text (by decide +kernel) parseList?_bareText
  have subscriptions : Store.loadList Subscription.read? bareDirectory "data/subscribes.yaml" =
      .ok [] :=
    loadList_of_missing (by decide +kernel)
  have ruleSetFiles : Store.loadList RuleSetFile.read? bareDirectory "data/rulesets.yaml" =
      .ok [] :=
    loadList_of_missing (by decide +kernel)
  unfold chosen
  dsimp only
  rw [profiles, subscriptions, ruleSetFiles]
  exact ⟨_, rfl⟩

theorem generate_emptying : ∃ after,
    (generate {} emptyingHost "home" (some "out.json") true).run.run bareDirectory =
        (.ok (), after) ∧
      Storage.readText after "out.json" = .ok (Json.Value.object []).pretty := by
  obtain ⟨environment, found⟩ := chosen_bare
  have emptied : fresh (delivered emptyingHost environment bareProfile true) =
      .ok (.object []) :=
    rfl
  have written : (leave bareDirectory "out.json" (.ok (.object []))).1 = .ok () := by
    decide +kernel
  have run : (generate {} emptyingHost "home" (some "out.json") true).run.run bareDirectory =
      leave bareDirectory "out.json" (.ok (.object [])) := by
    rw [run_generate, found]
    dsimp only
    rw [emptied]
    rfl
  refine ⟨_, run.trans (Prod.ext written rfl), ?_⟩
  obtain ⟨document, given, held⟩ := readText_of_leave (Prod.ext written rfl)
  cases given
  exact held

theorem generate_delivers_emptying : ∃ after,
    (generate {} emptyingHost "home" (some "out.json") true).run.run bareDirectory =
        (.ok (), after) ∧
      ∃ profile environment compiled calls document,
        chosen {} "home" bareDirectory = .ok (profile, environment) ∧
        (Kernel.compile emptyingHost environment profile).run.run [] = (.ok compiled, calls) ∧
        Delivers emptyingHost profile true calls compiled document ∧
        Storage.readText after "out.json" = .ok document.pretty := by
  obtain ⟨after, success, _⟩ := generate_emptying
  have delivers := generate_delivers success
  rw [Option.getD_some] at delivers
  exact ⟨after, success, delivers⟩

/-- The document that the kernel is started with need not have what the kernel depends on. -/
theorem not_hasPosture_generate :
    ¬ ∀ (settings : Settings) (host : Host) (wanted : String) (output : Option String)
        (before after : Directory),
      (generate settings host wanted output true).run.run before = (.ok (), after) →
      ∃ document, Kernel.HasPosture document ∧
        Storage.readText after (output.getD settings.outputPath) = .ok document.pretty := by
  intro always
  obtain ⟨after, success, empty⟩ := generate_emptying
  obtain ⟨document, posture, held⟩ := always _ _ _ _ _ _ success
  rw [Option.getD_some, empty] at held
  exact Kernel.pretty_ne_of_hasPosture posture (Except.ok.inj held).symm

end Command

end ProxyProfile
