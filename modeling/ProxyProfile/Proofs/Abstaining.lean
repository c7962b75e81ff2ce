/-
This file proves that the program changes no file unless it succeeds.

Writing is the last thing that each command does, and a write that fails leaves the
files alone. So a command that fails has either written nothing or has failed to
write. Only the update of a subscription writes twice. There the second file is one
that was read before; the first write may replace it, but it does not get in its
way, and so the second write succeeds.
-/

import ProxyProfile.Proofs.Delivering
import ProxyProfile.Proofs.Growing
import ProxyProfile.Proofs.Ingestion

namespace ProxyProfile

/-! ### Updates -/

namespace Subscription

variable {host : Host} {before : Directory} {subscription : Subscription} {body : String}
  {history calls : List Script.Call} {ingestion : Ingestion Directory}

/-- An update writes nothing, or else it writes a list and ends as the writing does. -/
theorem storage_of_ingest
    (updates : (ingest host before subscription body).run history = (ingestion, calls)) :
    (ingestion.storage = before ∧ ∃ error, ingestion.result = .error error) ∨
      ∃ updated proxies, ingestion = writeList before updated proxies := by
  rw [run_ingest] at updates
  split at updates
  · cases updates
    exact Or.inl ⟨rfl, _, rfl⟩
  · split at updates
    · cases updates
      exact Or.inl ⟨rfl, _, rfl⟩
    · rename_i updated proxies _ _
      obtain ⟨equal, _⟩ := Prod.mk.inj updates
      exact Or.inr ⟨updated.refreshIndex proxies, proxies, equal.symm⟩

/-- An update that fails leaves every file as it was. -/
theorem sameFiles_of_ingest_error {error : Error}
    (updates : (ingest host before subscription body).run history = (ingestion, calls))
    (fails : ingestion.result = .error error) :
    before.disk.SameFiles ingestion.storage.disk := by
  rcases storage_of_ingest updates with ⟨same, _⟩ | ⟨updated, proxies, equal⟩
  · rw [same]
    exact Disk.SameFiles.refl _
  · rw [equal] at fails ⊢
    unfold writeList at fails ⊢
    split at fails
    · cases fails
    · rename_i error after written
      exact Directory.sameFiles_of_writeText_error written

/-- After an update, a path to a file still leads to one. -/
theorem leadsToFile_of_ingest {path : String} (leads : before.LeadsToFile path)
    (updates : (ingest host before subscription body).run history = (ingestion, calls)) :
    ingestion.storage.LeadsToFile path := by
  rcases storage_of_ingest updates with ⟨same, _⟩ | ⟨updated, proxies, equal⟩
  · rwa [same]
  · rw [equal]
    have written := Directory.leadsToFile_write leads updated.path
      (Json.Value.array proxies).pretty.toUTF8
    unfold writeList Storage.writeText
    generalize Storage.write before updated.path _ = both at written ⊢
    obtain ⟨result, after⟩ := both
    cases result <;> exact written

end Subscription

namespace Command

/-! ### Steps -/

namespace Step

variable {α β : Type}

theorem run_bind (step : Step α) (next : α → Step β) (before : Directory) :
    (step >>= next).run.run before =
      match step.run.run before with
      | (.ok value, between) => (next value).run.run between
      | (.error text, after) => (.error text, after) := by
  rw [ExceptT.run_bind, StateT.run_bind]
  generalize step.run.run before = both
  obtain ⟨result, between⟩ := both
  cases result <;> rfl

/-- A step leaves every file as it was. -/
def Keeps (step : Step α) : Prop :=
  ∀ before : Directory, before.disk.SameFiles (step.run.run before).2.disk

/-- A step that fails leaves every file as it was. -/
def Abstains (step : Step α) : Prop :=
  ∀ (before : Directory) text after, step.run.run before = (.error text, after) →
    before.disk.SameFiles after.disk

theorem run_set_bind (left before : Directory) (next : PUnit → Step β) :
    (set left >>= next).run.run before = (next ⟨⟩).run.run left :=
  rfl

theorem keeps_pure (value : α) : Keeps (pure value) :=
  fun before => Disk.SameFiles.refl before.disk

theorem keeps_get : Keeps get :=
  fun before => Disk.SameFiles.refl before.disk

theorem keeps_load (read : Tree → Option α) (path : String) : Keeps (load read path) :=
  fun before => Disk.SameFiles.refl before.disk

theorem keeps_orFailWith {ε : Type} (text : String) (result : Except ε α) :
    Keeps (orFailWith text result) := by
  intro before
  cases result <;> exact Disk.SameFiles.refl before.disk

theorem keeps_orFail (result : Except Error α) : Keeps (orFail result) := by
  intro before
  cases result <;> exact Disk.SameFiles.refl before.disk

theorem Keeps.bind {step : Step α} {next : α → Step β} (keeps : Keeps step)
    (rest : ∀ value, Keeps (next value)) : Keeps (step >>= next) := by
  intro before
  have same := keeps before
  rw [run_bind]
  generalize step.run.run before = both at same ⊢
  obtain ⟨result, between⟩ := both
  cases result with
  | error text => exact same
  | ok value => exact same.trans (rest value between)

/-- What fails behind a step that leaves the files alone may as well fail at the start. -/
theorem Keeps.bind_abstains {step : Step α} {next : α → Step β} (keeps : Keeps step)
    (rest : ∀ value, Abstains (next value)) : Abstains (step >>= next) := by
  intro before text after run
  have same := keeps before
  rw [run_bind] at run
  generalize step.run.run before = both at same run
  obtain ⟨result, between⟩ := both
  cases result with
  | error text =>
    cases run
    exact same
  | ok value => exact same.trans (rest value between text after run)

/-- Giving a value behind a step cannot fail. -/
theorem Abstains.bind_pure {step : Step α} (abstains : Abstains step) (value : α → β) :
    Abstains (step >>= fun given => pure (value given)) := by
  intro before text after run
  rw [run_bind] at run
  cases first : step.run.run before with
  | mk result between =>
    rw [first] at run
    cases result with
    | ok given => cases run
    | error text =>
      cases run
      exact abstains before text after first

/-- Writing a file is all or nothing. -/
theorem abstains_write (path text : String) :
    Abstains (get >>= fun directory => settle (Storage.writeText directory path text)) := by
  intro before shown after run
  rw [run_get_bind, run_settle] at run
  cases written : Storage.writeText before path text with
  | mk result left =>
    rw [written] at run
    cases result with
    | ok done => cases run
    | error error =>
      cases run
      exact Directory.sameFiles_of_writeText_error written

end Step

/-! ### Commands -/

open Step

section Commands

variable (settings : Settings) (host : Host)

theorem abstains_generate (wanted : String) (output : Option String) (beforeCoreStart : Bool) :
    Abstains (generate settings host wanted output beforeCoreStart) := by
  intro before text after run
  rw [run_generate] at run
  split at run
  · cases run
    exact Disk.SameFiles.refl _
  · unfold leave at run
    split at run
    · cases run
      exact Disk.SameFiles.refl _
    · rename_i document _
      refine abstains_write (output.getD settings.outputPath) document.pretty before text after ?_
      rw [run_get_bind, run_settle]
      exact run

theorem abstains_trigger (event : Trigger) : Abstains (trigger settings host event) :=
  (keeps_orFailWith _ _).bind_abstains fun _ => abstains_write _ _

theorem abstains_runPlugin (id handler : String) (arguments : List String) :
    Abstains (runPlugin settings host id handler arguments) := by
  unfold runPlugin
  refine (keeps_orFail _).bind_abstains ?_
  rintro ⟨answer, registry⟩
  have writes := (abstains_write settings.pluginsPath
    (Yaml.write (registry.plugins.map Plugin.toJson))).bind_pure fun _ => answer.pretty ++ "\n"
  rwa [bind_assoc] at writes

/-- A list that is loaded and not empty comes from a file. -/
theorem leadsToFile_of_loadList {α : Type} {read : Tree → Option α} {directory : Directory}
    {path : String} {items : List α} (loaded : Store.loadList read directory path = .ok items)
    (filled : items ≠ []) : directory.LeadsToFile path := by
  unfold Store.loadList at loaded
  split at loaded
  · cases loaded
    exact absurd rfl filled
  · cases loaded
  · rename_i text found
    exact Directory.leadsToFile_of_readText found

theorem abstains_updateSubscription (id body : String) :
    Abstains (updateSubscription settings host id body) := by
  intro before text after run
  unfold updateSubscription at run
  rw [run_get_bind] at run
  dsimp only at run
  split at run
  · cases run
    exact Disk.SameFiles.refl _
  rename_i content _
  rw [run_load_bind, run_orFail_bind] at run
  cases loaded : Store.loadList Subscription.read? before settings.subscriptionsPath with
  | error error =>
    rw [loaded] at run
    cases run
    exact Disk.SameFiles.refl _
  | ok subscriptions =>
    rw [loaded] at run
    dsimp only at run
    split at run
    · cases run
      exact Disk.SameFiles.refl _
    rename_i subscription found
    have leads : before.LeadsToFile settings.subscriptionsPath := by
      refine leadsToFile_of_loadList loaded ?_
      rintro rfl
      cases found
    cases updates : Subscription.ingest host before subscription content [] with
    | mk ingestion calls =>
      rw [updates] at run
      dsimp only at run
      rw [run_set_bind, run_orFail_bind] at run
      cases ended : ingestion.result with
      | error error =>
        rw [ended] at run
        cases run
        exact Subscription.sameFiles_of_ingest_error updates ended
      | ok proxies =>
        -- Now the list of subscriptions is written, over the file that it was read from.
        have replaced := Directory.write_of_leadsToFile
          (Subscription.leadsToFile_of_ingest leads updates)
        rw [ended] at run
        dsimp only at run
        rw [run_get_bind, run_settle, Store.saveList, Storage.writeText, replaced] at run
        have shown := congrArg Prod.fst run
        cases shown

/-- Carries a task out once the settings and the plugins are there. -/
def carryOut : Task → Step String
  | .generate profile output beforeCoreStart => do
    generate settings host profile output beforeCoreStart
    return ""
  | .trigger event => do
    trigger settings host event
    return ""
  | .runPlugin id handler arguments => runPlugin settings host id handler arguments
  | .subscription id body => do
    updateSubscription settings host id body
    return ""

theorem abstains_carryOut (task : Task) : Abstains (carryOut settings host task) := by
  cases task with
  | generate profile output beforeCoreStart =>
    exact (abstains_generate settings host profile output beforeCoreStart).bind_pure fun _ => ""
  | trigger event => exact (abstains_trigger settings host event).bind_pure fun _ => ""
  | runPlugin id handler arguments => exact abstains_runPlugin settings host id handler arguments
  | subscription id body =>
    exact (abstains_updateSubscription settings host id body).bind_pure fun _ => ""

end Commands

/-! ### The program -/

theorem keeps_loadSettings (path : Option String) : Keeps (loadSettings path) := by
  cases path with
  | none => exact keeps_pure _
  | some path => exact keeps_get.bind fun _ => keeps_orFailWith _ _

/-- What is done before a task is carried out changes no file. -/
theorem abstains_perform (interpreters : Interpreters) (request : Request) :
    Abstains (perform interpreters request) := by
  unfold perform
  refine (keeps_loadSettings _).bind_abstains fun settings => ?_
  have moves : Keeps (modify fun directory => { directory with root := settings.dataDirectory }) :=
    fun before => Disk.SameFiles.refl before.disk
  refine moves.bind_abstains fun _ => ?_
  refine (keeps_load _ _).bind_abstains fun loaded => ?_
  refine (keeps_orFailWith _ _).bind_abstains fun plugins => ?_
  refine keeps_get.bind_abstains fun directory => ?_
  have carries := fun host => abstains_carryOut settings host request.task
  cases task : request.task <;> rw [task] at carries <;> exact carries _

/-- Whatever engine runs the code, a command that fails leaves every file as it was; and so does
the program as a whole, whatever it is asked for. -/
theorem commands_abstain :
    (∀ (settings : Settings) (host : Host) (task : Task) (before after : Directory) (text : String),
      (carryOut settings host task).run.run before = (.error text, after) →
        ∀ location, after.disk.content? location = before.disk.content? location) ∧
    ∀ (interpreters : Interpreters) (disk : Disk) (current : Location) (arguments : List String),
      (execute interpreters disk current arguments).exitCode ≠ 0 →
        ∀ location, (execute interpreters disk current arguments).directory.disk.content? location =
          disk.content? location := by
  constructor
  · intro settings host task before after text fails
    exact abstains_carryOut settings host task before text after fails
  · intro interpreters disk current arguments
    unfold execute
    split
    · exact fun _ => Disk.SameFiles.refl disk
    · exact fun _ => Disk.SameFiles.refl disk
    · rename_i request _
      dsimp only
      cases performed : (perform interpreters request).run { disk, current, root := "." } with
      | mk result after =>
        cases result with
        | ok output => exact fun fails => absurd rfl fails
        | error text => exact fun _ => abstains_perform interpreters request _ text after performed

/-- A host with one plugin, which never answers. -/
def hangingHost : Host :=
  { emptyingHost with runner := ⟨.stateless fun _ => .hang, Script.defaultDeadline⟩ }

theorem carryOut_hanging : ∃ text,
    (carryOut {} hangingHost (.generate "home" (some "out.json") true)).run.run bareDirectory =
      (.error text, bareDirectory) := by
  obtain ⟨environment, found⟩ := chosen_bare
  obtain ⟨error, stuck⟩ : ∃ error,
      fresh (delivered hangingHost environment bareProfile true) = .error error := ⟨_, rfl⟩
  refine ⟨error.message, ?_⟩
  unfold carryOut
  rw [run_bind, run_generate, found]
  dsimp only
  rw [stuck]
  rfl

theorem commands_abstain_hanging :
    (∃ text after,
      (carryOut {} hangingHost (.generate "home" (some "out.json") true)).run.run bareDirectory =
        (.error text, after) ∧
      ∀ location, after.disk.content? location = bareDirectory.disk.content? location) ∧
    (execute (fun _ _ _ _ => none) bareDirectory.disk [] ["subscription", "sub", "body"]).exitCode ≠
        0 ∧
      ∀ location,
        (execute (fun _ _ _ _ => none) bareDirectory.disk []
            ["subscription", "sub", "body"]).directory.disk.content? location =
          bareDirectory.disk.content? location := by
  obtain ⟨text, stuck⟩ := carryOut_hanging
  have fails : (execute (fun _ _ _ _ => none) bareDirectory.disk []
      ["subscription", "sub", "body"]).exitCode ≠ 0 := by
    decide +kernel
  exact ⟨⟨text, bareDirectory, stuck, commands_abstain.1 _ _ _ _ _ _ stuck⟩, fails,
    commands_abstain.2 _ _ _ _ fails⟩

end Command

end ProxyProfile
