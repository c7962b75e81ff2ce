/-
This file proves that an update keeps the list of a subscription, its index and
its file in step.

An update succeeds in one way only: the proxies of the body are prepared, the
script has the last word on them and on the subscription, and what it leaves is
indexed and written. Both the record that the script receives and the one that
the update ends with have their index from a renewal with the list next to it, so
each lists its proxies whatever plugins and scripts answer. The script may move the
subscription to another path; it is the new one that is written, and no other.
What stands there is read back as the list by the round trip of documents.
-/

import ProxyProfile.Proofs.Calling
import ProxyProfile.Proofs.Indexing
import ProxyProfile.Proofs.Rereading
import ProxyProfile.Proofs.Storing
import ProxyProfile.Storage.Memory
import ProxyProfile.Store.Subscriptions
import ProxyProfile.Subscription.Update

namespace ProxyProfile

/-! ### Files in memory -/

namespace Memory

theorem get?_put_self (memory : Memory) (path : String) (content : ByteArray) :
    (memory.put path content).get? path = some content := by
  unfold put get?
  exact List.lookup_cons_self

/-- All other files are as they were before one was put. -/
theorem lookup_put_of_ne (memory : Memory) {path key : String} (content : ByteArray)
    (differs : key ≠ Storage.normalize path) :
    (memory.put path content).files.lookup key = memory.files.lookup key := by
  unfold put
  rw [List.lookup_cons, beq_false_of_ne differs]
  exact lookup_filter_of_ne memory.files differs

theorem get?_put_of_ne (memory : Memory) {path other : String} (content : ByteArray)
    (differs : Storage.normalize other ≠ Storage.normalize path) :
    (memory.put path content).get? other = memory.get? other :=
  memory.lookup_put_of_ne content differs

/-- A text that was put somewhere is read there. -/
theorem readText_put (memory : Memory) (path text : String) :
    Storage.readText (memory.put path text.toUTF8) path = .ok text := by
  have content : Storage.read (memory.put path text.toUTF8) path = .ok text.toUTF8 := by
    simp only [Storage.read, get?_put_self]
  exact Storage.readText_of_read content

end Memory

/-! ### Stores -/

/-- A subscription is found by its id where no other one has it. -/
theorem SubscriptionStore.get?_of_unique {σ : Type} {store : SubscriptionStore σ}
    {subscription : Subscription} (held : subscription ∈ store.subscriptions)
    (unique : ∀ other ∈ store.subscriptions, other.id = subscription.id → other = subscription) :
    store.get? subscription.id = some subscription := by
  unfold get?
  cases found : store.subscriptions.find? fun other => other.id = subscription.id with
  | none => simpa using List.find?_eq_none.mp found subscription held
  | some other =>
    have same := List.find?_some found
    rw [unique other (List.mem_of_find?_eq_some found) (by simpa using same)]

/-- A list that can be read back is loaded from the file that it was written to. -/
theorem SubscriptionStore.proxies_of_file {σ : Type} [Storage σ] {store : SubscriptionStore σ}
    {id : String} {subscription : Subscription} {proxies : List Json.Value}
    (found : store.get? id = some subscription)
    (file : Storage.readText store.storage subscription.path =
      .ok (Json.Value.array proxies).pretty)
    (storable : (Json.Value.array proxies).Storable) : store.proxies id = .ok proxies := by
  have parsed : (Json.parse? (Json.Value.array proxies).pretty).bind Json.Value.items? =
      some proxies := by
    rw [Json.parse?_pretty _ storable]
    rfl
  unfold SubscriptionStore.proxies
  simp only [found, file, Except.mapError, bind, Except.bind, parsed]

namespace Subscription

/-! ### The course of a script -/

section Script

variable (runner : Script.Runner) {subscription : Subscription} (proxies : List Json.Value)
  (history : List Script.Call)

theorem run_runScriptInPlace_of_blank (blank : Text.isBlankText subscription.script = true) :
    ((runScriptInPlace runner proxies).run.run subscription).run history =
      ((.ok proxies, subscription), history) := by
  unfold runScriptInPlace
  rw [Upkeep.run_get_bind, if_pos blank]
  rfl

/-- A script that is not blank is called once. Its answer is taken over as a whole, or the
subscription stays as it was. -/
theorem run_runScriptInPlace_of_filled
    (filled : Text.isBlankText subscription.script = false) :
    ((runScriptInPlace runner proxies).run.run subscription).run history =
      (match ((runner.reply history (subscription.scriptCall proxies)).mapError .script).bind
          subscription.scriptResult with
        | .ok (updated, written) => (.ok written, updated)
        | .error error => (.error error, subscription),
        history ++ [subscription.scriptCall proxies]) := by
  unfold runScriptInPlace
  rw [Upkeep.run_get_bind, if_neg (Bool.eq_false_iff.mp filled), Upkeep.run_look_bind,
    Script.Runner.run_ask]
  cases runner.reply history (subscription.scriptCall proxies) with
  | error failure => rfl
  | ok answer =>
    simp only [Except.mapError, Except.bind]
    cases subscription.scriptResult answer <;> rfl

/-- What a script gives and the subscription that it leaves behind, put together. -/
theorem run_runScript_eq : (runScript runner subscription proxies).run.run history =
    ((((runScriptInPlace runner proxies).run.run subscription).run history).1.1.map
        ((((runScriptInPlace runner proxies).run.run subscription).run history).1.2, ·),
      (((runScriptInPlace runner proxies).run.run subscription).run history).2) :=
  rfl

theorem run_runScript_of_blank (blank : Text.isBlankText subscription.script = true) :
    (runScript runner subscription proxies).run.run history =
      (.ok (subscription, proxies), history) := by
  rw [run_runScript_eq, run_runScriptInPlace_of_blank runner proxies history blank]
  rfl

theorem run_runScript_of_filled (filled : Text.isBlankText subscription.script = false) :
    (runScript runner subscription proxies).run.run history =
      (((runner.reply history (subscription.scriptCall proxies)).mapError .script).bind
        subscription.scriptResult, history ++ [subscription.scriptCall proxies]) := by
  rw [run_runScript_eq, run_runScriptInPlace_of_filled runner proxies history filled]
  cases ((runner.reply history (subscription.scriptCall proxies)).mapError Error.script).bind
    subscription.scriptResult <;> rfl

/-- A script that fails leaves the subscription as it was. -/
theorem run_runScriptInPlace :
    ((runScriptInPlace runner proxies).run.run subscription).run history =
      match (runScript runner subscription proxies).run.run history with
      | (.ok (updated, written), calls) => ((.ok written, updated), calls)
      | (.error error, calls) => ((.error error, subscription), calls) := by
  cases filled : Text.isBlankText subscription.script with
  | true =>
    rw [run_runScriptInPlace_of_blank runner proxies history filled,
      run_runScript_of_blank runner proxies history filled]
  | false =>
    rw [run_runScriptInPlace_of_filled runner proxies history filled,
      run_runScript_of_filled runner proxies history filled]
    cases ((runner.reply history (subscription.scriptCall proxies)).mapError Error.script).bind
      subscription.scriptResult <;> rfl

end Script

/-! ### The course of an update -/

theorem run_ingest {σ : Type} [Storage σ] (host : Host) (storage : σ)
    (subscription : Subscription) (body : String) (history : List Script.Call) :
    (ingest host storage subscription body).run history =
      match (prepare host subscription body).run.run history with
      | (.error error, calls) => (⟨.error error, subscription, storage⟩, calls)
      | (.ok proxies, calls) =>
        match (runScript host.runner (subscription.refreshIndex proxies) proxies).run.run calls with
        | (.error error, calls) =>
          (⟨.error error, subscription.refreshIndex proxies, storage⟩, calls)
        | (.ok (updated, proxies), calls) =>
          (writeList storage (updated.refreshIndex proxies) proxies, calls) := by
  unfold ingest
  rw [StateT.run_bind]
  obtain ⟨result, calls⟩ := (prepare host subscription body).run.run history
  cases result with
  | error error => rfl
  | ok proxies =>
    dsimp only
    show StateT.run (((runScriptInPlace host.runner proxies).run.run
      (subscription.refreshIndex proxies)) >>= _) calls = _
    rw [StateT.run_bind, run_runScriptInPlace]
    obtain ⟨result, calls⟩ :=
      (runScript host.runner (subscription.refreshIndex proxies) proxies).run.run calls
    cases result with
    | error error => rfl
    | ok both => rfl

/-- A successful update is prepared, scripted, indexed and written. -/
theorem exists_of_ingest_ok {host : Host} {storage : Memory} {subscription : Subscription}
    {body : String} {history calls : List Script.Call} {ingestion : Ingestion Memory}
    {proxies : List Json.Value}
    (updates : (ingest host storage subscription body).run history = (ingestion, calls))
    (succeeds : ingestion.result = .ok proxies) :
    ∃ prepared between updated,
      (prepare host subscription body).run.run history = (.ok prepared, between) ∧
      (runScript host.runner (subscription.refreshIndex prepared) prepared).run.run between =
        (.ok (updated, proxies), calls) ∧
      ingestion.subscription = updated.refreshIndex proxies ∧
      ingestion.storage = storage.put updated.path (Json.Value.array proxies).pretty.toUTF8 := by
  rw [run_ingest] at updates
  generalize first : (prepare host subscription body).run.run history = prepares at updates
  obtain ⟨_ | prepared, between⟩ := prepares
  · cases updates
    cases succeeds
  dsimp only at updates
  generalize second : (runScript host.runner (subscription.refreshIndex prepared) prepared).run.run
    between = scripts at updates
  obtain ⟨_ | ⟨updated, written⟩, after⟩ := scripts
  · cases updates
    cases succeeds
  cases updates
  cases succeeds
  exact ⟨prepared, between, updated, rfl, second, rfl, rfl⟩

/-- An update makes the calls of its preparation and of its script. -/
theorem calls_ingest {σ : Type} [Storage σ] (host : Host) (storage : σ)
    (subscription : Subscription) (body : String) (history : List Script.Call) :
    ((ingest host storage subscription body).run history).2 =
      ((prepare host subscription body >>= fun proxies =>
        runScript host.runner (subscription.refreshIndex proxies) proxies).run.run history).2 := by
  rw [run_ingest, Run.run_bind]
  obtain ⟨_ | prepared, between⟩ := (prepare host subscription body).run.run history
  · rfl
  dsimp only
  obtain ⟨_ | ⟨updated, written⟩, after⟩ :=
    (runScript host.runner (subscription.refreshIndex prepared) prepared).run.run between
  · rfl
  · rfl

/-! ### The calls of an update -/

/-- A call that is not made to a plugin is the one of the script of a subscription. It receives
a list of proxies and the record of the subscription, and the index in the record lists the
proxies. -/
structure ReceivesIndex (subscription : Subscription) (call : Script.Call)
    (proxies : List Json.Value) (index : List ProxyIndex) : Prop where
  script : call = scriptCall { subscription with proxies := index } proxies
  received : ∃ record, call.arguments = [.array proxies, record] ∧
    record.get? "proxies" = some (.array (index.map ProxyIndex.toJson))
  lists : ListsProxies index proxies

theorem makes_prepare (host : Host) (subscription : Subscription) (body : String)
    {Allowed : Script.Call → Prop} (plugins : ∀ call, call.plugin.isSome → Allowed call) :
    Run.Makes Allowed (prepare host subscription body) := by
  have passes : ∀ recipients proxies,
      Run.Makes Allowed (host.passProxies subscription recipients proxies) := by
    intro recipients
    induction recipients with
    | nil => exact fun proxies => Run.makes_pure proxies
    | cons recipient rest inductionHypothesis =>
      intro proxies
      refine Run.makes_bind (Run.makes_ask _ _ (plugins _ rfl)) fun answer => ?_
      split
      · exact inductionHypothesis _
      · exact Run.makes_throw _
  exact Run.makes_bind (Run.makes_lift _) fun fetched =>
    Run.makes_bind (passes _ fetched) fun proxies => Run.makes_lift _

theorem makes_runScript (runner : Script.Runner) (subscription : Subscription)
    (proxies : List Json.Value) {Allowed : Script.Call → Prop}
    (allowed : Allowed (subscription.scriptCall proxies)) :
    Run.Makes Allowed (runScript runner subscription proxies) := by
  cases filled : Text.isBlankText subscription.script with
  | true =>
    exact Run.makes_nothing fun history => by
      rw [run_runScript_of_blank runner proxies history filled]
  | false =>
    intro history
    refine ⟨[subscription.scriptCall proxies], ?_, fun call among => ?_⟩
    · rw [run_runScript_of_filled runner proxies history filled]
    · rw [List.mem_singleton.mp among]
      exact allowed

/-- Every call of an update that is not made to a plugin receives an index of the list next to
it. -/
theorem makes_update (host : Host) (subscription : Subscription) (body : String) :
    Run.Makes (fun call => call.plugin = none →
        ∃ proxies index, ReceivesIndex subscription call proxies index)
      (prepare host subscription body >>= fun proxies =>
        runScript host.runner (subscription.refreshIndex proxies) proxies) := by
  refine Run.makes_bind (makes_prepare host subscription body fun call given none => ?_)
    fun proxies => makes_runScript _ _ _ fun _ => ?_
  · rw [none] at given
    cases given
  · exact ⟨proxies, (subscription.refreshIndex proxies).proxies, rfl, ⟨_, rfl, rfl⟩,
      listsProxies_refreshIndex subscription proxies⟩

/-! ### An update with a script -/

/-- A host without plugins whose engine adds a proxy to the list that a script receives, and
renames the subscription. -/
def addingHost : Host where
  registry := .new [] []
  runner := ⟨.stateless fun call =>
    match call.arguments with
    | .array proxies :: _ => .answer (.object [
        ("proxies", .array (proxies ++ [.object [("tag", .string "B")]])),
        ("subscription", .object [("name", .string "Renamed")])])
    | _ => .hang, Script.defaultDeadline⟩

/-- A subscription that knows the tag `A` and has a script. -/
def scripted : Subscription :=
  { id := "sub", path := "./sub.json", script := "onSubscribe", proxies := [⟨"sub-2", "A", ""⟩] }

/-- A body with one proxy. -/
def bodyOfOne : Json.Value :=
  .object [("outbounds", .array [.object [("tag", .string "A")]])]

/-- The proxy of the body and the one that the engine adds. -/
def twoTagged : List Json.Value :=
  [.object [("tag", .string "A")], .object [("tag", .string "B")]]

/-- The index keeps the id of the tag that it knows, and has a new one for the other tag. -/
def scriptedLater : Subscription :=
  { scripted with name := "Renamed", proxies := [⟨"sub-2", "A", ""⟩, ⟨"sub-1", "B", ""⟩] }

/-- Without plugins and filters a body of one proxy is prepared as it is. -/
theorem prepare_bodyOfOne {host : Host} {subscription : Subscription}
    (alone : host.registry = .new [] [])
    (plain : subscription = { scripted with proxies := subscription.proxies })
    (history : List Script.Call) :
    (prepare host subscription bodyOfOne.compact).run.run history =
      (.ok [.object [("tag", .string "A")]], history) := by
  have parsed : parseBody bodyOfOne.compact scripted.kind =
      .ok [.object [("tag", .string "A")]] := by
    unfold parseBody kernelList?
    rw [Json.parse?_compact bodyOfOne ⟨by decide, by decide⟩]
    rfl
  obtain ⟨registry, runner⟩ := host
  obtain rfl : registry = .new [] [] := alone
  rw [plain]
  unfold prepare
  rw [parsed]
  rfl

theorem ingest_scripted (history : List Script.Call) :
    (ingest addingHost ({} : Memory) scripted bodyOfOne.compact).run history =
      (⟨.ok twoTagged, scriptedLater,
          Memory.put {} scripted.path (Json.Value.array twoTagged).pretty.toUTF8⟩,
        history ++ [scripted.scriptCall [.object [("tag", .string "A")]]]) := by
  have known : scripted.refreshIndex [.object [("tag", .string "A")]] = scripted := by
    decide +kernel
  have added : { scripted with name := "Renamed" }.refreshIndex twoTagged = scriptedLater := by
    decide +kernel
  have ran : (runScript addingHost.runner scripted [.object [("tag", .string "A")]]).run.run
      history = (.ok ({ scripted with name := "Renamed" }, twoTagged),
        history ++ [scripted.scriptCall [.object [("tag", .string "A")]]]) := rfl
  rw [run_ingest, prepare_bodyOfOne rfl rfl]
  dsimp only
  rw [known, ran]
  dsimp only
  rw [added]
  rfl

/-! ### Everything in step -/

/-- A list of proxies, the index of a subscription and the files agree behind an update: the index
lists the proxies, the file of the subscription holds them and is the only one that is not as it
was before, and every store that holds the subscription loads them from it. -/
structure InStep (before after : Memory) (subscription : Subscription)
    (proxies : List Json.Value) : Prop where
  index : ListsProxies subscription.proxies proxies
  file : Storage.readText after subscription.path = .ok (Json.Value.array proxies).pretty
  others : ∀ path, Storage.normalize path ≠ Storage.normalize subscription.path →
    after.get? path = before.get? path
  loaded : (Json.Value.array proxies).Storable → ∀ store : SubscriptionStore Memory,
    store.storage = after → subscription ∈ store.subscriptions →
      (∀ other ∈ store.subscriptions, other.id = subscription.id → other = subscription) →
        store.proxies subscription.id = .ok proxies

theorem inStep_of_ingest_ok {host : Host} {storage : Memory} {subscription : Subscription}
    {body : String} {history calls : List Script.Call} {ingestion : Ingestion Memory}
    {proxies : List Json.Value}
    (updates : (ingest host storage subscription body).run history = (ingestion, calls))
    (succeeds : ingestion.result = .ok proxies) :
    InStep storage ingestion.storage ingestion.subscription proxies := by
  obtain ⟨_, _, updated, _, _, subscribed, stored⟩ := exists_of_ingest_ok updates succeeds
  have file : Storage.readText ingestion.storage ingestion.subscription.path =
      .ok (Json.Value.array proxies).pretty := by
    rw [subscribed, stored]
    exact Memory.readText_put storage updated.path _
  refine ⟨?_, file, fun path differs => ?_, fun storable store same held unique => ?_⟩
  · rw [subscribed]
    exact listsProxies_refreshIndex updated proxies
  · rw [stored]
    rw [subscribed] at differs
    exact storage.get?_put_of_ne _ differs
  · have found := SubscriptionStore.get?_of_unique held unique
    rw [← same] at file
    exact SubscriptionStore.proxies_of_file found file storable

/-- After an update that succeeds, the list, the index and the file of the subscription agree. In
any case its script, if it is called, receives a list and an index that agree. -/
theorem ingest_inStep {host : Host} {storage : Memory} {subscription : Subscription}
    {body : String} {history calls : List Script.Call} {ingestion : Ingestion Memory}
    (updates : (ingest host storage subscription body).run history = (ingestion, calls)) :
    (∀ proxies, ingestion.result = .ok proxies →
        InStep storage ingestion.storage ingestion.subscription proxies) ∧
      ∃ made, calls = history ++ made ∧ ∀ call ∈ made, call.plugin = none →
        ∃ proxies index, ReceivesIndex subscription call proxies index := by
  refine ⟨fun proxies => inStep_of_ingest_ok updates, ?_⟩
  obtain ⟨made, called, receives⟩ := makes_update host subscription body history
  rw [← calls_ingest host storage, updates] at called
  exact ⟨made, called, receives⟩

theorem ingest_inStep_scripted :
    ∃ ingestion made,
      (ingest addingHost ({} : Memory) scripted bodyOfOne.compact).run [] = (ingestion, made) ∧
      ingestion.result = .ok twoTagged ∧
      InStep {} ingestion.storage ingestion.subscription twoTagged ∧
      (Json.Value.array twoTagged).Storable ∧
      (∃ call ∈ made, call.plugin = none) ∧
      ∀ call ∈ made, call.plugin = none →
        ∃ proxies index, ReceivesIndex scripted call proxies index := by
  obtain ⟨inStep, made, rfl, receives⟩ := ingest_inStep (ingest_scripted [])
  exact ⟨_, _, ingest_scripted [], rfl, inStep _ rfl, ⟨by decide, by decide⟩,
    ⟨_, List.mem_cons_self, rfl⟩, receives⟩

end Subscription

end ProxyProfile
