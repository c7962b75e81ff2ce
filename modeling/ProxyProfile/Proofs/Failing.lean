/-
This file says what an update that fails leaves behind.

An update writes a file only when everything else is done, so one that fails
writes none. The subscription is another matter. Its proxies are prepared without a
change to it, but its script is to see an index of the prepared proxies, and this
index is in the subscription before the script is called. If the script then fails, or
answers what cannot be taken over, the index stays, although the file still holds
the proxies from before. Nothing else of the subscription changes, and nothing at
all if it has no script.
-/

import ProxyProfile.Proofs.Ingestion

namespace ProxyProfile.Subscription

/-! ### Scripts that fail -/

/-- The script of a subscription is called with a list, and it fails, or its answer cannot be
taken over. -/
structure ScriptFails (runner : Script.Runner) (subscription : Subscription)
    (proxies : List Json.Value) (history : List Script.Call) (error : Error) : Prop where
  filled : Text.isBlankText subscription.script = false
  fails : ((runner.reply history (subscription.scriptCall proxies)).mapError .script).bind
    subscription.scriptResult = .error error

theorem scriptFails_of_error {runner : Script.Runner} {subscription : Subscription}
    {proxies : List Json.Value} {history calls : List Script.Call} {error : Error}
    (ran : (runScript runner subscription proxies).run.run history = (.error error, calls)) :
    ScriptFails runner subscription proxies history error ∧
      calls = history ++ [subscription.scriptCall proxies] := by
  cases filled : Text.isBlankText subscription.script with
  | true =>
    rw [run_runScript_of_blank runner proxies history filled] at ran
    cases ran
  | false =>
    rw [run_runScript_of_filled runner proxies history filled] at ran
    obtain ⟨fails, called⟩ := Prod.mk.inj ran
    exact ⟨⟨filled, fails⟩, called.symm⟩

/-! ### Updates that fail -/

/-- An update that fails with an error after some calls leaves a subscription like this. -/
inductive Leaves (host : Host) (subscription : Subscription) (body : String)
    (history : List Script.Call) (error : Error) : List Script.Call → Subscription → Prop
  /-- As long as its proxies are prepared, the subscription stays as it is. -/
  | unprepared {calls : List Script.Call}
    (prepares : (prepare host subscription body).run.run history = (.error error, calls)) :
    Leaves host subscription body history error calls subscription
  /-- Its script is called with the index of the prepared proxies, and this index stays. -/
  | unscripted {calls : List Script.Call} {proxies : List Json.Value}
    (prepares : (prepare host subscription body).run.run history = (.ok proxies, calls))
    (fails : ScriptFails host.runner (subscription.refreshIndex proxies) proxies calls error) :
    Leaves host subscription body history error
      (calls ++ [(subscription.refreshIndex proxies).scriptCall proxies])
      (subscription.refreshIndex proxies)

section Leaves

variable {host : Host} {subscription left : Subscription} {body : String}
  {history calls : List Script.Call} {error : Error}

theorem Leaves.exists_index (leaves : Leaves host subscription body history error calls left) :
    ∃ index, left = { subscription with proxies := index } := by
  cases leaves with
  | unprepared prepares => exact ⟨subscription.proxies, rfl⟩
  | unscripted prepares fails => exact ⟨_, rfl⟩

theorem Leaves.eq_of_blank (leaves : Leaves host subscription body history error calls left)
    (blank : Text.isBlankText subscription.script) : left = subscription := by
  cases leaves with
  | unprepared prepares => rfl
  | unscripted prepares fails => exact absurd blank (Bool.eq_false_iff.mp fails.filled)

/-- An update that fails leaves every file as it was, and of the subscription everything but
the index; that stays too if there is no script. -/
theorem ingest_leaves {storage : Memory} {ingestion : Ingestion Memory}
    (updates : (ingest host storage subscription body).run history = (ingestion, calls))
    (fails : ingestion.result = .error error) :
    ingestion.storage = storage ∧
      (∃ index, ingestion.subscription = { subscription with proxies := index }) ∧
      (Text.isBlankText subscription.script → ingestion.subscription = subscription) ∧
      Leaves host subscription body history error calls ingestion.subscription := by
  suffices left : ingestion.storage = storage ∧
      Leaves host subscription body history error calls ingestion.subscription from
    ⟨left.1, left.2.exists_index, left.2.eq_of_blank, left.2⟩
  rw [run_ingest] at updates
  generalize first : (prepare host subscription body).run.run history = prepares at updates
  obtain ⟨_ | prepared, between⟩ := prepares
  · cases updates
    cases fails
    exact ⟨rfl, .unprepared first⟩
  dsimp only at updates
  generalize second : (runScript host.runner (subscription.refreshIndex prepared) prepared).run.run
    between = scripts at updates
  obtain ⟨_ | ⟨updated, written⟩, after⟩ := scripts
  · cases updates
    cases fails
    obtain ⟨scripts, rfl⟩ := scriptFails_of_error second
    exact ⟨rfl, .unscripted first scripts⟩
  · -- Files in memory are always written.
    cases updates
    cases fails

end Leaves

/-! ### An index that stays -/

/-- A host without plugins whose scripts refuse everything. -/
def refusingHost : Host where
  registry := .new [] []
  runner := ⟨.stateless fun _ => .failure (.raised "no"), Script.defaultDeadline⟩

/-- A subscription whose file holds a proxy that is not in the next body. -/
def outdated : Subscription :=
  { scripted with proxies := [⟨"sub-1", "B", ""⟩] }

/-- The file of the subscription. -/
def outdatedFile : Memory :=
  Memory.put {} outdated.path (Json.Value.array [.object [("tag", .string "B")]]).pretty.toUTF8

/-- The subscription with the index of the body that is refused. -/
def refused : Subscription :=
  { scripted with proxies := [⟨"sub-2", "A", ""⟩] }

theorem ingest_outdated :
    (ingest refusingHost outdatedFile outdated bodyOfOne.compact).run [] =
      (⟨.error (.script (.raised "no")), refused, outdatedFile⟩,
        [refused.scriptCall [.object [("tag", .string "A")]]]) := by
  have renewed : outdated.refreshIndex [.object [("tag", .string "A")]] = refused := by
    decide +kernel
  have ran : (runScript refusingHost.runner refused [.object [("tag", .string "A")]]).run.run [] =
      (.error (.script (.raised "no")),
        [refused.scriptCall [.object [("tag", .string "A")]]]) := rfl
  rw [run_ingest, prepare_bodyOfOne rfl rfl]
  dsimp only
  rw [renewed, ran]

theorem ingest_leaves_outdated :
    ∃ ingestion calls,
      (ingest refusingHost outdatedFile outdated bodyOfOne.compact).run [] = (ingestion, calls) ∧
      ingestion.result = .error (.script (.raised "no")) ∧
      ingestion.storage = outdatedFile ∧
      (∃ index, ingestion.subscription = { outdated with proxies := index }) ∧
      (Text.isBlankText outdated.script → ingestion.subscription = outdated) ∧
      Leaves refusingHost outdated bodyOfOne.compact [] (.script (.raised "no")) calls
        ingestion.subscription :=
  ⟨_, _, ingest_outdated, rfl, ingest_leaves ingest_outdated rfl⟩

/-- The update fails, and yet the subscription is not what it was: its file still holds the tag
`B`, but its index does not have it any more. -/
theorem not_unchanged_outdated :
    ∃ ingestion calls,
      (ingest refusingHost outdatedFile outdated bodyOfOne.compact).run [] = (ingestion, calls) ∧
      ingestion.result = .error (.script (.raised "no")) ∧
      ingestion.storage = outdatedFile ∧
      outdated.idOf? "B" = some "sub-1" ∧
      ingestion.subscription.idOf? "B" = none ∧
      ingestion.subscription ≠ outdated :=
  ⟨_, _, ingest_outdated, rfl, rfl, by decide, by decide, by decide⟩

end ProxyProfile.Subscription
