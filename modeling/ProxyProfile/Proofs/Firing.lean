/-
This file proves that a trigger changes statuses and nothing else, and changes
them all or not at all.

A trigger has two phases. First the plugins are called, and each is called as if
it were alone: with the registry as it was, whatever the ones before it have
answered. Only then the answered numbers become statuses. A failure can only
happen in the first phase, where nothing changes, and only two triggers let it
out. In the second phase every number goes to the plugin with the id of the one
that has answered it, and because no two plugins share an id, this is the plugin
itself. A call by the user has the same two phases with one plugin.
-/

import Mathlib.Data.List.Forall2
import Mathlib.Data.List.Nodup
import ProxyProfile.Plugin.Host
import ProxyProfile.Proofs.Handing

namespace ProxyProfile

/-! ### Statuses in a registry -/

/-- What becomes of a plugin that may be given a status: it has the one that it is given, and all
else about it stays. -/
structure Plugin.Takes (Given : Int → Prop) (plugin after : Plugin) : Prop where
  frame : after = { plugin with status := after.status }
  given : ∀ status, Given status → after.status = status
  silent : (∀ status, ¬ Given status) → after = plugin

theorem Plugin.Takes.congr {Given Other : Int → Prop} {plugin after : Plugin}
    (takes : plugin.Takes Given after) (same : ∀ status, Given status ↔ Other status) :
    plugin.Takes Other after := by
  refine ⟨takes.frame, fun status other => takes.given status ((same status).mpr other), ?_⟩
  intro none
  exact takes.silent fun status given => none status ((same status).mp given)

namespace Registry

/-- The ids of the plugins. -/
def ids (registry : Registry) : List String :=
  registry.plugins.map Plugin.id

/-- If no two plugins share an id, then the plugin with an id gets a status and the others stay
as they are. -/
theorem withStatus_eq_map (id : String) (status : Int) (plugins : List Plugin)
    (distinct : (plugins.map Plugin.id).Nodup) :
    withStatus id status plugins =
      plugins.map fun plugin => if plugin.id = id then { plugin with status } else plugin := by
  induction plugins with
  | nil => rfl
  | cons plugin rest inductionHypothesis =>
    rw [List.map_cons, List.nodup_cons] at distinct
    rw [withStatus, List.map_cons]
    by_cases named : plugin.id = id
    · rw [if_pos named, if_pos named]
      have others : ∀ other ∈ rest, other.id ≠ id := by
        rintro other among rfl
        exact distinct.1 (named ▸ List.mem_map_of_mem among)
      have same : (rest.map fun other => if other.id = id then { other with status } else other) =
          rest := by
        refine (List.map_congr_left fun other among => ?_).trans (List.map_id rest)
        exact if_neg (others other among)
      rw [same]
    · rw [if_neg named, if_neg named, inductionHypothesis distinct.2]

/-- What becomes of a plugin when statuses are given out by ids. -/
def TakesFrom (statuses : List (String × Int)) (plugin after : Plugin) : Prop :=
  plugin.Takes (fun status => (plugin.id, status) ∈ statuses) after

theorem takesFrom_nil (plugin : Plugin) : TakesFrom [] plugin plugin :=
  ⟨rfl, fun _ among => absurd among List.not_mem_nil, fun _ => rfl⟩

/-- A plugin takes a status and then what the others leave to it. -/
theorem TakesFrom.cons {id : String} {status : Int} {statuses : List (String × Int)}
    (fresh : id ∉ statuses.map Prod.fst) {plugin after : Plugin}
    (takes : TakesFrom statuses (if plugin.id = id then { plugin with status } else plugin) after) :
    TakesFrom ((id, status) :: statuses) plugin after := by
  by_cases named : plugin.id = id
  · rw [if_pos named] at takes
    have untouched : after = { plugin with status } := by
      refine takes.silent fun other among => fresh ?_
      rw [← named]
      exact List.mem_map_of_mem among
    subst untouched
    refine ⟨rfl, fun other among => ?_, fun none => ?_⟩
    · rcases List.mem_cons.mp among with same | later
      · exact (Prod.mk.inj same).2.symm
      · exact absurd (named ▸ List.mem_map_of_mem later) fresh
    · exact absurd (named ▸ List.mem_cons_self) (none status)
  · rw [if_neg named] at takes
    refine takes.congr fun number => ?_
    rw [List.mem_cons, Prod.mk.injEq]
    simp only [named, false_and, false_or]

/-- Giving statuses out, one for each id, gives each plugin the one for its id. -/
theorem takes_setStatuses (statuses : List (String × Int)) (single : (statuses.map Prod.fst).Nodup)
    (registry : Registry) (distinct : registry.ids.Nodup) :
    (registry.setStatuses statuses).codes = registry.codes ∧
      (registry.setStatuses statuses).settings = registry.settings ∧
      List.Forall₂ (TakesFrom statuses) registry.plugins
        (registry.setStatuses statuses).plugins := by
  induction statuses generalizing registry with
  | nil => exact ⟨rfl, rfl, List.forall₂_same.mpr fun plugin _ => takesFrom_nil plugin⟩
  | cons entry rest inductionHypothesis =>
    obtain ⟨id, status⟩ := entry
    rw [List.map_cons, List.nodup_cons] at single
    have changed : (registry.setStatus id status).2.plugins = registry.plugins.map fun plugin =>
        if plugin.id = id then { plugin with status } else plugin :=
      withStatus_eq_map id status registry.plugins distinct
    have named : (registry.setStatus id status).2.ids = registry.ids := by
      unfold ids
      rw [changed, List.map_map]
      refine List.map_congr_left fun plugin _ => ?_
      show (if plugin.id = id then { plugin with status } else plugin).id = plugin.id
      split <;> rfl
    obtain ⟨codes, settings, taken⟩ := inductionHypothesis single.2
      (registry.setStatus id status).2 (named ▸ distinct)
    refine ⟨codes, settings, ?_⟩
    rw [changed, List.forall₂_map_left_iff] at taken
    exact taken.imp fun _ _ => TakesFrom.cons single.1

end Registry

namespace Host

/-! ### Changes in place -/

section InPlace

variable (registry : Registry) (history : List Script.Call)

/-- A trigger that fails leaves the registry as it is, and one that does not gives the answered
statuses out. -/
theorem run_fireInPlace (runner : Script.Runner) (trigger : Trigger) :
    ((fireInPlace runner trigger).run.run registry).run history =
      match (collectStatuses ⟨registry, runner⟩ trigger (registry.eligible trigger)).run.run
        history with
      | (.ok statuses, calls) => ((.ok (), registry.setStatuses statuses), calls)
      | (.error error, calls) => ((.error error, registry), calls) := by
  unfold fireInPlace
  rw [Upkeep.run_look_bind]
  generalize (collectStatuses _ trigger _).run.run history = both
  obtain ⟨result, calls⟩ := both
  cases result <;> rfl

end InPlace

/-! ### The calls of a trigger -/

/-- The call of a plugin that hears of a trigger. -/
def triggerCall (host : Host) (trigger : Trigger) (plugin : Plugin) : Script.Call :=
  host.callOf plugin (host.registry.codeOf plugin) trigger.handler []

/-- Among some plugins that are called in order, the one with an id answers an integer that has no
more than sixty-three bits below its sign. -/
def Answers (host : Host) (trigger : Trigger) (history : List Script.Call) (plugins : List Plugin)
    (id : String) (status : Int) : Prop :=
  ∃ before plugin rest, plugins = before ++ plugin :: rest ∧ plugin.id = id ∧
    host.runner.reply (history ++ before.map (host.triggerCall trigger))
      (host.triggerCall trigger plugin) = .ok (.number (.integer status)) ∧
    Decimal.fitsSigned 63 status

theorem statusOf?_eq_some_iff (answer : Json.Value) (status : Int) :
    statusOf? answer = some status ↔
      answer = .number (.integer status) ∧ Decimal.fitsSigned 63 status := by
  unfold statusOf?
  rw [Option.filter_eq_some_iff]
  refine and_congr_left fun _ => ?_
  cases answer with
  | number number => cases number <;> simp [Json.Value.integer?]
  | _ => simp [Json.Value.integer?]

section Triggers

variable {host : Host} {trigger : Trigger}

/-- The status that the first of some plugins answers, or one that a later plugin answers. -/
theorem answers_cons_iff (history : List Script.Call) (first : Plugin) (rest : List Plugin)
    (id : String) (status : Int) :
    host.Answers trigger history (first :: rest) id status ↔
      (first.id = id ∧ ∃ answer,
        host.runner.reply history (host.triggerCall trigger first) = .ok answer ∧
          statusOf? answer = some status) ∨
      host.Answers trigger (history ++ [host.triggerCall trigger first]) rest id status := by
  constructor
  · rintro ⟨before, plugin, later, split, named, replied, fits⟩
    cases before with
    | nil =>
      cases split
      rw [List.map_nil, List.append_nil] at replied
      exact Or.inl ⟨named, _, replied, (statusOf?_eq_some_iff _ _).mpr ⟨rfl, fits⟩⟩
    | cons head others =>
      cases split
      refine Or.inr ⟨others, plugin, later, rfl, named, ?_, fits⟩
      rwa [List.map_cons, List.append_cons] at replied
  · rintro (⟨named, answer, replied, given⟩ | ⟨before, plugin, later, rfl, named, replied, fits⟩)
    · obtain ⟨rfl, fits⟩ := (statusOf?_eq_some_iff _ _).mp given
      refine ⟨[], first, rest, rfl, named, ?_, fits⟩
      rw [List.map_nil, List.append_nil]
      exact replied
    · refine ⟨first :: before, plugin, later, rfl, named, ?_, fits⟩
      rwa [List.map_cons, List.append_cons]

/-- The statuses that some plugins answer: one for each plugin that answers one, and in the order
of the plugins. -/
structure Collected (host : Host) (trigger : Trigger) (history : List Script.Call)
    (plugins : List Plugin) (statuses : List (String × Int)) : Prop where
  answered : ∀ id status, (id, status) ∈ statuses ↔ host.Answers trigger history plugins id status
  ordered : (statuses.map Prod.fst).Sublist (plugins.map Plugin.id)

theorem collected_nil (history : List Script.Call) : Collected host trigger history [] [] := by
  refine ⟨fun id status => ⟨fun among => absurd among List.not_mem_nil, ?_⟩, List.Sublist.slnil⟩
  rintro ⟨before, plugin, rest, split, _⟩
  exact absurd split.symm (by simp)

/-- A plugin whose call fails adds no status. -/
theorem Collected.cons_failed {history : List Script.Call} {first : Plugin} {rest : List Plugin}
    {statuses : List (String × Int)} {failure : Script.Failure}
    (replied : host.runner.reply history (host.triggerCall trigger first) = .error failure)
    (collected : Collected host trigger (history ++ [host.triggerCall trigger first]) rest
      statuses) : Collected host trigger history (first :: rest) statuses := by
  refine ⟨fun id status => ?_, collected.ordered.trans (List.sublist_cons_self _ _)⟩
  rw [collected.answered, answers_cons_iff, replied]
  simp

/-- A plugin that answers adds its status, if the answer is one. -/
theorem Collected.cons_answered {history : List Script.Call} {first : Plugin} {rest : List Plugin}
    {statuses : List (String × Int)} {answer : Json.Value}
    (replied : host.runner.reply history (host.triggerCall trigger first) = .ok answer)
    (collected : Collected host trigger (history ++ [host.triggerCall trigger first]) rest
      statuses) :
    Collected host trigger history (first :: rest)
      (((statusOf? answer).map (first.id, ·)).toList ++ statuses) := by
  refine ⟨fun id status => ?_, ?_⟩
  · have own : (id, status) ∈ ((statusOf? answer).map (first.id, ·)).toList ↔
        first.id = id ∧ statusOf? answer = some status := by
      cases statusOf? answer with
      | none => simp
      | some number => simp [eq_comm]
    rw [List.mem_append, collected.answered, answers_cons_iff, own, replied]
    simp
  · rw [List.map_append, List.map_cons]
    cases statusOf? answer with
    | none => exact collected.ordered.trans (List.sublist_cons_self _ _)
    | some number => exact collected.ordered.cons_cons _

theorem run_collectStatuses_cons (first : Plugin) (code : String) (rest : List (Plugin × String))
    (history : List Script.Call) :
    (host.collectStatuses trigger ((first, code) :: rest)).run.run history =
      match host.runner.reply history (host.callOf first code trigger.handler []) with
      | .ok answer =>
        (host.collectStatuses trigger rest >>= fun statuses =>
          pure (((statusOf? answer).map (first.id, ·)).toList ++ statuses)).run.run
            (history ++ [host.callOf first code trigger.handler []])
      | .error failure =>
        if isCritical trigger then
          (.error (.plugin first.name failure.message),
            history ++ [host.callOf first code trigger.handler []])
        else
          (host.collectStatuses trigger rest).run.run
            (history ++ [host.callOf first code trigger.handler []]) := by
  have asked : (host.call first code trigger.handler []).run.run history =
      ((host.runner.reply history (host.callOf first code trigger.handler [])).mapError
        fun failure => .plugin first.name failure.message,
        history ++ [host.callOf first code trigger.handler []]) :=
    Script.Runner.run_ask host.runner _ _ history
  rw [collectStatuses, ExceptT.run_bind, ExceptT.run_lift, StateT.run_bind, StateT.run_map, asked]
  cases host.runner.reply history (host.callOf first code trigger.handler []) with
  | ok answer => rfl
  | error failure =>
    by_cases critical : isCritical trigger
    · simp only [if_pos critical]
      rfl
    · simp only [if_neg critical]
      rfl

end Triggers

/-- The plugins that hear of a trigger are all called, each once and in order, and the statuses
that they answer are collected, unless the trigger is one that a failure ends. -/
theorem collected_collectStatuses (host : Host) (trigger : Trigger) (plugins : List Plugin)
    (history : List Script.Call) :
    (∃ statuses, (host.collectStatuses trigger
        (plugins.map fun plugin => (plugin, host.registry.codeOf plugin))).run.run history =
          (.ok statuses, history ++ plugins.map (host.triggerCall trigger)) ∧
        Collected host trigger history plugins statuses) ∨
      isCritical trigger ∧ ∃ error calls, (host.collectStatuses trigger
        (plugins.map fun plugin => (plugin, host.registry.codeOf plugin))).run.run history =
          (.error error, calls) := by
  induction plugins generalizing history with
  | nil =>
    refine Or.inl ⟨[], ?_, collected_nil history⟩
    rw [List.map_nil, List.map_nil, List.append_nil]
    rfl
  | cons first rest inductionHypothesis =>
    have others := inductionHypothesis (history ++ [host.triggerCall trigger first])
    have called : history ++ [host.triggerCall trigger first] ++
        rest.map (host.triggerCall trigger) =
          history ++ (first :: rest).map (host.triggerCall trigger) := by
      rw [List.map_cons, List.append_assoc, List.singleton_append]
    rw [called] at others
    rw [List.map_cons, run_collectStatuses_cons,
      show host.callOf first (host.registry.codeOf first) trigger.handler [] =
        host.triggerCall trigger first from rfl]
    cases replied : host.runner.reply history (host.triggerCall trigger first) with
    | ok answer =>
      rcases others with ⟨statuses, done, collected⟩ | ⟨critical, error, calls, failed⟩
      · refine Or.inl ⟨_, ?_, collected.cons_answered replied⟩
        dsimp only
        rw [Run.run_bind, done]
        rfl
      · refine Or.inr ⟨critical, error, calls, ?_⟩
        dsimp only
        rw [Run.run_bind, failed]
    | error failure =>
      by_cases critical : isCritical trigger
      · exact Or.inr ⟨critical, _, _, if_pos critical⟩
      · simp only [if_neg critical]
        rcases others with ⟨statuses, done, collected⟩ | ⟨ends, _⟩
        · exact Or.inl ⟨statuses, done, collected.cons_failed replied⟩
        · exact absurd ends critical

/-! ### What a trigger leaves behind -/

/-- How a trigger ends: it fails only if it is one that a failure ends, and leaves the registry as
it was; or it has called every recipient, each once, in order and as the registry was before, and
each plugin has the status that it has answered and is otherwise as it was. -/
structure Fired (host : Host) (trigger : Trigger) (history : List Script.Call)
    (result : Except Error Unit) (after : Registry) (calls : List Script.Call) : Prop where
  fails : ∀ error, result = .error error →
    (trigger = .shutdown ∨ trigger = .beforeCoreStop) ∧ after = host.registry
  succeeds : result = .ok () →
    calls = history ++ (host.registry.recipients trigger).map (host.triggerCall trigger) ∧
    after.codes = host.registry.codes ∧ after.settings = host.registry.settings ∧
    List.Forall₂ (fun plugin after => plugin.Takes
      (host.Answers trigger history (host.registry.recipients trigger) plugin.id) after)
      host.registry.plugins after.plugins

/-- How a call by the user ends: where it fails, the registry is as it was, and otherwise at most
the status of the plugin that was called has changed. -/
structure CalledByHand (host : Host) (id : String) (result : Except Error Json.Value)
    (after : Registry) : Prop where
  fails : ∀ error, result = .error error → after = host.registry
  codes : after.codes = host.registry.codes
  settings : after.settings = host.registry.settings
  plugins : List.Forall₂ (fun plugin after : Plugin =>
    after = { plugin with status := after.status } ∧ (plugin.id ≠ id → after = plugin))
    host.registry.plugins after.plugins

/-- Whatever was called before, a trigger ends like this. -/
def Fires (host : Host) (trigger : Trigger) (history : List Script.Call) : Prop :=
  ∃ result after calls,
    ((fireInPlace host.runner trigger).run.run host.registry).run history =
      ((result, after), calls) ∧ Fired host trigger history result after calls

/-- Whatever was called before, a call by the user ends like this. -/
def CallsByHand (host : Host) (id handler : String) (arguments : List Json.Value)
    (history : List Script.Call) : Prop :=
  ∃ result after calls,
    ((callInPlace host.runner id handler arguments).run.run host.registry).run history =
      ((result, after), calls) ∧ CalledByHand host id result after

section Ends

variable {host : Host} (history : List Script.Call)

/-- Collected statuses are given out to the plugins that have answered them. -/
theorem fired_setStatuses {trigger : Trigger} {statuses : List (String × Int)}
    (distinct : host.registry.ids.Nodup)
    (collected : Collected host trigger history (host.registry.recipients trigger) statuses) :
    Fired host trigger history (.ok ()) (host.registry.setStatuses statuses)
      (history ++ (host.registry.recipients trigger).map (host.triggerCall trigger)) := by
  have among : ((host.registry.recipients trigger).map Plugin.id).Sublist host.registry.ids :=
    List.filter_sublist.map Plugin.id
  have single : (statuses.map Prod.fst).Nodup := distinct.sublist (collected.ordered.trans among)
  obtain ⟨codes, settings, taken⟩ :=
    Registry.takes_setStatuses statuses single host.registry distinct
  refine ⟨nofun, fun _ => ⟨rfl, codes, settings, taken.imp fun plugin after takes => ?_⟩⟩
  exact takes.congr (collected.answered plugin.id)

theorem fires (distinct : host.registry.ids.Nodup) (trigger : Trigger) :
    Fires host trigger history := by
  unfold Fires
  rw [run_fireInPlace, Registry.eligible_eq]
  rcases collected_collectStatuses host trigger (host.registry.recipients trigger) history with
    ⟨statuses, done, collected⟩ | ⟨critical, error, calls, failed⟩
  · rw [done]
    exact ⟨_, _, _, rfl, fired_setStatuses history distinct collected⟩
  · rw [failed]
    refine ⟨_, _, _, rfl, fun _ _ => ⟨?_, rfl⟩, nofun⟩
    simpa [isCritical] using critical

/-- A call that the user cannot make leaves everything as it is. -/
theorem calledByHand_error (id : String) (error : Error) :
    CalledByHand host id (.error error) host.registry :=
  ⟨fun _ _ => rfl, rfl, rfl, List.forall₂_same.mpr fun _ _ => ⟨rfl, fun _ => rfl⟩⟩

/-- The answer to a call by the user is at most a status for the plugin that was called. -/
theorem calledByHand_answer (distinct : host.registry.ids.Nodup) (id : String)
    (answer : Json.Value) :
    CalledByHand host id (.ok answer)
      (host.registry.setStatuses ((statusOf? answer).map (id, ·)).toList) := by
  have single : (((statusOf? answer).map (id, ·)).toList.map Prod.fst).Nodup := by
    cases statusOf? answer <;> simp
  have own : ∀ other status, (other, status) ∈ ((statusOf? answer).map (id, ·)).toList →
      other = id := by
    intro other status among
    cases given : statusOf? answer with
    | none => simp [given] at among
    | some number =>
      rw [given] at among
      exact (Prod.mk.inj (List.mem_singleton.mp among)).1
  obtain ⟨codes, settings, taken⟩ :=
    Registry.takes_setStatuses _ single host.registry distinct
  refine ⟨nofun, codes, settings, taken.imp fun plugin after takes => ⟨takes.frame, ?_⟩⟩
  intro other
  exact takes.silent fun status among => other (own _ status among)

theorem callsByHand (distinct : host.registry.ids.Nodup) (id handler : String)
    (arguments : List Json.Value) : CallsByHand host id handler arguments history := by
  unfold CallsByHand callInPlace
  rw [Upkeep.run_get_bind]
  cases host.registry.get? id with
  | none => exact ⟨_, _, _, rfl, calledByHand_error id _⟩
  | some plugin =>
    dsimp only
    cases host.registry.code? id with
    | none => exact ⟨_, _, _, rfl, calledByHand_error id _⟩
    | some code =>
      dsimp only
      by_cases disabled : plugin.disabled
      · rw [if_pos disabled]
        exact ⟨_, _, _, rfl, calledByHand_error id _⟩
      · rw [if_neg disabled, Upkeep.run_look_bind]
        unfold call
        rw [Script.Runner.run_ask]
        cases host.runner.reply history (host.callOf plugin code handler arguments) with
        | error failure => exact ⟨_, _, _, rfl, calledByHand_error id _⟩
        | ok answer => exact ⟨_, _, _, rfl, calledByHand_answer distinct id answer⟩

end Ends

/-- If no two plugins share an id, then a trigger and a call by the user change statuses only, and
leave the registry as it was where they fail. -/
theorem triggers_change_statuses (host : Host) (distinct : host.registry.ids.Nodup)
    (history : List Script.Call) :
    (∀ trigger, Fires host trigger history) ∧
      ∀ id handler arguments, CallsByHand host id handler arguments history :=
  ⟨fires history distinct, callsByHand history distinct⟩

/-- A host with two plugins that hear of the start and of the end. The handlers of the first one
always fail, those of the second one answer a number. -/
def unevenHost : Host where
  registry := {
    plugins := [
      { id := "first", name := "First", triggers := [.known .startup, .known .shutdown] },
      { id := "second", name := "Second", triggers := [.known .startup, .known .shutdown] }]
    codes := [("first", "throw"), ("second", "return 2")]
    settings := [] }
  runner := ⟨.stateless fun call =>
    if call.owner = "second" then .answer (.number (.integer 2)) else .failure (.raised "thrown"),
    Script.defaultDeadline⟩

theorem triggers_change_statuses_uneven :
    unevenHost.registry.ids.Nodup ∧
      (∃ after calls,
        ((fireInPlace unevenHost.runner .startup).run.run unevenHost.registry).run [] =
          ((.ok (), after), calls) ∧ after.plugins.map Plugin.status = [0, 2]) ∧
      Fires unevenHost .startup [] ∧
      (∃ error calls,
        ((fireInPlace unevenHost.runner .shutdown).run.run unevenHost.registry).run [] =
          ((.error error, unevenHost.registry), calls)) ∧
      Fires unevenHost .shutdown [] ∧
      CallsByHand unevenHost "second" "onRun" [] [] := by
  have distinct : unevenHost.registry.ids.Nodup := by decide
  obtain ⟨fired, called⟩ := triggers_change_statuses unevenHost distinct []
  exact ⟨distinct, ⟨_, _, rfl, rfl⟩, fired .startup, ⟨_, _, rfl⟩, fired .shutdown,
    called "second" "onRun" []⟩

end Host

end ProxyProfile
