/-
This file proves how a document is handed along the plugins of a trigger.

What counts is not only the document at the end but the calls on the way: who is
called, in which order, and with what. A run of the chain is told by the objects
that the plugins answered before one failed. They determine the calls, for each
plugin is called with what the one before it answered, and they determine the
result, for the chain succeeds exactly if there are as many answers as plugins.
The induction is on the plugins; the calls made before the chain are left open,
since an engine may answer by them.
-/

import Mathlib.Data.List.Basic
import ProxyProfile.Plugin.Host
import ProxyProfile.Proofs.Calling

namespace ProxyProfile

/-! ### Recipients -/

namespace Registry

/-- The plugins that a trigger reaches: they want to hear of it, are enabled, are not still to
be installed, and their code is at hand. -/
def recipients (registry : Registry) (trigger : Trigger) : List Plugin :=
  registry.plugins.filter fun plugin =>
    plugin.subscribesTo trigger && plugin.enabled && !plugin.isPendingInstall &&
      (registry.code? plugin.id).isSome

/-- The code of a plugin, where it is at hand. -/
def codeOf (registry : Registry) (plugin : Plugin) : String :=
  (registry.code? plugin.id).getD ""

theorem eligible_eq (registry : Registry) (trigger : Trigger) :
    registry.eligible trigger =
      (registry.recipients trigger).map fun plugin => (plugin, registry.codeOf plugin) := by
  unfold eligible recipients observers
  rw [List.filterMap_filter, ← List.filterMap_eq_map, List.filterMap_filter]
  refine List.filterMap_congr fun plugin _ => ?_
  have runs : isRunnable plugin = (plugin.enabled && !plugin.isPendingInstall) := rfl
  by_cases hears : plugin.subscribesTo trigger
  · cases code : registry.code? plugin.id with
    | none => simp [hears]
    | some text => simp [hears, runs, code, codeOf]
  · simp [hears]

end Registry

namespace Host

/-! ### Chains -/

/-- The call of a plugin that is handed a document. -/
def handingCall (host : Host) (handler : String) (profile : Json.Value)
    (recipient : Plugin × String) (document : Json.Value) : Script.Call :=
  host.callOf recipient.1 recipient.2 handler [document, profile]

/-- What handing a document along some plugins comes to: the calls made, the objects answered
before one of them failed, and the result. -/
structure HandedAlong (host : Host) (handler : String) (profile : Json.Value)
    (plugins : List (Plugin × String)) (start : Json.Value) (history made : List Script.Call)
    (answers : List Json.Value) (result : Except Error Json.Value) : Prop where
  /-- The plugins are called in order, each with what the one before it answered, until one of
  them has not answered. -/
  calls : made = List.zipWith (host.handingCall handler profile) plugins (start :: answers)
  bounded : answers.length ≤ plugins.length
  /-- Each answer is an object, and is replied to the call at its place. -/
  answered : ∀ (place : Nat) answer, answers[place]? = some answer → answer.isObject ∧
    ∃ call, made[place]? = some call ∧
      host.runner.reply (history ++ made.take place) call = .ok answer
  /-- The result is the last answer, or the first document if there is no plugin. -/
  succeeds : ∀ document, result = .ok document ↔
    answers.length = plugins.length ∧ (start :: answers).getLast? = some document
  /-- The plugin that has not answered is called last, and the error carries its name. -/
  stops : ∀ plugin code, plugins[answers.length]? = some (plugin, code) →
    ∃ call, made[answers.length]? = some call ∧
      ((∃ failure, host.runner.reply (history ++ made.take answers.length) call = .error failure ∧
          result = .error (.plugin plugin.name failure.message)) ∨
        ∃ answer, host.runner.reply (history ++ made.take answers.length) call = .ok answer ∧
          answer.isObject = false ∧
          result = .error (.plugin plugin.name Error.wrongResult.message))

section Chains

variable (host : Host) (handler : String) (profile : Json.Value)

theorem handedAlong_nil (start : Json.Value) (history : List Script.Call) :
    HandedAlong host handler profile [] start history [] [] (.ok start) where
  calls := rfl
  bounded := Nat.le_refl 0
  answered place answer among := by simp at among
  succeeds document := by simp
  stops plugin code among := by simp at among

/-- A plugin that does not answer an object ends the chain. -/
theorem handedAlong_stop (plugin : Plugin) (code : String) (rest : List (Plugin × String))
    (start : Json.Value) (history : List Script.Call) {reason : String}
    (stop : (∃ failure, host.runner.reply history
          (host.handingCall handler profile (plugin, code) start) = .error failure ∧
          reason = failure.message) ∨
        ∃ answer, host.runner.reply history
          (host.handingCall handler profile (plugin, code) start) = .ok answer ∧
          answer.isObject = false ∧ reason = Error.wrongResult.message) :
    HandedAlong host handler profile ((plugin, code) :: rest) start history
      [host.handingCall handler profile (plugin, code) start] []
      (.error (.plugin plugin.name reason)) where
  calls := by rw [List.zipWith_cons_cons, List.zipWith_nil_right]
  bounded := Nat.zero_le _
  answered place answer among := by simp at among
  succeeds document := by simp
  stops other text among := by
    cases among
    refine ⟨_, rfl, ?_⟩
    rw [List.length_nil, List.take_zero, List.append_nil]
    rcases stop with ⟨failure, replied, rfl⟩ | ⟨answer, replied, shape, rfl⟩
    · exact Or.inl ⟨failure, replied, rfl⟩
    · exact Or.inr ⟨answer, replied, shape, rfl⟩

/-- A plugin that answers an object hands it on to the others. -/
theorem handedAlong_step {plugin : Plugin} {code : String} {rest : List (Plugin × String)}
    {start answer : Json.Value} {history made : List Script.Call} {answers : List Json.Value}
    {result : Except Error Json.Value}
    (replied : host.runner.reply history
      (host.handingCall handler profile (plugin, code) start) = .ok answer)
    (shape : answer.isObject = true)
    (handed : HandedAlong host handler profile rest answer
      (history ++ [host.handingCall handler profile (plugin, code) start]) made answers result) :
    HandedAlong host handler profile ((plugin, code) :: rest) start history
      (host.handingCall handler profile (plugin, code) start :: made) (answer :: answers) result where
  calls := by rw [List.zipWith_cons_cons, ← handed.calls]
  bounded := Nat.succ_le_succ handed.bounded
  answered place other among := by
    cases place with
    | zero =>
      cases among
      exact ⟨shape, _, rfl, by rw [List.take_zero, List.append_nil]; exact replied⟩
    | succ place =>
      obtain ⟨object, call, called, given⟩ := handed.answered place other among
      refine ⟨object, call, called, ?_⟩
      rwa [List.append_assoc, List.singleton_append] at given
  succeeds document := by
    rw [handed.succeeds, List.length_cons, List.length_cons, Nat.succ_inj,
      List.getLast?_cons_cons]
  stops other text among := by
    obtain ⟨call, called, stopped⟩ := handed.stops other text among
    refine ⟨call, called, ?_⟩
    rwa [List.append_assoc, List.singleton_append] at stopped

theorem run_passDocument_cons (plugin : Plugin) (code : String) (rest : List (Plugin × String))
    (document : Json.Value) (history : List Script.Call) :
    (host.passDocument handler profile ((plugin, code) :: rest) document).run.run history =
      match host.runner.reply history
        (host.handingCall handler profile (plugin, code) document) with
      | .error failure =>
        (.error (.plugin plugin.name failure.message),
          history ++ [host.handingCall handler profile (plugin, code) document])
      | .ok answer =>
        if answer.isObject then
          (host.passDocument handler profile rest answer).run.run
            (history ++ [host.handingCall handler profile (plugin, code) document])
        else
          (.error (wrongResult plugin),
            history ++ [host.handingCall handler profile (plugin, code) document]) := by
  rw [passDocument, Run.run_bind]
  unfold call
  rw [Script.Runner.run_ask]
  unfold handingCall
  cases host.runner.reply history (host.callOf plugin code handler [document, profile]) with
  | error failure => rfl
  | ok answer =>
    by_cases shape : answer.isObject
    · simp only [Except.mapError, if_pos shape]
    · simp only [Except.mapError, if_neg shape]
      rfl

/-- Handing a document along some plugins comes to this, whatever was called before. -/
theorem handedAlong_passDocument (plugins : List (Plugin × String)) (start : Json.Value)
    (history : List Script.Call) :
    ∃ made answers,
      ((host.passDocument handler profile plugins start).run.run history).2 = history ++ made ∧
      HandedAlong host handler profile plugins start history made answers
        ((host.passDocument handler profile plugins start).run.run history).1 := by
  induction plugins generalizing start history with
  | nil => exact ⟨[], [], (List.append_nil history).symm, handedAlong_nil host handler profile _ _⟩
  | cons recipient rest inductionHypothesis =>
    obtain ⟨plugin, code⟩ := recipient
    rw [run_passDocument_cons]
    cases replied : host.runner.reply history
        (host.handingCall handler profile (plugin, code) start) with
    | error failure =>
      exact ⟨_, [], rfl, handedAlong_stop host handler profile plugin code rest start history
        (Or.inl ⟨failure, replied, rfl⟩)⟩
    | ok answer =>
      by_cases shape : answer.isObject
      · obtain ⟨made, answers, called, handed⟩ := inductionHypothesis answer
          (history ++ [host.handingCall handler profile (plugin, code) start])
        simp only [if_pos shape]
        refine ⟨_, _, ?_, handedAlong_step host handler profile replied shape handed⟩
        rw [called, List.append_assoc, List.singleton_append]
      · simp only [if_neg shape]
        exact ⟨_, [], rfl, handedAlong_stop host handler profile plugin code rest start history
          (Or.inr ⟨answer, replied, Bool.eq_false_iff.mpr shape, rfl⟩)⟩

/-- Where each plugin keeps what a document has, the document keeps it along all of them. -/
theorem yields_passDocument {Good : Json.Value → Prop} {plugins : List (Plugin × String)}
    {document : Json.Value}
    (keeps : ∀ recipient ∈ plugins, ∀ history document answer, Good document →
      host.runner.reply history (host.handingCall handler profile recipient document) = .ok answer →
      answer.isObject → Good answer)
    (good : Good document) : Run.Yields Good (host.passDocument handler profile plugins document) := by
  induction plugins generalizing document with
  | nil => exact Run.yields_pure good
  | cons recipient rest inductionHypothesis =>
    obtain ⟨plugin, code⟩ := recipient
    obtain ⟨first, others⟩ := List.forall_mem_cons.mp keeps
    intro history calls final success
    rw [run_passDocument_cons] at success
    cases replied : host.runner.reply history
        (host.handingCall handler profile (plugin, code) document) with
    | error failure =>
      rw [replied] at success
      cases success
    | ok answer =>
      rw [replied] at success
      by_cases shape : answer.isObject
      · simp only [if_pos shape] at success
        exact inductionHypothesis others (first _ _ _ good replied shape) _ _ _ success
      · simp only [if_neg shape] at success
        cases success

end Chains

/-! ### The two chains of a document -/

/-- A run hands a document along the recipients of a trigger, together with the profile. -/
def HandsAlong (host : Host) (trigger : Trigger) (start : Json.Value) (profile : Profile)
    (history : List Script.Call) (run : Run Json.Value) : Prop :=
  ∃ made answers, (run.run.run history).2 = history ++ made ∧
    HandedAlong host trigger.handler profile.toJson
      ((host.registry.recipients trigger).map fun plugin =>
        (plugin, host.registry.codeOf plugin))
      start history made answers (run.run.run history).1

theorem handsAlong_documentChain (host : Host) (trigger : Trigger) (start : Json.Value)
    (profile : Profile) (history : List Script.Call) :
    HandsAlong host trigger start profile history (host.documentChain trigger start profile) := by
  unfold HandsAlong documentChain
  rw [Registry.eligible_eq]
  exact handedAlong_passDocument host trigger.handler profile.toJson _ start history

/-- A compiled document and a final one are handed along exactly the plugins that hear of it,
each called at most once and with what the one before it answered, up to the first that does not
answer an object; its name is in the error. -/
theorem documents_handsAlong (host : Host) (start : Json.Value) (profile : Profile)
    (history : List Script.Call) :
    HandsAlong host .generate start profile history (host.onGenerate start profile) ∧
      HandsAlong host .beforeCoreStart start profile history
        (host.onBeforeCoreStart start profile) :=
  ⟨handsAlong_documentChain host .generate start profile history,
    handsAlong_documentChain host .beforeCoreStart start profile history⟩

end Host

end ProxyProfile
