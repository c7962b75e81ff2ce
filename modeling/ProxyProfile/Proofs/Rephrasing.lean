/-
This file proves that plugins may answer with the text of a list as well as with the list.

The text of a list is read as the list, with the kernel's table around it or bare, so the
answer is the same either way. Two engines that differ in nothing else run a chain of
plugins in lockstep: both are asked the same, and after each answer the same proxies go on to
the next plugin. The induction is on the plugins that are still to be asked.
-/

import ProxyProfile.Plugin.Host
import ProxyProfile.Proofs.Calling
import ProxyProfile.Proofs.Detecting

namespace ProxyProfile

namespace Subscription

/-! ### Texts of lists -/

/-- The table in the kernel's form with a list of proxies. -/
def kernelTable (proxies : List Json.Value) : Json.Value :=
  .object [("outbounds", .array proxies)]

/-- A list that is read back from its text even with a table around it: it is plain, so its numbers
are integers, and it does not nest too deep for one more bracket. -/
structure Enclosable (proxies : List Json.Value) : Prop where
  plain : (Json.Value.array proxies).isPlain
  shallow : (Json.Value.array proxies).nesting ≤ 126

/-- A text that says the same as a list: the kernel's table with the list, or, where the user
writes it by hand, the list itself. -/
def Phrases (kind : SubscriptionKind) (proxies : List Json.Value) (text : String) : Prop :=
  Enclosable proxies ∧
    (text = (kernelTable proxies).compact ∨
      kind = .manual ∧ text = (Json.Value.array proxies).compact)

section Enclosable

variable {proxies : List Json.Value}

theorem Enclosable.storable (enclosable : Enclosable proxies) :
    (Json.Value.array proxies).Storable :=
  ⟨enclosable.plain, Nat.le_trans enclosable.shallow (by decide)⟩

theorem Enclosable.storable_kernelTable (enclosable : Enclosable proxies) :
    (kernelTable proxies).Storable := by
  have plain := enclosable.plain
  have shallow := enclosable.shallow
  constructor
  · simp [kernelTable, Json.Value.isPlain, Json.haveMembersPlain, Json.Object.keys] at plain ⊢
    exact plain
  · simp only [kernelTable, Json.Value.nesting, Json.nestingOfMembers, Json.nestingLimit]
      at shallow ⊢
    omega

end Enclosable

/-- A text that says the same as a list is read as the list. -/
theorem parseBody_of_phrases {kind : SubscriptionKind} {proxies : List Json.Value}
    {text : String} (phrased : Phrases kind proxies text) :
    parseBody text kind = .ok proxies := by
  obtain ⟨enclosable, rfl | ⟨rfl, rfl⟩⟩ := phrased
  · exact parseBody_of_object (Json.parse?_compact _ enclosable.storable_kernelTable) rfl
  · exact parseBody_of_array (Json.parse?_compact _ enclosable.storable)

end Subscription

/-! ### Engines -/

/-- Two ends of a call that differ at most in how a list is answered to a plugin that is asked for
the proxies of a subscription: by itself, or by a text that says the same. -/
def Rephrases (kind : SubscriptionKind) (call : Script.Call) (first second : Script.Outcome) :
    Prop :=
  first = second ∨
    call.handler = Trigger.subscribe.handler ∧ ∃ proxies text,
      Subscription.Phrases kind proxies text ∧
        (first = .answer (.array proxies) ∧ second = .answer (.string text) ∨
          first = .answer (.string text) ∧ second = .answer (.array proxies))

namespace Host

section Rephrases

variable {kind : SubscriptionKind} {registry : Registry} {first second : Script.Engine}
  {deadline : Duration}

/-- The proxies that a plugin answers to a call, or the error that takes their place. -/
def proxiesOf (plugin : Plugin) (kind : SubscriptionKind) (runner : Script.Runner)
    (history : List Script.Call) (call : Script.Call) : Except Error (List Json.Value) :=
  ((runner.reply history call).mapError fun failure => .plugin plugin.name failure.message).bind
    (answeredProxies plugin kind)

/-- One step of a chain: the first plugin is asked, and what it answers goes on to the others. -/
theorem run_passProxies_cons (host : Host) (subscription : Subscription) (plugin : Plugin)
    (code : String) (rest : List (Plugin × String)) (proxies : List Json.Value)
    (history : List Script.Call) :
    (host.passProxies subscription ((plugin, code) :: rest) proxies).run.run history =
      let call := host.callOf plugin code Trigger.subscribe.handler
        [.array proxies, subscription.toJson]
      match proxiesOf plugin subscription.kind host.runner history call with
      | .ok next => (host.passProxies subscription rest next).run.run (history ++ [call])
      | .error error => (.error error, history ++ [call]) := by
  rw [passProxies, Run.run_bind, call, Script.Runner.run_ask]
  dsimp only
  unfold proxiesOf
  cases host.runner.reply history _ with
  | error failure => rfl
  | ok answer =>
    dsimp only [Except.mapError, Except.bind]
    cases answeredProxies plugin subscription.kind answer <;> rfl

/-- A text that says the same as a list gives the same proxies. -/
theorem answeredProxies_of_phrases {proxies : List Json.Value} {text : String}
    (phrased : Subscription.Phrases kind proxies text) (plugin : Plugin) :
    answeredProxies plugin kind (.string text) = answeredProxies plugin kind (.array proxies) := by
  unfold answeredProxies
  dsimp only
  rw [Subscription.parseBody_of_phrases phrased]

/-- The proxies are the same under both engines. -/
theorem proxiesOf_congr {history : List Script.Call} {call : Script.Call}
    (rephrased : Rephrases kind call (first.outcome history call) (second.outcome history call))
    (plugin : Plugin) (deadline : Duration) :
    proxiesOf plugin kind ⟨first, deadline⟩ history call =
      proxiesOf plugin kind ⟨second, deadline⟩ history call := by
  unfold proxiesOf Script.Runner.reply
  dsimp only
  obtain same | ⟨_, proxies, text, phrased, ⟨one, other⟩ | ⟨one, other⟩⟩ := rephrased
  · rw [same]
  · rw [one, other]
    exact (answeredProxies_of_phrases phrased plugin).symm
  · rw [one, other]
    exact answeredProxies_of_phrases phrased plugin

/-- Two chains in lockstep. -/
theorem run_passProxies_congr {subscription : Subscription}
    (rephrased : ∀ history call, Rephrases subscription.kind call
      (first.outcome history call) (second.outcome history call))
    (recipients : List (Plugin × String)) (proxies : List Json.Value)
    (history : List Script.Call) :
    ((⟨registry, ⟨first, deadline⟩⟩ : Host).passProxies subscription recipients proxies).run.run
        history =
      ((⟨registry, ⟨second, deadline⟩⟩ : Host).passProxies subscription recipients proxies).run.run
        history := by
  induction recipients generalizing proxies history with
  | nil => rfl
  | cons recipient rest inductionHypothesis =>
    obtain ⟨plugin, code⟩ := recipient
    have asked : (⟨registry, ⟨first, deadline⟩⟩ : Host).callOf plugin code =
        (⟨registry, ⟨second, deadline⟩⟩ : Host).callOf plugin code := rfl
    rw [run_passProxies_cons, run_passProxies_cons, asked]
    dsimp only
    rw [proxiesOf_congr (rephrased history _) plugin deadline]
    split
    · exact inductionHypothesis _ _
    · rfl

end Rephrases

/-- A chain of plugins gives the same proxies or the same error under two engines that differ only
in how lists are answered, and both engines are asked the same. -/
theorem run_onSubscribe_congr (registry : Registry) (deadline : Duration)
    (subscription : Subscription) (proxies : List Json.Value) (first second : Script.Engine)
    (rephrased : ∀ history call, Rephrases subscription.kind call
      (first.outcome history call) (second.outcome history call))
    (history : List Script.Call) :
    ((⟨registry, ⟨first, deadline⟩⟩ : Host).onSubscribe proxies subscription).run.run history =
      ((⟨registry, ⟨second, deadline⟩⟩ : Host).onSubscribe proxies subscription).run.run history :=
  run_passProxies_congr rephrased _ proxies history

/-! ### One plugin -/

/-- A plugin that hears of subscriptions. -/
def lister : Plugin :=
  { id := "lister", name := "Lister", triggers := [.known .subscribe] }

/-- The registry of this plugin alone. -/
def listers : Registry :=
  { plugins := [lister], codes := [("lister", "")], settings := [] }

/-- An engine that answers to all plugins alike when they are asked for proxies. -/
def answering (answer : Json.Value) : Script.Engine :=
  .stateless fun call =>
    if call.handler = Trigger.subscribe.handler then .answer answer else .hang

/-- A list of one proxy. -/
def listed : List Json.Value :=
  [.object [("tag", .string "A"), ("server_port", .number (.integer 443))]]

theorem rephrases_answering {kind : SubscriptionKind} {proxies : List Json.Value} {text : String}
    (phrased : Subscription.Phrases kind proxies text) (history : List Script.Call)
    (call : Script.Call) :
    Rephrases kind call ((answering (.array proxies)).outcome history call)
      ((answering (.string text)).outcome history call) := by
  by_cases asked : call.handler = Trigger.subscribe.handler
  · refine Or.inr ⟨asked, proxies, text, phrased, Or.inl ?_⟩
    exact ⟨if_pos asked, if_pos asked⟩
  · exact Or.inl ((if_neg asked).trans (if_neg asked).symm)

/-- The plugin answers a text, and the proxies of the text are the result. -/
theorem run_onSubscribe_congr_listers :
    (∀ history call, Rephrases .manual call ((answering (.array listed)).outcome history call)
      ((answering (.string (Json.Value.array listed).compact)).outcome history call)) ∧
    (((⟨listers, ⟨answering (.string (Json.Value.array listed).compact),
      Script.defaultDeadline⟩⟩ : Host).onSubscribe [] { kind := .manual }).run.run []).1 =
        .ok listed := by
  have phrased : Subscription.Phrases .manual listed (Json.Value.array listed).compact :=
    ⟨⟨by decide, by decide⟩, Or.inr ⟨rfl, rfl⟩⟩
  have rephrased := rephrases_answering phrased
  refine ⟨rephrased, ?_⟩
  rw [← run_onSubscribe_congr listers _ _ _ (answering (.array listed)) _ rephrased []]
  rfl

end Host

end ProxyProfile
