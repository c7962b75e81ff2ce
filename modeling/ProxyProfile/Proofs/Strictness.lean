/-
This file proves that the strict policy only ever refuses what the lenient one
lets pass.

The two policies take different ways at one place, a reference that leads
nowhere, and there the strict one ends the compilation. So the strict result is
the lenient one, or it is the error about such a reference; and the lenient
policy never reports one by itself. It hands on what a provider answers, though,
and a provider may answer with any error; the one of a store knows nothing of
references. What happens to a document after the parts are encoded knows nothing
of the policy, and gives the same for the same document whenever it is done, as
long as equal calls are answered equally.
-/

import ProxyProfile.Proofs.Calling
import ProxyProfile.Proofs.Comparison
import ProxyProfile.Proofs.Expansion
import ProxyProfile.Storage.Memory

namespace ProxyProfile

/-- Equal calls are answered equally, whatever was called before. -/
def Script.Engine.Steady (engine : Script.Engine) : Prop :=
  ∀ history other call, engine.outcome history call = engine.outcome other call

/-- A provider is the one of a store, wherever that has its files. -/
def Provider.Stored (provider : Provider) : Prop :=
  ∃ (σ : Type) (_ : Storage σ) (store : SubscriptionStore σ), provider = store.provider

namespace Kernel

/-! ### References that lead nowhere -/

/-- A reference leads nowhere: nothing of its kind has its id, and it is not to an outbound that
exists without being declared. References to inbounds are never refused. -/
def Lacks (profile : Profile) (reference : Unresolved) : Prop :=
  reference.id ≠ "" ∧
    match reference.kind with
    | .inbound => False
    | .outbound => (∀ outbound ∈ profile.outbounds, outbound.id ≠ reference.id) ∧
        reference.id ≠ "direct" ∧ reference.id ≠ "block"
    | .dnsServer => ∀ server ∈ profile.dns.servers, server.id ≠ reference.id
    | .ruleSet => ∀ ruleSet ∈ profile.route.ruleSets, ruleSet.id ≠ reference.id

theorem ne_of_find?_eq_none {Item : Type} {idOf tagOf : Item → String} {items : List Item}
    {id : String} (missing : (items.find? fun item => idOf item = id).map tagOf = none) :
    ∀ item ∈ items, idOf item ≠ id := by
  intro item among
  have none := List.find?_eq_none.mp (Option.map_eq_none_iff.mp missing) item among
  simpa using none

theorem ne_of_ofId?_eq_none {id : String} (missing : Synthetic.ofId? id = none) :
    id ≠ "direct" ∧ id ≠ "block" := by
  constructor
  · rintro rfl
    exact absurd missing (by decide)
  · rintro rfl
    exact absurd missing (by decide)

/-! ### Refusing more -/

/-- The first result is the second one, unless it is the refusal of a reference. The second one
refuses none but what comes refused from elsewhere. -/
structure Refuses (Refused : Unresolved → Prop) (Foreign : Error → Prop) {α : Type}
    (first second : Except Error α) : Prop where
  same : first = second ∨ ∃ reference, Refused reference ∧ first = .error (.unresolved reference)
  passes : ∀ error, second = .error error → error.isUnresolved = true → Foreign error

theorem Refuses.bind {Refused : Unresolved → Prop} {Foreign : Error → Prop} {α β : Type}
    {first second : Except Error α} {next other : α → Except Error β}
    (refuses : Refuses Refused Foreign first second)
    (follow : ∀ value, Refuses Refused Foreign (next value) (other value)) :
    Refuses Refused Foreign (first >>= next) (second >>= other) := by
  have passes : ∀ error, (second >>= other) = .error error → error.isUnresolved = true →
      Foreign error := by
    intro error failed
    cases second with
    | error reason =>
      cases failed
      exact refuses.passes error rfl
    | ok value => exact (follow value).passes error failed
  rcases refuses.same with rfl | ⟨reference, refused, rfl⟩
  · cases first with
    | error error => exact ⟨Or.inl rfl, passes⟩
    | ok value => exact ⟨(follow value).same, passes⟩
  · exact ⟨Or.inr ⟨reference, refused, rfl⟩, passes⟩

/-- Results are compared by what the first one refuses. -/
def byRefusals (Refused : Unresolved → Prop) (Foreign : Error → Prop) : Comparison where
  Alike := Refuses Refused Foreign
  Shared error := error.isUnresolved = true → Foreign error
  ok _ := ⟨Or.inl rfl, fun _ failed => nomatch failed⟩
  error error shared := by
    refine ⟨Or.inl rfl, fun reason failed => ?_⟩
    cases failed
    exact shared
  bind := Refuses.bind
  shared error other := by
    intro unresolved
    rw [other] at unresolved
    cases unresolved

/-- The strict policy refuses a reference that leads nowhere, the lenient one leaves it out. -/
theorem agree_policies (profile : Profile) {Foreign : Error → Prop} (kind : ReferenceKind)
    (id : String) (found : Option String)
    (lacks : id ≠ "" → found = none → Lacks profile ⟨kind, id⟩) :
    (byRefusals (Lacks profile) Foreign).Agree
      (Scope.resolve ⟨profile, .strict⟩ kind id found)
      (Scope.resolve ⟨profile, .lenient⟩ kind id found) := by
  unfold Scope.resolve
  by_cases nothing : id = ""
  · rw [if_pos nothing, if_pos nothing]
    exact agree_pure none
  · rw [if_neg nothing, if_neg nothing]
    cases found with
    | some tag => exact agree_pure (some tag)
    | none =>
      -- The one place where the policies part.
      intro noted
      exact ⟨Or.inr ⟨⟨kind, id⟩, lacks nothing rfl, rfl⟩, fun _ failed => nomatch failed⟩

theorem corresponds_policies (profile : Profile) (Foreign : Error → Prop) :
    Corresponds (byRefusals (Lacks profile) Foreign) id ⟨profile, .strict⟩
      ⟨profile, .lenient⟩ := by
  refine ⟨fun id => ?_, fun id => ?_, fun id => ?_, fun id => rfl, fun payload => ?_,
    fun text => ?_⟩
  · unfold Scope.outbound
    have tags : Scope.outboundTag? ⟨profile, .lenient⟩ (id : String) =
        Scope.outboundTag? ⟨profile, .strict⟩ id := rfl
    simp only [Function.id_def, tags]
    cases declared : Scope.outboundTag? ⟨profile, .strict⟩ id with
    | some tag =>
      exact agree_policies profile .outbound id (some tag) fun _ missing => nomatch missing
    | none =>
      cases named : Synthetic.ofId? id with
      | some synthetic => exact agree_bind (agree_mention synthetic) fun _ => agree_pure _
      | none =>
        exact agree_policies profile .outbound id none fun given _ =>
          ⟨given, ne_of_find?_eq_none declared, ne_of_ofId?_eq_none named⟩
  · exact agree_policies profile .dnsServer id _ fun given missing =>
      ⟨given, ne_of_find?_eq_none missing⟩
  · exact agree_policies profile .ruleSet id _ fun given missing =>
      ⟨given, ne_of_find?_eq_none missing⟩
  · rw [Text.renameIds_id, List.map_id]
  · rw [Text.renameId_id, id]

/-! ### After the parts -/

section Timeless

variable {α β : Type}

/-- A run gives one result whatever was called before, and does not fail for a reference. -/
def Timeless (run : Run α) : Prop :=
  ∃ result : Except Error α, NeverUnresolved result ∧ ∀ history, (run.run.run history).1 = result

theorem timeless_pure (value : α) : Timeless (pure value) :=
  ⟨.ok value, neverUnresolved_ok value, fun _ => rfl⟩

theorem timeless_throw {error : Error} (other : error.isUnresolved = false) :
    Timeless (throw error : Run α) :=
  ⟨.error error, neverUnresolved_error other, fun _ => rfl⟩

theorem timeless_lift {result : Except Error α} (never : NeverUnresolved result) :
    Timeless (liftM result) := by
  refine ⟨result, never, fun history => ?_⟩
  cases result <;> rfl

theorem timeless_bind {run : Run α} {next : α → Run β} (timeless : Timeless run)
    (follow : ∀ value, Timeless (next value)) : Timeless (run >>= next) := by
  obtain ⟨result, never, gives⟩ := timeless
  cases result with
  | error error =>
    refine ⟨.error error, neverUnresolved_error (never error rfl), fun history => ?_⟩
    have failed := gives history
    rw [Run.run_bind]
    generalize run.run.run history = both at failed
    obtain ⟨first, calls⟩ := both
    cases failed
    rfl
  | ok value =>
    obtain ⟨second, neverSecond, givesSecond⟩ := follow value
    refine ⟨second, neverSecond, fun history => ?_⟩
    have given := gives history
    rw [Run.run_bind]
    generalize run.run.run history = both at given
    obtain ⟨first, calls⟩ := both
    cases given
    exact givesSecond calls

theorem timeless_ask {runner : Script.Runner} (steady : runner.engine.Steady)
    (call : Script.Call) {explain : Script.Failure → Error}
    (other : ∀ failure, (explain failure).isUnresolved = false) :
    Timeless (runner.ask call explain) := by
  refine ⟨(runner.reply [] call).mapError explain, ?_, fun history => ?_⟩
  · cases runner.reply [] call with
    | ok value => exact neverUnresolved_ok value
    | error failure => exact neverUnresolved_error (other failure)
  · rw [Script.Runner.run_ask]
    unfold Script.Runner.reply
    rw [steady history []]

/-! ### Plugins, override and script -/

theorem neverUnresolved_applyMixin (mixin : Mixin) (document : Json.Value) :
    NeverUnresolved (applyMixin mixin document) := by
  unfold applyMixin
  split
  · exact neverUnresolved_ok _
  · split
    · exact neverUnresolved_ok _
    · exact neverUnresolved_error rfl

section Finish

variable {host : Host} (steady : host.runner.engine.Steady)

include steady

/-- Handing a document along some plugins gives one result at all times. -/
theorem timeless_passDocument (handler : String) (profile : Json.Value)
    (plugins : List (Plugin × String)) (document : Json.Value) :
    Timeless (host.passDocument handler profile plugins document) := by
  induction plugins generalizing document with
  | nil => exact timeless_pure document
  | cons first rest inductionHypothesis =>
    obtain ⟨plugin, code⟩ := first
    refine timeless_bind (timeless_ask steady _ fun _ => rfl) fun answer => ?_
    split
    · exact inductionHypothesis answer
    · exact timeless_throw rfl

theorem timeless_runScript (profile : Profile) (document : Json.Value) :
    Timeless (runScript host.runner profile document) := by
  unfold runScript
  split
  · exact timeless_pure document
  · refine timeless_bind (timeless_ask steady _ fun _ => rfl) fun answer => ?_
    split
    · exact timeless_pure answer
    · exact timeless_throw rfl

end Finish

end Timeless

/-- What is done to a document once the parts are encoded. -/
def finish (host : Host) (profile : Profile) (base : Json.Value) : Run Json.Value := do
  let handed ← host.onGenerate base profile
  let merged ← (applyMixin profile.mixin handed : Except Error _)
  return enforce (← runScript host.runner profile merged)

/-- Nothing that is done to a document afterwards depends on when it is done. -/
theorem timeless_finish {host : Host} (steady : host.runner.engine.Steady) (profile : Profile)
    (base : Json.Value) : Timeless (finish host profile base) := by
  refine timeless_bind (timeless_passDocument steady _ _ _ _) fun handed => ?_
  refine timeless_bind (timeless_lift (neverUnresolved_applyMixin _ _)) fun merged => ?_
  exact timeless_bind (timeless_runScript steady _ _) fun answer => timeless_pure _

theorem compile_result (host : Host) (environment : Environment) (profile : Profile)
    (history : List Script.Call) :
    ((compile host environment profile).run.run history).1 =
      compileBase environment profile >>= fun base =>
        ((finish host profile base).run.run history).1 := by
  have whole : compile host environment profile =
      (liftM (compileBase environment profile) : Run Json.Value) >>= finish host profile := by
    unfold compile compileDraft finish
    simp only [bind_assoc]
  rw [whole]
  cases compileBase environment profile <;> rfl

/-! ### Subscriptions that are kept -/

/-- A provider that reads lists from a storage knows nothing of references. -/
theorem neverUnresolved_proxies {σ : Type} [Storage σ] (store : SubscriptionStore σ)
    (id : String) : NeverUnresolved (store.proxies id) := by
  unfold SubscriptionStore.proxies
  split
  · exact neverUnresolved_error rfl
  · refine neverUnresolved_bind ?_ fun text => ?_
    · intro error failed
      cases read : Storage.readText store.storage _ with
      | ok text =>
        rw [read] at failed
        cases failed
      | error reason =>
        rw [read] at failed
        cases failed
        rfl
    · split
      · exact neverUnresolved_ok _
      · exact neverUnresolved_error rfl

/-- So does every provider of a store. -/
theorem neverUnresolved_of_stored {provider : Provider} (stored : provider.Stored)
    (id : String) : NeverUnresolved (provider.proxies id) := by
  obtain ⟨_, _, store, rfl⟩ := stored
  exact neverUnresolved_proxies store id

/-! ### The two policies -/

/-- An error is the provider's own answer for a subscription that some group draws from. -/
def Answered (provider : Provider) (profile : Profile) (error : Error) : Prop :=
  ∃ id ∈ drawnFrom profile.outbounds, provider.proxies id = .error error

theorem refuses_compileBase (provider : Provider) (files : List RuleSetFile) (profile : Profile) :
    Refuses (Lacks profile) (Answered provider profile)
      (compileBase ⟨provider, files, .strict⟩ profile)
      (compileBase ⟨provider, files, .lenient⟩ profile) := by
  have corresponds := corresponds_policies profile (Answered provider profile)
  have alike : (byRefusals (Lacks profile) (Answered provider profile)).Alike
      (compileBase ⟨provider, files, .strict⟩ profile)
      (compileBase ⟨provider, files, .lenient⟩ (profile.rename id)) :=
    alike_compileBase (by rw [profile_rename_id]; exact corresponds) rfl rfl
      fun id drawn error failed _ => ⟨id, drawn, failed⟩
  rw [profile_rename_id] at alike
  exact alike

theorem refuses_compile (provider : Provider) (files : List RuleSetFile) (profile : Profile)
    {host : Host} (steady : host.runner.engine.Steady) (history other : List Script.Call) :
    Refuses (Lacks profile) (Answered provider profile)
      ((compile host ⟨provider, files, .strict⟩ profile).run.run history).1
      ((compile host ⟨provider, files, .lenient⟩ profile).run.run other).1 := by
  rw [compile_result, compile_result]
  refine (refuses_compileBase provider files profile).bind fun base => ?_
  obtain ⟨result, never, gives⟩ := timeless_finish steady profile base
  rw [gives, gives]
  refine ⟨Or.inl rfl, fun error failed unresolved => ?_⟩
  rw [never error failed] at unresolved
  cases unresolved

/-- The result under the strict policy restricts the one under the lenient policy. The lenient
one is about a reference only where the provider itself has answered so, and never with the
provider of a store. -/
structure Restricts (profile : Profile) (provider : Provider)
    (strict lenient : Except Error Json.Value) : Prop where
  succeeds : ∀ document, strict = .ok document → lenient = .ok document
  refuses : ∀ document error, lenient = .ok document → strict = .error error →
    ∃ reference, error = .unresolved reference ∧ Lacks profile reference
  fails : ∀ error, lenient = .error error → strict = .error error ∨
    ∃ reference, strict = .error (.unresolved reference) ∧ Lacks profile reference
  passes : ∀ reference, lenient = .error (.unresolved reference) →
    Answered provider profile (.unresolved reference)
  stored : provider.Stored → NeverUnresolved lenient

theorem Refuses.restricts {profile : Profile} {provider : Provider}
    {strict lenient : Except Error Json.Value}
    (refuses : Refuses (Lacks profile) (Answered provider profile) strict lenient) :
    Restricts profile provider strict lenient := by
  refine ⟨fun document success => ?_, fun document error success failed => ?_,
    fun error failed => ?_, fun reference failed => refuses.passes _ failed rfl,
    fun stored error failed => ?_⟩
  · rcases refuses.same with equal | ⟨reference, _, refused⟩
    · exact equal.symm.trans success
    · rw [refused] at success
      cases success
  · rcases refuses.same with equal | ⟨reference, lacks, refused⟩
    · rw [equal, success] at failed
      cases failed
    · rw [refused] at failed
      cases failed
      exact ⟨reference, rfl, lacks⟩
  · rcases refuses.same with equal | ⟨reference, lacks, refused⟩
    · exact Or.inl (equal.trans failed)
    · exact Or.inr ⟨reference, refused, lacks⟩
  · by_contra unresolved
    obtain ⟨id, _, answered⟩ := refuses.passes error failed (eq_true_of_ne_false unresolved)
    exact unresolved (neverUnresolved_of_stored stored id error answered)

/-- The strict policy restricts the lenient one, for the encoded parts of a profile and for the
document that the kernel gets, whatever was called before either of the compilations. -/
theorem strict_restricts_lenient (provider : Provider) (files : List RuleSetFile)
    (profile : Profile) :
    Restricts profile provider (compileBase ⟨provider, files, .strict⟩ profile)
        (compileBase ⟨provider, files, .lenient⟩ profile) ∧
      ∀ host : Host, host.runner.engine.Steady → ∀ history other,
        Restricts profile provider
          ((compile host ⟨provider, files, .strict⟩ profile).run.run history).1
          ((compile host ⟨provider, files, .lenient⟩ profile).run.run other).1 :=
  ⟨(refuses_compileBase provider files profile).restricts, fun _ steady history other =>
    (refuses_compile provider files profile steady history other).restricts⟩

/-- A host without plugins whose engine never answers. -/
def silentHost : Host where
  registry := .new [] []
  runner := ⟨.stateless fun _ => .hang, Script.defaultDeadline⟩

/-- A store with one subscription, whose list is in memory. -/
def listStore : SubscriptionStore Memory where
  storage := ({} : Memory).put "list.json" "[\x7b\"tag\": \"A\"\x7d]".toUTF8
  subscriptions := [{ id := "list", path := "./list.json" }]

theorem strict_restricts_lenient_overlapping :
    silentHost.runner.engine.Steady ∧
      compileBase { provider := twoProxies, policy := .strict } { outbounds := overlappingGroups } =
        .error (.unresolved ⟨.outbound, "gone"⟩) ∧
      Restricts { outbounds := overlappingGroups } twoProxies
        (compileBase { provider := twoProxies, policy := .strict }
          { outbounds := overlappingGroups })
        (compileBase { provider := twoProxies } { outbounds := overlappingGroups }) ∧
      Restricts { outbounds := overlappingGroups } twoProxies
        ((compile silentHost { provider := twoProxies, policy := .strict }
          { outbounds := overlappingGroups }).run.run []).1
        ((compile silentHost { provider := twoProxies }
          { outbounds := overlappingGroups }).run.run []).1 ∧
      listStore.provider.Stored ∧
      NeverUnresolved
        ((compile silentHost { provider := listStore.provider }
          { outbounds := overlappingGroups }).run.run []).1 := by
  have steady : silentHost.runner.engine.Steady := fun _ _ _ => rfl
  have stored : listStore.provider.Stored := ⟨Memory, inferInstance, listStore, rfl⟩
  obtain ⟨parts, whole⟩ := strict_restricts_lenient twoProxies [] { outbounds := overlappingGroups }
  have kept := (strict_restricts_lenient listStore.provider []
    { outbounds := overlappingGroups }).2 silentHost steady [] []
  exact ⟨steady, rfl, parts, whole silentHost steady [] [], stored, kept.stored stored⟩

/-- A provider that answers as if a reference led nowhere. -/
def refusingProvider : Provider where
  proxies _ := .error (.unresolved ⟨.outbound, "gone"⟩)
  tag? _ _ := none

/-- What a provider answers ends the compilation under the lenient policy too, with whatever
error it is. -/
theorem not_neverUnresolved_refusing :
    silentHost.runner.engine.Steady ∧
      ¬NeverUnresolved
        (compileBase { provider := refusingProvider, policy := .lenient }
          { outbounds := overlappingGroups }) ∧
      ¬NeverUnresolved
        ((compile silentHost { provider := refusingProvider, policy := .lenient }
          { outbounds := overlappingGroups }).run.run []).1 := by
  refine ⟨fun _ _ _ => rfl, fun never => ?_, fun never => ?_⟩
  · cases never (.unresolved ⟨.outbound, "gone"⟩) rfl
  · cases never (.unresolved ⟨.outbound, "gone"⟩) rfl

end Kernel

end ProxyProfile
