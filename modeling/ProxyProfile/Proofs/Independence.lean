/-
This file proves that ids are only names.

The kernel never sees an id: what compiles under some ids compiles to the same
document under any others, and what fails, fails with the same error, in which at
most the id of a reference has its new name. A reference finds the same thing
under both names because different ids get different ones, and it is synthetic
under both or under none because the two ids that mean something are kept.
-/

import ProxyProfile.Proofs.Comparison
import ProxyProfile.Proofs.Expansion

namespace ProxyProfile

/-- An error with another name for the id in it, if it is about a reference. -/
def Error.rename (rename : String → String) : Error → Error
  | .unresolved reference => .unresolved { reference with id := rename reference.id }
  | error => error

theorem Error.rename_of_not_isUnresolved (rename : String → String) {error : Error}
    (other : error.isUnresolved = false) : error.rename rename = error := by
  cases error with
  | unresolved reference => cases other
  | _ => rfl

namespace Kernel

/-! ### The same results under other names -/

/-- The second result is the first one with other names, or both are an error of which the
compilation does not know the reasons. -/
def SameUpTo (rename : String → String) (Foreign : Error → Prop) {α : Type}
    (first second : Except Error α) : Prop :=
  second = first.mapError (Error.rename rename) ∨
    ∃ error, Foreign error ∧ first = .error error ∧ second = .error error

theorem SameUpTo.bind {rename : String → String} {Foreign : Error → Prop} {α β : Type}
    {first second : Except Error α} {next other : α → Except Error β}
    (same : SameUpTo rename Foreign first second)
    (follow : ∀ value, SameUpTo rename Foreign (next value) (other value)) :
    SameUpTo rename Foreign (first >>= next) (second >>= other) := by
  rcases same with rfl | ⟨error, foreign, rfl, rfl⟩
  · cases first with
    | error error => exact Or.inl rfl
    | ok value => exact follow value
  · exact Or.inr ⟨error, foreign, rfl, rfl⟩

/-- Results are compared up to the names in them. -/
def upToNames (rename : String → String) (Foreign : Error → Prop) : Comparison where
  Alike := SameUpTo rename Foreign
  Shared error := error.rename rename = error ∨ Foreign error
  ok _ := Or.inl rfl
  error error := by
    rintro (kept | foreign)
    · exact Or.inl (congrArg Except.error kept.symm)
    · exact Or.inr ⟨error, foreign, rfl, rfl⟩
  bind := SameUpTo.bind
  shared _ other := Or.inl (Error.rename_of_not_isUnresolved rename other)

/-! ### References under other names -/

section References

variable (names : Renaming)

/-- The first thing with an id is found under its new name. -/
theorem find?_renamed {Item : Type} (idOf : Item → String) (change : Item → Item)
    (named : ∀ item, idOf (change item) = names.name (idOf item)) (items : List Item)
    (id : String) :
    ((items.map change).find? fun item => idOf item = names.name id) =
      (items.find? fun item => idOf item = id).map change := by
  have same : (fun item => decide (idOf (change item) = names.name id)) =
      fun item => decide (idOf item = id) := by
    funext item
    rw [named, decide_eq_decide]
    exact names.injective.eq_iff
  rw [List.find?_map]
  exact congrArg (fun isWanted => (items.find? isWanted).map change) same

/-- What is found under a new name has the tag of what was found under the old one. -/
theorem findTag?_renamed {Item : Type} (idOf tagOf : Item → String) (change : Item → Item)
    (named : ∀ item, idOf (change item) = names.name (idOf item))
    (tagged : ∀ item, tagOf (change item) = tagOf item) (items : List Item) (id : String) :
    ((items.map change).find? fun item => idOf item = names.name id).map tagOf =
      (items.find? fun item => idOf item = id).map tagOf := by
  rw [find?_renamed names idOf change named, Option.map_map,
    show tagOf ∘ change = tagOf from funext tagged]

theorem ofId?_renamed (id : String) : Synthetic.ofId? (names.name id) = Synthetic.ofId? id := by
  unfold Synthetic.ofId?
  simp only [names.name_eq_iff names.direct, names.name_eq_iff names.block]

variable {Foreign : Error → Prop} (profile : Profile) (policy : Policy)

theorem agree_resolve (scope other : Scope) (policy : other.policy = scope.policy)
    (kind : ReferenceKind) (id : String) (found : Option String) :
    (upToNames names.name Foreign).Agree (scope.resolve kind id found)
      (other.resolve kind (names.name id) found) := by
  unfold Scope.resolve
  by_cases nothing : id = ""
  · rw [if_pos nothing, if_pos ((names.name_eq_iff names.empty id).mpr nothing)]
    exact agree_pure none
  · rw [if_neg nothing, if_neg fun empty => nothing ((names.name_eq_iff names.empty id).mp empty)]
    cases found with
    | some tag => exact agree_pure (some tag)
    | none =>
      simp only [Scope.miss, policy]
      cases scope.policy with
      | lenient => exact agree_pure none
      | strict => exact fun _ => Or.inl rfl

/-- In a renamed profile every reference leads under its new name where it led before. -/
theorem corresponds_renamed :
    Corresponds (upToNames names.name Foreign) names.name ⟨profile, policy⟩
      ⟨profile.rename names.name, policy⟩ := by
  have outboundTag : ∀ id,
      Scope.outboundTag? ⟨profile.rename names.name, policy⟩ (names.name id) =
        Scope.outboundTag? ⟨profile, policy⟩ id :=
    findTag?_renamed names Outbound.id Outbound.tag (Outbound.rename names.name) (fun _ => rfl)
      (fun _ => rfl) profile.outbounds
  have dnsServerTag : ∀ id,
      Scope.dnsServerTag? ⟨profile.rename names.name, policy⟩ (names.name id) =
        Scope.dnsServerTag? ⟨profile, policy⟩ id :=
    findTag?_renamed names DnsServer.id DnsServer.tag (DnsServer.rename names.name) (fun _ => rfl)
      (fun _ => rfl) profile.dns.servers
  have ruleSetTag : ∀ id,
      Scope.ruleSetTag? ⟨profile.rename names.name, policy⟩ (names.name id) =
        Scope.ruleSetTag? ⟨profile, policy⟩ id :=
    findTag?_renamed names RuleSet.id RuleSet.tag (RuleSet.rename names.name) (fun _ => rfl)
      (fun _ => rfl) profile.route.ruleSets
  refine ⟨fun id => ?_, fun id => ?_, fun id => ?_, fun id => ?_, names.ruleSetIds_renameIds,
    names.trim_renameId⟩
  · unfold Scope.outbound
    rw [outboundTag, ofId?_renamed]
    split
    · exact agree_bind (agree_mention _) fun _ => agree_pure _
    · exact agree_resolve names _ _ rfl .outbound id _
  · unfold Scope.dnsServer
    rw [dnsServerTag]
    exact agree_resolve names _ _ rfl .dnsServer id _
  · unfold Scope.ruleSet
    rw [ruleSetTag]
    exact agree_resolve names _ _ rfl .ruleSet id _
  · have found : ((profile.rename names.name).inbounds.find? fun inbound =>
        inbound.id = names.name id) =
          (profile.inbounds.find? fun inbound => inbound.id = id).map (Inbound.rename names.name) :=
      find?_renamed names Inbound.id _ (fun _ => rfl) profile.inbounds id
    unfold Scope.inbound?
    rw [found]
    cases profile.inbounds.find? fun inbound => inbound.id = id <;> rfl

end References

/-! ### Compilation under other names -/

/-- A profile compiles under other names to the same document, or fails with the same error up
to the name in it. The only other thing that can happen is that the provider fails by itself;
then its error is the answer on both sides, whatever it says. -/
theorem compileBase_rename (names : Renaming) (environment : Environment) (profile : Profile) :
    compileBase environment (profile.rename names.name) =
        (compileBase environment profile).mapError (Error.rename names.name) ∨
      ∃ error, (∃ id ∈ drawnFrom profile.outbounds,
          environment.provider.proxies id = .error error) ∧
        compileBase environment profile = .error error ∧
        compileBase environment (profile.rename names.name) = .error error := by
  exact alike_compileBase (corresponds_renamed names profile environment.policy) rfl rfl
    fun id drawn error failed => Or.inr ⟨id, drawn, failed⟩

theorem compileBase_rename_strokes :
    ∃ document,
      compileBase { provider := twoProxies } { outbounds := overlappingGroups } = .ok document ∧
      compileBase { provider := twoProxies }
        (Profile.rename Renaming.strokes.name { outbounds := overlappingGroups }) =
          .ok document := by
  refine ⟨_, rfl, ?_⟩
  rcases compileBase_rename Renaming.strokes { provider := twoProxies }
    { outbounds := overlappingGroups } with same | ⟨error, _, failed, _⟩
  · exact same
  · cases failed

end Kernel

end ProxyProfile
