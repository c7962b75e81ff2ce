/-
This file says what the two encoders of rules give, in terms of the match alone.

A rule is encoded in three steps: the match is written, then what the action needs,
and last whether the rule is inverted. Where the action brings no text of options
along, the later steps write at keys of their own. So what stands at any other key
of an encoded rule was written by the match, the rule is encoded if the match is and
the reference of the action is not refused, and an error of the match is the error
of the rule. Here success is part of what is said: `Gives` promises a value, and
`Fails` an error, whatever was noted down before.
-/

import ProxyProfile.Proofs.Marking

namespace ProxyProfile.Kernel

/-! ### Parts that succeed and parts that fail -/

section Outcomes

variable {α β : Type}

/-- A part of the compilation always succeeds, and gives a value of which something holds. -/
def Gives (part : Compile α) (Holds : α → Prop) : Prop :=
  ∀ noted, ∃ value after, part.run noted = .ok (value, after) ∧ Holds value

/-- A part of the compilation always fails, with the same error. -/
def Fails (part : Compile α) (error : Error) : Prop :=
  ∀ noted, part.run noted = .error error

variable {Holds : α → Prop} {Follows : β → Prop}

theorem Gives.imp {part : Compile α} {Also : α → Prop} (gives : Gives part Holds)
    (follows : ∀ value, Holds value → Also value) : Gives part Also := by
  intro noted
  obtain ⟨value, after, success, holds⟩ := gives noted
  exact ⟨value, after, success, follows value holds⟩

/-- A part that always succeeds does not fail. -/
theorem Gives.not_fails {part : Compile α} {error : Error} (gives : Gives part Holds) :
    ¬ Fails part error := by
  intro fails
  obtain ⟨value, after, success, _⟩ := gives []
  exact nomatch success.symm.trans (fails [])

/-- What is known of the values of a part that succeeds holds of what it gives. -/
theorem Settles.gives {scope : Scope} {part : Compile α} {references : List String}
    (settles : Settles scope part references Holds)
    (succeeds : Gives part fun _ => True) : Gives part Holds := by
  intro noted
  obtain ⟨value, after, success, _⟩ := succeeds noted
  exact ⟨value, after, success, (settles noted value after success).2⟩

theorem gives_pure (value : α) (holds : Holds value) : Gives (pure value) Holds :=
  fun noted => ⟨value, noted, rfl, holds⟩

theorem gives_bind {part : Compile α} {next : α → Compile β} (first : Gives part Holds)
    (second : ∀ value, Holds value → Gives (next value) Follows) :
    Gives (part >>= next) Follows := by
  intro noted
  obtain ⟨value, between, success, holds⟩ := first noted
  obtain ⟨last, after, continued, follows⟩ := second value holds between
  refine ⟨last, after, ?_, follows⟩
  rw [StateT.run_bind, success]
  exact continued

theorem gives_lift {result : Except Error α} {value : α} (success : result = .ok value) :
    Gives (liftM result) (· = value) := by
  intro noted
  rw [success]
  exact ⟨value, noted, rfl, rfl⟩

/-- The parts of a list give the list of what each of them gives. -/
theorem gives_mapM {part : α → Compile β} {value : α → β} (items : List α)
    (each : ∀ item ∈ items, Gives (part item) (· = value item)) :
    Gives (items.mapM part) (· = items.map value) := by
  induction items with
  | nil => exact gives_pure [] rfl
  | cons item rest inductionHypothesis =>
    obtain ⟨head, others⟩ := List.forall_mem_cons.mp each
    rw [List.mapM_cons]
    refine gives_bind head fun first firstEqual => ?_
    refine gives_bind (inductionHypothesis others) fun later laterEqual => gives_pure _ ?_
    rw [firstEqual, laterEqual, List.map_cons]

theorem fails_first {part : Compile α} {error : Error} (fails : Fails part error)
    (next : α → Compile β) : Fails (part >>= next) error := by
  intro noted
  rw [StateT.run_bind, fails noted]
  rfl

theorem fails_second {part : Compile α} {next : α → Compile β} {error : Error}
    (first : Gives part Holds) (second : ∀ value, Holds value → Fails (next value) error) :
    Fails (part >>= next) error := by
  intro noted
  obtain ⟨value, between, success, holds⟩ := first noted
  rw [StateT.run_bind, success]
  exact second value holds between

theorem fails_lift {result : Except Error α} {error : Error} (failure : result = .error error) :
    Fails (liftM result) error := by
  intro noted
  rw [failure]
  rfl

/-- The parts of a list fail with the first one that fails. -/
theorem fails_mapM {part : α → Compile β} {error : Error} {front : List α} {bad : α}
    (before : ∀ item ∈ front, Gives (part item) fun _ => True) (fails : Fails (part bad) error)
    (back : List α) : Fails ((front ++ bad :: back).mapM part) error := by
  induction front with
  | nil =>
    rw [List.nil_append, List.mapM_cons]
    exact fails_first fails _
  | cons item rest inductionHypothesis =>
    obtain ⟨head, others⟩ := List.forall_mem_cons.mp before
    rw [List.cons_append, List.mapM_cons]
    exact fails_second head fun _ _ => fails_first (inductionHypothesis others) _

end Outcomes

/-! ### References -/

/-- A reference is not refused: the policy is lenient, the reference is not set, or it reaches
something. -/
def Scope.Grants (scope : Scope) (id : String) (reached : Option String) : Prop :=
  scope.policy = .lenient ∨ id = "" ∨ reached.isSome

section References

variable {scope : Scope}

theorem gives_resolve (kind : ReferenceKind) {id : String} {found : Option String}
    (granted : scope.Grants id found) :
    Gives (scope.resolve kind id found) (· = if id = "" then none else found) := by
  refine (settles_resolve scope kind id found).gives ?_
  unfold Scope.resolve
  by_cases unset : id = ""
  · rw [if_pos unset]
    exact gives_pure none trivial
  · rw [if_neg unset]
    cases found with
    | some tag => exact gives_pure (some tag) trivial
    | none =>
      have lenient : scope.policy = .lenient := by simpa [Scope.Grants, unset] using granted
      unfold Scope.miss
      rw [lenient]
      exact gives_pure none trivial

/-- A reference that is set reaches what is found for it. -/
theorem grants_of_reached {id : String} {found : Option String}
    (granted : scope.Grants id (if id = "" then none else found)) : scope.Grants id found := by
  by_cases unset : id = ""
  · exact Or.inr (Or.inl unset)
  · rwa [if_neg unset] at granted

theorem gives_ruleSet {id : String}
    (granted : scope.Grants id (scope.reachedRuleSet? id)) :
    Gives (scope.ruleSet id) (· = scope.reachedRuleSet? id) :=
  gives_resolve .ruleSet (grants_of_reached granted)

theorem gives_dnsServer {id : String}
    (granted : scope.Grants id (scope.reachedDnsServer? id)) :
    Gives (scope.dnsServer id) (· = scope.reachedDnsServer? id) :=
  gives_resolve .dnsServer (grants_of_reached granted)

theorem gives_outbound {id : String}
    (granted : scope.Grants id (scope.reachedOutbound? id)) :
    Gives (scope.outbound id) (· = scope.reachedOutbound? id) := by
  refine (settles_outbound scope id).gives ?_
  unfold Scope.reachedOutbound? at granted
  have reaches := grants_of_reached granted
  unfold Scope.outbound
  cases declared : scope.outboundTag? id with
  | some tag => exact (gives_resolve .outbound (Or.inr (Or.inr rfl))).imp fun _ _ => trivial
  | none =>
    cases named : Synthetic.ofId? id with
    | some synthetic => exact fun noted => ⟨_, _, rfl, trivial⟩
    | none =>
      rw [declared, named] at reaches
      exact (gives_resolve .outbound reaches).imp fun _ _ => trivial

/-- The strict policy refuses a rule-set that is not there. -/
theorem fails_ruleSet (strict : scope.policy = .strict) {id : String} (given : id ≠ "")
    (missing : scope.ruleSetTag? id = none) :
    Fails (scope.ruleSet id) (.unresolved ⟨.ruleSet, id⟩) := by
  intro noted
  unfold Scope.ruleSet Scope.resolve Scope.miss
  rw [if_neg given, missing, strict]
  rfl

end References

/-! ### The two encoders -/

/-- The encoder of rules for traffic, or the one of rules for names. -/
inductive RuleEncoder
  | traffic
  | names (hasFakeIp : Bool)

namespace RuleEncoder

def encode (encoder : RuleEncoder) (scope : Scope) (rule : Rule) : Compile (Option Json.Object) :=
  match encoder with
  | traffic => encodeRouteRule scope rule
  | names hasFakeIp => encodeDnsRule scope hasFakeIp rule

/-- Writes what the action of a rule needs. -/
def act (encoder : RuleEncoder) (scope : Scope) (rule : Rule) (written : Json.Object) :
    Compile Json.Object :=
  match encoder with
  | traffic => encodeRouteAction scope rule written
  | names _ => encodeDnsAction scope rule written

/-- The text of options that a rule merges in. -/
def options? (encoder : RuleEncoder) (rule : Rule) : Option String :=
  match encoder with
  | traffic => routeOptions? rule
  | names _ => dnsOptions? rule

/-- The keys that are written behind the match, a text of options apart. -/
def laterKeys (encoder : RuleEncoder) : List String :=
  match encoder with
  | traffic => ["invert", "outbound", "method", "sniffer", "strategy", "server"]
  | names _ => "invert" :: dnsActionKeys

/-- The reference that the action of a rule resolves, with the tag that it reaches. -/
def reference? (encoder : RuleEncoder) (scope : Scope) (rule : Rule) :
    Option (String × Option String) :=
  match encoder, rule.action with
  | traffic, .route => some (rule.outbound, scope.reachedOutbound? rule.outbound)
  | traffic, .resolve => some (rule.server, scope.reachedDnsServer? rule.server)
  | names _, .route => some (rule.server, scope.reachedDnsServer? rule.server)
  | _, _ => none

/-- The action of a rule merges nothing in. -/
def MergesNothing (encoder : RuleEncoder) (rule : Rule) : Prop :=
  ∀ text ∈ encoder.options? rule, Text.isBlankText text

/-- The reference that the action of a rule resolves is not set, or reaches something. -/
def Reaches (encoder : RuleEncoder) (scope : Scope) (rule : Rule) : Prop :=
  ∀ id reached, encoder.reference? scope rule = some (id, reached) → id = "" ∨ reached.isSome

/-- Behind a match a rule has what the match wrote, but for the keys that are written later. -/
def Extends (encoder : RuleEncoder) (matched encoded : Json.Object) : Prop :=
  ∀ key ∉ encoder.laterKeys, encoded.get? key = matched.get? key

variable {encoder : RuleEncoder} {scope : Scope} {rule : Rule}

theorem grants_of_reference (granted : scope.policy = .lenient ∨ encoder.Reaches scope rule)
    {id : String} {reached : Option String}
    (own : encoder.reference? scope rule = some (id, reached)) : scope.Grants id reached :=
  granted.imp_right fun reaches => reaches id reached own

theorem gives_mergeText {text : String} (blank : Text.isBlankText text) (written : Json.Object)
    (ruleId : String) : Gives (mergeText written text ruleId) (· = written) := by
  unfold mergeText
  rw [if_pos blank]
  exact gives_pure written rfl

theorem gives_encodeRouteAction (plain : traffic.MergesNothing rule)
    (granted : scope.policy = .lenient ∨ traffic.Reaches scope rule) (written : Json.Object) :
    Gives (encodeRouteAction scope rule written) (traffic.Extends written) := by
  unfold encodeRouteAction
  cases action : rule.action with
  | route =>
    have reaches : scope.Grants rule.outbound (scope.reachedOutbound? rule.outbound) :=
      grants_of_reference granted (by simp only [reference?, action])
    refine gives_bind (gives_outbound reaches) fun reached _ => gives_pure _ fun key other => ?_
    exact get?_insertSome_of_ne _ _ (ne_of_mem_of_not_mem (by decide) other)
  | routeOptions =>
    have blank := plain rule.outbound (by rw [options?, routeOptions?, if_pos action]; rfl)
    exact (gives_mergeText blank written rule.id).imp fun after equal key _ => by rw [equal]
  | reject =>
    simp only
    split
    · exact gives_pure _ fun key other =>
        Json.Object.get?_insert_of_ne _ _ (ne_of_mem_of_not_mem (by decide) other)
    · exact gives_pure _ fun _ _ => rfl
  | sniff =>
    simp only
    split
    · exact gives_pure _ fun _ _ => rfl
    · exact gives_pure _ fun key other =>
        Json.Object.get?_insert_of_ne _ _ (ne_of_mem_of_not_mem (by decide) other)
  | resolve =>
    have reaches : scope.Grants rule.server (scope.reachedDnsServer? rule.server) :=
      grants_of_reference granted (by simp only [reference?, action])
    refine gives_bind (gives_dnsServer reaches) fun reached _ => gives_pure _ fun key other => ?_
    rw [get?_insertSome_of_ne _ _ (ne_of_mem_of_not_mem (by decide) other),
      get?_insertStrategy_of_ne _ _ (ne_of_mem_of_not_mem (by decide) other)]
  | hijackDns => exact gives_pure _ fun _ _ => rfl
  | predefined => exact gives_pure _ fun _ _ => rfl

theorem gives_encodeDnsAction {hasFakeIp : Bool} (plain : (names hasFakeIp).MergesNothing rule)
    (granted : scope.policy = .lenient ∨ (names hasFakeIp).Reaches scope rule)
    (written : Json.Object) :
    Gives (encodeDnsAction scope rule written) ((names hasFakeIp).Extends written) := by
  have nothing : ∀ text ∈ dnsOptions? rule, Gives (mergeText written text rule.id)
      ((names hasFakeIp).Extends written) := fun text merged =>
    (gives_mergeText (plain text merged) written rule.id).imp fun after equal key _ => by rw [equal]
  unfold dnsOptions? at nothing
  unfold encodeDnsAction
  cases action : rule.action with
  | route =>
    have reaches : scope.Grants rule.server (scope.reachedDnsServer? rule.server) :=
      grants_of_reference granted (by simp only [reference?, action])
    refine gives_bind (gives_dnsServer reaches) fun reached _ => gives_pure _ ?_
    intro key (other : key ∉ "invert" :: dnsActionKeys)
    rw [get?_insertText_of_ne _ _ (ne_of_mem_of_not_mem (by decide) other),
      get?_insertFlag_of_ne _ _ (ne_of_mem_of_not_mem (by decide) other),
      get?_insertStrategy_of_ne _ _ (ne_of_mem_of_not_mem (by decide) other),
      get?_insertSome_of_ne _ _ (ne_of_mem_of_not_mem (by decide) other)]
  | routeOptions => exact nothing _ (by rw [if_pos (Or.inl action)]; rfl)
  | predefined => exact nothing _ (by rw [if_pos (Or.inr action)]; rfl)
  | reject => exact gives_pure _ fun key (other : key ∉ "invert" :: dnsActionKeys) =>
      get?_insertText_of_ne _ _ (ne_of_mem_of_not_mem (by decide) other)
  | hijackDns => exact gives_pure _ fun _ _ => rfl
  | sniff => exact gives_pure _ fun _ _ => rfl
  | resolve => exact gives_pure _ fun _ _ => rfl

/-- An action that merges nothing in and whose reference is not refused succeeds, and writes at
keys of its own. -/
theorem gives_act (plain : encoder.MergesNothing rule)
    (granted : scope.policy = .lenient ∨ encoder.Reaches scope rule) (written : Json.Object) :
    Gives (encoder.act scope rule written) (encoder.Extends written) := by
  cases encoder with
  | traffic => exact gives_encodeRouteAction plain granted written
  | names hasFakeIp => exact gives_encodeDnsAction plain granted written

/-! ### Rules -/

/-- A rule whose payload is no text of options is its match, what its action needs, and whether
it is inverted. -/
theorem encode_eq (encoder : RuleEncoder) (scope : Scope) (keyed : rule.kind ≠ .inline) :
    encoder.encode scope rule = (do
      match ← encodeMatch scope rule (startRule rule) with
      | none => return none
      | some matched =>
        return some (insertFlag (← encoder.act scope rule matched) "invert" rule.invert)) := by
  cases encoder with
  | traffic => rfl
  | names hasFakeIp =>
    unfold encode encodeDnsRule
    simp only [decide_eq_false keyed, Bool.false_and, Bool.false_eq_true, if_false]
    rfl

/-- What a match gives is encoded, if the action merges nothing in and its reference is not
refused. -/
theorem gives_encode {Holds : Json.Object → Prop} (keyed : rule.kind ≠ .inline)
    (plain : encoder.MergesNothing rule)
    (granted : scope.policy = .lenient ∨ encoder.Reaches scope rule)
    (matching : Gives (encodeMatch scope rule (startRule rule)) fun result =>
      ∃ matched, result = some matched ∧ Holds matched) :
    Gives (encoder.encode scope rule) fun result =>
      ∃ matched encoded, result = some encoded ∧ Holds matched ∧
        encoder.Extends matched encoded := by
  rw [encode_eq encoder scope keyed]
  refine gives_bind matching ?_
  rintro _ ⟨matched, rfl, holds⟩
  refine gives_bind (gives_act plain granted matched) fun after keeps => gives_pure _ ?_
  refine ⟨matched, _, rfl, holds, fun key other => ?_⟩
  have inverted : "invert" ∈ encoder.laterKeys := by cases encoder <;> exact List.mem_cons_self
  rw [get?_insertFlag_of_ne _ _ (ne_of_mem_of_not_mem inverted other), keeps key other]

/-- An error of the match is the error of the rule. -/
theorem fails_encode {error : Error} (keyed : rule.kind ≠ .inline)
    (fails : Fails (encodeMatch scope rule (startRule rule)) error) :
    Fails (encoder.encode scope rule) error := by
  rw [encode_eq encoder scope keyed]
  exact fails_first fails _

end RuleEncoder

end ProxyProfile.Kernel
