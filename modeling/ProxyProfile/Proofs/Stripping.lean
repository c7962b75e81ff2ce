/-
This file proves that what is dropped from a profile leaves no trace.

A disabled inbound, a rule for an inbound that is not there and, where no server
makes addresses up, a rule that only applies to such addresses could as well be
missing from the profile: the result is the same, be it a document or an error. Two
things carry this. References resolve alike without the disabled inbounds, because
different inbounds have different ids; and the encoder of a dropped rule gives up
before it looks at anything that could fail or be noted down. The compilation of
the stripped profile is then the one of the whole profile, part by part.
-/

import Mathlib.Data.List.Nodup
import ProxyProfile.Proofs.Comparison
import ProxyProfile.Proofs.Dangling

namespace ProxyProfile

/-! ### What is dropped -/

/-- Some enabled inbound has an id. -/
def Profile.opensInbound (profile : Profile) (id : String) : Bool :=
  profile.inbounds.any fun inbound => inbound.enabled && inbound.id = id

/-- A rule is for an inbound, and no enabled one has the id that its payload is when it is
trimmed. -/
def Rule.isStranded (profile : Profile) (rule : Rule) : Bool :=
  rule.kind = .inbound && !profile.opensInbound (Text.trim rule.payload)

/-- A rule is given as a text of options, and the text is an object with the mark of made-up
addresses. -/
def Rule.wantsFakeIp (rule : Rule) : Bool :=
  rule.kind = .inline &&
    match Json.parse? rule.payload with
    | some (.object members) => Json.Object.has members Kernel.fakeIpMark
    | _ => false

/-- A rule for names has no effect: it is for an inbound that is not there, or for made-up
addresses where no server makes them up. -/
def Rule.isIdle (profile : Profile) (rule : Rule) : Bool :=
  rule.isStranded profile || (!profile.dns.hasFakeIp && rule.wantsFakeIp)

/-- A profile without the parts that are dropped. -/
def Profile.stripped (profile : Profile) : Profile :=
  { profile with
    inbounds := profile.inbounds.filter Inbound.enabled
    route := { profile.route with
      rules := profile.route.rules.filter fun rule => !rule.isStranded profile }
    dns := { profile.dns with
      rules := profile.dns.rules.filter fun rule => !rule.isIdle profile } }

/-! ### Blank texts -/

namespace Json

theorem all_skipSpace {isKept : Char → Bool} {characters : List Char}
    (all : characters.all isKept) : (skipSpace characters).all isKept := by
  rw [List.all_eq_true] at all ⊢
  exact fun c among => all c ((List.dropWhile_sublist _).mem among)

/-- A number starts with a digit, and no digit is blank. -/
theorem readNumber?_of_blank {c : Char} (blank : Text.isBlank c) (negative : Bool)
    (rest : List Char) : readNumber? negative (c :: rest) = none := by
  have other : Decimal.isDigit c = false := by
    unfold Text.isBlank at blank
    unfold Decimal.isDigit
    simp only [Bool.or_eq_true, Bool.and_eq_true, decide_eq_true_eq, beq_iff_eq] at blank
    simp only [Bool.and_eq_false_iff, decide_eq_false_iff_not]
    omega
  unfold readNumber? spanNumber? Decimal.spanDigits
  rw [List.takeWhile_cons_of_neg (by simp [other])]
  rfl

/-- A blank text is no document. Some of the blank characters may not even stand between the
parts of one. -/
theorem parse?_of_isBlankText {text : String} (blank : Text.isBlankText text) :
    parse? text = none := by
  have nothing : ∀ fuel depth, readTree fuel depth text.toList = none := by
    intro fuel depth
    cases fuel with
    | zero => rfl
    | succ fuel =>
      have all := all_skipSpace blank
      unfold readTree
      generalize skipSpace text.toList = characters at all
      cases characters with
      | nil => rfl
      | cons c rest =>
        have first : Text.isBlank c := (Bool.and_eq_true_iff.mp all).1
        have other : ∀ d, Text.isBlank d = false → c ≠ d := by
          rintro d plain rfl
          rw [first] at plain
          cases plain
        split
        case h_1 => rfl
        case h_9 =>
          rename_i same
          rw [← same]
          exact readNumber?_of_blank first false rest
        -- Whatever else a value can begin with is a character that is not blank.
        all_goals
          rename_i same
          exact absurd (List.cons.inj same).1 (other _ (by decide))
  unfold parse? tree?
  simp only [nothing]
  rfl

end Json

namespace Kernel

/-! ### Comparing for equality -/

/-- Results are compared for equality. -/
def forEquality : Comparison where
  Alike first second := first = second
  Shared _ := True
  ok _ := rfl
  error _ _ := rfl
  bind same follow := by rw [same, funext follow]
  shared _ _ := trivial

/-- Parts that agree on everything are one. -/
theorem eq_of_agree {α : Type} {first second : Compile α}
    (agree : forEquality.Agree first second) : second = first :=
  funext fun noted => (agree noted).symm

/-! ### Inbounds -/

section Inbounds

variable {profile : Profile} (policy : Policy)

/-- If different inbounds have different ids, then a reference finds the enabled inbound that has
the id. -/
theorem inbound?_eq_some_iff (distinct : (profile.inbounds.map Inbound.id).Nodup)
    (id tag : String) :
    Scope.inbound? ⟨profile, policy⟩ id = some tag ↔
      ∃ inbound ∈ profile.inbounds, inbound.enabled ∧ inbound.id = id ∧ inbound.tag = tag := by
  unfold Scope.inbound?
  constructor
  · intro found
    split at found
    · rename_i inbound first
      split at found
      · rename_i enabled
        cases found
        exact ⟨inbound, List.mem_of_find?_eq_some first, enabled,
          by simpa using List.find?_some first, rfl⟩
      · cases found
    · cases found
  · rintro ⟨inbound, among, enabled, rfl, rfl⟩
    obtain ⟨other, first⟩ : ∃ other, (profile.inbounds.find? fun other =>
        other.id = inbound.id) = some other := by
      refine Option.isSome_iff_exists.mp (List.find?_isSome.mpr ⟨inbound, among, ?_⟩)
      simp
    have same : other = inbound := List.inj_on_of_nodup_map distinct
      (List.mem_of_find?_eq_some first) among (by simpa using List.find?_some first)
    simp only [first, same, enabled, if_true]

/-- A reference to an inbound leads to the same without the disabled ones. -/
theorem inbound?_stripped (distinct : (profile.inbounds.map Inbound.id).Nodup) (id : String) :
    Scope.inbound? ⟨profile.stripped, policy⟩ id = Scope.inbound? ⟨profile, policy⟩ id := by
  have fewer : (profile.stripped.inbounds.map Inbound.id).Nodup :=
    distinct.sublist (List.filter_sublist.map Inbound.id)
  refine Option.ext fun tag => ?_
  rw [inbound?_eq_some_iff policy fewer, inbound?_eq_some_iff policy distinct]
  constructor
  · rintro ⟨inbound, among, rest⟩
    exact ⟨inbound, (List.mem_filter.mp among).1, rest⟩
  · rintro ⟨inbound, among, enabled, rest⟩
    exact ⟨inbound, List.mem_filter.mpr ⟨among, enabled⟩, enabled, rest⟩

theorem inbound?_of_not_opensInbound (distinct : (profile.inbounds.map Inbound.id).Nodup)
    {id : String} (missing : profile.opensInbound id = false) :
    Scope.inbound? ⟨profile, policy⟩ id = none := by
  refine Option.eq_none_iff_forall_ne_some.mpr fun tag found => ?_
  obtain ⟨inbound, among, enabled, named, _⟩ :=
    (inbound?_eq_some_iff policy distinct id tag).mp found
  have opened : profile.opensInbound id = true :=
    List.any_eq_true.mpr ⟨inbound, among, by simp [enabled, named]⟩
  rw [missing] at opened
  cases opened

/-- Every reference of a profile resolves alike in the stripped one. -/
theorem corresponds_stripped (distinct : (profile.inbounds.map Inbound.id).Nodup) :
    Corresponds forEquality id ⟨profile, policy⟩ ⟨profile.stripped, policy⟩ := by
  refine ⟨fun _ _ => rfl, fun _ _ => rfl, fun _ _ => rfl, inbound?_stripped policy distinct,
    fun payload => ?_, fun text => ?_⟩
  · rw [Text.renameIds_id, List.map_id]
  · rw [Text.renameId_id, id]

theorem encodeInbounds_filter (inbounds : List Inbound) :
    encodeInbounds (inbounds.filter Inbound.enabled) = encodeInbounds inbounds := by
  unfold encodeInbounds
  rw [List.filter_filter]
  simp only [Bool.and_self]

end Inbounds

/-! ### Dropped rules -/

theorem encodeRules_cons (encode : Rule → Compile (Option Json.Object)) (rule : Rule)
    (rest : List Rule) :
    encodeRules encode (rule :: rest) = do
      let first ← encode rule
      let others ← encodeRules encode rest
      return (first.map Json.Value.object).toList ++ others := by
  unfold encodeRules
  rw [List.mapM_cons]
  simp only [bind_assoc, pure_bind]
  refine bind_congr fun first => bind_congr fun others => ?_
  cases first <;> rfl

/-- Rules that are encoded to nothing may as well be missing. -/
theorem encodeRules_filter {encode : Rule → Compile (Option Json.Object)} {keeps : Rule → Bool}
    (rules : List Rule) (drops : ∀ rule, keeps rule = false → encode rule = pure none) :
    encodeRules encode (rules.filter keeps) = encodeRules encode rules := by
  induction rules with
  | nil => rfl
  | cons rule rest inductionHypothesis =>
    rw [encodeRules_cons]
    cases kept : keeps rule with
    | true => rw [List.filter_cons_of_pos kept, encodeRules_cons, inductionHypothesis]
    | false =>
      rw [List.filter_cons_of_neg (Bool.eq_false_iff.mp kept), inductionHypothesis,
        drops rule kept, pure_bind]
      exact (bind_pure _).symm

section Rules

variable {profile : Profile} (policy : Policy)

/-- Nothing of a stranded rule but its payload is looked at. -/
theorem encodeMatch_stranded (distinct : (profile.inbounds.map Inbound.id).Nodup) {rule : Rule}
    (stranded : rule.isStranded profile) (written : Json.Object) :
    encodeMatch ⟨profile, policy⟩ rule written = pure none := by
  unfold Rule.isStranded at stranded
  simp only [Bool.and_eq_true, decide_eq_true_eq, Bool.not_eq_true'] at stranded
  unfold encodeMatch
  rw [stranded.1]
  simp only [inbound?_of_not_opensInbound policy distinct stranded.2]

/-- A marked rule is encoded as far as the mark. -/
theorem encodeMatch_wantsFakeIp (scope : Scope) {rule : Rule} (wants : rule.wantsFakeIp)
    (written : Json.Object) :
    ∃ matched : Json.Object, matched.has fakeIpMark ∧
      encodeMatch scope rule written = pure (some matched) := by
  unfold Rule.wantsFakeIp at wants
  rw [Bool.and_eq_true, decide_eq_true_eq] at wants
  obtain ⟨inline, marked⟩ := wants
  split at marked
  · rename_i members parsed
    refine ⟨Json.mergeInto written (.object members), ?_, ?_⟩
    · rw [Json.has_mergeInto _ _ (by decide)]
      exact Bool.or_eq_true_iff.mpr (Or.inr marked)
    · have given : ¬ Text.isBlankText rule.payload := by
        intro blank
        rw [Json.parse?_of_isBlankText blank] at parsed
        cases parsed
      unfold encodeMatch mergeText
      rw [inline]
      simp only [if_neg given, parsed, pure_bind]
  · cases marked

theorem encodeRouteRule_stranded (distinct : (profile.inbounds.map Inbound.id).Nodup)
    {rule : Rule} (stranded : rule.isStranded profile) :
    encodeRouteRule ⟨profile, policy⟩ rule = pure none := by
  unfold encodeRouteRule
  rw [encodeMatch_stranded policy distinct stranded, pure_bind]

/-- A rule for names that has no effect is encoded to nothing, whatever its action asks for. -/
theorem encodeDnsRule_idle (distinct : (profile.inbounds.map Inbound.id).Nodup) {rule : Rule}
    (idle : rule.isIdle profile) :
    encodeDnsRule ⟨profile, policy⟩ profile.dns.hasFakeIp rule = pure none := by
  unfold encodeDnsRule
  rcases Bool.or_eq_true_iff.mp idle with stranded | marked
  · rw [encodeMatch_stranded policy distinct stranded, pure_bind]
  · obtain ⟨without, wants⟩ := Bool.and_eq_true_iff.mp marked
    obtain ⟨matched, has, equal⟩ :=
      encodeMatch_wantsFakeIp ⟨profile, policy⟩ wants (startRule rule)
    have inline : rule.kind = .inline := by
      simpa using (Bool.and_eq_true_iff.mp wants).1
    rw [equal, pure_bind]
    simp only [inline, has, without, decide_true, Bool.and_self, if_true]

end Rules

/-! ### Compilation without what is dropped -/

section Parts

variable {profile : Profile} (environment : Environment)

theorem encodeRoute_stripped (distinct : (profile.inbounds.map Inbound.id).Nodup) :
    encodeRoute ⟨profile.stripped, environment.policy⟩ environment.ruleSetFiles
        profile.stripped.route =
      encodeRoute ⟨profile, environment.policy⟩ environment.ruleSetFiles profile.route := by
  have agree := agree_encodeRoute (corresponds_stripped environment.policy distinct)
    environment.ruleSetFiles profile.stripped.route
  rw [route_rename_id] at agree
  rw [eq_of_agree agree]
  unfold encodeRoute
  rw [show profile.stripped.route.rules =
    profile.route.rules.filter fun rule => !rule.isStranded profile from rfl,
    encodeRules_filter profile.route.rules fun rule dropped =>
      encodeRouteRule_stranded environment.policy distinct (by simpa using dropped)]
  rfl

theorem encodeDns_stripped (distinct : (profile.inbounds.map Inbound.id).Nodup) :
    encodeDns ⟨profile.stripped, environment.policy⟩ profile.stripped.dns =
      encodeDns ⟨profile, environment.policy⟩ profile.dns := by
  have agree := agree_encodeDns (corresponds_stripped environment.policy distinct)
    profile.stripped.dns
  rw [dns_rename_id] at agree
  rw [eq_of_agree agree]
  unfold encodeDns
  rw [show profile.stripped.dns.rules =
    profile.dns.rules.filter fun rule => !rule.isIdle profile from rfl,
    show profile.stripped.dns.hasFakeIp = profile.dns.hasFakeIp from rfl,
    encodeRules_filter profile.dns.rules fun rule dropped =>
      encodeDnsRule_idle environment.policy distinct (by simpa using dropped)]
  rfl

theorem encodeOutbounds_stripped (distinct : (profile.inbounds.map Inbound.id).Nodup) :
    encodeOutbounds ⟨profile.stripped, environment.policy⟩ environment.provider
        profile.outbounds =
      encodeOutbounds ⟨profile, environment.policy⟩ environment.provider profile.outbounds := by
  have agree := agree_encodeOutbounds (corresponds_stripped environment.policy distinct)
    environment.provider profile.outbounds fun _ _ _ _ => trivial
  rw [show Outbound.rename id = id from funext outbound_rename_id, List.map_id] at agree
  exact eq_of_agree agree

end Parts

/-- If different inbounds have different ids, then a profile compiles to the same document without
the parts that are dropped, or fails with the same error. -/
theorem compileBase_stripped (environment : Environment) (profile : Profile)
    (distinct : (profile.inbounds.map Inbound.id).Nodup) :
    compileBase environment profile.stripped = compileBase environment profile := by
  have experimental : encodeExperimental ⟨profile.stripped, environment.policy⟩
      profile.experimental =
        encodeExperimental ⟨profile, environment.policy⟩ profile.experimental :=
    eq_of_agree (agree_encodeExperimental (corresponds_stripped environment.policy distinct)
      profile.experimental)
  have parts : encodeParts environment profile.stripped = encodeParts environment profile := by
    unfold encodeParts
    rw [show profile.stripped.experimental = profile.experimental from rfl,
      show profile.stripped.outbounds = profile.outbounds from rfl,
      show profile.stripped.log = profile.log from rfl,
      show profile.stripped.inbounds = profile.inbounds.filter Inbound.enabled from rfl,
      encodeInbounds_filter]
    simp only [experimental, encodeOutbounds_stripped environment distinct,
      encodeRoute_stripped environment distinct, encodeDns_stripped environment distinct]
  unfold compileBase
  rw [parts]

/-- A profile with a disabled inbound, rules for inbounds that are not there and a rule for made-up
addresses that no server makes up; what these rules would do could not be encoded. -/
def crowdedProfile : Profile :=
  { referringProfile with
    route := { referringProfile.route with
      rules := [
        { kind := .inbound, payload := "tun-in", action := .routeOptions, outbound := "[" },
        { kind := .inbound, payload := "gone", outbound := "direct" },
        { kind := .inbound, payload := " mixed-in ", outbound := "auto" }] }
    dns := { referringProfile.dns with
      rules := [
        { kind := .inline, payload := "\x7b\"__is_fake_ip\":true\x7d", action := .predefined,
          server := "[" },
        { kind := .inbound, payload := "tun-in", server := "gone" },
        { kind := .ruleSet, payload := "geo", server := "local" }] } }

theorem compileBase_stripped_crowded :
    (crowdedProfile.inbounds.map Inbound.id).Nodup ∧
      crowdedProfile.stripped.inbounds.length = 1 ∧
      crowdedProfile.stripped.route.rules.length = 1 ∧
      crowdedProfile.stripped.dns.rules.length = 1 ∧
      (compileBase { provider := twoProxies } crowdedProfile).isOk ∧
      compileBase { provider := twoProxies } crowdedProfile.stripped =
        compileBase { provider := twoProxies } crowdedProfile := by
  have distinct : (crowdedProfile.inbounds.map Inbound.id).Nodup := by decide
  exact ⟨distinct, by decide +kernel, by decide +kernel, by decide +kernel, by decide +kernel,
    compileBase_stripped _ crowdedProfile distinct⟩

end Kernel

end ProxyProfile
