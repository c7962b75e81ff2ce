/-
This file proves where the mark of made-up addresses ends up.

A rule for names can say in the text of its payload that it only applies where
addresses are made up. The kernel knows no such key, so the encoder takes it out
again. What stays is followed through the three steps of a rule: the match may
write the key, the mark of the payload is taken out, and the action may bring the
key back. So in a written rule the key comes from the name of a type that nobody
knows, or from a text of options that is merged behind the mark, and from no
payload.
-/

import ProxyProfile.Proofs.Dangling

namespace ProxyProfile

namespace Json.Object

theorem has_erase_self (object : Object) (key : String) : (object.erase key).has key = false := by
  induction object with
  | nil => rfl
  | cons entry rest inductionHypothesis =>
    unfold erase at inductionHypothesis ⊢
    by_cases dropped : entry.1 = key
    · rw [List.filter_cons_of_neg (by simp [dropped])]
      exact inductionHypothesis
    · rw [List.filter_cons_of_pos (by simp [dropped])]
      unfold has get?
      rw [if_neg dropped]
      exact inductionHypothesis

theorem has_congr {first second : Object} {key : String}
    (same : first.get? key = second.get? key) : first.has key = second.has key :=
  congrArg Option.isSome same

end Json.Object

namespace Kernel

/-! ### The match -/

/-- A match that is not a text of options writes one member, named after its type. Only a
rule-set that leads nowhere writes none. -/
theorem settles_encodeMatch_insert (scope : Scope) {rule : Rule} (plain : rule.kind ≠ .inline)
    (start : Json.Object) :
    Settles scope (encodeMatch scope rule start) [] fun result => ∀ matched ∈ result,
      (rule.kind = .ruleSet ∧ matched = start) ∨
        ∃ value, matched = start.insert rule.kind.name value := by
  have inserts : ∀ value, ∀ matched ∈ some (start.insert rule.kind.name value),
      (rule.kind = .ruleSet ∧ matched = start) ∨
        ∃ value, matched = start.insert rule.kind.name value := by
    rintro value matched ⟨⟩
    exact Or.inr ⟨value, rfl⟩
  unfold encodeMatch
  cases kind : rule.kind with
  | inline => exact absurd kind plain
  | ruleSet =>
    rw [kind] at inserts
    refine settles_before (settles_encodeRuleSets scope rule.payload) fun value _ => ?_
    cases value with
    | none =>
      refine settles_pure _ ?_
      rintro matched ⟨⟩
      exact Or.inl ⟨rfl, rfl⟩
    | some value => exact settles_pure _ (inserts value)
  | inbound =>
    rw [kind] at inserts
    simp only
    split
    · exact settles_pure _ (inserts _)
    · exact settles_pure _ nofun
  | _ =>
    rw [kind] at inserts
    simp only
    split
    · exact settles_pure _ (inserts _)
    · split
      · exact settles_pure _ (inserts _)
      · split
        · exact settles_before (settles_lift _) fun ports _ => settles_pure _ (inserts _)
        · exact settles_pure _ (inserts _)

/-- A match has the key of the mark if its payload brings the mark along or its type has this
name. -/
theorem settles_encodeMatch_mark (scope : Scope) (rule : Rule) :
    Settles scope (encodeMatch scope rule (startRule rule)) [] fun result =>
      ∀ matched ∈ result,
        (rule.kind = .inline && matched.has fakeIpMark) = isMarked rule ∧
        matched.has fakeIpMark = (isMarked rule || rule.kind.name = fakeIpMark) := by
  have unstarted : (startRule rule).has fakeIpMark = false := rfl
  have matchWritten := settles_encodeMatch scope rule (startRule rule)
  by_cases inline : rule.kind = .inline
  · refine matchWritten.imp fun result left => ?_
    rintro matched ⟨⟩
    have marked := has_fakeIpMark left.2
    refine ⟨marked, ?_⟩
    rw [← marked, inline]
    simp [RuleKind.name, fakeIpMark]
  · refine (matchWritten.and (settles_encodeMatch_insert scope inline _)).imp fun result both => ?_
    rintro matched ⟨⟩
    refine ⟨has_fakeIpMark both.1.2, ?_⟩
    have unmarked : isMarked rule = false := by
      unfold isMarked
      rw [decide_eq_false inline, Bool.false_and]
    rw [unmarked, Bool.false_or]
    rcases both.2 matched rfl with ⟨ruleSet, rfl⟩ | ⟨value, rfl⟩
    · rw [unstarted, ruleSet]
      rfl
    · rw [Json.Object.has_insert, unstarted, Bool.false_or]

/-! ### The action -/

/-- The keys that the action of a rule for names writes by itself. -/
def dnsActionKeys : List String :=
  ["server", "strategy", "disable_cache", "client_subnet", "method"]

/-- Behind the action, a key that actions do not write is there if it was there before or a text
of options has it. -/
theorem settles_encodeDnsAction_has (scope : Scope) (rule : Rule) (written : Json.Object)
    (key : String) (other : key ∉ dnsActionKeys) (merged : key ≠ Json.reservedKey) :
    Settles scope (encodeDnsAction scope rule written) [] fun after =>
      after.has key ↔ written.has key ∨ Sets (dnsOptions? rule) key := by
  have none_set : ∀ after : Json.Object, after.get? key = written.get? key →
      (after.has key ↔ written.has key ∨ Sets none key) := by
    intro after same
    rw [Json.Object.has_congr same, or_iff_left nofun]
  have some_set : (Json.mergeInto written (optionsOf rule.server)).has key ↔
      written.has key ∨ Sets (some rule.server) key := by
    rw [Json.has_mergeInto _ _ merged, Bool.or_eq_true]
    simp [Sets]
  unfold encodeDnsAction dnsOptions?
  cases rule.action with
  | route =>
    refine settles_before (settles_dnsServer scope rule.server) fun reached _ => ?_
    refine settles_pure _ (none_set _ ?_)
    rw [get?_insertText_of_ne _ _ (ne_of_mem_of_not_mem (by decide) other),
      get?_insertFlag_of_ne _ _ (ne_of_mem_of_not_mem (by decide) other),
      get?_insertStrategy_of_ne _ _ (ne_of_mem_of_not_mem (by decide) other),
      get?_insertSome_of_ne _ _ (ne_of_mem_of_not_mem (by decide) other)]
  | routeOptions =>
    refine (settles_mergeText scope written rule.server rule.id).imp fun after equal => ?_
    rw [equal]
    exact some_set
  | predefined =>
    refine (settles_mergeText scope written rule.server rule.id).imp fun after equal => ?_
    rw [equal]
    exact some_set
  | reject =>
    refine settles_pure _ (none_set _ ?_)
    exact get?_insertText_of_ne _ _ (ne_of_mem_of_not_mem (by decide) other)
  | sniff => exact settles_pure _ (none_set _ rfl)
  | resolve => exact settles_pure _ (none_set _ rfl)
  | hijackDns => exact settles_pure _ (none_set _ rfl)

/-! ### Rules -/

/-- An entry for a rule has the key of the mark only if it is the name of the rule's type or a
text of options has it, and surely in the first case. -/
structure MarkWritten (rule : Rule) (entry : Json.Value) : Prop where
  object : ∃ written, entry = .object written
  marked : (entry.get? fakeIpMark).isSome →
    rule.kind.name = fakeIpMark ∨ Sets (dnsOptions? rule) fakeIpMark
  named : rule.kind.name = fakeIpMark → (entry.get? fakeIpMark).isSome

/-- Once the mark of its payload is taken out, a match has the key exactly if it is the name of
the type. -/
theorem has_unmarked {rule : Rule} {matched : Json.Object}
    (mark : matched.has fakeIpMark = (isMarked rule || rule.kind.name = fakeIpMark)) :
    (if isMarked rule then matched.erase fakeIpMark else matched).has fakeIpMark =
      decide (rule.kind.name = fakeIpMark) := by
  cases marked : isMarked rule with
  | false =>
    rw [marked, Bool.false_or] at mark
    exact mark
  | true =>
    have inline : rule.kind = .inline := by
      unfold isMarked at marked
      exact of_decide_eq_true (Bool.and_eq_true_iff.mp marked).1
    rw [if_pos rfl, Json.Object.has_erase_self, inline]
    rfl

theorem settles_encodeDnsRule_mark (scope : Scope) (hasFakeIp : Bool) (rule : Rule) :
    Settles scope (encodeDnsRule scope hasFakeIp rule) [] fun result =>
      ∀ written ∈ result, MarkWritten rule (.object written) := by
  unfold encodeDnsRule
  refine settles_before (settles_encodeMatch_mark scope rule) fun result mark => ?_
  cases result with
  | none => exact settles_pure none nofun
  | some matched =>
    obtain ⟨stripped, carried⟩ := mark matched rfl
    simp only [stripped]
    split
    · exact settles_pure none nofun
    · have bare := has_unmarked carried
      generalize (if isMarked rule then matched.erase fakeIpMark else matched) = unmarked at bare
      refine settles_before (settles_encodeDnsAction_has scope rule unmarked fakeIpMark
        (by decide) (by decide)) fun after acted => settles_pure _ ?_
      rintro written ⟨⟩
      have kept : (insertFlag after "invert" rule.invert).has fakeIpMark = after.has fakeIpMark :=
        Json.Object.has_congr (get?_insertFlag_of_ne after _ (by decide))
      rw [bare, decide_eq_true_iff] at acted
      refine ⟨⟨_, rfl⟩, fun has => acted.mp ?_, fun named => ?_⟩
      · exact kept.symm.trans has
      · exact kept.trans (acted.mpr (Or.inl named))

/-! ### The name service part -/

/-- Under either policy the entries of the name service part stand for the rules that are not
dropped, and no mark of a payload is among their keys. -/
theorem encodeDns_marks (profile : Profile) (policy : Policy) (noted after : List Synthetic)
    (document : Json.Value)
    (success : (encodeDns ⟨profile, policy⟩ profile.dns).run noted = .ok (document, after)) :
    List.Forall₂ MarkWritten
      (profile.dns.rules.filter (keepsDnsRule ⟨profile, policy⟩ profile.dns.hasFakeIp))
      (document.itemsAt ["rules"]) := by
  have each : ∀ rule, Settles ⟨profile, policy⟩
      (encodeDnsRule ⟨profile, policy⟩ profile.dns.hasFakeIp rule) []
      (Leaves (keepsDnsRule ⟨profile, policy⟩ profile.dns.hasFakeIp rule) fun written =>
        MarkWritten rule (.object written)) := by
    intro rule
    refine ((settles_encodeDnsRule _ _ rule).and (settles_encodeDnsRule_mark _ _ rule)).imp ?_
    rintro (_ | written) ⟨left, marks⟩
    · exact left
    · exact ⟨left.1, marks written rfl⟩
  exact (settles_encodeDns_of _ profile.dns each noted document after success).2.2.1

/-- A profile with a server that makes addresses up, with a marked rule, and with rules whose type
or whose text of options has the key of the mark. -/
def markingProfile : Profile where
  dns := {
    servers := [
      { id := "local", tag := "Local" },
      { id := "made-up", tag := "Made up", type := .fakeip, inet4Range := "198.18.0.0/15" }]
    rules := [
      { kind := .inline, payload := "\x7b\"__is_fake_ip\":true,\"query_type\":[\"A\"]\x7d",
        server := "made-up" },
      { kind := .inbound, payload := "gone", server := "local" },
      { kind := .other "__is_fake_ip", payload := "yes", server := "local" },
      { kind := .domain, payload := "a.example", action := .routeOptions,
        server := "\x7b\"__is_fake_ip\":true\x7d" }] }

/-- What the rules of this profile are written as. The inbound of the second is not there. -/
def markingTexts : List String := [
  "\x7b\"action\":\"route\",\"query_type\":[\"A\"],\"server\":\"Made up\"\x7d",
  "\x7b\"action\":\"route\",\"__is_fake_ip\":\"yes\",\"server\":\"Local\"\x7d",
  "\x7b\"action\":\"route-options\",\"domain\":\"a.example\",\"__is_fake_ip\":true\x7d"]

/-- The texts of the rules in what a run of a part gives. -/
def ruleTexts (result : Except Error (Json.Value × List Synthetic)) : List String :=
  result.toOption.elim [] fun written => (written.1.itemsAt ["rules"]).map Json.Value.compact

theorem encodeDns_marks_marking :
    ∃ document after,
      (encodeDns ⟨markingProfile, .strict⟩ markingProfile.dns).run [] = .ok (document, after) ∧
      ruleTexts (.ok (document, after)) = markingTexts ∧
      List.Forall₂ MarkWritten
        (markingProfile.dns.rules.filter
          (keepsDnsRule ⟨markingProfile, .strict⟩ markingProfile.dns.hasFakeIp))
        (document.itemsAt ["rules"]) := by
  have texts : ruleTexts ((encodeDns ⟨markingProfile, .strict⟩ markingProfile.dns).run []) =
      markingTexts := by
    decide +kernel
  cases success : (encodeDns ⟨markingProfile, .strict⟩ markingProfile.dns).run [] with
  | error error =>
    rw [success] at texts
    cases texts
  | ok written =>
    rw [success] at texts
    exact ⟨written.1, written.2, rfl, texts,
      encodeDns_marks markingProfile .strict [] written.2 written.1 success⟩

/-- No entry for a rule has the key of the mark. -/
def Unmarked (document : Json.Value) : Prop :=
  ∀ entry ∈ document.itemsAt ["rules"], entry.get? fakeIpMark = none

/-- A profile with a rule of a type that nobody knows, which has the name of the mark. -/
def mislabeledProfile : Profile where
  dns := { rules := [{ kind := .other "__is_fake_ip", payload := "yes" }] }

/-- The name of a type is written as it is. -/
theorem not_unmarked_mislabeled :
    ∃ document,
      (encodeDns ⟨mislabeledProfile, .strict⟩ mislabeledProfile.dns).run [] = .ok (document, []) ∧
      ¬ Unmarked document :=
  ⟨_, rfl, fun unmarked => nomatch unmarked _ List.mem_cons_self⟩

end Kernel

end ProxyProfile
