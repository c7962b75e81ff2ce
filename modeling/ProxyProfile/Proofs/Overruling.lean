/-
This file proves how far the text of options has the last word on an encoded rule.

An encoder writes the action first, then what the rule matches, and merges the
options over both; what they have wins over every key that is there, at any depth.
One step comes behind the merge: a rule that is to apply where it does not match
gets the key `invert`, whatever the options have there. So the options win at every
path but those through this key, and they win there too unless the rule is inverted.
-/

import ProxyProfile.Proofs.Overlaying
import ProxyProfile.Proofs.Rereading
import ProxyProfile.Proofs.Stripping

namespace ProxyProfile.Kernel

/-! ### Encoding with options -/

/-- A rule is encoded with a text of options, as one for traffic or as one for names. -/
inductive EncodesWith (scope : Scope) (rule : Rule) (text : String) (encoded : Json.Object) : Prop
  | traffic {noted after : List Synthetic} (options : routeOptions? rule = some text)
    (run : (encodeRouteRule scope rule).run noted = .ok (some encoded, after))
  | names {hasFakeIp : Bool} {noted after : List Synthetic}
    (options : dnsOptions? rule = some text)
    (run : (encodeDnsRule scope hasFakeIp rule).run noted = .ok (some encoded, after))

theorem encodeRouteAction_of_options {rule : Rule} {text : String}
    (options : routeOptions? rule = some text) (scope : Scope) (written : Json.Object) :
    encodeRouteAction scope rule written = mergeText written text rule.id := by
  unfold routeOptions? at options
  split at options
  · rename_i action
    cases options
    unfold encodeRouteAction
    rw [action]
  · cases options

theorem encodeDnsAction_of_options {rule : Rule} {text : String}
    (options : dnsOptions? rule = some text) (scope : Scope) (written : Json.Object) :
    encodeDnsAction scope rule written = mergeText written text rule.id := by
  unfold dnsOptions? at options
  split at options
  · rename_i action
    cases options
    unfold encodeDnsAction
    rcases action with action | action <;> rw [action]
  · cases options

/-- Behind the options nothing is written but the mark of an inverted rule. -/
theorem exists_of_encodesWith {scope : Scope} {rule : Rule} {text : String} {encoded : Json.Object}
    (encodes : EncodesWith scope rule text encoded) : ∃ written,
      encoded = insertFlag (Json.mergeInto written (optionsOf text)) "invert" rule.invert := by
  cases encodes with
  | traffic options run =>
    obtain ⟨matched, between, _, run⟩ := run_bind_ok run
    cases matched with
    | none => cases run
    | some written =>
      obtain ⟨merged, _, acted, run⟩ := run_bind_ok run
      rw [encodeRouteAction_of_options options] at acted
      obtain ⟨_, rfl⟩ := settles_mergeText scope _ _ _ _ _ _ acted
      cases run
      exact ⟨written, rfl⟩
  | names options run =>
    obtain ⟨matched, between, _, run⟩ := run_bind_ok run
    cases matched with
    | none => cases run
    | some written =>
      dsimp only at run
      split at run
      · cases run
      · obtain ⟨merged, _, acted, run⟩ := run_bind_ok run
        rw [encodeDnsAction_of_options options] at acted
        obtain ⟨_, rfl⟩ := settles_mergeText scope _ _ _ _ _ _ acted
        cases run
        exact ⟨_, rfl⟩

/-! ### Paths of an encoded rule -/

theorem optionsOf_of_parse? {text : String} {options : Json.Value}
    (parsed : Json.parse? text = some options) : optionsOf text = options := by
  have filled : ¬Text.isBlankText text := by
    intro blank
    rw [Json.parse?_of_isBlankText blank] at parsed
    cases parsed
  unfold optionsOf
  rw [if_neg filled, parsed, Option.getD_some]

/-- A member that is written changes nothing behind other keys. -/
theorem at?_insertFlag (object : Json.Object) {key first : String} {flag : Bool}
    (apart : flag → first ≠ key) (rest : List String) :
    (Json.Value.object (insertFlag object key flag)).at? (first :: rest) =
      (Json.Value.object object).at? (first :: rest) := by
  have same : (insertFlag object key flag).get? first = object.get? first := by
    cases flag with
    | false => rfl
    | true => exact Json.Object.get?_insert_of_ne object _ (Ne.symm (apart rfl))
  show ((insertFlag object key flag).get? first).bind _ = (object.get? first).bind _
  rw [same]

/-- What some options have at the paths of a kind, an encoded rule has as well. An object of the
options need not be there as it is, for a merge goes into it. -/
def Overrules (Among : List String → Prop) (options encoded : Json.Value) : Prop :=
  ∀ path, Json.reservedKey ∉ path → Among path → ∀ value, options.at? path = some value →
    value.isObject = false → encoded.at? path = some value

/-- Options win at every path, but where an inverted rule is marked as such. -/
theorem overrules_of_encodesWith {scope : Scope} {rule : Rule} {text : String}
    {encoded options : Json.Object} (encodes : EncodesWith scope rule text encoded)
    (parsed : Json.parse? text = some (.object options)) :
    Overrules (fun path => rule.invert → path.head? ≠ some "invert") (.object options)
        (.object encoded) ∧
      (rule.invert → encoded.get? "invert" = some (.bool true)) := by
  obtain ⟨written, rfl⟩ := exists_of_encodesWith encodes
  rw [optionsOf_of_parse? parsed]
  constructor
  · intro path avoids apart value reached flat
    cases path with
    | nil =>
      cases reached
      cases flat
    | cons first rest =>
      rw [at?_insertFlag _ fun inverted same => apart inverted (congrArg some same)]
      exact (Json.mergedByPath_merge (.object written)
        (Json.hasDistinctKeys_of_parse? parsed)).flat _ avoids value reached flat
  · intro inverted
    unfold insertFlag
    rw [if_pos inverted]
    exact Json.Object.get?_insert_self _ _ _

/-- Options for a rule that say that it is not inverted, and what it matches. -/
def plainOptions : Json.Object :=
  [("invert", .bool false), ("domain", .string "b.example")]

/-- An inverted rule with these options. -/
def invertedRule : Rule :=
  { id := "r", kind := .domain, payload := "a.example", invert := true, action := .routeOptions,
    outbound := (Json.Value.object plainOptions).compact }

/-- The rule as it is encoded: it matches what the options say, and is inverted. -/
def invertedEncoded : Json.Object :=
  [("action", .string "route-options"), ("domain", .string "b.example"), ("invert", .bool true)]

theorem parse?_plainOptions :
    Json.parse? invertedRule.outbound = some (.object plainOptions) :=
  Json.parse?_compact _ ⟨by decide, by decide⟩

theorem encodesWith_invertedRule (scope : Scope) :
    EncodesWith scope invertedRule invertedRule.outbound invertedEncoded := by
  have filled : ¬Text.isBlankText invertedRule.outbound := by
    intro blank
    have parsed := parse?_plainOptions
    rw [Json.parse?_of_isBlankText blank] at parsed
    cases parsed
  have merged (written : Json.Object) : mergeText written invertedRule.outbound invertedRule.id =
      pure (Json.mergeInto written (.object plainOptions)) := by
    unfold mergeText
    rw [if_neg filled, parse?_plainOptions]
  have run : (encodeRouteRule scope invertedRule).run [] = .ok (some invertedEncoded, []) := by
    unfold encodeRouteRule
    simp only [encodeRouteAction_of_options (rfl : routeOptions? invertedRule = some _), merged]
    rfl
  exact .traffic rfl run

theorem overrules_invertedRule :
    EncodesWith ⟨{}, .lenient⟩ invertedRule invertedRule.outbound invertedEncoded ∧
      Json.parse? invertedRule.outbound = some (.object plainOptions) ∧
      Overrules (fun path => invertedRule.invert → path.head? ≠ some "invert")
        (.object plainOptions) (.object invertedEncoded) ∧
      (invertedRule.invert → invertedEncoded.get? "invert" = some (.bool true)) :=
  ⟨encodesWith_invertedRule _, parse?_plainOptions,
    overrules_of_encodesWith (encodesWith_invertedRule ⟨{}, .lenient⟩) parse?_plainOptions⟩

/-- Options do not win at all paths: an inverted rule stays inverted whatever they say. -/
theorem not_overrules_invertedRule :
    EncodesWith ⟨{}, .lenient⟩ invertedRule invertedRule.outbound invertedEncoded ∧
      Json.parse? invertedRule.outbound = some (.object plainOptions) ∧
      ¬Overrules (fun _ => True) (.object plainOptions) (.object invertedEncoded) := by
  refine ⟨encodesWith_invertedRule _, parse?_plainOptions, fun overrules => ?_⟩
  have same := overrules ["invert"] (by decide) trivial (.bool false) rfl rfl
  cases same

end ProxyProfile.Kernel
