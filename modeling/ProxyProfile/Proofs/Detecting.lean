/-
This file proves that the formats of a subscription's body are told apart.

A body is tried as four formats in turn, so a text of one of them must be refused by those
before it. An object with the kernel's outbounds comes first and needs no argument. A text
in Base64 is never an object, neither in JSON nor in YAML, even where it is a number or a
name there. A bare array is none in JSON; it begins with a bracket, behind blanks, so it is
not in Base64, and the lexer of YAML makes a list of it at best.
-/

import ProxyProfile.Proofs.Encoding
import ProxyProfile.Subscription.Body

namespace ProxyProfile

namespace Subscription

/-! ### What holds no list -/

/-- Only objects hold a list at a key. -/
theorem bind_listAt?_of_bracket? {document : Option Json.Value} (key : String)
    (other : ∀ value, document = some value → value.bracket? ≠ some '\x7b') :
    document.bind (listAt? key) = none := by
  cases document with
  | none => rfl
  | some value =>
    cases value with
    | object => exact absurd rfl (other _ rfl)
    | _ => rfl

section Bodies

variable {text : String} {kind : SubscriptionKind} {proxies : List Json.Value}

/-! ### The kernel's outbounds -/

/-- An object with a list of outbounds is read as this list. -/
theorem parseBody_of_object {members : Json.Object}
    (read : Json.parse? text = some (.object members))
    (holds : members.get? "outbounds" = some (.array proxies)) :
    parseBody text kind = .ok proxies := by
  have found : kernelList? text = some proxies := by
    unfold kernelList? listAt? Json.Value.get?
    rw [read, Option.bind_some]
    show (members.get? "outbounds").bind Json.Value.items? = some proxies
    rw [holds]
    rfl
  unfold parseBody
  rw [found]

/-! ### Base64 -/

/-- A text in Base64 is kept whole. -/
theorem parseBody_of_isEncoding (lettered : Text.Base64.IsLettered text.toList)
    (encoded : Text.Base64.isEncoding text) :
    parseBody text kind = .ok [.object [("base64", .string text)]] := by
  have noObject : kernelList? text = none := by
    refine bind_listAt?_of_bracket? "outbounds" fun value read => ?_
    rw [Json.bracket?_of_isLettered lettered read]
    nofun
  have noTable : tableList? text = none := by
    refine bind_listAt?_of_bracket? "proxies" fun value read => ?_
    rw [Yaml.bracket?_of_isLettered lettered read]
    nofun
  unfold parseBody
  rw [noObject, noTable]
  exact if_pos encoded

/-! ### Bare lists -/

/-- The text of an array is not in Base64. -/
theorem isEncoding_of_array (read : Json.parse? text = some (.array proxies)) :
    Text.Base64.isEncoding text = false := by
  obtain ⟨more, begins⟩ := Json.begins_of_parse? read rfl
  cases characters : text.toList with
  | nil =>
    rw [characters] at begins
    cases begins
  | cons c rest =>
    -- The text begins with a blank or the bracket, and neither is a letter.
    refine Text.Base64.isEncoding_of_first ?_ characters
    rw [characters] at begins
    by_cases space : Json.isSpace c
    · unfold Json.isSpace at space
      simp only [Bool.or_eq_true, decide_eq_true_eq, or_assoc] at space
      rcases space with rfl | rfl | rfl | rfl <;> decide
    · rw [Json.skipSpace, List.dropWhile_cons_of_neg space] at begins
      cases begins
      decide

/-- A bare list is read where the user writes it by hand, and refused elsewhere. -/
theorem parseBody_of_array (read : Json.parse? text = some (.array proxies)) :
    parseBody text kind = if kind = .manual then .ok proxies else .error notSubscription := by
  have noObject : kernelList? text = none := by
    unfold kernelList?
    rw [read]
    rfl
  have noTable : tableList? text = none := by
    refine bind_listAt?_of_bracket? "proxies" fun value table => ?_
    obtain ⟨others, rfl⟩ := Yaml.parse?_array read table
    exact (by decide : some '[' ≠ some '\x7b')
  unfold parseBody
  rw [noObject, noTable, isEncoding_of_array read, read]
  rfl

end Bodies

/-! ### All formats -/

/-- The texts of a document in JSON: those that are written for it, and all others that are read as
the document. -/
inductive IsTextOf (document : Json.Value) : String → Prop
  | compact (storable : document.Storable) : IsTextOf document document.compact
  | pretty (storable : document.Storable) : IsTextOf document document.pretty
  | read {text : String} (read : Json.parse? text = some document) : IsTextOf document text

theorem IsTextOf.parse? {document : Json.Value} {text : String} (isText : IsTextOf document text) :
    Json.parse? text = some document := by
  cases isText with
  | compact storable => exact Json.parse?_compact document storable
  | pretty storable => exact Json.parse?_pretty document storable
  | read read => exact read

/-- Bodies of one kind of subscription are read for what they are. -/
structure TellsFormats (kind : SubscriptionKind) : Prop where
  /-- An object with a list of outbounds stands for the list, whatever else it holds. -/
  outbounds : ∀ (members : Json.Object) (proxies : List Json.Value) (text : String),
    members.get? "outbounds" = some (.array proxies) → IsTextOf (.object members) text →
      parseBody text kind = .ok proxies
  /-- The encoding of some bytes is kept whole. -/
  encoding : ∀ bytes : List UInt8, bytes ≠ [] →
    let text := String.ofList (Text.Base64.encode bytes)
    parseBody text kind = .ok [.object [("base64", .string text)]]
  /-- A bare list stands for itself, but only where the user writes it by hand. -/
  list : ∀ (proxies : List Json.Value) (text : String), IsTextOf (.array proxies) text →
    parseBody text kind = if kind = .manual then .ok proxies else .error notSubscription

/-- No format of a body is taken for another one. -/
theorem tellsFormats (kind : SubscriptionKind) : TellsFormats kind where
  outbounds _ _ _ holds isText := parseBody_of_object isText.parse? holds
  encoding bytes filled := by
    refine parseBody_of_isEncoding ?_ (Text.Base64.isEncoding_encode filled)
    rw [String.toList_ofList]
    exact Text.Base64.isLettered_encode filled
  list _ _ isText := parseBody_of_array isText.parse?

/-- An object that holds two lists. -/
def twofold : Json.Object :=
  [("proxies", .array []), ("outbounds", .array [.string "A"])]

/-- Texts that could be taken for something else: an object with a second list, an encoding that is
a name of JSON and of YAML, and a list that is none of either. -/
theorem tellsFormats_lookalikes :
    (Json.Value.object twofold).Storable ∧ (Json.Value.array []).Storable ∧
      Text.Base64.encode [0xB6, 0xBB, 0x9E] = "true".toList ∧
      parseBody (Json.Value.object twofold).compact .http = .ok [.string "A"] ∧
      parseBody "true" .http = .ok [.object [("base64", .string "true")]] ∧
      parseBody (Json.Value.array []).compact .http = .error notSubscription := by
  have storable : (Json.Value.object twofold).Storable := ⟨by decide, by decide⟩
  have bare : (Json.Value.array []).Storable := ⟨by decide, by decide⟩
  have formats := tellsFormats .http
  exact ⟨storable, bare, by decide, formats.outbounds twofold _ _ rfl (.compact storable),
    formats.encoding [0xB6, 0xBB, 0x9E] (List.cons_ne_nil _ _), formats.list [] _ (.compact bare)⟩

end Subscription

end ProxyProfile
