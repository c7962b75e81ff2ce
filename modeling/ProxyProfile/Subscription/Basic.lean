/-
This file defines subscriptions and rule-set files as they are written down.

A subscription is a source of proxies. Its proxies are kept in a file of their
own, and the subscription holds an index of them: an id that stays the same as
long as the tag does, so that groups may pick single proxies.
-/

import ProxyProfile.Tree

namespace ProxyProfile

/-- Where the body of a subscription comes from. -/
inductive SubscriptionKind
  | http
  | file
  /-- The user writes it. -/
  | manual
deriving DecidableEq

namespace SubscriptionKind

/-- The written name of a kind. -/
def name : SubscriptionKind → String
  | http => "Http"
  | file => "File"
  | manual => "Manual"

/-- All kinds. -/
def all : List SubscriptionKind :=
  [http, file, manual]

/-- The kind with a name. -/
def ofName? (name : String) : Option SubscriptionKind :=
  all.find? fun kind => kind.name = name

end SubscriptionKind

/-! ### The index -/

/-- An entry of the index of a subscription. -/
structure ProxyIndex where
  id : String := ""
  tag : String := ""
  type : String := ""
deriving DecidableEq

namespace ProxyIndex

/-- The fields of a written entry. -/
def schema : Tree.Schema :=
  [["id"], ["tag"], ["type"]]

/-- Reads an entry. -/
def read? (tree : Tree) : Option ProxyIndex := do
  let fields ← tree.record? schema
  return {
    id := ← fields.text "id"
    tag := ← fields.text "tag"
    type := ← fields.text "type" }

/-- An entry as a document. -/
def toJson (entry : ProxyIndex) : Json.Value :=
  .object [
    ("id", .string entry.id),
    ("tag", .string entry.tag),
    ("type", .string entry.type)]

end ProxyIndex

/-! ### Subscriptions -/

/-- A subscription. -/
structure Subscription where
  id : String := ""
  name : String := ""
  kind : SubscriptionKind := .http
  url : String := ""
  /-- The file with the list of proxies. -/
  path : String := ""
  /-- A pattern that tags have to match. -/
  wanted : String := ""
  /-- A pattern that tags must not match. -/
  unwanted : String := ""
  /-- A pattern that types have to match. -/
  wantedProtocol : String := ""
  /-- A pattern that types must not match. -/
  unwantedProtocol : String := ""
  /-- What tags have to begin with. -/
  proxyPrefix : String := ""
  /-- Code that has the last word on every update. -/
  script : String := ""
  disabled : Bool := false
  proxies : List ProxyIndex := []
deriving DecidableEq

namespace Subscription

/-- The fields of a written subscription. -/
def schema : Tree.Schema :=
  [["id"], ["name"], ["type"], ["url"], ["path"], ["include"], ["exclude"], ["includeProtocol"],
    ["excludeProtocol"], ["proxyPrefix"], ["script"], ["disabled"], ["proxies"]]

/-- Reads a subscription. -/
def read? (tree : Tree) : Option Subscription := do
  let fields ← tree.record? schema
  return {
    id := ← fields.text "id"
    name := ← fields.text "name"
    kind := ← fields.choice "type" .http SubscriptionKind.ofName?
    url := ← fields.text "url"
    path := ← fields.text "path"
    wanted := ← fields.text "include"
    unwanted := ← fields.text "exclude"
    wantedProtocol := ← fields.text "includeProtocol"
    unwantedProtocol := ← fields.text "excludeProtocol"
    proxyPrefix := ← fields.text "proxyPrefix"
    script := ← fields.text "script"
    disabled := ← fields.flag "disabled"
    proxies := ← fields.list "proxies" ProxyIndex.read? }

/-- A subscription as a document. -/
def toJson (subscription : Subscription) : Json.Value :=
  .object [
    ("id", .string subscription.id),
    ("name", .string subscription.name),
    ("type", .string subscription.kind.name),
    ("url", .string subscription.url),
    ("path", .string subscription.path),
    ("include", .string subscription.wanted),
    ("exclude", .string subscription.unwanted),
    ("includeProtocol", .string subscription.wantedProtocol),
    ("excludeProtocol", .string subscription.unwantedProtocol),
    ("proxyPrefix", .string subscription.proxyPrefix),
    ("script", .string subscription.script),
    ("disabled", .bool subscription.disabled),
    ("proxies", .array (subscription.proxies.map ProxyIndex.toJson))]

/-- The tag of the first entry with an id. -/
def tagOf? (subscription : Subscription) (id : String) : Option String :=
  (subscription.proxies.find? fun entry => entry.id = id).map ProxyIndex.tag

/-- The id of the first entry with a tag. -/
def idOf? (subscription : Subscription) (tag : String) : Option String :=
  (subscription.proxies.find? fun entry => entry.tag = tag).map ProxyIndex.id

end Subscription

/-! ### Rule-set files -/

/-- A file with the rules of a rule-set. -/
structure RuleSetFile where
  id : String := ""
  name : String := ""
  path : String := ""
  format : String := ""

namespace RuleSetFile

/-- The fields of a written entry. -/
def schema : Tree.Schema :=
  [["id"], ["name"], ["path"], ["format"]]

/-- Reads an entry. -/
def read? (tree : Tree) : Option RuleSetFile := do
  let fields ← tree.record? schema
  return {
    id := ← fields.text "id"
    name := ← fields.text "name"
    path := ← fields.text "path"
    format := ← fields.text "format" }

/-- An entry as a document. -/
def toJson (file : RuleSetFile) : Json.Value :=
  .object [
    ("id", .string file.id),
    ("name", .string file.name),
    ("path", .string file.path),
    ("format", .string file.format)]

end RuleSetFile

end ProxyProfile
