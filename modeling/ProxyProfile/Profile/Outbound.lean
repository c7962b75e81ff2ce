/-
This file defines the outbounds of a profile, the ways on which traffic leaves.

An outbound is either the direct way or a group. The members of a group are other
outbounds, whole subscriptions or single proxies of a subscription, and a
filter may thin out what the subscriptions give.
-/

import ProxyProfile.Tree

namespace ProxyProfile

/-- The type of an outbound. -/
inductive OutboundType
  | direct
  /-- A group out of which the user selects. -/
  | selector
  /-- A group out of which the fastest is taken. -/
  | urltest
deriving DecidableEq

namespace OutboundType

/-- The kernel's name for a type. -/
def name : OutboundType → String
  | direct => "direct"
  | selector => "selector"
  | urltest => "urltest"

/-- All types. -/
def all : List OutboundType :=
  [direct, selector, urltest]

/-- The type with a name. -/
def ofName? (name : String) : Option OutboundType :=
  all.find? fun type => type.name = name

/-- Whether outbounds of this type have members. -/
def isGroup (type : OutboundType) : Bool :=
  type = selector || type = urltest

end OutboundType

/-! ### Members -/

/-- Where the tags of a member come from. -/
inductive MemberSource
  /-- The outbound whose id is the member's. -/
  | builtIn
  /-- All proxies of the subscription whose id is the member's. -/
  | subscription
  /-- The proxy of a subscription whose id is the member's. -/
  | proxy (subscription : String)
deriving DecidableEq

/-- A member of a group. -/
structure Member where
  id : String := ""
  /-- `Built-in`, `Subscription`, or the id of the subscription a single proxy is from. -/
  kind : String := ""
  tag : String := ""

namespace Member

/-- Where a member's tags come from. -/
def source (member : Member) : MemberSource :=
  if member.kind = "Built-in" then .builtIn
  else if member.kind = "Subscription" then .subscription
  else .proxy member.kind

/-- The subscription a member draws from. -/
def subscription? (member : Member) : Option String :=
  match member.source with
  | .builtIn => none
  | .subscription => some member.id
  | .proxy subscription => some subscription

/-- The fields of a written member. -/
def schema : Tree.Schema :=
  [["id"], ["type"], ["tag"]]

/-- Reads a member. -/
def read? (tree : Tree) : Option Member := do
  let fields ← tree.record? schema
  return {
    id := ← fields.text "id"
    kind := ← fields.text "type"
    tag := ← fields.text "tag" }

/-- A member as a document. -/
def toJson (member : Member) : Json.Value :=
  .object [
    ("id", .string member.id),
    ("type", .string member.kind),
    ("tag", .string member.tag)]

end Member

/-! ### Outbounds -/

/-- An outbound. -/
structure Outbound where
  id : String := ""
  tag : String := ""
  type : OutboundType := .selector
  members : List Member := []
  url : String := ""
  interval : String := "3m"
  tolerance : Nat := 150
  interruptExistConnections : Bool := true
  /-- A pattern the tags drawn from subscriptions have to match. -/
  wanted : String := ""
  /-- A pattern the tags drawn from subscriptions must not match. -/
  unwanted : String := ""

namespace Outbound

/-- The fields of a written outbound. -/
def schema : Tree.Schema :=
  [["id"], ["tag"], ["type"], ["outbounds", "members"], ["url"], ["interval"], ["tolerance"],
    ["interrupt_exist_connections"], ["include"], ["exclude"]]

/-- Reads an outbound. -/
def read? (tree : Tree) : Option Outbound := do
  let fields ← tree.record? schema
  return {
    id := ← fields.text "id"
    tag := ← fields.text "tag"
    type := ← fields.choice "type" .selector OutboundType.ofName?
    members := ← fields.list "outbounds" Member.read?
    url := ← fields.text "url"
    interval := ← fields.get "interval" "3m" Tree.text?
    tolerance := ← fields.get "tolerance" 150 (Tree.natural? 32)
    interruptExistConnections := ← fields.get "interrupt_exist_connections" true Tree.flag?
    wanted := ← fields.text "include"
    unwanted := ← fields.text "exclude" }

/-- An outbound as a document. -/
def toJson (outbound : Outbound) : Json.Value :=
  .object [
    ("id", .string outbound.id),
    ("tag", .string outbound.tag),
    ("type", .string outbound.type.name),
    ("outbounds", .array (outbound.members.map Member.toJson)),
    ("url", .string outbound.url),
    ("interval", .string outbound.interval),
    ("tolerance", .natural outbound.tolerance),
    ("interrupt_exist_connections", .bool outbound.interruptExistConnections),
    ("include", .string outbound.wanted),
    ("exclude", .string outbound.unwanted)]

end Outbound

end ProxyProfile
