/-
This file resolves the references of a profile.

The first thing with the id of a reference is meant, and the kernel is told its
tag. The empty id refers to nothing. Two outbounds exist without being declared;
a reference to one of them is noted down, so that it can be added to the document
once, after everything that may refer to it. A declared outbound with the same id
goes first.
-/

import ProxyProfile.Error
import ProxyProfile.Profile.Basic

namespace ProxyProfile.Kernel

/-- An outbound that exists without being declared. -/
inductive Synthetic
  /-- Connects directly. -/
  | direct
  /-- Drops all traffic. -/
  | block
deriving DecidableEq

namespace Synthetic

/-- The id, the tag and the type of a synthetic outbound are one. -/
def tag : Synthetic → String
  | direct => "direct"
  | block => "block"

/-- The synthetic outbound with an id. -/
def ofId? (id : String) : Option Synthetic :=
  if id = "direct" then some direct
  else if id = "block" then some block
  else none

/-- A synthetic outbound as the kernel takes it. -/
def toJson (synthetic : Synthetic) : Json.Value :=
  .object [("type", .string synthetic.tag), ("tag", .string synthetic.tag)]

end Synthetic

/-- A part of the compilation: it may fail, and it notes the synthetic outbounds down in the
order of their first mention. -/
abbrev Compile (α : Type) := StateT (List Synthetic) (Except Error) α

/-- Notes a synthetic outbound down, once. -/
def mention (synthetic : Synthetic) : Compile Unit :=
  modify fun mentioned =>
    if mentioned.contains synthetic then mentioned else mentioned ++ [synthetic]

/-- What references are resolved in. -/
structure Scope where
  profile : Profile
  policy : Policy

namespace Scope

/-- The tag of the first declared outbound with an id. -/
def outboundTag? (scope : Scope) (id : String) : Option String :=
  (scope.profile.outbounds.find? fun outbound => outbound.id = id).map Outbound.tag

/-- The tag of the first name server with an id. -/
def dnsServerTag? (scope : Scope) (id : String) : Option String :=
  (scope.profile.dns.servers.find? fun server => server.id = id).map DnsServer.tag

/-- The tag of the first rule-set with an id. -/
def ruleSetTag? (scope : Scope) (id : String) : Option String :=
  (scope.profile.route.ruleSets.find? fun ruleSet => ruleSet.id = id).map RuleSet.tag

/-- The tag of an inbound, if the first one with the id is enabled. References to inbounds
that are not never fail: what refers to them is dropped. -/
def inbound? (scope : Scope) (id : String) : Option String :=
  match scope.profile.inbounds.find? fun inbound => inbound.id = id with
  | some inbound => if inbound.enabled then some inbound.tag else none
  | none => none

/-- What becomes of a reference that leads nowhere. -/
def miss (scope : Scope) (kind : ReferenceKind) (id : String) : Compile (Option String) :=
  match scope.policy with
  | .lenient => return none
  | .strict => throw (.unresolved ⟨kind, id⟩)

/-- The tag an id stands for, given the tag of the thing with that id. -/
def resolve (scope : Scope) (kind : ReferenceKind) (id : String) (found : Option String) :
    Compile (Option String) :=
  if id = "" then return none
  else
    match found with
    | some tag => return some tag
    | none => scope.miss kind id

/-- The tag of an outbound, declared or synthetic. -/
def outbound (scope : Scope) (id : String) : Compile (Option String) :=
  match scope.outboundTag? id, Synthetic.ofId? id with
  | none, some synthetic => do
    mention synthetic
    return some synthetic.tag
  | found, _ => scope.resolve .outbound id found

/-- The tag of a name server. -/
def dnsServer (scope : Scope) (id : String) : Compile (Option String) :=
  scope.resolve .dnsServer id (scope.dnsServerTag? id)

/-- The tag of a rule-set. -/
def ruleSet (scope : Scope) (id : String) : Compile (Option String) :=
  scope.resolve .ruleSet id (scope.ruleSetTag? id)

end Scope

end ProxyProfile.Kernel
