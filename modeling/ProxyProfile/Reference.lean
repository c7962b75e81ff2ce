/-
This file says what references are and what becomes of those that lead nowhere.

A reference is the id of a thing of some kind. Under the lenient policy one that
leads nowhere is left out, under the strict one it is an error.
-/

namespace ProxyProfile

/-- The kind of thing a reference leads to. -/
inductive ReferenceKind
  | inbound
  | outbound
  | dnsServer
  | ruleSet
deriving DecidableEq

/-- The name of a kind in error texts. -/
def ReferenceKind.name : ReferenceKind → String
  | inbound => "inbound"
  | outbound => "outbound"
  | dnsServer => "dns server"
  | ruleSet => "rule-set"

/-- A reference that leads nowhere. -/
structure Unresolved where
  kind : ReferenceKind
  id : String
deriving DecidableEq

/-- The text of the error. -/
def Unresolved.message (reference : Unresolved) : String :=
  "Unresolved " ++ reference.kind.name ++ " reference `" ++ reference.id ++ "`"

/-- What happens to references that lead nowhere. -/
inductive Policy
  /-- They are left out. -/
  | lenient
  /-- They are errors. -/
  | strict
deriving DecidableEq

namespace Policy

/-- The written name of a policy. -/
def name : Policy → String
  | lenient => "lenient"
  | strict => "strict"

/-- All policies. -/
def all : List Policy :=
  [lenient, strict]

/-- The policy with a name. -/
def ofName? (name : String) : Option Policy :=
  all.find? fun policy => policy.name = name

end Policy

end ProxyProfile
