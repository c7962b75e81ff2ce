/-
This file defines the inbounds of a profile, the places where traffic comes in.

Three types listen at an address, and each keeps its settings in a block of its
own, so that changing the type does not lose them; the fourth is a device. The
settings go to the kernel as they are.
-/

import ProxyProfile.Tree

namespace ProxyProfile

/-- The type of an inbound. -/
inductive InboundType
  | mixed
  | socks
  | http
  | tun
deriving DecidableEq

namespace InboundType

/-- The kernel's name for a type. -/
def name : InboundType → String
  | mixed => "mixed"
  | socks => "socks"
  | http => "http"
  | tun => "tun"

/-- All types. -/
def all : List InboundType :=
  [mixed, socks, http, tun]

/-- The type with a name. -/
def ofName? (name : String) : Option InboundType :=
  all.find? fun type => type.name = name

end InboundType

/-! ### Listening -/

/-- The settings of an inbound that listens at an address. -/
structure Listener where
  listen : Json.Object := []
  /-- Who may connect, each as a name and a password with a colon between them. -/
  users : List String := []

namespace Listener

/-- The fields of written settings. -/
def schema : Tree.Schema :=
  [["listen"], ["users"]]

/-- Reads settings. -/
def read? (tree : Tree) : Option Listener := do
  let fields ← tree.record? schema
  return { listen := ← fields.object "listen", users := ← fields.texts "users" }

/-- Settings as a document. -/
def toJson (listener : Listener) : Json.Value :=
  .object [("listen", .object listener.listen), ("users", .strings listener.users)]

end Listener

/-! ### Inbounds -/

/-- An inbound. -/
structure Inbound where
  id : String := ""
  type : InboundType := .mixed
  tag : String := ""
  enabled : Bool := true
  mixed : Option Listener := none
  socks : Option Listener := none
  http : Option Listener := none
  tun : Option Json.Object := none

namespace Inbound

/-- The fields of a written inbound. -/
def schema : Tree.Schema :=
  [["id"], ["type"], ["tag"], ["enabled", "enable"], ["mixed"], ["socks"], ["http"], ["tun"]]

/-- Reads an inbound. -/
def read? (tree : Tree) : Option Inbound := do
  let fields ← tree.record? schema
  return {
    id := ← fields.text "id"
    type := ← fields.choice "type" .mixed InboundType.ofName?
    tag := ← fields.text "tag"
    enabled := ← fields.get "enabled" true Tree.flag?
    mixed := ← fields.get "mixed" none (Tree.optional? Listener.read?)
    socks := ← fields.get "socks" none (Tree.optional? Listener.read?)
    http := ← fields.get "http" none (Tree.optional? Listener.read?)
    tun := ← fields.get "tun" none (Tree.optional? Tree.object?) }

/-- A member that is left out when there is nothing to say. -/
def optionalMember (name : String) (value : Option Json.Value) : List (String × Json.Value) :=
  match value with
  | none => []
  | some value => [(name, value)]

/-- An inbound as a document; blocks that it does not have are left out. -/
def toJson (inbound : Inbound) : Json.Value :=
  .object <|
    [("id", .string inbound.id),
      ("type", .string inbound.type.name),
      ("tag", .string inbound.tag),
      ("enabled", .bool inbound.enabled)] ++
    optionalMember "mixed" (inbound.mixed.map Listener.toJson) ++
    optionalMember "socks" (inbound.socks.map Listener.toJson) ++
    optionalMember "http" (inbound.http.map Listener.toJson) ++
    optionalMember "tun" (inbound.tun.map .object)

/-- The listening block that belongs to the type. -/
def listener? (inbound : Inbound) : Option Listener :=
  match inbound.type with
  | .mixed => inbound.mixed
  | .socks => inbound.socks
  | .http => inbound.http
  | .tun => none

end Inbound

end ProxyProfile
