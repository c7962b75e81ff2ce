/-
This file encodes inbounds as the kernel takes them.

Only enabled inbounds are encoded. Their settings go to the kernel as they are,
behind type and tag, and the users become records; a user's password stands
behind the first colon.
-/

import ProxyProfile.Profile.Inbound
import ProxyProfile.Text.Blank

namespace ProxyProfile.Kernel

/-- A user as the kernel takes it. -/
def encodeUser (user : String) : Json.Value :=
  match Text.cutAt? [':'] user.toList with
  | some (name, password) =>
    .object [("username", .string (String.ofList name)),
      ("password", .string (String.ofList password))]
  | none => .object [("username", .string user)]

/-- An inbound as the kernel takes it. -/
def encodeInbound (inbound : Inbound) : Json.Value :=
  let start : Json.Object :=
    [("type", .string inbound.type.name), ("tag", .string inbound.tag)]
  if inbound.type = .tun then .object (start.insertAll (inbound.tun.getD []))
  else
    let listener := inbound.listener?.getD {}
    .object ((start.insertAll listener.listen).insert "users"
      (.array (listener.users.map encodeUser)))

/-- The enabled inbounds, in order. -/
def encodeInbounds (inbounds : List Inbound) : List Json.Value :=
  (inbounds.filter Inbound.enabled).map encodeInbound

end ProxyProfile.Kernel
