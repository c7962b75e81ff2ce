/-
This file encodes the name service part of a profile as the kernel takes it.

What a server needs depends on its type: an address and perhaps a port for the
servers that are asked over the network, a path too where the protocol has one,
an interface, ranges of addresses, or files and records of hosts.
-/

import ProxyProfile.Kernel.Rule

namespace ProxyProfile.Kernel

/-- Writes the address of a server. A blank port is left out. -/
def insertAddress (server : DnsServer) (written : Json.Object) : Except Error Json.Object := do
  let written := written.insert "server" (.string server.server)
  if Text.isBlankText server.serverPort then return written
  let port ← readPort ("server_port of dns server " ++ server.tag) server.serverPort
  return written.insert "server_port" port

/-- Writes what a server of its type needs. -/
def insertDetails (server : DnsServer) (written : Json.Object) : Except Error Json.Object :=
  match server.type with
  | .local => return written
  | .hosts => do
    let written := if server.hostsPath.isEmpty then written
      else written.insert "path" (.strings server.hostsPath)
    return if server.predefined.isEmpty then written
      else written.insert "predefined" (.object server.predefined)
  | .tcp => insertAddress server written
  | .udp => insertAddress server written
  | .tls => insertAddress server written
  | .quic => insertAddress server written
  | .https => do return insertText (← insertAddress server written) "path" server.path
  | .h3 => do return insertText (← insertAddress server written) "path" server.path
  | .dhcp => return insertText written "interface" server.interface
  | .fakeip =>
    return insertText (insertText written "inet4_range" server.inet4Range) "inet6_range"
      server.inet6Range

/-- A server as the kernel takes it. -/
def encodeServer (scope : Scope) (server : DnsServer) : Compile Json.Value := do
  let start : Json.Object :=
    [("tag", .string server.tag), ("type", .string server.type.name)]
  let detour ← scope.outbound server.detour
  let written := insertSome start "detour" (detour.map .string)
  let resolver ← scope.dnsServer server.domainResolver
  let written := insertSome written "domain_resolver" (resolver.map .string)
  return .object (← insertDetails server written)

/-- The name service part as the kernel takes it. -/
def encodeDns (scope : Scope) (dns : Dns) : Compile Json.Value := do
  let servers ← dns.servers.mapM (encodeServer scope)
  let rules ← encodeRules (encodeDnsRule scope dns.hasFakeIp) dns.rules
  let start : Json.Object := [
    ("servers", .array servers),
    ("rules", .array rules),
    ("disable_cache", .bool dns.disableCache),
    ("disable_expire", .bool dns.disableExpire),
    ("independent_cache", .bool dns.independentCache)]
  let final ← scope.dnsServer dns.finalServer
  let written := insertSome start "final" (final.map .string)
  let written := insertStrategy written dns.strategy
  return .object (insertText written "client_subnet" dns.clientSubnet)

end ProxyProfile.Kernel
