/-
This file defines the name service part of a profile: its servers, its rules and
the settings of its cache.

A server is asked over one of six protocols, or it is a file of hosts, the
system's own service, what the network announces, or a pool of made-up addresses.
The port is kept as text; a number is taken for its text.
-/

import ProxyProfile.Json.Printer
import ProxyProfile.Profile.Rule

namespace ProxyProfile

/-! ### Servers -/

/-- The type of a name server. -/
inductive DnsServerType
  | local
  | hosts
  | tcp
  | udp
  | tls
  | quic
  | https
  | h3
  | dhcp
  /-- Answers with made-up addresses. -/
  | fakeip
deriving DecidableEq

namespace DnsServerType

/-- The kernel's name for a type. -/
def name : DnsServerType → String
  | .local => "local"
  | hosts => "hosts"
  | tcp => "tcp"
  | udp => "udp"
  | tls => "tls"
  | quic => "quic"
  | https => "https"
  | h3 => "h3"
  | dhcp => "dhcp"
  | fakeip => "fakeip"

/-- All types. -/
def all : List DnsServerType :=
  [.local, hosts, tcp, udp, tls, quic, https, h3, dhcp, fakeip]

/-- The type with a name. -/
def ofName? (name : String) : Option DnsServerType :=
  all.find? fun type => type.name = name

end DnsServerType

/-- A name server. -/
structure DnsServer where
  id : String := ""
  tag : String := ""
  type : DnsServerType := .local
  detour : String := ""
  domainResolver : String := ""
  server : String := ""
  serverPort : String := ""
  path : String := ""
  interface : String := ""
  inet4Range : String := ""
  inet6Range : String := ""
  hostsPath : List String := []
  predefined : Json.Object := []

namespace DnsServer

/-- The fields of a written server. -/
def schema : Tree.Schema :=
  [["id"], ["tag"], ["type"], ["detour"], ["domain_resolver"], ["server"], ["server_port"],
    ["path"], ["interface"], ["inet4_range"], ["inet6_range"], ["hosts_path"], ["predefined"]]

/-- A text, or any document for its compact text; nothing is the empty text. -/
def looseText? (tree : Tree) : Option String :=
  tree.value?.map fun value =>
    match value with
    | .null => ""
    | .string text => text
    | other => other.compact

/-- Reads a server. -/
def read? (tree : Tree) : Option DnsServer := do
  let fields ← tree.record? schema
  return {
    id := ← fields.text "id"
    tag := ← fields.text "tag"
    type := ← fields.choice "type" .local DnsServerType.ofName?
    detour := ← fields.text "detour"
    domainResolver := ← fields.text "domain_resolver"
    server := ← fields.text "server"
    serverPort := ← fields.get "server_port" "" looseText?
    path := ← fields.text "path"
    interface := ← fields.text "interface"
    inet4Range := ← fields.text "inet4_range"
    inet6Range := ← fields.text "inet6_range"
    hostsPath := ← fields.texts "hosts_path"
    predefined := ← fields.object "predefined" }

/-- A server as a document. -/
def toJson (server : DnsServer) : Json.Value :=
  .object [
    ("id", .string server.id),
    ("tag", .string server.tag),
    ("type", .string server.type.name),
    ("detour", .string server.detour),
    ("domain_resolver", .string server.domainResolver),
    ("server", .string server.server),
    ("server_port", .string server.serverPort),
    ("path", .string server.path),
    ("interface", .string server.interface),
    ("inet4_range", .string server.inet4Range),
    ("inet6_range", .string server.inet6Range),
    ("hosts_path", .strings server.hostsPath),
    ("predefined", .object server.predefined)]

end DnsServer

/-! ### The name service -/

/-- The name service part of a profile. -/
structure Dns where
  servers : List DnsServer := []
  rules : List Rule := []
  disableCache : Bool := false
  disableExpire : Bool := false
  independentCache : Bool := false
  clientSubnet : String := ""
  /-- The id of the server for what no rule matches. -/
  finalServer : String := ""
  strategy : Strategy := .default

namespace Dns

/-- The fields of a written name service part. -/
def schema : Tree.Schema :=
  [["servers"], ["rules"], ["disable_cache"], ["disable_expire"], ["independent_cache"],
    ["client_subnet"], ["final"], ["strategy"]]

/-- Reads a name service part. -/
def read? (tree : Tree) : Option Dns := do
  let fields ← tree.record? schema
  return {
    servers := ← fields.list "servers" DnsServer.read?
    rules := ← fields.list "rules" Rule.read?
    disableCache := ← fields.flag "disable_cache"
    disableExpire := ← fields.flag "disable_expire"
    independentCache := ← fields.flag "independent_cache"
    clientSubnet := ← fields.text "client_subnet"
    finalServer := ← fields.text "final"
    strategy := ← fields.choice "strategy" .default Strategy.ofName? }

/-- A name service part as a document. -/
def toJson (dns : Dns) : Json.Value :=
  .object [
    ("servers", .array (dns.servers.map DnsServer.toJson)),
    ("rules", .array (dns.rules.map Rule.toJson)),
    ("disable_cache", .bool dns.disableCache),
    ("disable_expire", .bool dns.disableExpire),
    ("independent_cache", .bool dns.independentCache),
    ("client_subnet", .string dns.clientSubnet),
    ("final", .string dns.finalServer),
    ("strategy", .string dns.strategy.name)]

/-- Whether a server makes addresses up. -/
def hasFakeIp (dns : Dns) : Bool :=
  dns.servers.any fun server => server.type = .fakeip

end Dns

end ProxyProfile
