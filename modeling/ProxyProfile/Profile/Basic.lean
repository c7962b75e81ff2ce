/-
This file defines profiles.

A profile is what a user writes: inbounds, outbounds, rules and servers that name
each other by id, a document to be merged over the result, and a script that has
the last word. The kernel never sees an id; it knows everything by its tag.
-/

import ProxyProfile.Profile.Dns
import ProxyProfile.Profile.Inbound
import ProxyProfile.Profile.Outbound
import ProxyProfile.Profile.Route

namespace ProxyProfile

/-! ### Log -/

/-- The log settings of a profile. -/
structure Log where
  disabled : Bool := false
  level : String := "info"
  output : String := ""
  timestamp : Bool := false

namespace Log

/-- The fields of written log settings. -/
def schema : Tree.Schema :=
  [["disabled"], ["level"], ["output"], ["timestamp"]]

/-- Reads log settings. -/
def read? (tree : Tree) : Option Log := do
  let fields ← tree.record? schema
  return {
    disabled := ← fields.flag "disabled"
    level := ← fields.get "level" "info" Tree.text?
    output := ← fields.text "output"
    timestamp := ← fields.flag "timestamp" }

/-- Log settings as a document. -/
def toJson (log : Log) : Json.Value :=
  .object [
    ("disabled", .bool log.disabled),
    ("level", .string log.level),
    ("output", .string log.output),
    ("timestamp", .bool log.timestamp)]

end Log

/-! ### Experimental settings -/

/-- The control interface of the kernel. Only the detour is an id; the other settings go to
the kernel as they are. -/
structure ClashApi where
  downloadDetour : String := ""
  extra : Json.Object := []

namespace ClashApi

/-- The fields of a written control interface besides those that go to the kernel. -/
def schema : Tree.Schema :=
  [["external_ui_download_detour"]]

/-- Reads a control interface. -/
def read? (tree : Tree) : Option ClashApi := do
  let (fields, extra) ← tree.openRecord? schema
  return { downloadDetour := ← fields.text "external_ui_download_detour", extra }

/-- A control interface as a document. -/
def toJson (api : ClashApi) : Json.Value :=
  .object (("external_ui_download_detour", .string api.downloadDetour) :: api.extra)

end ClashApi

/-- The experimental settings of a profile. -/
structure Experimental where
  clashApi : ClashApi := {}
  cacheFile : Json.Object := []

namespace Experimental

/-- The fields of written experimental settings. -/
def schema : Tree.Schema :=
  [["clash_api"], ["cache_file"]]

/-- Reads experimental settings. -/
def read? (tree : Tree) : Option Experimental := do
  let fields ← tree.record? schema
  return {
    clashApi := ← fields.get "clash_api" {} ClashApi.read?
    cacheFile := ← fields.object "cache_file" }

/-- Experimental settings as a document. -/
def toJson (experimental : Experimental) : Json.Value :=
  .object [
    ("clash_api", experimental.clashApi.toJson),
    ("cache_file", .object experimental.cacheFile)]

end Experimental

/-! ### Overrides -/

/-- Which side wins where the override and the compiled document differ. -/
inductive Priority
  | mixin
  | gui
deriving DecidableEq

namespace Priority

/-- The written name of a priority. -/
def name : Priority → String
  | mixin => "mixin"
  | gui => "gui"

/-- All priorities. -/
def all : List Priority :=
  [mixin, gui]

/-- The priority with a name. -/
def ofName? (name : String) : Option Priority :=
  all.find? fun priority => priority.name = name

end Priority

/-- The text of the empty object. -/
def emptyObjectText : String :=
  (Json.Value.object []).compact

/-- A document that is merged with the compiled one. -/
structure Mixin where
  priority : Priority := .mixin
  /-- The document, as YAML or JSON text. -/
  config : String := emptyObjectText

namespace Mixin

/-- The fields of a written override. -/
def schema : Tree.Schema :=
  [["priority"], ["config"]]

/-- Reads an override. -/
def read? (tree : Tree) : Option Mixin := do
  let fields ← tree.record? schema
  return {
    priority := ← fields.choice "priority" .mixin Priority.ofName?
    config := ← fields.get "config" emptyObjectText Tree.text? }

/-- An override as a document. -/
def toJson (mixin : Mixin) : Json.Value :=
  .object [("priority", .string mixin.priority.name), ("config", .string mixin.config)]

end Mixin

/-- The script of a profile. -/
structure ProfileScript where
  code : String := ""

namespace ProfileScript

/-- The fields of a written script. -/
def schema : Tree.Schema :=
  [["code"]]

/-- Reads a script. -/
def read? (tree : Tree) : Option ProfileScript := do
  let fields ← tree.record? schema
  return { code := ← fields.text "code" }

/-- A script as a document. -/
def toJson (script : ProfileScript) : Json.Value :=
  .object [("code", .string script.code)]

end ProfileScript

/-! ### Profiles -/

/-- A profile. -/
structure Profile where
  id : String := ""
  name : String := ""
  log : Log := {}
  experimental : Experimental := {}
  inbounds : List Inbound := []
  outbounds : List Outbound := []
  route : Route := {}
  dns : Dns := {}
  mixin : Mixin := {}
  script : ProfileScript := {}

namespace Profile

/-- The fields of a written profile. -/
def schema : Tree.Schema :=
  [["id"], ["name"], ["log"], ["experimental"], ["inbounds"], ["outbounds"], ["route"], ["dns"],
    ["mixin"], ["script"]]

/-- Reads a profile. -/
def read? (tree : Tree) : Option Profile := do
  let fields ← tree.record? schema
  return {
    id := ← fields.text "id"
    name := ← fields.text "name"
    log := ← fields.get "log" {} Log.read?
    experimental := ← fields.get "experimental" {} Experimental.read?
    inbounds := ← fields.list "inbounds" Inbound.read?
    outbounds := ← fields.list "outbounds" Outbound.read?
    route := ← fields.get "route" {} Route.read?
    dns := ← fields.get "dns" {} Dns.read?
    mixin := ← fields.get "mixin" {} Mixin.read?
    script := ← fields.get "script" {} ProfileScript.read? }

/-- A profile as a document. -/
def toJson (profile : Profile) : Json.Value :=
  .object [
    ("id", .string profile.id),
    ("name", .string profile.name),
    ("log", profile.log.toJson),
    ("experimental", profile.experimental.toJson),
    ("inbounds", .array (profile.inbounds.map Inbound.toJson)),
    ("outbounds", .array (profile.outbounds.map Outbound.toJson)),
    ("route", profile.route.toJson),
    ("dns", profile.dns.toJson),
    ("mixin", profile.mixin.toJson),
    ("script", profile.script.toJson)]

end Profile

end ProxyProfile
