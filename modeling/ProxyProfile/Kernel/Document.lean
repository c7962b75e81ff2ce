/-
This file compiles a profile into the document that the kernel takes.

The parts of the profile are encoded first. The document then passes the plugins,
is merged with the override of the profile, and passes the script of the profile;
at last it is given what every document has to have. Whatever fails ends the
whole, and nothing is written.
-/

import ProxyProfile.Json.Printer
import ProxyProfile.Kernel.Dns
import ProxyProfile.Kernel.Experimental
import ProxyProfile.Kernel.Inbounds
import ProxyProfile.Kernel.Mixin
import ProxyProfile.Kernel.Outbounds
import ProxyProfile.Kernel.Posture
import ProxyProfile.Kernel.Route
import ProxyProfile.Plugin.Host

namespace ProxyProfile.Kernel

/-- What a compilation needs besides the profile. -/
structure Environment where
  provider : Provider
  ruleSetFiles : List RuleSetFile := []
  policy : Policy := .lenient

/-! ### The parts -/

/-- The encoded parts of a profile; the synthetic outbounds that they mention come last among
the outbounds. -/
def encodeParts (environment : Environment) (profile : Profile) : Compile Json.Value := do
  let scope : Scope := ⟨profile, environment.policy⟩
  let experimental ← encodeExperimental scope profile.experimental
  let outbounds ← encodeOutbounds scope environment.provider profile.outbounds
  let route ← encodeRoute scope environment.ruleSetFiles profile.route
  let dns ← encodeDns scope profile.dns
  let mentioned ← get
  return .object [
    ("log", profile.log.toJson),
    ("experimental", experimental),
    ("inbounds", .array (encodeInbounds profile.inbounds)),
    ("outbounds", .array (outbounds ++ mentioned.map Synthetic.toJson)),
    ("route", route),
    ("dns", dns)]

/-- The document before plugins, override and script. -/
def compileBase (environment : Environment) (profile : Profile) : Except Error Json.Value :=
  (encodeParts environment profile).run' []

/-! ### The script -/

/-- The function that the script of a profile defines. -/
def scriptHandler : String := "onGenerate"

/-- The call of the script of a profile. -/
def scriptCall (profile : Profile) (document : Json.Value) : Script.Call :=
  { owner := profile.id
    name := profile.name
    code := profile.script.code
    handler := scriptHandler
    plugin := none
    arguments := [document] }

/-- Runs the script of a profile, unless it is blank. -/
def runScript (runner : Script.Runner) (profile : Profile) (document : Json.Value) :
    Run Json.Value :=
  if Text.isBlankText profile.script.code then return document
  else do
    let answer ← runner.ask (scriptCall profile document) .script
    if answer.isObject then return answer else throw .wrongResult

/-! ### The whole -/

/-- The document as the script leaves it. -/
def compileDraft (host : Host) (environment : Environment) (profile : Profile) :
    Run Json.Value := do
  let base ← (compileBase environment profile : Except Error _)
  let handed ← host.onGenerate base profile
  let merged ← (applyMixin profile.mixin handed : Except Error _)
  runScript host.runner profile merged

/-- The document for the kernel. -/
def compile (host : Host) (environment : Environment) (profile : Profile) :
    Run Json.Value := do
  return enforce (← compileDraft host environment profile)

/-- Compiles a profile into a file; gives the document, and the storage as it is
afterwards. -/
def compileFile {σ : Type} [Storage σ] (host : Host) (environment : Environment)
    (storage : σ) (path : String) (profile : Profile) :
    StateM (List Script.Call) (Except Error Json.Value × σ) := do
  match ← (compile host environment profile).run with
  | .error error => return (.error error, storage)
  | .ok document =>
    match Storage.writeText storage path document.pretty with
    | (.ok (), storage) => return (.ok document, storage)
    | (.error error, storage) => return (.error (.storage error), storage)

end ProxyProfile.Kernel
