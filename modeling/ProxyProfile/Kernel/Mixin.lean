/-
This file merges the override of a profile with the compiled document.

The override is YAML, of which JSON is a part. Whichever side the profile prefers
is merged over the other one. A blank override changes nothing.
-/

import ProxyProfile.Error
import ProxyProfile.Json.Merge
import ProxyProfile.Profile.Basic
import ProxyProfile.Yaml.Reader

namespace ProxyProfile.Kernel

/-- The document with a parsed override, by the side that wins. -/
def overlay (priority : Priority) (document override : Json.Value) : Json.Value :=
  match priority with
  | .mixin => document.merge override
  | .gui => override.merge document

/-- The document with its override. -/
def applyMixin (mixin : Mixin) (document : Json.Value) : Except Error Json.Value :=
  if Text.isBlankText mixin.config then .ok document
  else
    match Yaml.parse? mixin.config with
    | some override => .ok (overlay mixin.priority document override)
    | none => .error (.yaml "mixin")

end ProxyProfile.Kernel
