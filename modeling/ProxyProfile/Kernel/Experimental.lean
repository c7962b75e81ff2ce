/-
This file encodes the experimental settings as the kernel takes them: as they
are, but for one reference.
-/

import ProxyProfile.Kernel.Rule

namespace ProxyProfile.Kernel

/-- The experimental settings as the kernel takes them. -/
def encodeExperimental (scope : Scope) (experimental : Experimental) : Compile Json.Value := do
  let detour ← scope.outbound experimental.clashApi.downloadDetour
  let api := insertSome experimental.clashApi.extra "external_ui_download_detour"
    (detour.map .string)
  return .object [
    ("clash_api", .object api),
    ("cache_file", .object experimental.cacheFile)]

end ProxyProfile.Kernel
