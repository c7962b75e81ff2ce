/-
This file forces what every document for the kernel has to have.

The kernel logs, to its own output and at a level that it knows, and its cache is
where the program looks for it. Everything else stays as it is. The scripts of
users have the last word on a document but for this.
-/

import ProxyProfile.Json.Value

namespace ProxyProfile.Kernel

/-- Where the kernel's cache is. -/
def cachePath : String := "cache.db"

/-- The levels of the kernel's log. -/
def logLevels : List String := ["trace", "debug", "info", "warn", "error"]

/-- The level of a log that asks for none the kernel knows. -/
def defaultLevel : String := "info"

/-- The object at a key, the empty object if there is none. -/
def objectAt (object : Json.Object) (key : String) : Json.Object :=
  ((object.get? key).bind Json.Value.object?).getD []

/-- Log settings that are switched on, go to the kernel's own output, and have a level that
it knows. -/
def enforceLog (log : Json.Object) : Json.Object :=
  let log := (log.insert "disabled" (.bool false)).insert "output" (.string "")
  let level := ((log.get? "level").bind Json.Value.text?).getD ""
  if logLevels.contains level then log else log.insert "level" (.string defaultLevel)

/-- Experimental settings whose cache is in its place. -/
def enforceCache (experimental : Json.Object) : Json.Object :=
  experimental.insert "cache_file"
    (.object ((objectAt experimental "cache_file").insert "path" (.string cachePath)))

/-- A document with what it has to have; one that is no object counts as an empty one. -/
def enforce (document : Json.Value) : Json.Value :=
  let root := document.object?.getD []
  let root := root.insert "log" (.object (enforceLog (objectAt root "log")))
  .object (root.insert "experimental" (.object (enforceCache (objectAt root "experimental"))))

end ProxyProfile.Kernel
