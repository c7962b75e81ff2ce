/-
This file merges one document over another.

Objects merge key by key and at every depth; anything else in the source takes
the place of what the target had. A target that is no object counts as an empty
one, and a source that is no object changes nothing. Keys keep their places and
new ones come last, in the source's order. The one key that is never merged is
`__proto__`, which means something else to the programs that wrote the documents.
-/

import ProxyProfile.Json.Value

namespace ProxyProfile.Json

/-- The key that a merge passes over. -/
def reservedKey : String := "__proto__"

mutual

/-- Merges an object's members into an object. -/
def mergeMembers (target : Object) : List (String × Value) → Object
  | [] => target
  | (key, value) :: rest =>
    mergeMembers
      (if key = reservedKey then target
        else target.insert key (mergeUnder ((target.get? key).getD .null) value))
      rest

/-- What stands at a key after a merge: an object of the source is merged into what stood
there, anything else replaces it. -/
def mergeUnder (old : Value) : Value → Value
  | .object members => .object (mergeMembers (old.object?.getD []) members)
  | .null => .null
  | .bool flag => .bool flag
  | .number number => .number number
  | .string text => .string text
  | .array items => .array items

end

/-- Merges a document into an object. -/
def mergeInto (target : Object) (source : Value) : Object :=
  mergeMembers target (source.object?.getD [])

/-- Merges `source` over `target`. -/
def Value.merge (target source : Value) : Value :=
  .object (mergeInto (target.object?.getD []) source)

end ProxyProfile.Json
