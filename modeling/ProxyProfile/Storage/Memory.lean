/-
This file keeps files in memory.

The files are a list of paths and contents, each path once and without dots and
slashes in front. There are no directories; every text is a path.
-/

import ProxyProfile.Storage.Basic

namespace ProxyProfile

/-- Files in memory. -/
structure Memory where
  files : List (String × ByteArray) := []

namespace Memory

/-- The content at a path, if there is a file. -/
def get? (memory : Memory) (path : String) : Option ByteArray :=
  memory.files.lookup (Storage.normalize path)

/-- The files without those at a key. -/
def without (files : List (String × ByteArray)) (key : String) : List (String × ByteArray) :=
  files.filter fun entry => entry.1 ≠ key

/-- Gives a file its content. -/
def put (memory : Memory) (path : String) (content : ByteArray) : Memory :=
  let key := Storage.normalize path
  ⟨(key, content) :: without memory.files key⟩

/-- Takes a file away. -/
def erase (memory : Memory) (path : String) : Memory :=
  ⟨without memory.files (Storage.normalize path)⟩

instance : Storage Memory where
  read memory path :=
    match memory.get? path with
    | some content => .ok content
    | none => .error (.notFound path)
  write memory path content := (.ok (), memory.put path content)
  has memory path := .ok (memory.get? path).isSome
  delete memory path :=
    if (memory.get? path).isSome then (.ok (), memory.erase path)
    else (.error (.notFound path), memory)

end Memory

end ProxyProfile
