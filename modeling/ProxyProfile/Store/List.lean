/-
This file keeps lists of records in files.

Each list is one YAML file. A file that is not there is an empty list, and so is a
blank one.
-/

import ProxyProfile.Error
import ProxyProfile.Yaml.Reader
import ProxyProfile.Yaml.Writer

namespace ProxyProfile.Store

/-- Reads the text of a list. -/
def parseList? {α : Type} (read : Tree → Option α) (text : String) : Option (List α) :=
  if Text.isBlankText text then some []
  else (Yaml.tree? text).bind (Tree.listOf? read)

/-- Loads a list. -/
def loadList {σ α : Type} [Storage σ] (read : Tree → Option α) (storage : σ) (path : String) :
    Except Error (List α) :=
  match Storage.readText storage path with
  | .error (.notFound _) => .ok []
  | .error error => .error (.storage error)
  | .ok text =>
    match parseList? read text with
    | some items => .ok items
    | none => .error (.yaml path)

/-- Saves a list. -/
def saveList {σ α : Type} [Storage σ] (toJson : α → Json.Value) (storage : σ) (path : String)
    (items : List α) : Except StorageError Unit × σ :=
  Storage.writeText storage path (Yaml.write (items.map toJson))

end ProxyProfile.Store
