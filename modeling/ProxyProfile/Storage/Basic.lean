/-
This file says what the library asks of a place where files are kept.

Paths are texts with slashes between their parts. A slash or a dot with a slash
in front of a path means nothing, so every backend drops them before it looks a
path up; errors show the path as it was asked for. Operations give the storage
as it is afterwards, also when they fail.
-/

import ProxyProfile.Text.Blank

namespace ProxyProfile

/-- Why a file operation fails. -/
inductive StorageError
  | notFound (path : String)
  | invalidUtf8 (path : String)
  /-- The device refuses. -/
  | device
deriving DecidableEq

/-- The text of an error. -/
def StorageError.message : StorageError → String
  | notFound path => "File not found: " ++ path
  | invalidUtf8 path => "Invalid UTF-8 in " ++ path
  | device => "I/O error"

/-- A place where files are kept. -/
class Storage (σ : Type) where
  /-- The content of a file. -/
  read : σ → String → Except StorageError ByteArray
  /-- Gives a file its content, making the file if there is none. -/
  write : σ → String → ByteArray → Except StorageError Unit × σ
  /-- Whether there is a file. -/
  has : σ → String → Except StorageError Bool
  /-- Takes a file away. -/
  delete : σ → String → Except StorageError Unit × σ

namespace Storage

/-- The text of a file. -/
def readText {σ : Type} [Storage σ] (storage : σ) (path : String) :
    Except StorageError String := do
  match String.fromUTF8? (← read storage path) with
  | some text => .ok text
  | none => .error (.invalidUtf8 path)

/-- Gives a file its content as text. -/
def writeText {σ : Type} [Storage σ] (storage : σ) (path text : String) :
    Except StorageError Unit × σ :=
  write storage path text.toUTF8

/-! ### Paths -/

/-- Drops a dot with a slash in front, as often as it is there. -/
def dropDots : List Char → List Char
  | '.' :: '/' :: rest => dropDots rest
  | characters => characters

/-- A path without dots and slashes in front: first the dots with their slashes, then the
slashes. -/
def normalize (path : String) : String :=
  String.ofList ((dropDots path.toList).dropWhile (· = '/'))

end Storage

end ProxyProfile
