/-
This file keeps files below a directory of a disk.

A disk knows directories and files by the names along their way from the root. A
path is walked name by name: a dot stays, two dots go up, and every name but the
last has to be a directory. Writing makes the directories that are missing. A
device refuses to read or to replace a directory, to go through a file, and to
use names that are too long or hold the character zero.
-/

import ProxyProfile.Storage.Basic

namespace ProxyProfile

/-! ### Disks -/

/-- The names along the way from the root. -/
abbrev Location := List String

/-- Directories and files; the root is always a directory. -/
structure Disk where
  directories : List Location := []
  files : List (Location × ByteArray) := []

namespace Disk

/-- Whether there is a directory at a location. -/
def isDirectory (disk : Disk) (location : Location) : Bool :=
  location.isEmpty || disk.directories.contains location

/-- The content of the file at a location. -/
def content? (disk : Disk) (location : Location) : Option ByteArray :=
  disk.files.lookup location

/-- Gives a file its content. -/
def put (disk : Disk) (location : Location) (content : ByteArray) : Disk :=
  { disk with
    files := (location, content) :: disk.files.filter fun entry => entry.1 ≠ location }

/-- Takes a file away. -/
def erase (disk : Disk) (location : Location) : Disk :=
  { disk with files := disk.files.filter fun entry => entry.1 ≠ location }

/-! ### Walking -/

/-- A path as the disk takes it. -/
structure Way where
  /-- The names between the slashes, without empty ones. -/
  names : List String
  /-- Only a directory will do, because a slash or a dot stands last. -/
  isForDirectory : Bool

/-- The way a path describes. -/
def Way.ofPath (path : String) : Way :=
  let pieces := Text.split '/' path
  { names := pieces.filter (· ≠ "")
    isForDirectory := (pieces.getLast?.any fun last => last = "" || last = "." || last = "..") }

/-- A name that a disk can hold. -/
def isName (name : String) : Bool :=
  name.utf8ByteSize ≤ 255 && !name.toList.contains (Char.ofNat 0)

/-- What stands at the end of a way. -/
inductive Place
  | directory (location : Location)
  | file (location : Location)
  /-- Nothing, but the directory around it is there. -/
  | free (location : Location)
  /-- Nothing, and no directory around it. -/
  | missing
  /-- The device refuses to go there. -/
  | refused
deriving DecidableEq

/-- Follows names from a directory. -/
def walk (disk : Disk) (isForDirectory : Bool) : Location → List String → Place
  | here, [] => .directory here
  | here, name :: rest =>
    if name = "." then disk.walk isForDirectory here rest
    else if name = ".." then disk.walk isForDirectory here.dropLast rest
    else if !isName name then .refused
    else
      let there := here ++ [name]
      if disk.isDirectory there then disk.walk isForDirectory there rest
      else if (disk.content? there).isSome then
        if rest.isEmpty && !isForDirectory then .file there else .refused
      else if rest.isEmpty then .free there
      else .missing

/-- What stands at the end of a way from a directory. -/
def find (disk : Disk) (start : Location) (way : Way) : Place :=
  disk.walk way.isForDirectory start way.names

/-! ### Making directories -/

/-- Makes the directory at the end of a way, where the directory around it is there;
`true` if there is a directory afterwards. -/
def makeOne (disk : Disk) (start : Location) (names : List String) : Bool × Disk :=
  match disk.walk true start names with
  | .directory _ => (true, disk)
  | .free location => (true, { disk with directories := location :: disk.directories })
  | _ => (false, disk)

/-- Makes a directory and all that are missing before it. -/
def makeAll (disk : Disk) (start : Location) : Nat → List String → Bool × Disk
  | 0, names => disk.makeOne start names
  | fuel + 1, names =>
    match disk.walk true start names with
    | .missing =>
      match disk.makeAll start fuel names.dropLast with
      | (true, disk) => disk.makeOne start names
      | (false, disk) => (false, disk)
    | _ => disk.makeOne start names

end Disk

/-! ### Directories -/

/-- The files below a directory of a disk. -/
structure Directory where
  disk : Disk
  /-- The directory that paths start from when they do not start at the root. -/
  current : Location
  /-- The directory itself, as a path. -/
  root : String

namespace Directory

/-- The path that is opened for a path below the directory. -/
def opened (directory : Directory) (path : String) : String :=
  let inner := Storage.normalize path
  if directory.root = "" then inner
  else if directory.root.endsWith "/" then directory.root ++ inner
  else directory.root ++ "/" ++ inner

/-- The start of a path: the root of the disk, or the current directory. -/
def startOf (directory : Directory) (path : String) : Location :=
  if path.startsWith "/" then [] else directory.current

/-- What stands at a path of the disk. -/
def lookUp (directory : Directory) (path : String) : Disk.Place :=
  if path = "" then .missing
  else directory.disk.find (directory.startOf path) (.ofPath path)

/-- Reads a path of the disk. -/
def readAt (directory : Directory) (asked path : String) : Except StorageError ByteArray :=
  match directory.lookUp path with
  | .file location =>
    match directory.disk.content? location with
    | some content => .ok content
    | none => .error .device
  | .free _ => .error (.notFound asked)
  | .missing => .error (.notFound asked)
  | _ => .error .device

/-- The names along a way without those that change nothing at its end. -/
def parentNames (names : List String) : List String :=
  (names.reverse.dropWhile (· = ".")).tail.reverse

instance : Storage Directory where
  read directory path := directory.readAt path (directory.opened path)
  write directory path content :=
    let target := directory.opened path
    let start := directory.startOf target
    let way := Disk.Way.ofPath target
    let parent := parentNames way.names
    match directory.disk.makeAll start parent.length parent with
    | (false, disk) => (.error .device, { directory with disk })
    | (true, disk) =>
      match disk.find start way with
      | .file location => (.ok (), { directory with disk := disk.put location content })
      | .free location =>
        if way.isForDirectory then (.error .device, { directory with disk })
        else (.ok (), { directory with disk := disk.put location content })
      | _ => (.error .device, { directory with disk })
  has directory path :=
    match directory.lookUp (directory.opened path) with
    | .directory _ => .ok true
    | .file _ => .ok true
    | .free _ => .ok false
    | .missing => .ok false
    | .refused => .error .device
  delete directory path :=
    match directory.lookUp (directory.opened path) with
    | .file location =>
      (.ok (), { directory with disk := directory.disk.erase location })
    | .free _ => (.error (.notFound path), directory)
    | .missing => (.error (.notFound path), directory)
    | _ => (.error .device, directory)

end Directory

end ProxyProfile
