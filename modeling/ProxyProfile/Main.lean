/-
This file runs the program on the files of the machine.

The files below the current directory are gathered, and so is what absolute paths
among the arguments name. The program is carried out on them, and the files that
it has made or changed are written back. What cannot be read counts as missing.
-/

import ProxyProfile.Command.Basic
import ProxyProfile.Script.Shell

namespace ProxyProfile.Command

/-! ### Gathering -/

/-- A disk with a directory and all directories above it. -/
def withDirectories (disk : Disk) (location : Location) : Disk :=
  let above := (List.range (location.length + 1)).map location.take
  { disk with directories := (disk.directories ++ above).eraseDups }

/-- A disk with what stands at a path of the machine and below it. -/
partial def gather (disk : Disk) (entry : IO.FS.DirEntry) : IO Disk := do
  let path := entry.path
  let location := (Disk.Way.ofPath path.toString).names
  try
    if ← path.isDir then
      (← path.readDir).foldlM gather (withDirectories disk location)
    else
      return (withDirectories disk location.dropLast).put location (← IO.FS.readBinFile path)
  catch _ => return disk

/-- What the program can see of the machine. -/
def surroundings (current : String) (arguments : List String) : IO Disk := do
  let named := arguments.filter fun argument => argument.startsWith "/"
  (current :: named).foldlM (fun (disk : Disk) (path : String) =>
    gather disk { root := "/", fileName := path }) {}

/-! ### Writing back -/

/-- The path of a location of the machine. -/
def pathOf (location : Location) : String :=
  "/" ++ "/".intercalate location

/-- The files that differ from those on another disk. -/
def changed (before after : Disk) : List (Location × ByteArray) :=
  after.files.filter fun entry => (before.content? entry.1).all (· != entry.2)

/-- Writes a file and makes the directories around it. -/
def writeBack (entry : Location × ByteArray) : IO Unit := do
  IO.FS.createDirAll (pathOf entry.1.dropLast)
  IO.FS.writeBinFile (pathOf entry.1) entry.2

/-- Runs the program. -/
def run (arguments : List String) : IO UInt32 := do
  let current := (← IO.currentDir).toString
  let disk ← surroundings current arguments
  let report := execute Script.Shell.launch disk (Disk.Way.ofPath current).names arguments
  (changed disk report.directory.disk).forM writeBack
  IO.print report.output
  if let some reason := report.failure then IO.eprintln ("Error: " ++ reason)
  return report.exitCode.toUInt32

end ProxyProfile.Command

/-- The program. -/
def main (arguments : List String) : IO UInt32 :=
  ProxyProfile.Command.run arguments
