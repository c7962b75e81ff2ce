/-
This file proves what a write leaves alone.

A write makes the directories that are missing around a file and then puts the file
there. A directory is only made where nothing stands, and a file only put where no
directory is; so the disk grows, and a path that led to a file still leads to one.
Such a file can always be replaced, for the directories around it are there. A write
that fails fails before the file is put, so all it may have done is to make
directories. The induction is on the names of a way, and for several directories on
how many there may be.
-/

import ProxyProfile.Proofs.Storing

namespace ProxyProfile

/-! ### Disks -/

namespace Disk

/-- The files of a disk and what they hold are as they were. -/
def SameFiles (before after : Disk) : Prop :=
  ∀ location, after.content? location = before.content? location

theorem SameFiles.refl (disk : Disk) : SameFiles disk disk :=
  fun _ => rfl

theorem SameFiles.trans {before between after : Disk} (first : SameFiles before between)
    (second : SameFiles between after) : SameFiles before after :=
  fun location => (second location).trans (first location)

/-- A disk has whatever directories and files it had, and no directory where a file was. -/
structure Grows (before after : Disk) : Prop where
  directory : ∀ location, before.isDirectory location → after.isDirectory location
  file : ∀ location, (before.content? location).isSome → (after.content? location).isSome
  apart : ∀ location, after.isDirectory location →
    before.isDirectory location ∨ before.content? location = none

theorem Grows.refl (disk : Disk) : Grows disk disk :=
  ⟨fun _ => id, fun _ => id, fun _ => Or.inl⟩

theorem Grows.trans {before between after : Disk} (first : Grows before between)
    (second : Grows between after) : Grows before after where
  directory location is := second.directory location (first.directory location is)
  file location is := second.file location (first.file location is)
  apart location is := by
    rcases second.apart location is with old | nothing
    · exact first.apart location old
    · refine Or.inr (Option.not_isSome_iff_eq_none.mp fun held => ?_)
      have still := first.file location held
      rw [nothing] at still
      cases still

/-- Where a way ends at nothing, there is no file. -/
theorem content?_of_walk_free {disk : Disk} {isForDirectory : Bool} {here location : Location}
    {names : List String} (ends : disk.walk isForDirectory here names = .free location) :
    disk.content? location = none := by
  induction names generalizing here with
  | nil => cases ends
  | cons name rest inductionHypothesis =>
    by_cases dot : name = "."
    · rw [walk, if_pos dot] at ends
      exact inductionHypothesis ends
    by_cases dots : name = ".."
    · rw [walk, if_neg dot, if_pos dots] at ends
      exact inductionHypothesis ends
    rw [walk_name _ _ _ _ dot dots] at ends
    split at ends
    · cases ends
    split at ends
    · exact inductionHypothesis ends
    split at ends
    · split at ends <;> cases ends
    · rename_i absent
      split at ends
      · cases ends
        exact Option.not_isSome_iff_eq_none.mp absent
      · cases ends

/-- A way to a file still leads to it on a disk that has grown. -/
theorem walk_file_of_grows {before after : Disk} (grows : Grows before after)
    {isForDirectory : Bool} {here location : Location} {names : List String}
    (ends : before.walk isForDirectory here names = .file location) :
    after.walk isForDirectory here names = .file location := by
  induction names generalizing here with
  | nil => cases ends
  | cons name rest inductionHypothesis =>
    by_cases dot : name = "."
    · rw [walk, if_pos dot] at ends ⊢
      exact inductionHypothesis ends
    by_cases dots : name = ".."
    · rw [walk, if_neg dot, if_pos dots] at ends ⊢
      exact inductionHypothesis ends
    rw [walk_name _ _ _ _ dot dots] at ends ⊢
    by_cases improper : !isName name
    · rw [if_pos improper] at ends
      cases ends
    rw [if_neg improper] at ends ⊢
    by_cases directory : before.isDirectory (here ++ [name])
    · rw [if_pos directory] at ends
      rw [if_pos (grows.directory _ directory)]
      exact inductionHypothesis ends
    rw [if_neg directory] at ends
    by_cases held : (before.content? (here ++ [name])).isSome
    · -- A file stands at the last name, so no directory can have come there.
      have noDirectory : ¬ after.isDirectory (here ++ [name]) := by
        intro made
        rcases grows.apart _ made with old | nothing
        · exact directory old
        · rw [nothing] at held
          cases held
      rw [if_pos held] at ends
      rw [if_neg noDirectory, if_pos (grows.file _ held)]
      exact ends
    · rw [if_neg held] at ends
      split at ends <;> cases ends

/-- A way to a file ends with a name, and leads through a directory before that. -/
theorem exists_directory_of_walk_file {disk : Disk} {isForDirectory : Bool}
    {here location : Location} {names : List String}
    (ends : disk.walk isForDirectory here names = .file location) :
    ∃ front name above, names = front ++ [name] ∧ name ≠ "." ∧
      disk.walk true here front = .directory above := by
  induction names generalizing here with
  | nil => cases ends
  | cons name rest inductionHypothesis =>
    by_cases dot : name = "."
    · rw [walk, if_pos dot] at ends
      obtain ⟨front, last, above, rfl, plain, leads⟩ := inductionHypothesis ends
      exact ⟨name :: front, last, above, rfl, plain, by rw [walk, if_pos dot, leads]⟩
    by_cases dots : name = ".."
    · rw [walk, if_neg dot, if_pos dots] at ends
      obtain ⟨front, last, above, rfl, plain, leads⟩ := inductionHypothesis ends
      exact ⟨name :: front, last, above, rfl, plain, by rw [walk, if_neg dot, if_pos dots, leads]⟩
    rw [walk_name _ _ _ _ dot dots] at ends
    by_cases improper : !isName name
    · rw [if_pos improper] at ends
      cases ends
    rw [if_neg improper] at ends
    by_cases directory : disk.isDirectory (here ++ [name])
    · rw [if_pos directory] at ends
      obtain ⟨front, last, above, rfl, plain, leads⟩ := inductionHypothesis ends
      refine ⟨name :: front, last, above, rfl, plain, ?_⟩
      rw [walk_name _ _ _ _ dot dots, if_neg improper, if_pos directory, leads]
    · rw [if_neg directory] at ends
      obtain ⟨last, _, _⟩ := last_of_ends (Or.inl ends)
      rw [List.isEmpty_iff.mp last]
      exact ⟨[], name, here, rfl, dot, rfl⟩

/-! ### Making directories -/

/-- What making one directory does to a disk, making several does too. -/
theorem makeAll_induction {motive : Disk → Disk → Prop}
    (trans : ∀ {before between after}, motive before between → motive between after →
      motive before after)
    {start : Location} (one : ∀ disk names, motive disk (disk.makeOne start names).2)
    (disk : Disk) (fuel : Nat) (names : List String) :
    motive disk (disk.makeAll start fuel names).2 := by
  induction fuel generalizing names with
  | zero => exact one disk names
  | succ fuel inductionHypothesis =>
    have before := inductionHypothesis names.dropLast
    rw [makeAll]
    split
    · split
      · rename_i made equal
        rw [equal] at before
        exact trans before (one made names)
      · rename_i made equal
        rw [equal] at before
        exact before
    · exact one disk names

theorem sameFiles_makeOne (disk : Disk) (start : Location) (names : List String) :
    SameFiles disk (disk.makeOne start names).2 := by
  unfold makeOne
  split
  · exact SameFiles.refl disk
  · exact fun _ => rfl
  · exact SameFiles.refl disk

theorem grows_makeOne (disk : Disk) (start : Location) (names : List String) :
    Grows disk (disk.makeOne start names).2 := by
  unfold makeOne
  split
  · exact Grows.refl disk
  · rename_i free ends
    have nothing := content?_of_walk_free ends
    refine ⟨fun location is => ?_, fun _ => id, fun location is => ?_⟩
    · unfold isDirectory at is ⊢
      rw [List.contains_cons]
      revert is
      cases location.isEmpty <;> cases location == free <;> simp
    · by_cases same : location = free
      · exact Or.inr (same ▸ nothing)
      · refine Or.inl ?_
        unfold isDirectory at is ⊢
        rwa [List.contains_cons, beq_false_of_ne same, Bool.false_or] at is
  · exact Grows.refl disk

theorem sameFiles_makeAll (disk : Disk) (start : Location) (fuel : Nat) (names : List String) :
    SameFiles disk (disk.makeAll start fuel names).2 :=
  makeAll_induction (motive := SameFiles) SameFiles.trans
    (fun disk => sameFiles_makeOne disk start) disk fuel names

theorem grows_makeAll (disk : Disk) (start : Location) (fuel : Nat) (names : List String) :
    Grows disk (disk.makeAll start fuel names).2 :=
  makeAll_induction (motive := Grows) Grows.trans
    (fun disk => grows_makeOne disk start) disk fuel names

/-- Where there is a directory, none is made. -/
theorem makeAll_of_directory {disk : Disk} {start above : Location} {names : List String}
    (leads : disk.walk true start names = .directory above) (fuel : Nat) :
    disk.makeAll start fuel names = (true, disk) := by
  have one : disk.makeOne start names = (true, disk) := by
    rw [makeOne, leads]
  cases fuel with
  | zero => exact one
  | succ fuel => rw [makeAll, leads, one]

theorem grows_put (disk : Disk) (location : Location) (content : ByteArray) :
    Grows disk (disk.put location content) := by
  refine ⟨fun _ => id, fun other held => ?_, fun _ => Or.inl⟩
  by_cases same : other = location
  · rw [same, content?_put_self, Option.isSome_some]
  · have kept : (disk.put location content).content? other = disk.content? other := by
      unfold content? put
      rw [List.lookup_cons, beq_false_of_ne same]
      exact lookup_filter_of_ne disk.files same
    rwa [kept]

end Disk

/-! ### Writing -/

namespace Directory

/-- The names before the last one are those of the directory around it. -/
theorem parentNames_concat (front : List String) {name : String} (plain : name ≠ ".") :
    parentNames (front ++ [name]) = front := by
  unfold parentNames
  rw [List.reverse_append, List.reverse_singleton, List.singleton_append,
    List.dropWhile_cons_of_neg (by simpa using plain), List.tail_cons, List.reverse_reverse]

/-- A write leaves another disk behind, and nothing else changes. -/
theorem write_eq (before : Directory) (path : String) (content : ByteArray) :
    (Storage.write before path content).2 =
      { before with disk := (Storage.write before path content).2.disk } := by
  simp only [Storage.write]
  split
  · rfl
  · split
    · rfl
    · split <;> rfl
    · rfl

theorem grows_write (before : Directory) (path : String) (content : ByteArray) :
    before.disk.Grows (Storage.write before path content).2.disk := by
  simp only [Storage.write]
  generalize around : before.disk.makeAll _ _ _ = made
  have grows : before.disk.Grows made.2 := around ▸ Disk.grows_makeAll _ _ _ _
  obtain ⟨present, disk⟩ := made
  cases present with
  | false => exact grows
  | true =>
    dsimp only
    split
    · exact grows.trans (Disk.grows_put disk _ content)
    · split
      · exact grows
      · exact grows.trans (Disk.grows_put disk _ content)
    · exact grows

/-- A write that fails has at most made directories. -/
theorem sameFiles_of_write_error {before after : Directory} {path : String} {content : ByteArray}
    {error : StorageError} (fails : Storage.write before path content = (.error error, after)) :
    before.disk.SameFiles after.disk := by
  simp only [Storage.write] at fails
  generalize around : before.disk.makeAll _ _ _ = made at fails
  have same : before.disk.SameFiles made.2 := around ▸ Disk.sameFiles_makeAll _ _ _ _
  obtain ⟨present, disk⟩ := made
  cases present with
  | false =>
    cases fails
    exact same
  | true =>
    dsimp only at fails
    split at fails
    · cases fails
    · split at fails
      · cases fails
        exact same
      · cases fails
    · cases fails
      exact same

theorem sameFiles_of_writeText_error {before after : Directory} {path text : String}
    {error : StorageError} (fails : Storage.writeText before path text = (.error error, after)) :
    before.disk.SameFiles after.disk := by
  unfold Storage.writeText at fails
  exact sameFiles_of_write_error fails

/-- A path leads to a file. -/
def LeadsToFile (directory : Directory) (path : String) : Prop :=
  ∃ location, directory.disk.find (directory.startOf (directory.opened path))
    (.ofPath (directory.opened path)) = .file location

theorem leadsToFile_of_readText {directory : Directory} {path text : String}
    (found : Storage.readText directory path = .ok text) : directory.LeadsToFile path := by
  have looked : ∃ location, directory.lookUp (directory.opened path) = .file location := by
    unfold Storage.readText at found
    simp only [Storage.read] at found
    unfold readAt at found
    split at found
    · rename_i location ends
      exact ⟨location, ends⟩
    all_goals cases found
  obtain ⟨location, ends⟩ := looked
  unfold lookUp at ends
  split at ends
  · cases ends
  · exact ⟨location, ends⟩

theorem LeadsToFile.of_grows {directory : Directory} {path : String} {disk : Disk}
    (leads : directory.LeadsToFile path) (grows : directory.disk.Grows disk) :
    LeadsToFile { directory with disk } path := by
  obtain ⟨location, ends⟩ := leads
  exact ⟨location, Disk.walk_file_of_grows grows ends⟩

/-- Whatever is written, a path to a file still leads to one. -/
theorem leadsToFile_write {before : Directory} {path : String} (leads : before.LeadsToFile path)
    (other : String) (content : ByteArray) :
    (Storage.write before other content).2.LeadsToFile path := by
  rw [write_eq]
  exact leads.of_grows (grows_write before other content)

/-- A file can be replaced. -/
theorem write_of_leadsToFile {directory : Directory} {path : String}
    (leads : directory.LeadsToFile path) (content : ByteArray) :
    (Storage.write directory path content).1 = .ok () := by
  obtain ⟨location, ends⟩ := leads
  obtain ⟨front, name, above, names, plain, around⟩ := Disk.exists_directory_of_walk_file ends
  simp only [Storage.write]
  rw [names, parentNames_concat front plain, Disk.makeAll_of_directory around]
  dsimp only
  rw [ends]

end Directory

end ProxyProfile
