/-
This file proves that a directory gives back what it was given.

Writing a file makes the directories that are missing, looks at what then stands at
the end of the way, and puts the content there. A file that is put changes no
directory, so the same way is walked again through the same directories and ends
at that file. The induction is on the names of the way.
-/

import ProxyProfile.Storage.Directory

namespace ProxyProfile

/-- A text is read where its bytes are. -/
theorem Storage.readText_of_read {σ : Type} [Storage σ] {storage : σ} {path text : String}
    (content : Storage.read storage path = .ok text.toUTF8) :
    Storage.readText storage path = .ok text := by
  have decoded : String.fromUTF8? text.toUTF8 = some text := by
    unfold String.fromUTF8?
    exact dif_pos text.isValidUTF8
  unfold Storage.readText
  rw [content]
  simp only [bind, Except.bind, decoded]

/-- Files that are taken out are looked up no more. -/
theorem lookup_filter_self {Key Content : Type} [BEq Key] [LawfulBEq Key] [DecidableEq Key]
    (files : List (Key × Content)) (key : Key) :
    (files.filter fun entry => entry.1 ≠ key).lookup key = none := by
  refine List.lookup_eq_none_iff.mpr fun entry inside => bne_iff_ne.mpr ?_
  have differs : entry.1 ≠ key := of_decide_eq_true (List.mem_filter.mp inside).2
  exact differs.symm

/-- All others are as before. -/
theorem lookup_filter_of_ne {Key Content : Type} [BEq Key] [LawfulBEq Key] [DecidableEq Key]
    (files : List (Key × Content)) {key other : Key} (differs : other ≠ key) :
    (files.filter fun entry => entry.1 ≠ key).lookup other = files.lookup other := by
  induction files with
  | nil => rfl
  | cons entry rest inductionHypothesis =>
    obtain ⟨name, content⟩ := entry
    by_cases dropped : name = key
    · have apart : (other == name) = false := beq_false_of_ne (dropped ▸ differs)
      rw [List.filter_cons_of_neg (by simp [dropped]), inductionHypothesis, List.lookup_cons, apart]
    · rw [List.filter_cons_of_pos (by simp [dropped]), List.lookup_cons, List.lookup_cons,
        inductionHypothesis]

/-! ### Disks -/

namespace Disk

theorem content?_put_self (disk : Disk) (location : Location) (content : ByteArray) :
    (disk.put location content).content? location = some content := by
  unfold put content?
  exact List.lookup_cons_self

/-- A name that is no dot leads to what stands there. -/
theorem walk_name (disk : Disk) (isForDirectory : Bool) (here : Location) {name : String}
    (rest : List String) (noDot : name ≠ ".") (noDots : name ≠ "..") :
    disk.walk isForDirectory here (name :: rest) =
      if !isName name then .refused
      else if disk.isDirectory (here ++ [name]) then
        disk.walk isForDirectory (here ++ [name]) rest
      else if (disk.content? (here ++ [name])).isSome then
        if rest.isEmpty && !isForDirectory then .file (here ++ [name]) else .refused
      else if rest.isEmpty then .free (here ++ [name])
      else .missing := by
  rw [walk, if_neg noDot, if_neg noDots]

/-- What stands at a name that no directory has: if there is a file or one can be made, then the
name is the last one, and a file will do. -/
theorem last_of_ends {held last isForDirectory : Bool} {there location : Location}
    (ends : (if held then if last && !isForDirectory then Place.file there else .refused
        else if last then .free there else .missing) = .file location ∨
      isForDirectory = false ∧
        (if held then if last && !isForDirectory then Place.file there else .refused
          else if last then .free there else .missing) = .free location) :
    last = true ∧ isForDirectory = false ∧ there = location := by
  cases held <;> cases last <;> cases isForDirectory <;> simp_all

/-- A way for files ends at a file once one is put where it ended. -/
theorem walk_put {disk : Disk} {location : Location} (content : ByteArray)
    {isForDirectory : Bool} {here : Location} {names : List String}
    (ends : disk.walk isForDirectory here names = .file location ∨
      isForDirectory = false ∧ disk.walk isForDirectory here names = .free location) :
    (disk.put location content).walk isForDirectory here names = .file location := by
  induction names generalizing here with
  | nil => rcases ends with ends | ⟨_, ends⟩ <;> cases ends
  | cons name rest inductionHypothesis =>
    by_cases dot : name = "."
    · rw [walk, if_pos dot] at ends ⊢
      exact inductionHypothesis ends
    by_cases dots : name = ".."
    · rw [walk, if_neg dot, if_pos dots] at ends ⊢
      exact inductionHypothesis ends
    rw [walk_name _ _ _ _ dot dots] at ends ⊢
    by_cases improper : !isName name
    · rw [if_pos improper] at ends
      rcases ends with ends | ⟨_, ends⟩ <;> cases ends
    rw [if_neg improper] at ends ⊢
    have same : (disk.put location content).isDirectory (here ++ [name]) =
        disk.isDirectory (here ++ [name]) := rfl
    rw [same]
    by_cases directory : disk.isDirectory (here ++ [name])
    · rw [if_pos directory] at ends ⊢
      exact inductionHypothesis ends
    rw [if_neg directory] at ends ⊢
    obtain ⟨last, files, rfl⟩ := last_of_ends ends
    rw [content?_put_self, Option.isSome_some, if_pos rfl, last, files]
    rfl

end Disk

/-! ### Directories -/

namespace Directory

/-- The empty path leads to no file, and no file can be made there. -/
theorem ne_empty_of_find {disk : Disk} {start : Location} {path : String} {place : Disk.Place}
    (found : disk.find start (.ofPath path) = place) (noDirectory : place ≠ .directory start) :
    path ≠ "" := by
  rintro rfl
  exact noDirectory found.symm

/-- A file is read at the end of its way. -/
theorem readAt_put (directory : Directory) {asked path : String} {location : Location}
    (content : ByteArray)
    (ends : directory.disk.find (directory.startOf path) (.ofPath path) = .file location ∨
      (Disk.Way.ofPath path).isForDirectory = false ∧
        directory.disk.find (directory.startOf path) (.ofPath path) = .free location) :
    readAt { directory with disk := directory.disk.put location content } asked path =
      .ok content := by
  have proper : path ≠ "" := by
    rcases ends with ends | ⟨_, ends⟩ <;> exact ne_empty_of_find ends (by simp)
  have found : lookUp { directory with disk := directory.disk.put location content } path =
      .file location := by
    unfold lookUp
    rw [if_neg proper]
    exact Disk.walk_put content ends
  unfold readAt
  rw [found]
  dsimp only
  rw [Disk.content?_put_self]

/-- What was written somewhere is read there. -/
theorem read_of_write {before after : Directory} {path : String} {content : ByteArray}
    (success : Storage.write before path content = (.ok (), after)) :
    Storage.read after path = .ok content := by
  simp only [Storage.write] at success
  split at success
  · cases success
  rename_i disk made
  split at success
  · rename_i location found
    cases success
    show readAt _ path (before.opened path) = .ok content
    exact readAt_put { before with disk } content (.inl found)
  · rename_i location found
    split at success
    · cases success
    · rename_i files
      cases success
      show readAt _ path (before.opened path) = .ok content
      exact readAt_put { before with disk } content
        (.inr ⟨Bool.eq_false_iff.mpr files, found⟩)
  · cases success

theorem readText_of_writeText {before after : Directory} {path text : String}
    (success : Storage.writeText before path text = (.ok (), after)) :
    Storage.readText after path = .ok text :=
  Storage.readText_of_read (read_of_write success)

end Directory

end ProxyProfile
