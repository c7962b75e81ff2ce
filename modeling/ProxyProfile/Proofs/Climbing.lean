/-
This file says which location of a disk a path below a directory leads to, and when that is
below the directory.

A path is put behind the root of the directory, and no beginning of it gets around that: it
cannot start at the root of the disk by itself. But two dots go up wherever they stand, and
nobody counts them. What a path comes to is a number of directories that it climbs above the
root, and names down from there. So it stays below the root exactly if it never climbs, or
comes down again by the very names that it left. The operations have no location but this
one: it is what they read, replace and take away.
-/

import ProxyProfile.Proofs.Growing
import ProxyProfile.Proofs.Leading

namespace ProxyProfile

/-! ### Names one by one -/

/-- The location that a name leads to. -/
def Location.enter (here : Location) (name : String) : Location :=
  if name = "" ∨ name = "." then here
  else if name = ".." then here.dropLast
  else here ++ [name]

/-- What a path comes to: how many directories it leads up, and the names that it leads down from
there. -/
structure Course where
  up : Nat
  down : List String
deriving DecidableEq

namespace Course

/-- A course with one more name. Two dots take the last name back, or lead up. -/
def enter (course : Course) (name : String) : Course :=
  if name = "" ∨ name = "." then course
  else if name = ".." then
    if course.down = [] then ⟨course.up + 1, []⟩ else ⟨course.up, course.down.dropLast⟩
  else ⟨course.up, course.down ++ [name]⟩

/-- The course of a path. -/
def ofPath (path : String) : Course :=
  (Text.split '/' path).foldl enter ⟨0, []⟩

/-- Where a course leads from a location. Above the root of a disk is the root again. -/
def target (course : Course) (here : Location) : Location :=
  here.take (here.length - course.up) ++ course.down

/-- A name leads from there to where the longer course leads. -/
theorem target_enter (course : Course) (here : Location) (name : String) :
    (course.enter name).target here = Location.enter (course.target here) name := by
  unfold enter Location.enter
  by_cases stays : name = "" ∨ name = "."
  · rw [if_pos stays, if_pos stays]
  rw [if_neg stays, if_neg stays]
  by_cases dots : name = ".."
  · rw [if_pos dots, if_pos dots]
    unfold target
    by_cases top : course.down = []
    · rw [if_pos top, top, List.append_nil, List.append_nil, List.dropLast_eq_take, List.take_take,
        List.length_take]
      exact congrArg (List.take · here) (by dsimp only; omega)
    · rw [if_neg top, List.dropLast_append_of_ne_nil top]
  · rw [if_neg dots, if_neg dots]
    exact (List.append_assoc _ _ _).symm

/-- So do all names of a path. -/
theorem foldl_enter (names : List String) (course : Course) (here : Location) :
    names.foldl Location.enter (course.target here) = (names.foldl enter course).target here := by
  induction names generalizing course with
  | nil => rfl
  | cons name names inductionHypothesis =>
    rw [List.foldl_cons, List.foldl_cons, ← target_enter, inductionHypothesis]

/-- A course stays below a location exactly if it never leads up from there, or leads down by the
names that it left. -/
theorem prefix_target_iff (course : Course) (here : Location) :
    here <+: course.target here ↔ here.drop (here.length - course.up) <+: course.down := by
  unfold target
  conv_lhs => lhs; rw [← List.take_append_drop (here.length - course.up) here]
  exact List.prefix_append_right_inj _

/-- Without two dots it never leads up. -/
theorem up_foldl_enter {names : List String} (noDots : ".." ∉ names) (course : Course) :
    (names.foldl enter course).up = course.up := by
  induction names generalizing course with
  | nil => rfl
  | cons name names inductionHypothesis =>
    have plain : name ≠ ".." := fun same => noDots (same ▸ List.mem_cons_self)
    rw [List.foldl_cons, inductionHypothesis fun inside => noDots (List.mem_cons_of_mem _ inside)]
    unfold enter
    rw [if_neg plain]
    split <;> rfl

end Course

/-- Empty names and dots lead nowhere. -/
theorem Location.foldl_enter_of_stay {names : List String}
    (stay : ∀ name ∈ names, name = "" ∨ name = ".") (here : Location) :
    names.foldl Location.enter here = here := by
  induction names with
  | nil => rfl
  | cons name names inductionHypothesis =>
    obtain ⟨first, others⟩ := List.forall_mem_cons.mp stay
    rw [List.foldl_cons, Location.enter, if_pos first, inductionHypothesis others]

/-- So the empty ones may be left out. -/
theorem Location.foldl_enter_filter (names : List String) (here : Location) :
    (names.filter (· ≠ "")).foldl Location.enter here = names.foldl Location.enter here := by
  induction names generalizing here with
  | nil => rfl
  | cons name names inductionHypothesis =>
    by_cases empty : name = ""
    · rw [List.filter_cons_of_neg (by simp [empty]), List.foldl_cons, Location.enter,
        if_pos (Or.inl empty), inductionHypothesis]
    · rw [List.filter_cons_of_pos (by simp [empty]), List.foldl_cons, List.foldl_cons,
        inductionHypothesis]

/-! ### Paths below a directory -/

namespace Storage

theorem exists_dropDots (characters : List Char) :
    ∃ dots : List Lead, characters = dots.flatMap Lead.chars ++ dropDots characters := by
  fun_induction dropDots characters with
  | case1 rest inductionHypothesis =>
    obtain ⟨dots, shown⟩ := inductionHypothesis
    refine ⟨.dot :: dots, ?_⟩
    rw [List.flatMap_cons, List.append_assoc, ← shown]
    rfl
  | case2 => exact ⟨[], rfl⟩

theorem exists_dropSlashes (characters : List Char) :
    ∃ slashes : List Lead,
      characters = slashes.flatMap Lead.chars ++ characters.dropWhile (· = '/') := by
  induction characters with
  | nil => exact ⟨[], rfl⟩
  | cons c rest inductionHypothesis =>
    by_cases slash : c = '/'
    · obtain ⟨slashes, shown⟩ := inductionHypothesis
      refine ⟨.slash :: slashes, ?_⟩
      rw [List.dropWhile_cons_of_pos (by simpa using slash), List.flatMap_cons, List.append_assoc,
        ← shown, slash]
      rfl
    · rw [List.dropWhile_cons_of_neg (by simpa using slash)]
      exact ⟨[], rfl⟩

/-- Only dots and slashes are dropped in front of a path. -/
theorem exists_lead_normalize (path : String) : ∃ leads, path = lead leads (normalize path) := by
  obtain ⟨dots, shown⟩ := exists_dropDots path.toList
  obtain ⟨slashes, shownLater⟩ := exists_dropSlashes (dropDots path.toList)
  refine ⟨dots ++ slashes, String.toList_inj.mp ?_⟩
  rw [toList_lead, normalize, String.toList_ofList, List.flatMap_append, List.append_assoc,
    ← shownLater, ← shown]

end Storage

namespace Directory

variable (directory : Directory)

/-- The location of the root. -/
def base : Location :=
  (Text.split '/' directory.root).foldl Location.enter (directory.startOf directory.root)

/-- The location of the path that is opened, name by name. -/
def location (path : String) : Location :=
  (Text.split '/' (directory.opened path)).foldl Location.enter
    (directory.startOf (directory.opened path))

/-- Paths start where the root starts. -/
theorem start_eq : directory.start = directory.startOf directory.root := by
  refine if_congr ?_ rfl rfl
  rw [String.startsWith_string_iff, show "/".toList = ['/'] from rfl,
    List.singleton_prefix_iff_head?_eq_some]
  unfold front
  split
  · rename_i empty
    rw [empty]
    rfl
  · rename_i filled
    split
    · rfl
    · cases shown : directory.root.toList with
      | nil => exact absurd (String.toList_inj.mp shown) filled
      | cons c rest => rfl

/-- They go on from the location of the root. -/
theorem foldl_frontNames :
    directory.frontNames.foldl Location.enter directory.start = directory.base := by
  rw [start_eq]
  unfold base Text.split frontNames front
  by_cases empty : directory.root = ""
  · rw [if_pos empty, if_pos rfl, empty]
    rfl
  rw [if_neg empty]
  by_cases ends : directory.root.endsWith "/"
  · obtain ⟨stem, shown⟩ := Text.endsWith_iff.mp ends
    rw [if_pos ends, ← shown, show "/".toList = ['/'] from rfl,
      if_neg (List.append_ne_nil_of_right_ne_nil _ (List.cons_ne_nil _ _)), List.dropLast_concat,
      Text.splitChars_append_cons, List.map_append, List.foldl_append]
    rfl
  · rw [if_neg ends, if_neg (List.append_ne_nil_of_right_ne_nil _ (List.cons_ne_nil _ _)),
      List.dropLast_concat]

/-- A path leads from the root to where its course leads. -/
theorem location_eq (path : String) :
    directory.location path = (Course.ofPath path).target directory.base := by
  obtain ⟨leads, shown⟩ := Storage.exists_lead_normalize path
  have stay : ∀ piece ∈ leads.map Storage.Lead.piece, piece = "" ∨ piece = "." := by
    intro piece inside
    obtain ⟨first, _, rfl⟩ := List.mem_map.mp inside
    cases first with
    | dot => exact Or.inr rfl
    | slash => exact Or.inl rfl
  have start : directory.base = (⟨0, []⟩ : Course).target directory.base := by
    unfold Course.target
    rw [Nat.sub_zero, List.take_length, List.append_nil]
  unfold location Course.ofPath
  rw [split_opened, startOf_opened, List.foldl_append, foldl_frontNames, ← Course.foldl_enter,
    ← start]
  conv_rhs => rw [shown, Storage.split_lead, List.foldl_append, Location.foldl_enter_of_stay stay]

end Directory

/-! ### What the operations open -/

namespace Disk

/-- Where a place is, if it is anywhere. -/
def Place.location? : Place → Option Location
  | directory location => some location
  | file location => some location
  | free location => some location
  | _ => none

/-- A walk gets to no other location than the one that the names lead to. -/
theorem location_of_walk {disk : Disk} {isForDirectory : Bool} {here location : Location}
    {names : List String} (filled : "" ∉ names)
    (ends : (disk.walk isForDirectory here names).location? = some location) :
    location = names.foldl Location.enter here := by
  induction names generalizing here with
  | nil =>
    cases ends
    rfl
  | cons name rest inductionHypothesis =>
    have proper : name ≠ "" := fun same => filled (same ▸ List.mem_cons_self)
    have others : "" ∉ rest := fun inside => filled (List.mem_cons_of_mem _ inside)
    rw [List.foldl_cons, Location.enter]
    by_cases dot : name = "."
    · rw [walk, if_pos dot] at ends
      rw [if_pos (Or.inr dot)]
      exact inductionHypothesis others ends
    rw [if_neg (not_or.mpr ⟨proper, dot⟩)]
    by_cases dots : name = ".."
    · rw [walk, if_neg dot, if_pos dots] at ends
      rw [if_pos dots]
      exact inductionHypothesis others ends
    rw [if_neg dots]
    rw [walk_name _ _ _ _ dot dots] at ends
    split at ends
    · cases ends
    split at ends
    · exact inductionHypothesis others ends
    split at ends
    · split at ends
      · rename_i last
        rw [Bool.and_eq_true, List.isEmpty_iff] at last
        cases ends
        rw [last.1]
        rfl
      · cases ends
    · split at ends
      · rename_i last
        cases ends
        rw [List.isEmpty_iff.mp last]
        rfl
      · cases ends

theorem content?_put_of_ne (disk : Disk) {location other : Location} (content : ByteArray)
    (differs : other ≠ location) :
    (disk.put location content).content? other = disk.content? other := by
  unfold content? put
  rw [List.lookup_cons, beq_false_of_ne differs]
  exact lookup_filter_of_ne disk.files differs

theorem content?_erase_of_ne (disk : Disk) {location other : Location}
    (differs : other ≠ location) :
    (disk.erase location).content? other = disk.content? other :=
  lookup_filter_of_ne disk.files differs

end Disk

namespace Directory

/-- The operations open one location for a path: it is what they read, find, replace and take away,
and no other file changes. -/
structure Opens (directory : Directory) (path : String) (location : Location) : Prop where
  read : ∀ content, Storage.read directory path = .ok content →
    directory.disk.content? location = some content
  has : Storage.has directory path = .ok true →
    directory.lookUp (directory.opened path) = .directory location ∨
      directory.lookUp (directory.opened path) = .file location
  write : ∀ content after, Storage.write directory path content = (.ok (), after) →
    after.disk.content? location = some content ∧
      ∀ other, other ≠ location → after.disk.content? other = directory.disk.content? other
  delete : ∀ after, Storage.delete directory path = (.ok (), after) →
    after.disk.content? location = none ∧
      ∀ other, other ≠ location → after.disk.content? other = directory.disk.content? other

variable {directory : Directory} {path : String}

/-- What is found at the end of the way of a path is at the location of the path, on every disk. -/
theorem location_of_find {disk : Disk} {place : Disk.Place} {location : Location}
    (ends : disk.find (directory.startOf (directory.opened path))
      (.ofPath (directory.opened path)) = place) (isAt : place.location? = some location) :
    directory.location path = location := by
  have filled : "" ∉ (Disk.Way.ofPath (directory.opened path)).names := fun inside =>
    of_decide_eq_true (List.mem_filter.mp inside).2 rfl
  rw [← ends] at isAt
  rw [Disk.location_of_walk filled isAt]
  exact (Location.foldl_enter_filter _ _).symm

theorem location_of_lookUp {place : Disk.Place} {location : Location}
    (ends : directory.lookUp (directory.opened path) = place)
    (isAt : place.location? = some location) : directory.location path = location := by
  unfold lookUp at ends
  split at ends
  · cases ends
    cases isAt
  · exact location_of_find ends isAt

/-- A write leaves all other files alone. -/
theorem write_at_location {before after : Directory} {content : ByteArray}
    (success : Storage.write before path content = (.ok (), after)) :
    after.disk.content? (before.location path) = some content ∧
      ∀ other, other ≠ before.location path →
        after.disk.content? other = before.disk.content? other := by
  simp only [Storage.write] at success
  generalize around : before.disk.makeAll _ _ _ = made at success
  have same : before.disk.SameFiles made.2 := around ▸ Disk.sameFiles_makeAll _ _ _ _
  obtain ⟨present, disk⟩ := made
  have put (location : Location) : (disk.put location content).content? location = some content ∧
      ∀ other, other ≠ location →
        (disk.put location content).content? other = before.disk.content? other :=
    ⟨disk.content?_put_self location content,
      fun other differs => (disk.content?_put_of_ne content differs).trans (same other)⟩
  cases present with
  | false => cases success
  | true =>
    dsimp only at success
    split at success
    · rename_i location ends
      cases success
      exact location_of_find ends rfl ▸ put location
    · rename_i location ends
      split at success
      · cases success
      · cases success
        exact location_of_find ends rfl ▸ put location
    · cases success

theorem opens_location (directory : Directory) (path : String) :
    directory.Opens path (directory.location path) where
  read content found := by
    obtain ⟨location, ends, held⟩ := lookUp_of_read found
    rwa [location_of_lookUp ends rfl]
  has found := by
    simp only [Storage.has] at found
    split at found
    · rename_i location ends
      exact Or.inl (location_of_lookUp ends rfl ▸ ends)
    · rename_i location ends
      exact Or.inr (location_of_lookUp ends rfl ▸ ends)
    all_goals cases found
  write _ _ := write_at_location
  delete after success := by
    simp only [Storage.delete] at success
    split at success
    · rename_i location ends
      cases success
      rw [location_of_lookUp ends rfl]
      exact ⟨directory.disk.content?_erase_self location,
        fun other differs => directory.disk.content?_erase_of_ne differs⟩
    all_goals cases success

/-- The location that is opened for a path is the one that its course leads to from the root. It is
below the root, or the root itself, exactly if the course leads up no directory, or leads down again
by the names that it left; so it is if no two dots are among the pieces of the path. -/
theorem location_below_iff (directory : Directory) (path : String) :
    directory.Opens path (directory.location path) ∧
    directory.location path = (Course.ofPath path).target directory.base ∧
    (directory.base <+: directory.location path ↔
      directory.base.drop (directory.base.length - (Course.ofPath path).up) <+:
        (Course.ofPath path).down) ∧
    (".." ∉ Text.split '/' path → directory.base <+: directory.location path) := by
  have below_iff := (Course.ofPath path).prefix_target_iff directory.base
  rw [← location_eq] at below_iff
  refine ⟨opens_location directory path, location_eq directory path, below_iff, fun noDots => ?_⟩
  have level : (Course.ofPath path).up = 0 := Course.up_foldl_enter noDots ⟨0, []⟩
  rw [below_iff, level, Nat.sub_zero, List.drop_length]
  exact List.nil_prefix

theorem base_sub : (⟨{}, [], "sub"⟩ : Directory).base = ["sub"] := by
  unfold base startOf
  rw [ite_self]
  rfl

/-- A path that leads up is below the root if it comes back. -/
theorem location_below_iff_returning :
    (⟨{}, [], "sub"⟩ : Directory).base <+: (⟨{}, [], "sub"⟩ : Directory).location "../sub/a" := by
  rw [(location_below_iff ⟨{}, [], "sub"⟩ "../sub/a").2.2.1, base_sub]
  decide

/-- Else two dots lead out of a directory. -/
theorem not_below_climbing :
    ¬∀ (directory : Directory) (path : String), directory.base <+: directory.location path := by
  intro always
  have below := always ⟨{}, [], "sub"⟩ "../out.json"
  rw [location_eq, base_sub] at below
  revert below
  decide

end Directory

end ProxyProfile
