/-
This file proves what dots and slashes in front of a path mean to the places where files are
kept.

They are dropped in two rounds, first the dots with their slashes and then the slashes. So a
dot behind a slash stays where it is. A directory of a disk does not mind, because a path is
walked name by name there, and a dot stays where it is: every path is the same file with dots
and slashes in front and without. In memory a path is only a key, and there it is the same
file exactly if no dot stands behind a slash; else it is another one, and neither knows of
what is done to the other.
-/

import ProxyProfile.Proofs.Ingestion
import ProxyProfile.Proofs.Renaming
import ProxyProfile.Storage.Directory

namespace ProxyProfile

namespace Storage

/-! ### What stands in front of a path -/

/-- What means nothing in front of a path: a dot with a slash, or a slash. -/
inductive Lead
  | dot
  | slash
deriving DecidableEq

/-- How it is written. -/
def Lead.chars : Lead → List Char
  | dot => ['.', '/']
  | slash => ['/']

/-- A path with some of these in front. -/
def lead (leads : List Lead) (path : String) : String :=
  String.ofList (leads.flatMap Lead.chars ++ path.toList)

/-- A path that begins with none of them. -/
def IsPlain (path : String) : Prop :=
  ∀ lead : Lead, ¬lead.chars <+: path.toList

/-- First there are dots, and then slashes. -/
def DotsFirst (leads : List Lead) : Prop :=
  ∃ dots slashes, leads = List.replicate dots .dot ++ List.replicate slashes .slash

/-- What is left when the dots at the beginning are dropped, and then the slashes. -/
def stripped (leads : List Lead) : List Lead :=
  (leads.dropWhile (· = .dot)).dropWhile (· = .slash)

section Leads

variable {path : String} (plain : IsPlain path) (leads : List Lead)

theorem toList_lead (path : String) :
    (lead leads path).toList = leads.flatMap Lead.chars ++ path.toList :=
  String.toList_ofList

theorem lead_nil (path : String) : lead [] path = path :=
  String.ofList_toList

include plain

theorem dropDots_leads :
    dropDots (leads.flatMap Lead.chars ++ path.toList) =
      (leads.dropWhile (· = .dot)).flatMap Lead.chars ++ path.toList := by
  induction leads with
  | nil =>
    have noDot := plain .dot
    rw [List.flatMap_nil, List.nil_append]
    unfold dropDots
    split
    · rename_i rest shown
      exact absurd ⟨rest, shown.symm⟩ noDot
    · rfl
  | cons first leads inductionHypothesis =>
    cases first with
    | dot =>
      rw [List.dropWhile_cons_of_pos rfl, ← inductionHypothesis]
      rfl
    | slash =>
      rw [List.dropWhile_cons_of_neg (by decide)]
      rfl

theorem dropSlashes_leads :
    (leads.flatMap Lead.chars ++ path.toList).dropWhile (· = '/') =
      (leads.dropWhile (· = .slash)).flatMap Lead.chars ++ path.toList := by
  induction leads with
  | nil =>
    rw [List.flatMap_nil, List.nil_append, List.dropWhile_nil, List.flatMap_nil, List.nil_append]
    cases shown : path.toList with
    | nil => rfl
    | cons c rest =>
      have noSlash : c ≠ '/' := by
        rintro rfl
        exact plain .slash ⟨rest, shown.symm⟩
      exact List.dropWhile_cons_of_neg (by simpa using noSlash)
  | cons first leads inductionHypothesis =>
    cases first with
    | dot =>
      rw [List.dropWhile_cons_of_neg (by decide)]
      rfl
    | slash =>
      rw [List.dropWhile_cons_of_pos rfl, ← inductionHypothesis]
      rfl

/-- The path that is looked up has in front what the two rounds leave. -/
theorem normalize_lead : normalize (lead leads path) = lead (stripped leads) path := by
  unfold normalize
  rw [toList_lead, dropDots_leads plain, dropSlashes_leads plain]
  rfl

theorem normalize_of_isPlain : normalize path = path := by
  have same := normalize_lead plain []
  rwa [show stripped [] = [] from rfl, lead_nil] at same

omit plain

theorem stripped_eq_nil_iff : stripped leads = [] ↔ DotsFirst leads := by
  unfold stripped
  rw [List.dropWhile_eq_nil_iff]
  constructor
  · intro slashes
    refine ⟨(leads.takeWhile (· = .dot)).length, (leads.dropWhile (· = .dot)).length, ?_⟩
    rw [← List.eq_replicate_of_mem fun first inside => by simpa using List.mem_takeWhile_imp inside,
      ← List.eq_replicate_of_mem fun first inside => by simpa using slashes first inside]
    exact List.takeWhile_append_dropWhile.symm
  · rintro ⟨dots, slashes, rfl⟩ first inside
    rw [List.dropWhile_append_of_pos fun other among => by
      simpa using List.eq_of_mem_replicate among] at inside
    have among := (List.dropWhile_sublist _).mem inside
    simpa using List.eq_of_mem_replicate among

include plain

/-- It is the same key only if nothing is left. -/
theorem normalize_lead_eq_iff : normalize (lead leads path) = normalize path ↔ DotsFirst leads := by
  rw [normalize_lead plain, normalize_of_isPlain plain, ← stripped_eq_nil_iff]
  constructor
  · intro same
    by_contra left
    -- The slashes are gone, so a dot comes first, and no plain path begins with that.
    obtain ⟨first, others, shown⟩ := List.exists_cons_of_ne_nil left
    have solid := List.head?_dropWhile_not (· = Lead.slash) (leads.dropWhile (· = .dot))
    rw [show List.dropWhile _ _ = _ from shown] at solid
    cases first with
    | slash => cases solid
    | dot =>
      refine plain .dot ⟨others.flatMap Lead.chars ++ path.toList, ?_⟩
      conv_rhs => rw [← same, toList_lead, shown]
      rfl
  · intro none
    rw [none, lead_nil]

end Leads

/-- The piece of a path that stands for what is in front of it. -/
def Lead.piece : Lead → String
  | dot => "."
  | slash => ""

theorem splitChars_lead (first : Lead) (rest : List Char) :
    Text.splitChars '/' (first.chars ++ rest) =
      first.piece.toList :: Text.splitChars '/' rest := by
  have noSlash : '/' ∉ first.piece.toList := by cases first <;> decide
  cases first <;> exact Text.splitChars_append noSlash rest

theorem split_lead (leads : List Lead) (path : String) :
    Text.split '/' (lead leads path) = leads.map Lead.piece ++ Text.split '/' path := by
  unfold Text.split
  rw [toList_lead]
  induction leads with
  | nil => rfl
  | cons first leads inductionHypothesis =>
    rw [List.flatMap_cons, List.append_assoc, splitChars_lead, List.map_cons, String.ofList_toList,
      inductionHypothesis, List.map_cons, List.cons_append]

/-- A plain path has a name, if it is not empty. -/
theorem exists_names {path : String} (plain : IsPlain path) (filled : path ≠ "") :
    ∃ name rest, (Text.split '/' path).filter (· ≠ "") = name :: rest := by
  cases shown : path.toList with
  | nil => exact absurd (String.toList_inj.mp shown) filled
  | cons c others =>
    have noSlash : c ≠ '/' := by
      rintro rfl
      exact plain .slash ⟨others, shown.symm⟩
    obtain ⟨letters, more, cut⟩ : ∃ letters more,
        Text.splitChars '/' path.toList = (c :: letters) :: more := by
      rw [shown, Text.splitChars, if_neg noSlash]
      split
      · exact ⟨[], [], rfl⟩
      · exact ⟨_, _, rfl⟩
    have named : String.ofList (c :: letters) ≠ "" := by
      intro empty
      have letterless := congrArg String.toList empty
      rw [String.toList_ofList] at letterless
      cases letterless
    rw [Text.split, cut, List.map_cons]
    exact ⟨_, _, List.filter_cons_of_pos (decide_eq_true named)⟩

end Storage

/-! ### Disks -/

namespace Disk

/-- A dot stays where it is. -/
theorem walk_dot (disk : Disk) (isForDirectory : Bool) (here : Location) (rest : List String) :
    disk.walk isForDirectory here ("." :: rest) = disk.walk isForDirectory here rest := by
  rw [walk, if_pos rfl]

/-- Dots in front of a name change nothing, wherever they are on a way. -/
theorem walk_dots (disk : Disk) (isForDirectory : Bool) (here : Location) {front dots : List String}
    (only : ∀ name ∈ dots, name = ".") {name : String} (rest : List String) :
    disk.walk isForDirectory here (front ++ (dots ++ name :: rest)) =
      disk.walk isForDirectory here (front ++ name :: rest) := by
  induction front generalizing here with
  | nil =>
    rw [List.nil_append, List.nil_append]
    induction dots with
    | nil => rfl
    | cons dot dots inductionHypothesis =>
      obtain ⟨rfl, others⟩ := List.forall_mem_cons.mp only
      rw [List.cons_append, walk_dot]
      exact inductionHypothesis others
  | cons first front inductionHypothesis =>
    have goesOn : (front ++ (dots ++ name :: rest)).isEmpty = (front ++ name :: rest).isEmpty := by
      cases front <;> cases dots <;> rfl
    simp only [List.cons_append, walk, inductionHypothesis, goesOn]

/-- Where only a directory will do, no way ends at a file. -/
theorem walk_ne_file (disk : Disk) (here location : Location) (names : List String) :
    disk.walk true here names ≠ .file location := by
  intro ends
  induction names generalizing here with
  | nil => cases ends
  | cons name rest inductionHypothesis =>
    rw [walk] at ends
    split at ends
    · exact inductionHypothesis _ ends
    split at ends
    · exact inductionHypothesis _ ends
    split at ends
    · cases ends
    dsimp only at ends
    split at ends
    · exact inductionHypothesis _ ends
    split at ends
    · rw [Bool.not_true, Bool.and_false] at ends
      cases ends
    · split at ends <;> cases ends

theorem content?_erase_self (disk : Disk) (location : Location) :
    (disk.erase location).content? location = none :=
  lookup_filter_self disk.files location

/-- A way that ends at a file ends at nothing once the file is taken away. -/
theorem walk_erase {disk : Disk} {location : Location} {isForDirectory : Bool} {here : Location}
    {names : List String} (ends : disk.walk isForDirectory here names = .file location) :
    (disk.erase location).walk isForDirectory here names = .free location := by
  induction names generalizing here with
  | nil => cases ends
  | cons name rest inductionHypothesis =>
    by_cases dot : name = "."
    · rw [walk, if_pos dot] at ends ⊢
      exact inductionHypothesis ends
    by_cases dots : name = ".."
    · rw [walk, if_neg dot, if_pos dots] at ends ⊢
      exact inductionHypothesis ends
    rw [walk_name _ _ _ _ dot dots] at ends ⊢
    by_cases improper : !isName name
    · rw [if_pos improper] at ends
      cases ends
    rw [if_neg improper] at ends ⊢
    have same : (disk.erase location).isDirectory (here ++ [name]) =
        disk.isDirectory (here ++ [name]) := rfl
    rw [same]
    by_cases directory : disk.isDirectory (here ++ [name])
    · rw [if_pos directory] at ends ⊢
      exact inductionHypothesis ends
    rw [if_neg directory] at ends ⊢
    obtain ⟨last, _, rfl⟩ := last_of_ends (Or.inl ends)
    rw [content?_erase_self, Option.isSome_none, if_neg Bool.false_ne_true, if_pos last]

end Disk

/-! ### Paths below a directory -/

namespace Directory

variable (directory : Directory)

/-- What the path that is opened has in front of the one that is asked for. -/
def front : List Char :=
  if directory.root = "" then []
  else if directory.root.endsWith "/" then directory.root.toList
  else directory.root.toList ++ ['/']

theorem toList_opened (path : String) :
    (directory.opened path).toList = directory.front ++ (Storage.normalize path).toList := by
  unfold opened front
  split
  · rfl
  · split
    · rw [String.toList_append]
    · rw [String.toList_append, String.toList_append]
      rfl

/-- There is nothing in front, or a slash stands last there. -/
theorem front_cases : directory.front = [] ∨ ∃ stem, directory.front = stem ++ ['/'] := by
  unfold front
  split
  · exact Or.inl rfl
  · split
    · rename_i ends
      obtain ⟨stem, shown⟩ := Text.endsWith_iff.mp ends
      exact Or.inr ⟨stem, shown.symm⟩
    · exact Or.inr ⟨_, rfl⟩

/-- The names of the root, before those of the path. -/
def frontNames : List String :=
  if directory.front = [] then []
  else ((Text.splitChars '/' directory.front.dropLast).map String.ofList)

/-- The pieces of the path that is opened. -/
theorem split_opened (path : String) :
    Text.split '/' (directory.opened path) =
      directory.frontNames ++ Text.split '/' (Storage.normalize path) := by
  unfold Text.split frontNames
  rw [toList_opened]
  rcases directory.front_cases with none | ⟨stem, shown⟩
  · rw [none, if_pos rfl, List.nil_append, List.nil_append]
  · rw [shown, if_neg (List.append_ne_nil_of_right_ne_nil _ (List.cons_ne_nil _ _)),
      List.dropLast_concat, List.append_assoc, List.singleton_append, Text.splitChars_append_cons,
      List.map_append]

/-- Whether a path starts at the root of the disk is up to the directory, and not to the path that
is asked for. -/
def start : Location :=
  if directory.front.head? = some '/' then [] else directory.current

theorem startOf_opened (path : String) :
    directory.startOf (directory.opened path) = directory.start := by
  have begins : (directory.opened path).startsWith "/" = true ↔
      directory.front.head? = some '/' := by
    rw [String.startsWith_string_iff, toList_opened, show "/".toList = ['/'] from rfl,
      List.singleton_prefix_iff_head?_eq_some]
    rcases directory.front_cases with none | ⟨stem, shown⟩
    · have solid := List.head?_dropWhile_not (· = '/') (Storage.dropDots path.toList)
      rw [none, List.nil_append, Storage.normalize, String.toList_ofList]
      refine ⟨fun begins => ?_, nofun⟩
      rw [begins] at solid
      cases solid
    · rw [shown]
      cases stem <;> simp
  exact if_congr begins rfl rfl

/-- A path is looked up as the same place with dots and slashes in front and without. -/
theorem lookUp_lead {path : String} (plain : Storage.IsPlain path) (filled : path ≠ "")
    (leads : List Storage.Lead) :
    directory.lookUp (directory.opened (Storage.lead leads path)) =
      directory.lookUp (directory.opened path) := by
  obtain ⟨name, rest, named⟩ := Storage.exists_names plain filled
  have proper (leads : List Storage.Lead) :
      directory.opened (Storage.lead leads path) ≠ "" := by
    intro empty
    have letterless := congrArg String.toList empty
    rw [toList_opened, Storage.normalize_lead plain, Storage.toList_lead] at letterless
    obtain ⟨_, letterless⟩ := List.append_eq_nil_iff.mp letterless
    obtain ⟨_, letterless⟩ := List.append_eq_nil_iff.mp letterless
    exact filled (String.toList_inj.mp letterless)
  have dots : ∀ piece ∈ ((Storage.stripped leads).map Storage.Lead.piece).filter (· ≠ ""),
      piece = "." := by
    intro piece inside
    obtain ⟨among, named⟩ := List.mem_filter.mp inside
    obtain ⟨first, _, rfl⟩ := List.mem_map.mp among
    cases first with
    | dot => rfl
    | slash => cases named
  have last : Text.split '/' path ≠ [] := by
    intro none
    rw [none] at named
    cases named
  have properPath := proper []
  rw [Storage.lead_nil] at properPath
  unfold lookUp Disk.find Disk.Way.ofPath
  rw [if_neg (proper leads), if_neg properPath, startOf_opened, startOf_opened]
  dsimp only
  rw [split_opened, split_opened, Storage.normalize_lead plain,
    Storage.normalize_of_isPlain plain, Storage.split_lead, ← List.append_assoc,
    List.getLast?_append_of_ne_nil _ last, List.getLast?_append_of_ne_nil _ last,
    List.filter_append, List.filter_append, List.filter_append, named, List.append_assoc]
  exact Disk.walk_dots _ _ _ dots rest

/-- No file is looked up at a path that is empty but for dots and slashes. -/
theorem filled_of_lookUp {path : String} (plain : Storage.IsPlain path)
    {leads : List Storage.Lead} {location : Location}
    (found : directory.lookUp (directory.opened (Storage.lead leads path)) = .file location) :
    path ≠ "" := by
  rintro rfl
  unfold lookUp at found
  split at found
  · cases found
  · have onlyDirectory :
        (Disk.Way.ofPath (directory.opened (Storage.lead leads ""))).isForDirectory = true := by
      unfold Disk.Way.ofPath
      dsimp only
      rw [split_opened, Storage.normalize_lead plain, Storage.split_lead, ← List.append_assoc,
        show Text.split '/' "" = [""] from rfl, List.getLast?_concat]
      rfl
    unfold Disk.find at found
    rw [onlyDirectory] at found
    exact Disk.walk_ne_file _ _ _ _ found

end Directory

/-! ### The same file -/

namespace Storage

/-- A file that was written as one path is read and found as another one, and when it is taken away
as that one, it is at neither of them any more. -/
structure ReachedAs {σ : Type} [Storage σ] (storage : σ) (written asked : String)
    (content : ByteArray) : Prop where
  read : Storage.read storage asked = .ok content
  has : Storage.has storage asked = .ok true
  delete : ∃ after, Storage.delete storage asked = (.ok (), after) ∧
    Storage.has after written = .ok false ∧ Storage.has after asked = .ok false

/-- What is written as one of two paths is reached as the other one, whatever there was before. -/
def Interchangeable (σ : Type) [Storage σ] (path other : String) : Prop :=
  ∀ (before after : σ) (content : ByteArray),
    (Storage.write before path content = (.ok (), after) →
      ReachedAs after path other content) ∧
    (Storage.write before other content = (.ok (), after) →
      ReachedAs after other path content)

/-- What is done to the file at one of two paths leaves the file at the other one alone. -/
def Apart (σ : Type) [Storage σ] (path other : String) : Prop :=
  ∀ (storage : σ) (content : ByteArray),
    Storage.read (Storage.write storage path content).2 other = Storage.read storage other ∧
    Storage.read (Storage.delete storage path).2 other = Storage.read storage other

end Storage

namespace Directory

/-- A file that is read somewhere is looked up there. -/
theorem lookUp_of_read {directory : Directory} {path : String} {content : ByteArray}
    (found : Storage.read directory path = .ok content) :
    ∃ location, directory.lookUp (directory.opened path) = .file location ∧
      directory.disk.content? location = some content := by
  simp only [Storage.read] at found
  unfold readAt at found
  split at found
  · rename_i location ends
    split at found
    · rename_i held
      cases found
      exact ⟨location, ends, held⟩
    · cases found
  all_goals cases found

/-- A path that is looked up as the same place reaches the same file. -/
theorem reachedAs_of_lookUp {directory : Directory} {written asked : String} {content : ByteArray}
    (found : Storage.read directory written = .ok content)
    (same : ∀ disk, lookUp { directory with disk } (directory.opened asked) =
      lookUp { directory with disk } (directory.opened written)) :
    Storage.ReachedAs directory written asked content := by
  obtain ⟨location, ends, held⟩ := lookUp_of_read found
  have endsAsked : directory.lookUp (directory.opened asked) = .file location :=
    (same directory.disk).trans ends
  have gone : lookUp { directory with disk := directory.disk.erase location }
      (directory.opened written) = .free location := by
    unfold lookUp at ends ⊢
    split at ends
    · cases ends
    · rename_i proper
      rw [if_neg proper]
      exact Disk.walk_erase ends
  refine ⟨?_, ?_, { directory with disk := directory.disk.erase location }, ?_, ?_, ?_⟩
  · show readAt directory asked (directory.opened asked) = .ok content
    unfold readAt
    rw [endsAsked]
    dsimp only
    rw [held]
  · simp only [Storage.has, endsAsked]
  · simp only [Storage.delete, endsAsked]
  · simp only [Storage.has]
    rw [show opened { directory with disk := directory.disk.erase location } written =
      directory.opened written from rfl, gone]
  · simp only [Storage.has]
    rw [show opened { directory with disk := directory.disk.erase location } asked =
      directory.opened asked from rfl, same, gone]

/-- Below a directory it never matters what is in front of a path. -/
theorem interchangeable_lead {path : String} (plain : Storage.IsPlain path)
    (leads : List Storage.Lead) :
    Storage.Interchangeable Directory path (Storage.lead leads path) := by
  have same (filled : path ≠ "") (directory : Directory) (disk : Disk) :
      lookUp { directory with disk } (directory.opened (Storage.lead leads path)) =
        lookUp { directory with disk } (directory.opened path) :=
    lookUp_lead { directory with disk } plain filled leads
  intro before after content
  constructor
  · intro success
    have found := read_of_write success
    obtain ⟨location, ends, _⟩ := lookUp_of_read found
    rw [← Storage.lead_nil path] at ends
    exact reachedAs_of_lookUp found (same (after.filled_of_lookUp plain ends) after)
  · intro success
    have found := read_of_write success
    obtain ⟨location, ends, _⟩ := lookUp_of_read found
    exact reachedAs_of_lookUp found fun disk =>
      (same (after.filled_of_lookUp plain ends) after disk).symm

end Directory

namespace Memory

theorem get?_erase_self (memory : Memory) (path : String) :
    (memory.erase path).get? path = none :=
  lookup_filter_self memory.files (Storage.normalize path)

theorem get?_congr (memory : Memory) {path other : String}
    (same : Storage.normalize other = Storage.normalize path) :
    memory.get? other = memory.get? path := by
  unfold get?
  rw [same]

/-- Paths with one key are one file. -/
theorem reachedAs_of_key {written asked : String}
    (same : Storage.normalize asked = Storage.normalize written) (memory : Memory)
    (content : ByteArray) :
    Storage.ReachedAs (memory.put written content) written asked content := by
  have held : (memory.put written content).get? asked = some content :=
    (get?_congr _ same).trans (memory.get?_put_self written content)
  refine ⟨?_, ?_, (memory.put written content).erase asked, ?_, ?_, ?_⟩
  · simp only [Storage.read, held]
  · simp only [Storage.has, held, Option.isSome_some]
  · simp only [Storage.delete, held, Option.isSome_some, if_true]
  · simp only [Storage.has, get?_congr _ same.symm, get?_erase_self, Option.isSome_none]
  · simp only [Storage.has, get?_erase_self, Option.isSome_none]

/-- Paths with two keys are two files. -/
theorem apart_of_key {path other : String}
    (differs : Storage.normalize other ≠ Storage.normalize path) :
    Storage.Apart Memory path other := by
  intro memory content
  have kept : (memory.erase path).get? other = memory.get? other :=
    lookup_filter_of_ne memory.files differs
  constructor
  · simp only [Storage.write, Storage.read, get?_put_of_ne _ _ differs]
  · simp only [Storage.delete]
    split
    · simp only [Storage.read, kept]
    · rfl

/-- In memory two paths are interchangeable exactly if they have one key. -/
theorem interchangeable_iff {path other : String} :
    Storage.Interchangeable Memory path other ↔
      Storage.normalize other = Storage.normalize path := by
  constructor
  · intro interchangeable
    by_contra differs
    have reached := ((interchangeable {} _ .empty).1 rfl).read
    have kept := (apart_of_key differs {} .empty).1
    cases kept.symm.trans reached
  · intro same before after content
    constructor
    · intro success
      cases success
      exact reachedAs_of_key same before content
    · intro success
      cases success
      exact reachedAs_of_key same.symm before content

end Memory

namespace Storage

/-- Dots and slashes in front of a path never matter below a directory. In memory they do not
matter exactly if the dots come first; if a dot stands behind a slash, the path is another file,
and whatever is done to the one leaves the other alone. -/
theorem leads_interchangeable {path : String} (plain : IsPlain path) (leads : List Lead) :
    Interchangeable Directory path (lead leads path) ∧
    (Interchangeable Memory path (lead leads path) ↔ DotsFirst leads) ∧
    (¬DotsFirst leads → Apart Memory path (lead leads path) ∧
      Apart Memory (lead leads path) path) := by
  have sameKey := normalize_lead_eq_iff plain leads
  refine ⟨Directory.interchangeable_lead plain leads, Memory.interchangeable_iff.trans sameKey,
    fun mixed => ⟨?_, ?_⟩⟩
  · exact Memory.apart_of_key fun same => mixed (sameKey.mp same)
  · exact Memory.apart_of_key fun same => mixed (sameKey.mp same.symm)

theorem isPlain_a : IsPlain "a" := by
  intro lead
  cases lead <;> decide

/-- A slash and a dot in front of a path do not matter below a directory, and a file in memory is
not found behind them. -/
theorem leads_interchangeable_slashDot :
    IsPlain "a" ∧ Interchangeable Directory "a" (lead [.slash, .dot] "a") ∧
      Apart Memory "a" (lead [.slash, .dot] "a") ∧
      Interchangeable Memory "a" (lead [.dot, .slash] "a") := by
  have mixed : ¬DotsFirst [.slash, .dot] := by
    rw [← stripped_eq_nil_iff]
    decide
  have sorted : DotsFirst [.dot, .slash] := ⟨1, 1, rfl⟩
  exact ⟨isPlain_a, (leads_interchangeable isPlain_a [.slash, .dot]).1,
    ((leads_interchangeable isPlain_a [.slash, .dot]).2.2 mixed).1,
    (leads_interchangeable isPlain_a [.dot, .slash]).2.1.mpr sorted⟩

/-- What is in front of a path matters: a file that was written as `a` is not there as `/./a`, in
memory. -/
theorem not_interchangeable_slashDot :
    ¬∀ path, IsPlain path → ∀ leads : List Lead,
      Interchangeable Directory path (lead leads path) ∧
        Interchangeable Memory path (lead leads path) := by
  intro always
  have reached := (((always "a" isPlain_a [.slash, .dot]).2 {} _ .empty).1 rfl).read
  cases reached

end Storage

end ProxyProfile
