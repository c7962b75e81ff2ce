/-
This file says under which path the kernel looks for the file of a rule-set.

The kernel runs one directory below the one that stored paths are relative to, so a path
in the `data/` directory has to lead up first. Paths are data of the user: they may be
absolute, and directories elsewhere may end in `data`. What is rewritten is the first
occurrence of `data/` in a path and not only one at its beginning. So a path is the one
that is meant exactly if it begins with `data/` or has no `data/` in it at all; in any
other one a directory gets lost and the kernel is led somewhere else.
-/

import Mathlib.Data.List.Forall2
import Mathlib.Data.List.Infix
import ProxyProfile.Proofs.Dangling

namespace ProxyProfile

namespace Text

/-! ### First occurrences -/

/-- The two sides of a mark in a text, where nothing before is an occurrence of it. -/
structure FirstAt (mark text before after : List Char) : Prop where
  parts : text = before ++ mark ++ after
  first : ∀ earlier later, text = earlier ++ mark ++ later → before.length ≤ earlier.length

theorem firstAt_of_cutAt? {mark text before after : List Char}
    (cut : cutAt? mark text = some (before, after)) : FirstAt mark text before after := by
  induction text generalizing before with
  | nil =>
    obtain ⟨empty, equal⟩ := Option.ite_none_right_eq_some.mp cut
    cases equal
    rw [List.isEmpty_iff.mp empty]
    exact ⟨rfl, fun _ _ _ => Nat.zero_le _⟩
  | cons c rest inductionHypothesis =>
    rw [cutAt?] at cut
    split at cut
    · rename_i tail dropped
      cases cut
      exact ⟨dropStart?_eq_some_iff.mp dropped, fun _ _ _ => Nat.zero_le _⟩
    · rename_i missing
      obtain ⟨⟨behind, _⟩, found, equal⟩ := Option.map_eq_some_iff.mp cut
      cases equal
      obtain ⟨parts, first⟩ := inductionHypothesis found
      refine ⟨congrArg (c :: ·) parts, fun earlier later split => ?_⟩
      cases earlier with
      | nil =>
        rw [List.nil_append, ← dropStart?_eq_some_iff, missing] at split
        cases split
      | cons d earlier =>
        obtain ⟨_, split⟩ := List.cons_eq_cons.mp split
        exact Nat.succ_le_succ (first earlier later split)

theorem not_infix_of_cutAt? {mark text : List Char} (cut : cutAt? mark text = none) :
    ¬mark <:+: text := by
  induction text with
  | nil =>
    intro occurs
    rw [List.infix_nil.mp occurs] at cut
    cases cut
  | cons c rest inductionHypothesis =>
    rw [cutAt?] at cut
    split at cut
    · cases cut
    · rename_i missing
      rw [List.infix_cons_iff, ← dropStart?_isSome_iff, missing]
      rintro (some | behind)
      · cases some
      · exact inductionHypothesis (Option.map_eq_none_iff.mp cut) behind

end Text

namespace Kernel

/-! ### Paths -/

/-- The directory that stored paths begin with. -/
def dataDirectory : List Char :=
  "data/".toList

/-- The directory above. -/
def upwards : List Char :=
  "../".toList

/-- The path that is meant: it leads up instead of into the data directory, and everything behind
that stays as it is. Other paths stay altogether. -/
def rebased (path : String) : String :=
  match Text.dropStart? dataDirectory path.toList with
  | some rest => String.ofList (upwards ++ rest)
  | none => path

/-- A path has the data directory at its beginning, or nothing that is spelled like it. -/
def IsPlainPath (path : String) : Prop :=
  dataDirectory <+: path.toList ∨ ¬dataDirectory <:+: path.toList

/-- How a path is rewritten. -/
inductive Moves (old new : String) : Prop
  /-- Nothing in it is spelled like the data directory. -/
  | kept (nowhere : ¬dataDirectory <:+: old.toList) (same : new = old)
  /-- What is first spelled like the data directory leads up, wherever it is. -/
  | moved (before after : List Char) (first : Text.FirstAt dataDirectory old.toList before after)
    (same : new = String.ofList (before ++ upwards ++ after))

theorem moves_kernelPath (path : String) : Moves path (kernelPath path) := by
  unfold kernelPath Text.replaceFirst
  cases cut : Text.cutAt? "data/".toList path.toList with
  | none => exact .kept (Text.not_infix_of_cutAt? cut) rfl
  | some sides => exact .moved sides.1 sides.2 (Text.firstAt_of_cutAt? cut) rfl

theorem rebased_of_append {path : String} {rest : List Char}
    (begins : path.toList = dataDirectory ++ rest) :
    rebased path = String.ofList (upwards ++ rest) := by
  unfold rebased
  rw [Text.dropStart?_eq_some_iff.mpr begins]

theorem rebased_of_elsewhere {path : String} (elsewhere : ¬dataDirectory <+: path.toList) :
    rebased path = path := by
  unfold rebased
  split
  · rename_i rest dropped
    exact absurd ⟨rest, (Text.dropStart?_eq_some_iff.mp dropped).symm⟩ elsewhere
  · rfl

/-- A path is rewritten as it is meant exactly if it is a plain one: in any other path a directory
is replaced that should stay. -/
theorem Moves.eq_rebased_iff {old new : String} (moves : Moves old new) :
    new = rebased old ↔ IsPlainPath old := by
  cases moves with
  | kept nowhere same =>
    have elsewhere : ¬dataDirectory <+: old.toList := fun begins => nowhere begins.isInfix
    exact iff_of_true (same.trans (rebased_of_elsewhere elsewhere).symm) (.inr nowhere)
  | moved before after first same =>
    by_cases leading : dataDirectory <+: old.toList
    · obtain ⟨rest, begins⟩ := leading
      -- The occurrence at the beginning is the first one.
      obtain rfl : before = [] :=
        List.eq_nil_of_length_eq_zero (Nat.le_zero.mp (first.first [] rest begins.symm))
      have parts := first.parts
      rw [List.nil_append] at parts
      exact iff_of_true (same.trans (rebased_of_append parts).symm) (.inl ⟨rest, begins⟩)
    · have occurs : dataDirectory <:+: old.toList := ⟨before, after, first.parts.symm⟩
      refine iff_of_false (fun meant => ?_) (not_or.mpr ⟨leading, not_not.mpr occurs⟩)
      rw [rebased_of_elsewhere leading] at meant
      -- The new path is shorter.
      have lengths := congrArg (fun path => path.toList.length) (same.symm.trans meant)
      simp only [String.toList_ofList, first.parts, List.length_append] at lengths
      exact absurd lengths (by simp [upwards, dataDirectory])

/-! ### Rule-sets in files -/

/-- The path that is written for an id: none if no file has it, and else one that the path of the
first such file becomes. -/
structure WritesPath (Becomes : String → String → Prop) (files : List RuleSetFile) (id : String)
    (written : Option Json.Value) : Prop where
  missing : (∀ file ∈ files, file.id ≠ id) → written = none
  found : ∀ front file behind, files = front ++ file :: behind →
    (∀ other ∈ front, other.id ≠ id) → file.id = id →
    ∃ path, written = some (.string path) ∧ Becomes file.path path

/-- The entries of rule-sets in files have the paths of the files. -/
def WritePaths (Becomes : String → String → Prop) (files : List RuleSetFile)
    (ruleSets : List RuleSet) (entries : List Json.Value) : Prop :=
  List.Forall₂ (fun ruleSet entry => ruleSet.type = .local →
    WritesPath Becomes files ruleSet.path (entry.get? "path")) ruleSets entries

theorem writesPath_find? (files : List RuleSetFile) (id : String) :
    WritesPath Moves files id ((files.find? fun file => file.id = id).map fun file =>
      .string (kernelPath file.path)) where
  missing none := by
    rw [List.find?_eq_none.mpr fun file among => by simpa using none file among]
    rfl
  found front file behind split earlier named := by
    have first : files.find? (fun file => file.id = id) = some file := by
      rw [split, List.find?_append, List.find?_eq_none.mpr fun other among => by
        simpa using earlier other among, List.find?_cons_of_pos (by simpa using named)]
      rfl
    rw [first]
    exact ⟨kernelPath file.path, rfl, moves_kernelPath file.path⟩

theorem WritesPath.imp {Becomes Also : String → String → Prop} {files : List RuleSetFile}
    {id : String} {written : Option Json.Value} (writes : WritesPath Becomes files id written)
    (follows : ∀ old new, Becomes old new → Also old new) : WritesPath Also files id written where
  missing := writes.missing
  found front file behind split earlier named := by
    obtain ⟨path, equal, becomes⟩ := writes.found front file behind split earlier named
    exact ⟨path, equal, follows _ _ becomes⟩

theorem settles_encodeRuleSet_path (scope : Scope) (files : List RuleSetFile) (ruleSet : RuleSet) :
    Settles scope (encodeRuleSet scope files ruleSet) (ruleSetReferences ruleSet) fun entry =>
      ruleSet.type = .local → WritesPath Moves files ruleSet.path (entry.get? "path") := by
  by_cases kind : ruleSet.type = .local
  · have references : ruleSetReferences ruleSet = [] := by
      unfold ruleSetReferences
      rw [kind]
      rfl
    rw [references]
    unfold encodeRuleSet
    rw [kind]
    refine settles_pure _ fun _ => ?_
    show WritesPath Moves files ruleSet.path ((Json.Object.insert _ "format" _).get? "path")
    rw [Json.Object.get?_insert_of_ne _ _ (by decide), get?_insertSome_of_none rfl]
    exact writesPath_find? files ruleSet.path
  · exact (settles_encodeRuleSet scope files ruleSet).imp fun _ _ other => absurd other kind

/-- The path of the first file with its id stands in the entry of every rule-set in a file, and no
path where there is none. What is first spelled like the data directory in a path leads up, and so
the path is the one that is meant exactly if it is a plain one. -/
theorem writePaths_encodeRoute {scope : Scope} {files : List RuleSetFile} {route : Route}
    {noted after : List Synthetic} {document : Json.Value}
    (success : (encodeRoute scope files route).run noted = .ok (document, after)) :
    WritePaths (fun old new => Moves old new ∧ (new = rebased old ↔ IsPlainPath old)) files
      route.ruleSets (document.itemsAt ["rule_set"]) := by
  have written := (settles_encodeRoute_of scope files route
    (settles_encodeRuleSet_path scope files) noted document after success).2.2.1
  exact written.imp fun _ _ writes kind => (writes kind).imp fun _ _ moves =>
    ⟨moves, moves.eq_rebased_iff⟩

/-- Rule-sets in a file of the data directory, in one of the user's own, and in none. -/
def scatteredRoute : Route where
  ruleSets := [
    { id := "cn", tag := "cn", format := "binary", path := "file-cn" },
    { id := "own", tag := "own", format := "binary", path := "file-own" },
    { id := "gone", tag := "gone", format := "binary", path := "file-gone" }]

/-- These files. -/
def scatteredFiles : List RuleSetFile := [
  { id := "file-cn", path := "data/rulesets/data/cn.srs" },
  { id := "file-own", path := "/srv/mydata/own.srs" }]

theorem encodeRoute_scattered : ∃ document,
    (encodeRoute ⟨{}, .strict⟩ scatteredFiles scatteredRoute).run [] = .ok (document, []) ∧
      (document.itemsAt ["rule_set"]).map (·.get? "path") =
        [some (.string "../rulesets/data/cn.srs"), some (.string "/srv/my../own.srs"), none] :=
  ⟨_, rfl, rfl⟩

theorem writePaths_encodeRoute_scattered : ∃ document,
    (encodeRoute ⟨{}, .strict⟩ scatteredFiles scatteredRoute).run [] = .ok (document, []) ∧
      WritePaths (fun old new => Moves old new ∧ (new = rebased old ↔ IsPlainPath old))
        scatteredFiles scatteredRoute.ruleSets (document.itemsAt ["rule_set"]) := by
  obtain ⟨document, success, _⟩ := encodeRoute_scattered
  exact ⟨document, success, writePaths_encodeRoute success⟩

/-- The file of the user's own is looked for in a directory that is not there. -/
theorem not_writePaths_rebased : ∃ document,
    (encodeRoute ⟨{}, .strict⟩ scatteredFiles scatteredRoute).run [] = .ok (document, []) ∧
      ¬WritePaths (fun old new => new = rebased old) scatteredFiles scatteredRoute.ruleSets
        (document.itemsAt ["rule_set"]) := by
  obtain ⟨document, success, paths⟩ := encodeRoute_scattered
  refine ⟨document, success, fun promised => ?_⟩
  generalize document.itemsAt ["rule_set"] = entries at paths promised
  obtain _ | ⟨_, _ | ⟨own, _⟩⟩ := promised
  have earlier : ∀ other ∈ scatteredFiles.take 1, other.id ≠ "file-own" := by decide
  obtain ⟨path, written, meant⟩ := (own rfl).found _ _ [] rfl earlier rfl
  simp only [List.map_cons, List.cons.injEq, written, Option.some.injEq,
    Json.Value.string.injEq] at paths
  have other : rebased "/srv/mydata/own.srs" ≠ "/srv/my../own.srs" := by decide
  exact other (meant.symm.trans paths.2.1)

end Kernel

end ProxyProfile
