/-
This file says what a part of the compilation leaves behind when it succeeds.

What a part gives does not depend on what was noted down before it, and what it
notes down is told by the references that it resolves: exactly the synthetic
outbounds among them, in order. `Settles` says both at once, and it follows the
recursion of the encoders: a part behind another one settles the references of
the first and then its own, and the parts of a list settle theirs one after the
other. Which tag a reference reaches is said here without the compilation, so
that what the encoders write can be compared with it.
-/

import Mathlib.Data.List.Forall2
import ProxyProfile.Kernel.Scope

namespace ProxyProfile.Kernel

/-! ### Noting down -/

/-- Notes a synthetic outbound down behind others, unless it is among them. -/
def note (noted : List Synthetic) (synthetic : Synthetic) : List Synthetic :=
  if noted.contains synthetic then noted else noted ++ [synthetic]

/-- Notes some synthetic outbounds down, one after the other. -/
def noteAll (noted more : List Synthetic) : List Synthetic :=
  more.foldl note noted

theorem noteAll_append (noted first second : List Synthetic) :
    noteAll noted (first ++ second) = noteAll (noteAll noted first) second :=
  List.foldl_append

theorem mem_note (noted : List Synthetic) (synthetic other : Synthetic) :
    other ∈ note noted synthetic ↔ other ∈ noted ∨ other = synthetic := by
  unfold note
  split
  · rename_i present
    have member : synthetic ∈ noted := by simpa using present
    constructor
    · exact Or.inl
    · rintro (old | rfl)
      · exact old
      · exact member
  · simp

/-- What was noted down stays, and everything mentioned is noted down. -/
theorem mem_noteAll (noted more : List Synthetic) (synthetic : Synthetic) :
    synthetic ∈ noteAll noted more ↔ synthetic ∈ noted ∨ synthetic ∈ more := by
  induction more generalizing noted with
  | nil => simp [noteAll]
  | cons first rest inductionHypothesis =>
    show synthetic ∈ noteAll (note noted first) rest ↔ _
    rw [inductionHypothesis, mem_note, List.mem_cons, or_assoc]

/-! ### What references reach -/

namespace Scope

/-- The synthetic outbound that an id leads to, unless a declared outbound has the id. -/
def synthetic? (scope : Scope) (id : String) : Option Synthetic :=
  if (scope.outboundTag? id).isSome then none else Synthetic.ofId? id

/-- The tag of the outbound that a reference reaches: the first declared one with the id, or
else the synthetic one. The empty id reaches nothing. -/
def reachedOutbound? (scope : Scope) (id : String) : Option String :=
  if id = "" then none
  else (scope.outboundTag? id).or ((Synthetic.ofId? id).map Synthetic.tag)

/-- The tag of the name server that a reference reaches. -/
def reachedDnsServer? (scope : Scope) (id : String) : Option String :=
  if id = "" then none else scope.dnsServerTag? id

/-- The tag of the rule-set that a reference reaches. -/
def reachedRuleSet? (scope : Scope) (id : String) : Option String :=
  if id = "" then none else scope.ruleSetTag? id

end Scope

/-! ### Settling -/

section Settling

variable {α β : Type} (scope : Scope)

/-- Every successful run of a part notes down exactly the synthetic outbounds among some
references, in order, and gives a value of which something holds. -/
def Settles (part : Compile α) (references : List String) (Holds : α → Prop) : Prop :=
  ∀ noted value after, part.run noted = .ok (value, after) →
    after = noteAll noted (references.filterMap scope.synthetic?) ∧ Holds value

variable {scope}

theorem Settles.imp {part : Compile α} {references : List String} {Holds Follows : α → Prop}
    (settles : Settles scope part references Holds)
    (follows : ∀ value, Holds value → Follows value) :
    Settles scope part references Follows := by
  intro noted value after success
  obtain ⟨mentions, holds⟩ := settles noted value after success
  exact ⟨mentions, follows value holds⟩

/-- What two arguments say of a part holds at once. -/
theorem Settles.and {part : Compile α} {references : List String} {Holds Also : α → Prop}
    (settles : Settles scope part references Holds) (also : Settles scope part references Also) :
    Settles scope part references fun value => Holds value ∧ Also value := by
  intro noted value after success
  obtain ⟨mentions, holds⟩ := settles noted value after success
  exact ⟨mentions, holds, (also noted value after success).2⟩

theorem settles_pure {Holds : α → Prop} (value : α) (holds : Holds value) :
    Settles scope (pure value) [] Holds := by
  intro noted given after success
  cases success
  exact ⟨rfl, holds⟩

theorem settles_throw {references : List String} {Holds : α → Prop} (error : Error) :
    Settles scope (throw error) references Holds := by
  intro noted value after success
  cases success

/-- A computation that does not resolve anything settles no reference. -/
theorem settles_lift (result : Except Error α) :
    Settles scope (liftM result) [] (fun value => result = .ok value) := by
  intro noted value after success
  cases result with
  | error error => cases success
  | ok given =>
    cases success
    exact ⟨rfl, rfl⟩

/-- A part and the next one succeed together only if each of them does. -/
theorem run_bind_ok {part : Compile α} {next : α → Compile β} {noted after : List Synthetic}
    {value : β} (success : (part >>= next).run noted = .ok (value, after)) :
    ∃ given between, part.run noted = .ok (given, between) ∧
      (next given).run between = .ok (value, after) := by
  rw [StateT.run_bind] at success
  cases outcome : part.run noted with
  | error error =>
    rw [outcome] at success
    cases success
  | ok both =>
    rw [outcome] at success
    exact ⟨both.1, both.2, rfl, success⟩

/-- Parts that follow each other settle the references of the first one and then those of
the second one. -/
theorem settles_bind {part : Compile α} {next : α → Compile β} {references more : List String}
    {Holds : α → Prop} {Follows : β → Prop} (first : Settles scope part references Holds)
    (second : ∀ value, Holds value → Settles scope (next value) more Follows) :
    Settles scope (part >>= next) (references ++ more) Follows := by
  intro noted value after success
  obtain ⟨middle, between, outcome, continued⟩ := run_bind_ok success
  obtain ⟨mentions, holds⟩ := first noted middle between outcome
  obtain ⟨rest, follows⟩ := second middle holds between value after continued
  refine ⟨?_, follows⟩
  rw [rest, mentions, List.filterMap_append, noteAll_append]

/-- A part in front of one that resolves nothing settles its own references. -/
theorem settles_before {part : Compile α} {next : α → Compile β} {references : List String}
    {Holds : α → Prop} {Follows : β → Prop} (first : Settles scope part references Holds)
    (second : ∀ value, Holds value → Settles scope (next value) [] Follows) :
    Settles scope (part >>= next) references Follows := by
  rw [← List.append_nil references]
  exact settles_bind first second

/-- A part behind one that resolves nothing settles its own references. -/
theorem settles_after {part : Compile α} {next : α → Compile β} {references : List String}
    {Holds : α → Prop} {Follows : β → Prop} (first : Settles scope part [] Holds)
    (second : ∀ value, Holds value → Settles scope (next value) references Follows) :
    Settles scope (part >>= next) references Follows :=
  settles_bind first second

/-- The parts of a list settle their references one after the other. -/
theorem settles_mapM {part : α → Compile β} {references : α → List String}
    {Holds : α → β → Prop} (items : List α)
    (each : ∀ item ∈ items, Settles scope (part item) (references item) (Holds item)) :
    Settles scope (items.mapM part) (items.flatMap references) (List.Forall₂ Holds items) := by
  induction items with
  | nil => exact settles_pure [] List.Forall₂.nil
  | cons item rest inductionHypothesis =>
    have head := each item List.mem_cons_self
    have tail := inductionHypothesis fun other member => each other (List.mem_cons_of_mem _ member)
    rw [List.mapM_cons, List.flatMap_cons]
    refine settles_bind head fun first holds => settles_before tail fun others follow => ?_
    exact settles_pure _ (List.Forall₂.cons holds follow)

end Settling

/-! ### References -/

variable {α : Type}

theorem settles_miss (scope : Scope) (kind : ReferenceKind) (id : String) :
    Settles scope (scope.miss kind id) [] (· = none) := by
  unfold Scope.miss
  cases scope.policy with
  | lenient => exact settles_pure none rfl
  | strict => exact settles_throw _

theorem settles_resolve (scope : Scope) (kind : ReferenceKind) (id : String)
    (found : Option String) :
    Settles scope (scope.resolve kind id found) []
      (· = if id = "" then none else found) := by
  unfold Scope.resolve
  by_cases empty : id = ""
  · simp only [if_pos empty]
    exact settles_pure none rfl
  · simp only [if_neg empty]
    cases found with
    | some tag => exact settles_pure (some tag) rfl
    | none => exact settles_miss scope kind id

/-- A reference to a name server gives the tag that it reaches. -/
theorem settles_dnsServer (scope : Scope) (id : String) :
    Settles scope (scope.dnsServer id) [] (· = scope.reachedDnsServer? id) :=
  settles_resolve scope .dnsServer id (scope.dnsServerTag? id)

/-- A reference to a rule-set gives the tag that it reaches. -/
theorem settles_ruleSet (scope : Scope) (id : String) :
    Settles scope (scope.ruleSet id) [] (· = scope.reachedRuleSet? id) :=
  settles_resolve scope .ruleSet id (scope.ruleSetTag? id)

theorem Synthetic.ofId?_empty : Synthetic.ofId? "" = none := by
  decide

theorem settles_of_not_synthetic {scope : Scope} {id : String} {part : Compile α}
    {Holds : α → Prop} (plain : scope.synthetic? id = none)
    (settles : Settles scope part [] Holds) : Settles scope part [id] Holds := by
  have nothing : [id].filterMap scope.synthetic? = [] := by
    rw [List.filterMap_cons_none plain, List.filterMap_nil]
  intro noted value after success
  rw [nothing]
  exact settles noted value after success

/-- A reference to an outbound gives the tag that it reaches, and notes the outbound down if
it is a synthetic one. -/
theorem settles_outbound (scope : Scope) (id : String) :
    Settles scope (scope.outbound id) [id] (· = scope.reachedOutbound? id) := by
  unfold Scope.outbound Scope.reachedOutbound?
  cases declared : scope.outboundTag? id with
  | some tag =>
    have plain : scope.synthetic? id = none := by simp [Scope.synthetic?, declared]
    exact settles_of_not_synthetic plain (settles_resolve scope .outbound id (some tag))
  | none =>
    cases named : Synthetic.ofId? id with
    | none =>
      have plain : scope.synthetic? id = none := by simp [Scope.synthetic?, declared, named]
      exact settles_of_not_synthetic plain (settles_resolve scope .outbound id none)
    | some synthetic =>
      have mentioned : scope.synthetic? id = some synthetic := by
        simp [Scope.synthetic?, declared, named]
      have given : id ≠ "" := by
        rintro rfl
        rw [Synthetic.ofId?_empty] at named
        cases named
      intro noted value after success
      cases success
      rw [List.filterMap_cons_some mentioned, if_neg given]
      exact ⟨rfl, rfl⟩

end ProxyProfile.Kernel
