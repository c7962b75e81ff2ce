/-
This file says what a computation does that calls code.

Such a computation is run from the calls made before it; it gives a result and
the calls made so far. One equation opens a single call, another one a
computation behind another. Whatever else is proved here follows from the two:
the calls made before stay as they are, and what holds of the calls of two
computations holds of the calls of both together; the same goes for the values
that they give and for the errors that they can end with.
-/

import ProxyProfile.Error

namespace ProxyProfile

/-! ### Opening a computation -/

namespace Script.Runner

/-- How a call ends in time, given the calls before it. -/
def reply (runner : Script.Runner) (history : List Script.Call) (call : Script.Call) :
    Except Script.Failure Json.Value :=
  (runner.engine.outcome history call).within runner.deadline

theorem run_call (runner : Script.Runner) (call : Script.Call) (history : List Script.Call) :
    (runner.call call).run.run history = (runner.reply history call, history ++ [call]) := by
  have got : (get : Script.Run Script.Failure (List Script.Call)).run.run history =
      pure (.ok history, history) := rfl
  unfold Script.Runner.call reply
  rw [ExceptT.run_bind, StateT.run_bind, got, pure_bind]
  dsimp only
  rw [ExceptT.run_bind, StateT.run_bind]
  cases (runner.engine.outcome history call).within runner.deadline <;> rfl

/-- A call is noted down behind those before it and gives what is replied to it. -/
theorem run_ask (runner : Script.Runner) (call : Script.Call)
    (explain : Script.Failure → Error) (history : List Script.Call) :
    (runner.ask call explain).run.run history =
      ((runner.reply history call).mapError explain, history ++ [call]) := by
  show (fun both : Except Script.Failure Json.Value × List Script.Call =>
    (both.1.mapError explain, both.2)) ((runner.call call).run.run history) = _
  rw [run_call]

end Script.Runner

namespace Run

variable {α β : Type}

theorem run_bind (run : Run α) (next : α → Run β) (history : List Script.Call) :
    (run >>= next).run.run history =
      match run.run.run history with
      | (.ok value, calls) => (next value).run.run calls
      | (.error error, calls) => (.error error, calls) := by
  rw [ExceptT.run_bind, StateT.run_bind]
  generalize run.run.run history = both
  obtain ⟨result, calls⟩ := both
  cases result <;> rfl

theorem run_lift (result : Except Error α) (history : List Script.Call) :
    (liftM result : Run α).run.run history = (result, history) := by
  cases result <;> rfl

/-! ### The calls of a computation -/

/-- Whatever was called before, a computation adds calls of a kind to it. -/
def Makes (Allowed : Script.Call → Prop) (run : Run α) : Prop :=
  ∀ history, ∃ made, (run.run.run history).2 = history ++ made ∧ ∀ call ∈ made, Allowed call

variable {Allowed : Script.Call → Prop}

theorem makes_nothing {run : Run α}
    (silent : ∀ history, (run.run.run history).2 = history) : Makes Allowed run := by
  intro history
  refine ⟨[], ?_, fun call among => absurd among List.not_mem_nil⟩
  rw [silent, List.append_nil]

theorem makes_pure (value : α) : Makes Allowed (pure value) :=
  makes_nothing fun _ => rfl

theorem makes_throw (error : Error) : Makes Allowed (throw error : Run α) :=
  makes_nothing fun _ => rfl

theorem makes_lift (result : Except Error α) : Makes Allowed (liftM result) :=
  makes_nothing fun history => by rw [run_lift]

theorem makes_ask (runner : Script.Runner) {call : Script.Call}
    (explain : Script.Failure → Error) (allowed : Allowed call) :
    Makes Allowed (runner.ask call explain) := by
  intro history
  refine ⟨[call], ?_, fun other among => ?_⟩
  · rw [Script.Runner.run_ask]
  · rw [List.mem_singleton.mp among]
    exact allowed

theorem makes_bind {run : Run α} {next : α → Run β} (first : Makes Allowed run)
    (second : ∀ value, Makes Allowed (next value)) : Makes Allowed (run >>= next) := by
  intro history
  obtain ⟨made, called, allowed⟩ := first history
  rw [run_bind]
  generalize run.run.run history = both at called
  obtain ⟨result, calls⟩ := both
  obtain rfl : calls = history ++ made := called
  cases result with
  | error error => exact ⟨made, rfl, allowed⟩
  | ok value =>
    obtain ⟨more, calledThen, allowedThen⟩ := second value (history ++ made)
    refine ⟨made ++ more, ?_, fun call among => ?_⟩
    · rw [← List.append_assoc]
      exact calledThen
    · rcases List.mem_append.mp among with early | late
      · exact allowed call early
      · exact allowedThen call late

/-! ### The value of a computation -/

/-- Whatever was called before, a computation that does not fail gives a value of a kind. -/
def Yields (Good : α → Prop) (run : Run α) : Prop :=
  ∀ history calls value, run.run.run history = (.ok value, calls) → Good value

variable {Good : α → Prop} {Better : β → Prop}

theorem yields_anything (run : Run α) : Yields (fun _ => True) run :=
  fun _ _ _ _ => trivial

theorem yields_pure {value : α} (good : Good value) : Yields Good (pure value) := by
  intro history calls given success
  cases success
  exact good

theorem yields_throw (error : Error) : Yields Good (throw error : Run α) :=
  fun _ _ _ success => nomatch success

theorem yields_lift {result : Except Error α} (good : ∀ value, result = .ok value → Good value) :
    Yields Good (liftM result) := by
  intro history calls value success
  rw [run_lift] at success
  exact good value (Prod.mk.inj success).1

theorem yields_bind {run : Run α} {next : α → Run β} (first : Yields Good run)
    (second : ∀ value, Good value → Yields Better (next value)) : Yields Better (run >>= next) := by
  intro history calls value success
  rw [run_bind] at success
  cases done : run.run.run history with
  | mk result between =>
    rw [done] at success
    cases result with
    | error error => cases success
    | ok given => exact second given (first _ _ _ done) _ _ _ success

/-! ### The errors of a computation -/

/-- Whatever was called before, a computation that fails does so with an error of a kind. -/
def FailsWith (Possible : Error → Prop) (run : Run α) : Prop :=
  ∀ history calls error, run.run.run history = (.error error, calls) → Possible error

variable {Possible : Error → Prop}

theorem failsWith_pure (value : α) : FailsWith Possible (pure value) :=
  fun _ _ _ failed => nomatch failed

theorem failsWith_throw {error : Error} (possible : Possible error) :
    FailsWith Possible (throw error : Run α) := by
  intro history calls reason failed
  cases failed
  exact possible

theorem failsWith_lift {result : Except Error α}
    (possible : ∀ error, result = .error error → Possible error) :
    FailsWith Possible (liftM result) := by
  intro history calls error failed
  rw [run_lift] at failed
  exact possible error (Prod.mk.inj failed).1

theorem failsWith_ask (runner : Script.Runner) (call : Script.Call)
    {explain : Script.Failure → Error} (possible : ∀ failure, Possible (explain failure)) :
    FailsWith Possible (runner.ask call explain) := by
  intro history calls error failed
  rw [Script.Runner.run_ask] at failed
  cases replied : runner.reply history call with
  | error failure =>
    rw [replied] at failed
    cases failed
    exact possible failure
  | ok answer =>
    rw [replied] at failed
    cases failed

theorem failsWith_bind {run : Run α} {next : α → Run β} (first : FailsWith Possible run)
    (second : ∀ value, FailsWith Possible (next value)) :
    FailsWith Possible (run >>= next) := by
  intro history calls error failed
  rw [run_bind] at failed
  cases done : run.run.run history with
  | mk result between =>
    rw [done] at failed
    cases result with
    | error reason =>
      cases failed
      exact first _ _ _ done
    | ok given => exact second given _ _ _ failed

/-- An error that the first of two computations never has is the error of the second one, behind a
value of the first. -/
theorem error_bind_iff {run : Run α} {error : Error} (never : FailsWith (· ≠ error) run)
    (next : α → Run β) (history : List Script.Call) :
    ((run >>= next).run.run history).1 = .error error ↔
      ∃ value calls, run.run.run history = (.ok value, calls) ∧
        ((next value).run.run calls).1 = .error error := by
  rw [run_bind]
  cases done : run.run.run history with
  | mk result calls =>
    cases result with
    | error reason =>
      constructor
      · intro failed
        exact absurd (Except.error.inj failed) (never _ _ _ done)
      · rintro ⟨_, _, same, _⟩
        cases same
    | ok value =>
      constructor
      · intro failed
        exact ⟨value, calls, rfl, failed⟩
      · rintro ⟨_, _, same, failed⟩
        cases same
        exact failed

end Run

/-! ### Changes in place -/

namespace Upkeep

variable {σ α β : Type} (state : σ) (history : List Script.Call)

/-- A look at the state in front of a change leaves it as it is, also when it fails. -/
theorem run_look_bind (run : σ → Run α) (next : α → Upkeep σ β) :
    ((look run >>= next).run.run state).run history =
      match (run state).run.run history with
      | (.ok value, calls) => ((next value).run.run state).run calls
      | (.error error, calls) => ((.error error, state), calls) := by
  have looked : ((look run).run.run state).run history =
      ((((run state).run.run history).1, state), ((run state).run.run history).2) := rfl
  rw [ExceptT.run_bind, StateT.run_bind, StateT.run_bind, looked]
  generalize (run state).run.run history = both
  obtain ⟨result, calls⟩ := both
  cases result <;> rfl

theorem run_get_bind (next : σ → Upkeep σ β) :
    (((get : Upkeep σ σ) >>= next).run.run state).run history =
      ((next state).run.run state).run history :=
  rfl

end Upkeep

end ProxyProfile
