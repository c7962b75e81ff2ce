/-
This file says how the library calls code that is not its own.

Plugins and scripts are reached through an engine, and an engine is nothing but
what it answers: it may remember every call that was made before, so its answer
depends on them. A call that does not come back runs into a deadline. Whatever
happens, the calls made so far are kept, in order.
-/

import ProxyProfile.Decimal.Digits
import ProxyProfile.Json.Value

namespace ProxyProfile

/-! ### Durations -/

/-- A length of time in milliseconds. -/
abbrev Duration := Nat

/-- The text of a length of time: in milliseconds below one second, else in seconds with as
many places as needed. -/
def Duration.text (duration : Duration) : String :=
  if duration = 0 then "0ns"
  else if duration < 1000 then Decimal.text duration ++ "ms"
  else
    let rest := Decimal.digits (1000 + duration % 1000)
    let places := ((rest.drop 1).reverse.dropWhile (· = '0')).reverse
    let fraction := if places.isEmpty then [] else '.' :: places
    Decimal.text (duration / 1000) ++ String.ofList (fraction ++ ['s'])

namespace Script

/-- Why a call fails. -/
inductive Failure
  /-- The interpreter does not start. -/
  | spawn (interpreter : String)
  /-- The connection to the interpreter breaks. -/
  | device
  | timeout (deadline : Duration)
  /-- The code raises an error. -/
  | raised (message : String)
  | missingHandler (name : String)
  | invalidHandler (name : String)
  | invalidOutput (text : String)
deriving DecidableEq

/-- The text of a failure. -/
def Failure.message : Failure → String
  | spawn interpreter => "Failed to start interpreter `" ++ interpreter ++ "`"
  | device => "I/O error"
  | timeout deadline => "Timed out after " ++ deadline.text
  | raised message => message
  | missingHandler name => name ++ " is not defined"
  | invalidHandler name => "Invalid handler name `" ++ name ++ "`"
  | invalidOutput text => "Invalid handler output: " ++ text

/-- A call. -/
structure Call where
  /-- The id of the plugin, profile or subscription the code belongs to. -/
  owner : String
  /-- Its name. -/
  name : String
  code : String
  /-- The function of the code that is called. -/
  handler : String
  /-- What the code sees of its plugin. -/
  plugin : Option Json.Value
  arguments : List Json.Value

/-- How a call ends. -/
inductive Outcome
  | answer (value : Json.Value)
  | failure (reason : Failure)
  /-- It does not end in any time. -/
  | hang

/-- What is answered to a call, given the calls before it. -/
structure Engine where
  outcome : List Call → Call → Outcome

/-- An engine whose answers do not depend on the calls before. -/
def Engine.stateless (outcome : Call → Outcome) : Engine :=
  ⟨fun _ => outcome⟩

/-- The end of a call that may take no longer than a deadline. -/
def Outcome.within (deadline : Duration) : Outcome → Except Failure Json.Value
  | answer value => .ok value
  | failure reason => .error reason
  | hang => .error (.timeout deadline)

/-- An engine and the longest time a call may take. -/
structure Runner where
  engine : Engine
  deadline : Duration

/-- The longest time a call may take if nothing else is said. -/
def defaultDeadline : Duration := 30000

/-- A computation that may call and fails with an `ε`; its state is the calls made so
far. -/
abbrev Run (ε α : Type) := ExceptT ε (StateM (List Call)) α

/-- Makes a call. -/
def Runner.call (runner : Runner) (call : Call) : Run Failure Json.Value := do
  let history ← get
  set (history ++ [call])
  match (runner.engine.outcome history call).within runner.deadline with
  | .ok value => return value
  | .error failure => throw failure

end Script

end ProxyProfile
