/-
This file defines the filters by which users choose among tags.

A filter has two patterns. A candidate passes when it matches the first one and
does not match the second; an empty pattern asks nothing. Patterns may also be
written between slashes with flags behind them, as scripts write them. Then the
flags `i`, `m` and `s` switch modes, `g` and `u` change nothing, and a text with
any other flag is an ordinary pattern that happens to begin with a slash.
-/

import ProxyProfile.Pattern.Reader

namespace ProxyProfile.Pattern

/-- The two sides of a filter. -/
inductive Side
  | wanted
  | unwanted
deriving DecidableEq

/-- A filter with its patterns read. -/
structure Filter where
  /-- What a candidate has to match. -/
  wanted : Option Node
  /-- What a candidate may not match. -/
  unwanted : Option Node

/-- Whether a candidate passes. -/
def Filter.accepts (filter : Filter) (candidate : String) : Bool :=
  filter.wanted.all (·.isMatch candidate) && !filter.unwanted.any (·.isMatch candidate)

/-- A pattern between slashes, taken apart into what stands between the first and the last
slash and the flags behind the last one. -/
def slashed? (pattern : String) : Option (List Char × List Char) :=
  match pattern.toList with
  | '/' :: body =>
    let flags := (body.reverse.takeWhile (· != '/')).reverse
    if flags.length < body.length then
      some (body.take (body.length - flags.length - 1), flags)
    else none
  | _ => none

/-- The flags that switch modes. -/
def isModeFlag (c : Char) : Bool :=
  c = 'i' || c = 'm' || c = 's'

/-- All flags. -/
def isFlag (c : Char) : Bool :=
  isModeFlag c || c = 'g' || c = 'u'

/-- The ordinary pattern that a pattern between slashes stands for. -/
def unslash (pattern : String) : String :=
  match slashed? pattern with
  | none => pattern
  | some (inner, flags) =>
    if flags.all isFlag then
      let modes := flags.filter isModeFlag
      if modes.isEmpty then String.ofList inner
      else String.ofList ('(' :: '?' :: modes ++ ')' :: inner)
    else pattern

/-- One side of a filter: an empty text asks nothing. -/
def readSide? (read : String → Option Node) (pattern : String) : Option (Option Node) :=
  if pattern = "" then some none else (read pattern).map some

/-- Reads the two patterns of a filter; names the first one that is no pattern. -/
def Filter.build (read : String → Option Node) (wanted unwanted : String) :
    Except Side Filter :=
  match readSide? read wanted, readSide? read unwanted with
  | none, _ => .error .wanted
  | some _, none => .error .unwanted
  | some wanted, some unwanted => .ok ⟨wanted, unwanted⟩

/-- The filter of two ordinary patterns. -/
def Filter.plain (wanted unwanted : String) : Except Side Filter :=
  Filter.build parse? wanted unwanted

/-- The filter of two patterns that may stand between slashes. -/
def Filter.smart (wanted unwanted : String) : Except Side Filter :=
  Filter.build (fun pattern => parse? (unslash pattern)) wanted unwanted

end ProxyProfile.Pattern
