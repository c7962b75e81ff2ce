/-
This file holds properties of characters as runs.

A property that gives every code point one value is written as the values along
the code points together with the lengths of their runs, the first run starting
at zero. The text of such a table is a sequence of entries `value:length` with
the length in hexadecimal, and blanks between the entries. Decoding adds the lengths up, and a look-up halves
the table until it finds the run that a code point lies in.
-/

namespace ProxyProfile.Pattern

/-- A run of code points with one value, by its first code point. -/
structure Run where
  start : Nat
  value : String
deriving Inhabited

/-- The number of some hexadecimal digits in lower case. -/
def hexNumber (characters : List Char) : Nat :=
  characters.foldl
    (fun number c => number * 16 + (if c.toNat < 58 then c.toNat - 48 else c.toNat - 87)) 0

/-- The entries of a table. -/
def entriesOf (table : String) : List String :=
  (table.splitToList fun c => c = ' ' || c = '\n').filter (· ≠ "")

/-- The runs of a table, from the first code point on. -/
def runsFrom (start : Nat) : List String → List Run
  | [] => []
  | entry :: rest =>
    match entry.splitOn ":" with
    | [value, length] => ⟨start, value⟩ :: runsFrom (start + hexNumber length.toList) rest
    | _ => runsFrom start rest

/-- The runs of the text of a table. -/
def runsOf (table : String) : Array Run :=
  (runsFrom 0 (entriesOf table)).toArray

/-- The last run of `runs` between the places `low` and `high` that starts at or before a
code point; the run at `low` does. -/
def searchRun (runs : Array Run) (point : Nat) : Nat → Nat → Nat → Nat
  | 0, low, _ => low
  | fuel + 1, low, high =>
    if high ≤ low + 1 then low
    else
      let middle := (low + high) / 2
      match runs[middle]? with
      | some run =>
        if run.start ≤ point then searchRun runs point fuel middle high
        else searchRun runs point fuel low middle
      | none => low

/-- The value of a code point. -/
def valueAt (runs : Array Run) (point : Nat) : String :=
  match runs[searchRun runs point 24 0 runs.size]? with
  | some run => run.value
  | none => ""

end ProxyProfile.Pattern
