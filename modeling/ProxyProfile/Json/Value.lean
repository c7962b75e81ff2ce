/-
This file defines JSON documents and their objects.

A number is an integer of at most sixty-four bits, signed or unsigned, or a
binary floating point number. An object is the list of its members in the order
in which their keys were first written; writing a key again keeps its place and
taking one out keeps the order of the rest. No operation of the library makes
two members with one key, but the type does not insist on it: distinctness is
the predicate `Object.Distinct`, proved where it matters.
-/

import ProxyProfile.Decimal.Binary64

namespace ProxyProfile.Json

/-- A number of a document. -/
inductive Number
  | integer (value : Int)
  | binary (value : Decimal.Binary64)
deriving DecidableEq

/-- A document. -/
inductive Value
  | null
  | bool (flag : Bool)
  | number (number : Number)
  | string (text : String)
  | array (items : List Value)
  | object (members : List (String × Value))

instance : Inhabited Value := ⟨.null⟩

/-- The members of an object, in order. -/
abbrev Object := List (String × Value)

/-! ### Objects -/

namespace Object

/-- The value of a key, if the object has it. -/
def get? (object : Object) (key : String) : Option Value :=
  match object with
  | [] => none
  | (name, value) :: rest => if name = key then some value else get? rest key

/-- Whether the object has a key. -/
def has (object : Object) (key : String) : Bool :=
  (object.get? key).isSome

/-- Gives a key a value: in its place if the object has the key, else at the end. -/
def insert (object : Object) (key : String) (value : Value) : Object :=
  match object with
  | [] => [(key, value)]
  | (name, old) :: rest =>
    if name = key then (name, value) :: rest else (name, old) :: insert rest key value

/-- Takes a key out; the others keep their order. -/
def erase (object : Object) (key : String) : Object :=
  object.filter fun entry => entry.1 ≠ key

/-- The keys, in order. -/
def keys (object : Object) : List String :=
  object.map Prod.fst

/-- Writes the members of `more`, one after the other. -/
def insertAll (object more : Object) : Object :=
  more.foldl (fun written entry => written.insert entry.1 entry.2) object

/-- An object with the given members, a later one overwriting an earlier one of the same
key in its place. -/
def ofList (members : List (String × Value)) : Object :=
  insertAll [] members

/-- No key stands twice. -/
def Distinct (object : Object) : Prop :=
  object.keys.Nodup

theorem get?_insert_self (object : Object) (key : String) (value : Value) :
    (object.insert key value).get? key = some value := by
  induction object with
  | nil => simp [insert, get?]
  | cons entry rest inductionHypothesis =>
    by_cases same : entry.1 = key
    · simp [insert, get?, same]
    · simp [insert, get?, same, inductionHypothesis]

theorem get?_insert_of_ne (object : Object) {key other : String} (value : Value)
    (differs : key ≠ other) : (object.insert key value).get? other = object.get? other := by
  induction object with
  | nil => simp [insert, get?, differs]
  | cons entry rest inductionHypothesis =>
    by_cases same : entry.1 = key
    · have apart : entry.1 ≠ other := fun equal => differs (same ▸ equal)
      simp [insert, get?, same, differs]
    · simp [insert, get?, same, inductionHypothesis]

theorem keys_insert (object : Object) (key : String) (value : Value) :
    (object.insert key value).keys =
      if key ∈ object.keys then object.keys else object.keys ++ [key] := by
  induction object with
  | nil => simp [insert, keys]
  | cons entry rest inductionHypothesis =>
    by_cases same : entry.1 = key
    · simp [insert, keys, same]
    · have apart : key ≠ entry.1 := fun equal => same equal.symm
      simp only [keys] at inductionHypothesis
      simp only [insert, same, if_false, keys, List.map_cons, inductionHypothesis,
        List.mem_cons, apart, false_or]
      by_cases present : key ∈ rest.map Prod.fst <;> simp [present]

end Object

/-! ### Values -/

namespace Value

/-- The text of a string value. -/
def text? : Value → Option String
  | string text => some text
  | _ => none

/-- The members of an object value. -/
def object? : Value → Option Object
  | object members => some members
  | _ => none

/-- The items of an array value. -/
def items? : Value → Option (List Value)
  | array items => some items
  | _ => none

/-- The value of a truth value. -/
def flag? : Value → Option Bool
  | bool flag => some flag
  | _ => none

/-- The value of an integer. -/
def integer? : Value → Option Int
  | number (.integer value) => some value
  | _ => none

/-- Whether a value is an object. -/
def isObject (value : Value) : Bool :=
  value.object?.isSome

/-- The value of a key; nothing has keys but objects. -/
def get? (value : Value) (key : String) : Option Value :=
  value.object?.bind fun members => Object.get? members key

/-- The text a value holds at a key, the empty text if it holds none there. -/
def textAt (value : Value) (key : String) : String :=
  ((value.get? key).bind text?).getD ""

/-- A list of texts. -/
def strings (texts : List String) : Value :=
  array (texts.map string)

/-- A natural number. -/
def natural (value : Nat) : Value :=
  number (.integer value)

end Value

end ProxyProfile.Json
