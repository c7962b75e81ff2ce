/-
This file writes documents as text, compactly and indented.

Compact text has no blanks. Indented text puts each item and member on a line of
its own, two spaces deeper than the bracket before it, and keeps empty brackets
together. In strings only the quote, the backslash and the control characters
below the space are escaped; every other character stands for itself. Floating
point numbers are written in their shortest form.
-/

import ProxyProfile.Decimal.Shortest
import ProxyProfile.Json.Value

namespace ProxyProfile.Json

/-! ### Scalars -/

/-- Floating point numbers are positional while the first digit stands between the fifth
place behind the point and the sixteenth before it; exponents carry their sign. -/
def floatLayout : Decimal.Layout :=
  { least := -5, bound := 16, plus := true }

/-- The text of a number. -/
def Number.chars : Number → List Char
  | integer value => Decimal.signedDigits value
  | binary value => floatLayout.chars value

/-- The lower-case hexadecimal digit of a number below sixteen. -/
def hexDigit (digit : Nat) : Char :=
  if digit < 10 then Char.ofNat (48 + digit) else Char.ofNat (87 + digit)

/-- How one character is written inside a string. -/
def escapeChar (c : Char) : List Char :=
  if c = '"' then ['\\', '"']
  else if c = '\\' then ['\\', '\\']
  else if c = '\n' then ['\\', 'n']
  else if c = '\r' then ['\\', 'r']
  else if c = '\t' then ['\\', 't']
  else if c.toNat = 8 then ['\\', 'b']
  else if c.toNat = 12 then ['\\', 'f']
  else if c.toNat < 32 then
    ['\\', 'u', '0', '0', hexDigit (c.toNat / 16), hexDigit (c.toNat % 16)]
  else [c]

/-- A string in quotes. -/
def quote (text : String) : List Char :=
  '"' :: text.toList.flatMap escapeChar ++ ['"']

/-! ### Compact text -/

mutual

/-- The compact text of a document. -/
def Value.chars : Value → List Char
  | .null => ['n', 'u', 'l', 'l']
  | .bool true => ['t', 'r', 'u', 'e']
  | .bool false => ['f', 'a', 'l', 's', 'e']
  | .number number => number.chars
  | .string text => quote text
  | .array items => '[' :: itemsChars items ++ [']']
  | .object members => '{' :: membersChars members ++ ['}']

/-- The items of an array with commas between them. -/
def itemsChars : List Value → List Char
  | [] => []
  | [item] => item.chars
  | item :: next :: rest => item.chars ++ ',' :: itemsChars (next :: rest)

/-- The members of an object with commas between them. -/
def membersChars : List (String × Value) → List Char
  | [] => []
  | [(key, value)] => quote key ++ ':' :: value.chars
  | (key, value) :: next :: rest =>
    quote key ++ ':' :: value.chars ++ ',' :: membersChars (next :: rest)

end

/-- The compact text of a document. -/
def Value.compact (value : Value) : String :=
  String.ofList value.chars

/-! ### Indented text -/

/-- A line break and the indentation of a depth. -/
def newline (depth : Nat) : List Char :=
  '\n' :: List.replicate (2 * depth) ' '

mutual

/-- The indented text of a document inside `depth` brackets. -/
def Value.prettyChars (depth : Nat) : Value → List Char
  | .array [] => ['[', ']']
  | .object [] => ['{', '}']
  | .array items =>
    '[' :: newline (depth + 1) ++ prettyItems (depth + 1) items ++ newline depth ++ [']']
  | .object members =>
    '{' :: newline (depth + 1) ++ prettyMembers (depth + 1) members ++ newline depth ++ ['}']
  | .null => ['n', 'u', 'l', 'l']
  | .bool true => ['t', 'r', 'u', 'e']
  | .bool false => ['f', 'a', 'l', 's', 'e']
  | .number number => number.chars
  | .string text => quote text

/-- The items of an array, each on its own line. -/
def prettyItems (depth : Nat) : List Value → List Char
  | [] => []
  | [item] => item.prettyChars depth
  | item :: next :: rest =>
    item.prettyChars depth ++ ',' :: newline depth ++ prettyItems depth (next :: rest)

/-- The members of an object, each on its own line. -/
def prettyMembers (depth : Nat) : List (String × Value) → List Char
  | [] => []
  | [(key, value)] => quote key ++ ':' :: ' ' :: value.prettyChars depth
  | (key, value) :: next :: rest =>
    quote key ++ ':' :: ' ' :: value.prettyChars depth ++ ',' :: newline depth ++
      prettyMembers depth (next :: rest)

end

/-- The indented text of a document, without a line break at the end. -/
def Value.pretty (value : Value) : String :=
  String.ofList (value.prettyChars 0)

end ProxyProfile.Json
