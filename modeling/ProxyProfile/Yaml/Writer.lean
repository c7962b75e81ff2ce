/-
This file writes lists of documents as YAML.

Lists and tables are blocks: an item stands behind a dash, the list of a key
begins right under the key, and a table two columns deeper. A text stands as it
is if it reads back as a text; otherwise it is quoted, once where that is enough
and twice where something has to be escaped. A text with line breaks keeps its
lines as a literal. Keys that are long or broken stand behind a question mark.
-/

import ProxyProfile.Decimal.Shortest
import ProxyProfile.Yaml.Scalar

namespace ProxyProfile.Yaml

/-! ### What a text allows -/

/-- A character that is shown as it is. -/
def isPrintable (c : Char) : Bool :=
  let n := c.toNat
  n = 10 || (0x20 ≤ n && n ≤ 0x7E) || (0xA0 ≤ n && n ≤ 0xD7FF) ||
    (0xE000 ≤ n && n ≤ 0xFFFD && n ≠ 0xFEFF) || 0x10000 ≤ n

/-- Whether two neighbouring characters satisfy a condition. -/
def hasNeighbours (condition : Char → Char → Bool) : List Char → Bool
  | first :: second :: rest => condition first second || hasNeighbours condition (second :: rest)
  | _ => false

/-- Whether a text begins like something else than a text. -/
def startsAsMark (characters : List Char) : Bool :=
  characters.take 3 == ['-', '-', '-'] || characters.take 3 == ['.', '.', '.'] ||
    match characters with
    | [] => false
    | c :: rest =>
      "#,[]\x7b\x7d&*!|>'\"%@`".contains c || ((c = '?' || c = ':' || c = '-') && endsWord rest)

/-- Whether a colon before a blank or a number sign behind one would cut a text. -/
def holdsMark : List Char → Bool
  | [] => false
  | c :: rest =>
    (c = ':' && endsWord rest) || (endsWord [c] && rest.head? = some '#') || holdsMark rest

/-- Whether a text may stand as it is. -/
def allowsPlain (characters : List Char) : Bool :=
  characters.all isPrintable && !characters.any isBreak &&
    characters.head? ≠ some ' ' && characters.getLast? ≠ some ' ' &&
    !startsAsMark characters && !holdsMark characters

/-- Whether a text may stand between single quotes. -/
def allowsSingle (characters : List Char) : Bool :=
  characters.all isPrintable &&
    !hasNeighbours (fun first second => (isBreak first && second = ' ') ||
      (first = ' ' && isBreak second)) characters

/-- Whether a text may stand as a literal. -/
def allowsLiteral (characters : List Char) : Bool :=
  !characters.isEmpty && characters.all isPrintable && characters.getLast? ≠ some ' ' &&
    !hasNeighbours (fun first second => first = ' ' && isBreak second) characters

/-- How a text is written. -/
inductive Quoting
  | plain
  | single
  | double
  | literal
deriving DecidableEq

/-- Whether a text would be read as something else if it stood as it is. -/
def readsOtherwise (text : String) : Bool :=
  isZeroPadded text.toList ||
    match plainValue? text with
    | some (.string _) => false
    | _ => true

/-- How a text is written. -/
def quotingOf (text : String) : Quoting :=
  let characters := text.toList
  if characters.contains '\n' then
    if allowsLiteral characters then .literal else .double
  else if !readsOtherwise text && allowsPlain characters then .plain
  else if allowsSingle characters then .single
  else .double

/-! ### Output -/

/-- What is written so far, the last character first. -/
abbrev Output := List Char

namespace Output

/-- Writes characters. -/
def push (output : Output) (characters : List Char) : Output :=
  characters.reverse ++ output

/-- Writes spaces. -/
def indent (output : Output) (column : Nat) : Output :=
  List.replicate column ' ' ++ output

/-- Goes to a column of the next line; a line that has just been broken is not broken
again. -/
def line (output : Output) (column : Nat) : Output :=
  if output.head?.any isBreak then output.indent column
  else Output.indent ('\n' :: output) column

end Output

/-- Some digits of a number in base sixteen, with capital letters. -/
def hexDigits (count number : Nat) : List Char :=
  match count with
  | 0 => []
  | count + 1 =>
    let digit := number % 16
    let shown := if digit < 10 then Char.ofNat (48 + digit) else Char.ofNat (55 + digit)
    hexDigits count (number / 16) ++ [shown]

/-- The letter of an escape that has one. -/
def escapeLetter? (c : Char) : Option Char :=
  [(0, '0'), (7, 'a'), (8, 'b'), (9, 't'), (10, 'n'), (11, 'v'), (12, 'f'), (13, 'r'),
    (27, 'e'), (34, '"'), (92, '\\'), (0x85, 'N'), (0xA0, '_'), (0x2028, 'L'),
    (0x2029, 'P')].lookup c.toNat

/-- A character between double quotes. -/
def doubleChar (c : Char) : List Char :=
  if isPrintable c && !isBreak c && c ≠ '"' && c ≠ '\\' then [c]
  else
    match escapeLetter? c with
    | some letter => ['\\', letter]
    | none =>
      if c.toNat ≤ 0xFF then '\\' :: 'x' :: hexDigits 2 c.toNat
      else if c.toNat ≤ 0xFFFF then '\\' :: 'u' :: hexDigits 4 c.toNat
      else '\\' :: 'U' :: hexDigits 8 c.toNat

/-- Writes characters that may break lines; what follows a break stands at a column.
`broken` tells that a line has just been broken, and `shown` how a character is written. -/
def pushLines (column : Nat) (shown : Char → List Char) :
    Bool → List Char → Output → Bool × Output
  | broken, [], output => (broken, output)
  | broken, c :: rest, output =>
    if isBreak c then pushLines column shown true rest (c :: output)
    else
      let output := if broken then output.indent column else output
      pushLines column shown false rest (output.push (shown c))

/-- Writes a text between single quotes, in which a quote is written twice. -/
def pushSingle (output : Output) (column : Nat) (characters : List Char) : Output :=
  let (broken, output) :=
    pushLines column (fun c => if c = '\'' then [c, c] else [c]) false characters
      ('\'' :: output)
  '\'' :: (if broken then output.indent column else output)

/-- What follows the mark of a literal: the width of the indentation where the first line
does not show it, and what becomes of the last line breaks. -/
def literalHints (characters : List Char) : List Char :=
  let width := if characters.head?.any fun c => c = ' ' || isBreak c then ['2'] else []
  let chomping :=
    match characters.reverse with
    | [] => ['-']
    | [last] => if isBreak last then ['+'] else ['-']
    | last :: before :: _ =>
      if !isBreak last then ['-'] else if isBreak before then ['+'] else []
  width ++ chomping

/-- Writes a text whose further lines stand at a column. -/
def pushText (output : Output) (column : Nat) (text : String) : Output :=
  let characters := text.toList
  match quotingOf text with
  | .plain => output.push characters
  | .single => pushSingle output column characters
  | .double => output.push ('"' :: characters.flatMap doubleChar ++ ['"'])
  | .literal =>
    let head := '|' :: literalHints characters ++ ['\n']
    (pushLines column (fun c => [c]) true characters (output.push head)).2

/-! ### Documents -/

/-- Floating point numbers are laid out as in documents, but a positive exponent has no
sign. -/
def floatLayout : Decimal.Layout :=
  { least := -5, bound := 16, plus := false }

/-- The text of a number. -/
def numberChars : Json.Number → List Char
  | .integer value => Decimal.signedDigits value
  | .binary value => floatLayout.chars value

/-- Whether a key may stand before its colon without a mark in front. -/
def isSimpleKey (key : String) : Bool :=
  key.utf8ByteSize ≤ 128 && !key.toList.any isBreak

/-- Writes a scalar or an empty list or table whose further lines stand at a column. -/
def pushScalar (output : Output) (column : Nat) : Json.Value → Output
  | .null => output.push "null".toList
  | .bool true => output.push "true".toList
  | .bool false => output.push "false".toList
  | .number number => output.push (numberChars number)
  | .string text => pushText output column text
  | .array _ => output.push ['[', ']']
  | .object _ => output.push [Char.ofNat 0x7B, Char.ofNat 0x7D]

mutual

/-- Writes a value behind a dash or a lone colon; what is in it starts at a column. -/
def pushInline (output : Output) (column : Nat) : Json.Value → Output
  | .array (item :: rest) => pushItems (' ' :: output) column (item :: rest)
  | .object (member :: rest) => pushMembers (' ' :: output) column (member :: rest)
  | .array [] => pushScalar (' ' :: output) column (.array [])
  | .object [] => pushScalar (' ' :: output) column (.object [])
  | .null => pushScalar (' ' :: output) column .null
  | .bool flag => pushScalar (' ' :: output) column (.bool flag)
  | .number number => pushScalar (' ' :: output) column (.number number)
  | .string text => pushScalar (' ' :: output) column (.string text)

/-- Writes a value behind a key at a column. -/
def pushBelow (output : Output) (column : Nat) : Json.Value → Output
  | .array (item :: rest) => pushItems (output.line column) column (item :: rest)
  | .object (member :: rest) =>
    pushMembers (output.line (column + 2)) (column + 2) (member :: rest)
  | .array [] => pushScalar (' ' :: output) (column + 2) (.array [])
  | .object [] => pushScalar (' ' :: output) (column + 2) (.object [])
  | .null => pushScalar (' ' :: output) (column + 2) .null
  | .bool flag => pushScalar (' ' :: output) (column + 2) (.bool flag)
  | .number number => pushScalar (' ' :: output) (column + 2) (.number number)
  | .string text => pushScalar (' ' :: output) (column + 2) (.string text)

/-- Writes the items of a list at a column, the first one where the output stands. -/
def pushItems (output : Output) (column : Nat) : List Json.Value → Output
  | [] => output
  | [item] => pushInline ('-' :: output) (column + 2) item
  | item :: next :: rest =>
    pushItems ((pushInline ('-' :: output) (column + 2) item).line column) column (next :: rest)

/-- Writes the members of a table at a column, the first one where the output stands. -/
def pushMembers (output : Output) (column : Nat) : List (String × Json.Value) → Output
  | [] => output
  | [(key, value)] =>
    if isSimpleKey key then pushBelow (':' :: pushText output (column + 2) key) column value
    else
      let output := pushText (output.push ['?', ' ']) (column + 2) key
      pushInline (':' :: output.line column) (column + 2) value
  | (key, value) :: next :: rest =>
    let output :=
      if isSimpleKey key then pushBelow (':' :: pushText output (column + 2) key) column value
      else
        let output := pushText (output.push ['?', ' ']) (column + 2) key
        pushInline (':' :: output.line column) (column + 2) value
    pushMembers (output.line column) column (next :: rest)

end

/-- The text of a list of documents. -/
def write (items : List Json.Value) : String :=
  let output := if items.isEmpty then pushScalar [] 0 (.array []) else pushItems [] 0 items
  String.ofList (output.line 0).reverse

end ProxyProfile.Yaml
