/-
This file reads the parts of a TOML file that are written between quotes, the
keys, and what stands between values: blanks, comments and line ends.

Strings come in four forms: with escapes between double quotes or as they are
between single ones, and each of these on one line or, between three quotes, on
several. A string on several lines drops a line break right behind its opening
quotes, and an escaped line break with all the blanks that follow it.
-/

import ProxyProfile.Decimal.Reading

namespace ProxyProfile.Toml

/-! ### Between values -/

/-- A space or a tab. -/
def isGap (c : Char) : Bool :=
  c = ' ' || c = '\t'

/-- Passes over spaces and tabs. -/
def skipGap (characters : List Char) : List Char :=
  characters.dropWhile isGap

/-- A character that may stand in a comment or a string. -/
def isShown (c : Char) : Bool :=
  c = '\t' || (0x20 ≤ c.toNat && c.toNat ≤ 0x7E) || 0x80 ≤ c.toNat

/-- What follows a line break, if one comes next. -/
def newline? : List Char → Option (List Char)
  | '\n' :: rest => some rest
  | '\r' :: '\n' :: rest => some rest
  | _ => none

/-- Passes over a comment, if one comes next. -/
def skipComment (characters : List Char) : List Char :=
  match characters with
  | '#' :: rest => rest.dropWhile isShown
  | _ => characters

/-- What follows the end of a line: blanks, perhaps a comment, and a line break or the end
of the text. -/
def lineEnd? (characters : List Char) : Option (List Char) :=
  match skipComment (skipGap characters) with
  | [] => some []
  | rest => newline? rest

/-- Passes over blanks, comments and line breaks. -/
def skipLines : Nat → List Char → List Char
  | 0, characters => characters
  | fuel + 1, characters =>
    let rest := skipComment (skipGap characters)
    match newline? rest with
    | some rest => skipLines fuel rest
    | none => rest

/-! ### Strings -/

/-- The value of a hexadecimal digit. -/
def hexValue? (c : Char) : Option Nat :=
  if Decimal.isDigit c then some (c.toNat - 48)
  else if 'a' ≤ c && c ≤ 'f' then some (c.toNat - 87)
  else if 'A' ≤ c && c ≤ 'F' then some (c.toNat - 55)
  else none

/-- The character of a code point given by `count` hexadecimal digits. -/
def codePoint? (count : Nat) (characters : List Char) : Option (Char × List Char) := do
  let shown := characters.take count
  if shown.length < count then none
  let code ← shown.foldlM (fun number c => (hexValue? c).map (number * 16 + ·)) 0
  if h : code.isValidChar then return (Char.ofNatAux code h, characters.drop count) else none

/-- The character an escape stands for, behind its backslash. -/
def escape? : List Char → Option (Char × List Char)
  | 'b' :: rest => some (Char.ofNat 8, rest)
  | 't' :: rest => some ('\t', rest)
  | 'n' :: rest => some ('\n', rest)
  | 'f' :: rest => some (Char.ofNat 12, rest)
  | 'r' :: rest => some ('\r', rest)
  | '"' :: rest => some ('"', rest)
  | '\\' :: rest => some ('\\', rest)
  | 'u' :: rest => codePoint? 4 rest
  | 'U' :: rest => codePoint? 8 rest
  | _ => none

/-- A string on one line, behind its opening quote. -/
def line? (quote : Char) : Nat → List Char → Option (List Char × List Char)
  | 0, _ => none
  | _ + 1, [] => none
  | fuel + 1, c :: rest =>
    if c = quote then some ([], rest)
    else if c = '\\' && quote = '"' then do
      let (shown, rest) ← escape? rest
      let (text, rest) ← line? quote fuel rest
      return (shown :: text, rest)
    else if isShown c then do
      let (text, rest) ← line? quote fuel rest
      return (c :: text, rest)
    else none

/-- What follows an escaped line break, behind its backslash: all blanks and line breaks
are passed over. -/
def escapedBreak? (characters : List Char) : Option (List Char) :=
  (newline? (skipGap characters)).map fun rest =>
    rest.dropWhile fun c => isGap c || c = '\n' || c = '\r'

/-- A string on several lines, behind its opening quotes. Up to two quotes may stand before
the three that close it. -/
def lines? (quote : Char) : Nat → List Char → Option (List Char × List Char)
  | 0, _ => none
  | _ + 1, [] => none
  | fuel + 1, c :: rest =>
    if c = quote then
      let quotes := 1 + (rest.takeWhile (· = quote)).length
      if 5 < quotes then none
      else if 3 ≤ quotes then
        some (List.replicate (quotes - 3) quote, rest.drop (quotes - 1))
      else do
        let (text, rest) ← lines? quote fuel (rest.drop (quotes - 1))
        return (List.replicate quotes quote ++ text, rest)
    else if c = '\\' && quote = '"' then
      match escapedBreak? rest with
      | some rest => lines? quote fuel rest
      | none => do
        let (shown, rest) ← escape? rest
        let (text, rest) ← lines? quote fuel rest
        return (shown :: text, rest)
    else
      match newline? (c :: rest) with
      | some rest => do
        let (text, rest) ← lines? quote fuel rest
        return ('\n' :: text, rest)
      | none =>
        if isShown c then do
          let (text, rest) ← lines? quote fuel rest
          return (c :: text, rest)
        else none

/-- A string of any form. -/
def string? (characters : List Char) : Option (String × List Char) :=
  match characters with
  | c :: rest =>
    if c ≠ '"' ∧ c ≠ '\'' then none
    else if rest.take 2 = [c, c] then do
      let body := rest.drop 2
      let body := (newline? body).getD body
      let (text, rest) ← lines? c (body.length + 1) body
      return (String.ofList text, rest)
    else do
      let (text, rest) ← line? c (rest.length + 1) rest
      return (String.ofList text, rest)
  | [] => none

/-! ### Keys -/

/-- A character of a key without quotes. -/
def isKeyChar (c : Char) : Bool :=
  c.isAlphanum || c = '_' || c = '-'

/-- One part of a key. -/
def keyPart? (characters : List Char) : Option (String × List Char) :=
  match characters with
  | c :: rest =>
    if c = '"' ∨ c = '\'' then do
      let (text, rest) ← line? c (rest.length + 1) rest
      return (String.ofList text, rest)
    else
      let part := characters.takeWhile isKeyChar
      if part.isEmpty then none else some (String.ofList part, characters.dropWhile isKeyChar)
  | [] => none

/-- How many parts a key may have, and how deep values may nest. -/
def depthLimit : Nat := 80

/-- The parts of a key with points between them and blanks around them. -/
def keyParts? : Nat → List Char → Option (List String × List Char)
  | 0, _ => none
  | fuel + 1, characters => do
    let (part, rest) ← keyPart? (skipGap characters)
    match skipGap rest with
    | '.' :: rest =>
      let (parts, rest) ← keyParts? fuel rest
      return (part :: parts, rest)
    | rest => return ([part], rest)

/-- A key. -/
def key? (characters : List Char) : Option (List String × List Char) :=
  keyParts? (depthLimit - 1) characters

end ProxyProfile.Toml
