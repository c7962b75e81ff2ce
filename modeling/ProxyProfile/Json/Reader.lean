/-
This file reads JSON text.

The reader accepts the grammar of JSON and nothing else, nests at most 127
brackets and yields a tree. Two faults of the text do not stop it, because they
only matter to whoever reads the place: a number too large for a floating point
number, and an escape that is half of a surrogate pair; they become broken
nodes. A text is read as a document by reading its tree without types.

Integers of at most sixty-four bits stay integers. Every other number, and a
negative zero, is floating point, and is found by scaling its leading digits by a
power of ten. The scaling rounds at most three times and so can miss the nearest
number by its last place; it is part of the format that this library reads and
writes, and is kept as it is.
-/

import ProxyProfile.Decimal.Reading
import ProxyProfile.Decimal.Width
import ProxyProfile.Json.Printer
import ProxyProfile.Text.Blank
import ProxyProfile.Tree

namespace ProxyProfile.Json

/-! ### Blanks -/

/-- The four characters that may stand between the parts of a text. -/
def isSpace (c : Char) : Bool :=
  c = ' ' || c = '\n' || c = '\t' || c = '\r'

/-- Drops the blanks at the start. -/
def skipSpace (characters : List Char) : List Char :=
  characters.dropWhile isSpace

/-! ### Numbers -/

/-- A number as it is written. -/
structure NumberText where
  negative : Bool
  whole : List Char
  fraction : List Char
  exponent : Option Int

/-- The digits behind the point, at least one, if there is a point. -/
def spanFraction? : List Char → Option (List Char × List Char)
  | '.' :: rest =>
    let (digits, tail) := Decimal.spanDigits rest
    if digits.isEmpty then none else some (digits, tail)
  | rest => some ([], rest)

/-- The exponent, if there is one. -/
def spanExponent? : List Char → Option (Option Int × List Char)
  | [] => some (none, [])
  | c :: rest =>
    if c = 'e' ∨ c = 'E' then
      let (negative, tail) := Decimal.spanSign rest
      let (digits, left) := Decimal.spanDigits tail
      if digits.isEmpty then none
      else
        let exponent : Int := Decimal.value digits
        some (some (if negative then -exponent else exponent), left)
    else some (none, c :: rest)

/-- A number without its sign at the start of a list. No second digit follows a zero. -/
def spanNumber? (negative : Bool) (characters : List Char) :
    Option (NumberText × List Char) := do
  let (whole, afterWhole) := Decimal.spanDigits characters
  match whole with
  | [] => none
  | '0' :: _ :: _ => none
  | _ =>
    let (fraction, afterFraction) ← spanFraction? afterWhole
    let (exponent, rest) ← spanExponent? afterFraction
    return (⟨negative, whole, fraction, exponent⟩, rest)

/-- Takes digits as long as the number they make fits sixty-four bits; gives that number
and the digits left over. -/
def takeFitting (significand : Nat) : List Char → Nat × List Char
  | [] => (significand, [])
  | c :: rest =>
    if Decimal.fits 64 (Decimal.push significand c) then takeFitting (Decimal.push significand c) rest
    else (significand, c :: rest)

/-- A power of ten as a floating point number. -/
def powerOfTen (exponent : Nat) : Float :=
  Float.ofScientific 1 false exponent

/-- A number of sixty-four bits scaled by a power of ten, unless it is too large. -/
def scale? (significand : Nat) (exponent : Int) : Option Float :=
  let start := significand.toUInt64.toFloat
  if exponent.natAbs ≤ 308 then
    if 0 ≤ exponent then
      let scaled := start * powerOfTen exponent.natAbs
      if scaled.isInf then none else some scaled
    else some (start / powerOfTen exponent.natAbs)
  else if significand = 0 then some start
  else if 0 ≤ exponent then none
  else if -616 ≤ exponent then some (start / powerOfTen 308 / powerOfTen (exponent + 308).natAbs)
  else some 0.0

/-- The floating point reading of a number, unless it is too large. -/
def NumberText.binary? (shown : NumberText) : Option Number := do
  let (significand, wholeLeft) := takeFitting 0 shown.whole
  let (significand, fractionLeft) := takeFitting significand shown.fraction
  let taken : Int := shown.fraction.length - fractionLeft.length
  let magnitude ← scale? significand (wholeLeft.length - taken + shown.exponent.getD 0)
  return .binary (.ofFloat (if shown.negative then -magnitude else magnitude))

/-- The number that is written, unless it is too large. -/
def NumberText.number? (shown : NumberText) : Option Number :=
  let magnitude := Decimal.value shown.whole
  if shown.fraction.isEmpty && shown.exponent.isNone then
    if !shown.negative then
      if Decimal.fits 64 magnitude then some (.integer magnitude) else shown.binary?
    else if 0 < magnitude ∧ Decimal.fitsSigned 63 (-magnitude) then
      some (.integer (-magnitude))
    else shown.binary?
  else shown.binary?

/-! ### Strings -/

/-- The value of a hexadecimal digit of either case. -/
def hexValue? (c : Char) : Option Nat :=
  if Decimal.isDigit c then some (c.toNat - 48)
  else if 'a' ≤ c ∧ c ≤ 'f' then some (c.toNat - 87)
  else if 'A' ≤ c ∧ c ≤ 'F' then some (c.toNat - 55)
  else none

/-- The number of four hexadecimal digits. -/
def hexFour? (a b c d : Char) : Option Nat := do
  return ((← hexValue? a) * 16 + (← hexValue? b)) * 256 + (← hexValue? c) * 16 + (← hexValue? d)

/-- The characters with an escape of one letter. -/
def unescape? (c : Char) : Option Char :=
  match c with
  | '"' => some '"'
  | '\\' => some '\\'
  | '/' => some '/'
  | 'b' => some (Char.ofNat 8)
  | 'f' => some (Char.ofNat 12)
  | 'n' => some '\n'
  | 'r' => some '\r'
  | 't' => some '\t'
  | _ => none

/-- What is known of a string's text when `surrogate` is the first half of a pair that still
waits for its second half: it is broken when the second half does not come. -/
def finishHalf (surrogate : Option Nat) (text : Option (List Char)) : Option (List Char) :=
  if surrogate.isNone then text else none

/-- The rest of a string behind its opening quote: its text, missing when it holds half a
surrogate pair, and what follows the closing quote. -/
def readString (surrogate : Option Nat) :
    List Char → Option (Option (List Char) × List Char)
  | [] => none
  | '"' :: rest => some (finishHalf surrogate (some []), rest)
  | '\\' :: 'u' :: a :: b :: c :: d :: rest =>
    match hexFour? a b c d with
    | none => none
    | some unit =>
      if 0xD800 ≤ unit ∧ unit ≤ 0xDBFF then
        (readString (some unit) rest).map fun (text, tail) => (finishHalf surrogate text, tail)
      else if 0xDC00 ≤ unit ∧ unit ≤ 0xDFFF then
        (readString none rest).map fun (text, tail) =>
          match surrogate with
          | none => (none, tail)
          | some high =>
            let number := 0x10000 + (high - 0xD800) * 0x400 + (unit - 0xDC00)
            (text.map (Char.ofNat number :: ·), tail)
      else
        (readString none rest).map fun (text, tail) =>
          (finishHalf surrogate (text.map (Char.ofNat unit :: ·)), tail)
  | '\\' :: c :: rest =>
    match unescape? c with
    | none => none
    | some plain =>
      (readString none rest).map fun (text, tail) =>
        (finishHalf surrogate (text.map (plain :: ·)), tail)
  | c :: rest =>
    if c.toNat < 32 ∨ c = '\\' then none
    else
      (readString none rest).map fun (text, tail) =>
        (finishHalf surrogate (text.map (c :: ·)), tail)

/-! ### Documents -/

/-- The leaf of a scalar that has a value, or a broken node. -/
def scalarTree (value : Option Value) : Tree :=
  match value with
  | some value => .leaf (Tree.scalarOfValue value)
  | none => .broken

/-- The number of a list that starts with one. -/
def readNumber? (negative : Bool) (characters : List Char) : Option (Tree × List Char) :=
  (spanNumber? negative characters).map fun (shown, rest) =>
    (scalarTree (shown.number?.map .number), rest)

/-- A word that stands for a value. -/
def readWord? (word : String) (value : Value) (characters : List Char) :
    Option (Tree × List Char) :=
  (Text.dropStart? word.toList characters).map fun rest => (scalarTree (some value), rest)

mutual

/-- The value at the start of a list, inside brackets of which `depth` more may open. The
fuel bounds the number of calls; twice the length of the list suffices. -/
def readTree (fuel depth : Nat) (characters : List Char) : Option (Tree × List Char) :=
  match fuel with
  | 0 => none
  | fuel + 1 =>
    match skipSpace characters with
    | [] => none
    | '"' :: rest =>
      (readString none rest).map fun (text, tail) =>
        (scalarTree (text.map fun text => .string (String.ofList text)), tail)
    | '[' :: rest =>
      match depth, skipSpace rest with
      | 0, _ => none
      | _ + 1, ']' :: tail => some (.list Tree.looseForm [], tail)
      | depth + 1, tail =>
        (readItems fuel depth tail).map fun (items, tail) => (.list Tree.looseForm items, tail)
    | '\x7b' :: rest =>
      match depth, skipSpace rest with
      | 0, _ => none
      | _ + 1, '\x7d' :: tail => some (.table Tree.looseForm [], tail)
      | depth + 1, tail =>
        (readMembers fuel depth tail).map fun (members, tail) =>
          (.table Tree.looseForm members, tail)
    | '-' :: rest => readNumber? true rest
    | 't' :: rest => readWord? "rue" (.bool true) rest
    | 'f' :: rest => readWord? "alse" (.bool false) rest
    | 'n' :: rest => readWord? "ull" .null rest
    | c :: rest => readNumber? false (c :: rest)

/-- The items of an array that has some, and what follows its closing bracket. -/
def readItems (fuel depth : Nat) (characters : List Char) : Option (List Tree × List Char) :=
  match fuel with
  | 0 => none
  | fuel + 1 =>
    match readTree fuel depth characters with
    | none => none
    | some (item, rest) =>
      match skipSpace rest with
      | ',' :: tail => (readItems fuel depth tail).map fun (items, tail) => (item :: items, tail)
      | ']' :: tail => some ([item], tail)
      | _ => none

/-- The members of an object that has some, and what follows its closing bracket. -/
def readMembers (fuel depth : Nat) (characters : List Char) :
    Option (List (Option String × Tree) × List Char) :=
  match fuel with
  | 0 => none
  | fuel + 1 =>
    match skipSpace characters with
    | '"' :: rest =>
      match readString none rest with
      | none => none
      | some (key, rest) =>
        match skipSpace rest with
        | ':' :: rest =>
          match readTree fuel depth rest with
          | none => none
          | some (item, rest) =>
            match skipSpace rest with
            | ',' :: tail =>
              (readMembers fuel depth tail).map fun (members, tail) =>
                ((key.map String.ofList, item) :: members, tail)
            | '\x7d' :: tail => some ([(key.map String.ofList, item)], tail)
            | _ => none
        | _ => none
    | _ => none

end

/-- The greatest number of brackets that may be open at once. -/
def nestingLimit : Nat := 127

/-- The tree of a JSON text. -/
def tree? (text : String) : Option Tree := do
  let characters := text.toList
  let (tree, rest) ← readTree (2 * characters.length + 2) nestingLimit characters
  if (skipSpace rest).isEmpty then some tree else none

/-- The document of a JSON text. -/
def parse? (text : String) : Option Value :=
  (tree? text).bind Tree.value?

end ProxyProfile.Json
