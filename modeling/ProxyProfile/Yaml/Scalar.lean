/-
This file says what the scalars of YAML mean.

Every scalar is a text. A plain one without a tag is also nothing, a truth value
or a number if it looks like one: integers may be written in base sixteen, eight
and two behind `0x`, `0o` and `0b`, but a zero in front of other decimal digits
makes a text. Integers that need more than sixty-four bits but not more than
128 are refused where no type is asked for, and longer ones are floating
point numbers. A tag of the standard settles the type; a tag of one's own gives a
choice its name and cannot be read otherwise.
-/

import ProxyProfile.Decimal.Reading
import ProxyProfile.Text.Blank
import ProxyProfile.Tree
import ProxyProfile.Yaml.Event

namespace ProxyProfile.Yaml

/-! ### Plain texts -/

/-- A text for nothing. -/
def isNull (text : String) : Bool :=
  text = "null" || text = "Null" || text = "NULL" || text = "~"

/-- A text for a truth value. -/
def flag? (text : String) : Option Bool :=
  if text = "true" || text = "True" || text = "TRUE" then some true
  else if text = "false" || text = "False" || text = "FALSE" then some false
  else none

/-- Decimal digits with a zero in front, perhaps signed, which are no number. -/
def isZeroPadded (characters : List Char) : Bool :=
  let unsigned :=
    match characters with
    | '-' :: rest => rest
    | '+' :: rest => rest
    | rest => rest
  match unsigned with
  | '0' :: rest => !rest.isEmpty && rest.all Decimal.isDigit
  | _ => false

/-- The number some digits of a base stand for. -/
def baseNumber? (base : Nat) (characters : List Char) : Option Nat :=
  if characters.isEmpty then none
  else
    characters.foldlM (fun number c => do
      let digit ← hexValue? c
      if digit < base then return number * base + digit else none) 0

/-- A number without sign. -/
def natural? (characters : List Char) : Option Nat :=
  let unsigned :=
    match characters with
    | '+' :: rest => rest
    | rest => rest
  match unsigned with
  | '0' :: 'x' :: rest => baseNumber? 16 rest
  | '0' :: 'o' :: rest => baseNumber? 8 rest
  | '0' :: 'b' :: rest => baseNumber? 2 rest
  | _ => if isZeroPadded characters then none else baseNumber? 10 unsigned

/-- The magnitude of a number with a minus sign. -/
def negative? (characters : List Char) : Option Nat :=
  match characters with
  | '-' :: '0' :: 'x' :: rest => baseNumber? 16 rest
  | '-' :: '0' :: 'o' :: rest => baseNumber? 8 rest
  | '-' :: '0' :: 'b' :: rest => baseNumber? 2 rest
  | '-' :: rest => if isZeroPadded characters then none else baseNumber? 10 rest
  | _ => none

/-- A number with a sign. -/
def integer? (characters : List Char) : Option Int :=
  match natural? characters with
  | some number => some number
  | none => (negative? characters).map fun magnitude => -magnitude

/-- What an integer means where no type is asked for: a number, a refusal (the inner
`none`), or no integer at all. -/
def integerValue? (characters : List Char) : Option (Option Json.Value) :=
  match integer? characters with
  | none => none
  | some number =>
    if Decimal.fitsEither 64 number then some (some (.number (.integer number)))
    else if Decimal.fitsEither 128 number then some none
    else none

/-- The texts for infinity and for what is not a number, which documents cannot hold. -/
def isUnbounded (text : String) : Bool :=
  [".inf", ".Inf", ".INF", "+.inf", "+.Inf", "+.INF", "-.inf", "-.Inf", "-.INF",
    ".nan", ".NaN", ".NAN"].contains text

/-- What a floating point number means where no type is asked for. -/
def floatValue? (text : String) : Option Json.Value :=
  if isUnbounded text then some .null
  else (Decimal.finite? text.toList).map fun number => .number (.binary number)

/-- What a plain text without a tag means where no type is asked for. -/
def plainValue? (text : String) : Option Json.Value :=
  if text = "" || isNull text then some .null
  else
    match flag? text, integerValue? text.toList with
    | some flag, _ => some (.bool flag)
    | none, some meaning => meaning
    | none, none =>
      if isZeroPadded text.toList then some (.string text)
      else some ((floatValue? text).getD (.string text))

/-! ### Tags -/

/-- A tag of the standard. -/
def standardTag (name : String) : String :=
  "tag:yaml.org,2002:" ++ name

/-- The name a tag of one's own gives. -/
def ownTag? (tag : Option String) : Option String :=
  tag.bind fun tag => (Text.dropStart? ['!'] tag.toList).map String.ofList

/-- What a scalar means where no type is asked for. -/
def scalarValue? (tag : Option String) (style : Style) (text : String) : Option Json.Value :=
  if (ownTag? tag).isSome then none
  else if tag = some (standardTag "bool") then (flag? text).map .bool
  else if tag = some (standardTag "int") then (integerValue? text.toList).join
  else if tag = some (standardTag "float") then floatValue? text
  else if tag = some (standardTag "null") then if isNull text then some .null else none
  else if tag.isNone && style = .plain then plainValue? text
  else some (.string text)

/-- Whether a scalar may be read as a type that has a tag: a plain one always, a literal
one if it has the tag. -/
def mayBe (name : String) (tag : Option String) (style : Style) : Bool :=
  style = .plain || (style = .literal && tag = some (standardTag name))

/-- What a scalar may be read as. -/
def leafOf (tag : Option String) (style : Style) (text : String) : Leaf :=
  let saysNothing := text = "" || isNull text
  { text
    flag := if mayBe "bool" tag style then flag? text else none
    natural := if mayBe "int" tag style then natural? text.toList else none
    integer := if mayBe "int" tag style then integer? text.toList else none
    choice :=
      match ownTag? tag with
      | none => some text
      | some name => if style = .plain && saysNothing then some name else none
    value := scalarValue? tag style text
    absent := style = .plain &&
      ((tag.isNone && saysNothing) || (tag = some (standardTag "null") && isNull text))
    hollow := style = .plain && text = "" }

/-- What a file without a document may be read as. -/
def emptyLeaf : Leaf :=
  { value := some .null, absent := true, hollow := true }

end ProxyProfile.Yaml
