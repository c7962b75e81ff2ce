/-
This file reads the marks before a value and the directives before a document.

Anchors and aliases are names; what may follow them directly is a short list of
indicators. A tag is a handle between exclamation marks and a suffix, or a whole
address between angle brackets; both are written in the characters of addresses,
where a percent sign and two digits stand for one byte of a character's encoding.
-/

import ProxyProfile.Decimal.Digits
import ProxyProfile.Yaml.Place
import ProxyProfile.Yaml.Token

namespace ProxyProfile.Yaml

/-! ### Hexadecimal digits -/

/-- The value of a hexadecimal digit of either case. -/
def hexValue? (c : Char) : Option Nat :=
  if Decimal.isDigit c then some (c.toNat - 48)
  else if 'a' ≤ c && c ≤ 'f' then some (c.toNat - 87)
  else if 'A' ≤ c && c ≤ 'F' then some (c.toNat - 55)
  else none

/-- The number some hexadecimal digits stand for. -/
def hexNumber? (characters : List Char) : Option Nat :=
  characters.foldlM (fun number c => (hexValue? c).map (number * 16 + ·)) 0

/-! ### Names -/

/-- What may follow a name directly. -/
def endsName (characters : List Char) : Bool :=
  endsWord characters || (characters.head?.any fun c => "?:,]\x7d%@`".contains c)

/-- The name of an anchor or alias, behind the character that announces it. -/
def anchorName? (place : Place) : Option (String × Place) :=
  let (name, rest) := place.span isNameChar
  if name.isEmpty || !endsName rest.ahead then none else some (String.ofList name, rest)

/-! ### Tags -/

/-- A character of an address. -/
def isAddressChar (whole : Bool) (c : Char) : Bool :=
  isNameChar c || ";/?:@&=+$.%!~*'()".contains c || (whole && ",[]".contains c)

/-- Some characters with the bytes they spell resolved. -/
def unescapeAddress? : List Char → Option (List UInt8)
  | [] => some []
  | '%' :: high :: low :: rest => do
    let byte ← hexNumber? [high, low]
    return byte.toUInt8 :: (← unescapeAddress? rest)
  | c :: rest =>
    if c = '%' then none
    else do return c.toString.toUTF8.toList ++ (← unescapeAddress? rest)

/-- An address and the place behind it; `whole` ones may hold commas and brackets. The bytes
have to spell characters. -/
def address? (whole : Bool) (place : Place) : Option (List Char × Place) := do
  let (written, rest) := place.span (isAddressChar whole)
  let bytes ← unescapeAddress? written
  let text ← String.fromUTF8? (ByteArray.mk bytes.toArray)
  return (text.toList, rest)

/-- A handle: an exclamation mark, a name, and a second mark if there is one. -/
def tagHandle? (place : Place) : Option (List Char × Place) :=
  match place.next? with
  | some '!' =>
    let (name, rest) := (place.skip 1).span isNameChar
    if rest.next? = some '!' then some ('!' :: name ++ ['!'], rest.skip 1)
    else some ('!' :: name, rest)
  | _ => none

/-- The handle and the suffix of a tag. -/
def tagParts? (place : Place) : Option (Token × Place) :=
  match place.ahead with
  | '!' :: '<' :: _ => do
    let (suffix, rest) ← address? true (place.skip 2)
    if suffix.isEmpty || rest.next? ≠ some '>' then none
    return (.tag "" (String.ofList suffix), rest.skip 1)
  | _ => do
    let (handle, rest) ← tagHandle? place
    let (suffix, rest) ← address? false rest
    if handle.length > 1 && handle.getLast? = some '!' then
      if suffix.isEmpty then none
      return (.tag (String.ofList handle) (String.ofList suffix), rest)
    else if handle.length = 1 && suffix.isEmpty then return (.tag "" "!", rest)
    else return (.tag "!" (String.ofList (handle.drop 1 ++ suffix)), rest)

/-- A tag; a blank has to follow it, or a comma inside brackets. -/
def tag? (inFlow : Bool) (place : Place) : Option (Token × Place) := do
  let (token, rest) ← tagParts? place
  if endsWord rest.ahead || (inFlow && rest.next? = some ',') then return (token, rest) else none

/-! ### Directives -/

/-- A number of a version. -/
def versionNumber? (place : Place) : Option (Nat × Place) :=
  let (shown, rest) := place.span Decimal.isDigit
  if shown.isEmpty || 9 < shown.length then none else some (Decimal.value shown, rest)

/-- What a directive says, behind its name. -/
def directiveBody? (name : List Char) (place : Place) : Option (Token × Place) :=
  let place := place.skipWhile isGap
  if name = "YAML".toList then do
    let (major, rest) ← versionNumber? place
    if rest.next? ≠ some '.' then none
    let (minor, rest) ← versionNumber? (rest.skip 1)
    return (.version major minor, rest)
  else if name = "TAG".toList then do
    let (handle, rest) ← tagHandle? place
    if handle ≠ ['!'] && (handle.length = 1 || handle.getLast? ≠ some '!') then none
    if !(rest.next?.any isGap) then none
    let (meaning, rest) ← address? true (rest.skipWhile isGap)
    if meaning.isEmpty || !endsWord rest.ahead then none
    return (.handle (String.ofList handle) (String.ofList meaning), rest)
  else none

/-- A directive, behind its percent sign, to the end of its line. -/
def directive? (place : Place) : Option (Token × Place) := do
  let (name, rest) := place.span isNameChar
  if name.isEmpty || !endsWord rest.ahead then none
  let (token, rest) ← directiveBody? name rest
  let rest := rest.skipWhile isGap
  let rest := if rest.next? = some '#' then rest.skipLineRest else rest
  if endsLine rest.ahead then return (token, rest.skipBreak) else none

end ProxyProfile.Yaml
