/-
This file reads the dates and times of TOML and writes them in their one form.

A date and a time may stand alone or together, and a time behind a date may have
an offset. Written out, a `T` separates the two, and fractions of a second have at
most nine digits without zeros at the end. Dates exist in the calendar.
-/

import ProxyProfile.Toml.Text

namespace ProxyProfile.Toml

/-- Exactly `count` decimal digits and their value. -/
def fixedDigits? (count : Nat) (characters : List Char) : Option (Nat × List Char) :=
  let shown := characters.take count
  if shown.length = count && shown.all Decimal.isDigit then
    some (Decimal.value shown, characters.drop count)
  else none

/-- A number with `width` digits, zeros in front. -/
def padded (width number : Nat) : List Char :=
  let shown := Decimal.digits number
  List.replicate (width - shown.length) '0' ++ shown

/-- The number of days of a month. -/
def daysOf (year month : Nat) : Nat :=
  if month = 2 then
    if year % 4 = 0 && (year % 100 ≠ 0 || year % 400 = 0) then 29 else 28
  else if [4, 6, 9, 11].contains month then 30
  else 31

/-- A character that has to come next. -/
def expect? (c : Char) : List Char → Option (List Char)
  | d :: rest => if c = d then some rest else none
  | [] => none

/-- A date, written out. -/
def date? (characters : List Char) : Option (List Char × List Char) := do
  let (year, rest) ← fixedDigits? 4 characters
  let (month, rest) ← fixedDigits? 2 (← expect? '-' rest)
  let (day, rest) ← fixedDigits? 2 (← expect? '-' rest)
  if month = 0 || 12 < month || day = 0 || daysOf year month < day then none
  return (padded 4 year ++ '-' :: padded 2 month ++ '-' :: padded 2 day, rest)

/-- The fraction of a second, written out. -/
def fraction? (characters : List Char) : Option (List Char × List Char) :=
  match characters with
  | '.' :: rest =>
    let shown := rest.takeWhile Decimal.isDigit
    if shown.isEmpty then none
    else
      let kept := ((shown.take 9).reverse.dropWhile (· = '0')).reverse
      some (if kept.isEmpty then [] else '.' :: kept, rest.dropWhile Decimal.isDigit)
  | rest => some ([], rest)

/-- A time of the day, written out. -/
def time? (characters : List Char) : Option (List Char × List Char) := do
  let (hour, rest) ← fixedDigits? 2 characters
  let (minute, rest) ← fixedDigits? 2 (← expect? ':' rest)
  let (second, rest) ← fixedDigits? 2 (← expect? ':' rest)
  if 23 < hour || 59 < minute || 60 < second then none
  let (fraction, rest) ← fraction? rest
  return (padded 2 hour ++ ':' :: padded 2 minute ++ ':' :: padded 2 second ++ fraction, rest)

/-- An offset from universal time, written out; nothing if none comes next. -/
def offset? (characters : List Char) : Option (List Char × List Char) :=
  match characters with
  | [] => some ([], [])
  | c :: rest =>
    if c = 'Z' ∨ c = 'z' then some (['Z'], rest)
    else if c = '+' ∨ c = '-' then do
      let (hours, rest) ← fixedDigits? 2 rest
      let (minutes, rest) ← fixedDigits? 2 (← expect? ':' rest)
      if 23 < hours || 59 < minutes then none
      let sign := if hours = 0 ∧ minutes = 0 then '+' else c
      return (sign :: padded 2 hours ++ ':' :: padded 2 minutes, rest)
    else some ([], characters)

/-- A date, a time, or both, written out. -/
def dateTime? (characters : List Char) : Option (String × List Char) :=
  match date? characters with
  | none => do
    let (time, rest) ← time? characters
    return (String.ofList time, rest)
  | some (date, rest) =>
    let alone := some (String.ofList date, rest)
    match rest with
    | c :: tail =>
      if c = 'T' ∨ c = 't' ∨ c = ' ' then
        match time? tail with
        | none => if c = ' ' then alone else none
        | some (time, rest) => do
          let (offset, rest) ← offset? rest
          return (String.ofList (date ++ 'T' :: time ++ offset), rest)
      else alone
    | [] => alone

end ProxyProfile.Toml
