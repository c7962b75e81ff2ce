/-
This file reads the scalars of YAML: plain, quoted and block ones.

Plain and quoted scalars may run over several lines. The blanks between two
words then fold: blanks within a line stay as they are, one line break becomes a
space and further ones stay. Block scalars keep their lines, less the
indentation; folded ones join lines that do not start with a blank.
-/

import ProxyProfile.Yaml.Token.Mark

namespace ProxyProfile.Yaml

/-! ### Blanks between words -/

/-- The blanks between two words of a scalar. -/
structure Gap where
  /-- The blanks before the first line break. -/
  blanks : List Char
  /-- The text of the first line break, if there is one. -/
  first : Option (List Char)
  /-- The text of the other line breaks. -/
  more : List Char

/-- No blanks. -/
def Gap.empty : Gap :=
  ⟨[], none, []⟩

/-- What stands for the blanks in the text. -/
def Gap.text (gap : Gap) : List Char :=
  match gap.first with
  | none => gap.blanks
  | some ['\n'] => if gap.more.isEmpty then [' '] else gap.more
  | some first => first ++ gap.more

/-- Reads blanks and line breaks. A tab in the indentation, that is before the column
`indent`, is refused. -/
def Gap.read? (indent : Nat) : Nat → Gap → Place → Option (Gap × Place)
  | 0, gap, place => some (gap, place)
  | fuel + 1, gap, place =>
    match place.next? with
    | none => some (gap, place)
    | some c =>
      if isGap c then
        match gap.first with
        | some _ =>
          if c = '\t' ∧ place.column < indent then none
          else Gap.read? indent fuel gap (place.skip 1)
        | none =>
          Gap.read? indent fuel { gap with blanks := gap.blanks ++ [c] } (place.skip 1)
      else if isBreak c then
        let (shown, rest) := place.readBreak
        match gap.first with
        | some _ => Gap.read? indent fuel { gap with more := gap.more ++ shown } rest
        | none => Gap.read? indent fuel { gap with first := some shown } rest
      else some (gap, place)

/-! ### Plain scalars -/

/-- A bracket or comma, which ends a plain scalar inside brackets. -/
def isFlowMark (c : Char) : Bool :=
  ",[]\x7b\x7d".contains c

/-- The word at the start of a list, up to a blank or an indicator. Inside brackets a colon
directly before an indicator is refused. -/
def plainWord? (inFlow : Bool) : List Char → Option (List Char)
  | [] => some []
  | c :: rest =>
    if isGap c || isBreak c then some []
    else if inFlow && c = ':' && rest.head?.any fun d => d = '?' || isFlowMark d then none
    else if c = ':' && endsWord rest then some []
    else if inFlow && isFlowMark c then some []
    else (plainWord? inFlow rest).map (c :: ·)

/-- Reads the words of a plain scalar behind `written` and the blanks in `gap`. Tells also
whether line breaks were passed behind the last word. -/
def plainWords? (inFlow : Bool) (indent : Nat) :
    Nat → List Char → Gap → Place → Option (List Char × Bool × Place)
  | 0, written, gap, place => some (written, gap.first.isSome, place)
  | fuel + 1, written, gap, place =>
    if place.isDocumentBorder || place.next? = some '#' then
      some (written, gap.first.isSome, place)
    else do
      let word ← plainWord? inFlow place.ahead
      let written := if word.isEmpty then written else written ++ gap.text ++ word
      let gap := if word.isEmpty then gap else .empty
      let place := place.skip word.length
      if !(place.next?.any fun c => isGap c || isBreak c) then
        return (written, gap.first.isSome, place)
      let (gap, place) ← Gap.read? indent place.ahead.length gap place
      if !inFlow && place.column < indent then return (written, gap.first.isSome, place)
      plainWords? inFlow indent fuel written gap place

/-- A plain scalar whose further lines stand at column `indent` or behind. -/
def plainScalar? (inFlow : Bool) (indent : Nat) (place : Place) :
    Option (String × Bool × Place) := do
  let (text, broken, rest) ← plainWords? inFlow indent (place.ahead.length + 1) [] .empty place
  return (String.ofList text, broken, rest)

/-! ### Quoted scalars -/

/-- The character that `\` and another character stand for. -/
def simpleEscape? (c : Char) : Option Char :=
  match c with
  | '0' => some (Char.ofNat 0)
  | 'a' => some (Char.ofNat 7)
  | 'b' => some (Char.ofNat 8)
  | 't' => some '\t'
  | '\t' => some '\t'
  | 'n' => some '\n'
  | 'v' => some (Char.ofNat 11)
  | 'f' => some (Char.ofNat 12)
  | 'r' => some '\r'
  | 'e' => some (Char.ofNat 27)
  | ' ' => some ' '
  | '"' => some '"'
  | '/' => some '/'
  | '\\' => some '\\'
  | 'N' => some (Char.ofNat 0x85)
  | '_' => some (Char.ofNat 0xA0)
  | 'L' => some (Char.ofNat 0x2028)
  | 'P' => some (Char.ofNat 0x2029)
  | _ => none

/-- How many hexadecimal digits follow `\` and another character. -/
def escapeLength? (c : Char) : Option Nat :=
  match c with
  | 'x' => some 2
  | 'u' => some 4
  | 'U' => some 8
  | _ => none

/-- The character that an escape stands for, given what follows the backslash, and how
many characters the escape has behind the backslash. -/
def escape? : List Char → Option (Char × Nat)
  | [] => none
  | c :: rest =>
    match escapeLength? c with
    | none => (simpleEscape? c).map (·, 1)
    | some length => do
      if rest.length < length then none
      let code ← hexNumber? (rest.take length)
      if h : code.isValidChar then return (Char.ofNatAux code h, length + 1) else none

/-- Where a run of characters inside quotes ends. -/
inductive RunEnd
  /-- At a blank, at the closing quote or at the end of the text. -/
  | plain
  /-- At a backslash before a line break. -/
  | escapedBreak

/-- The characters up to the closing quote or the next blank: what they stand for, how many
they are, and how the run ends. -/
def quotedRun? (single : Bool) : Nat → List Char → Option (List Char × Nat × RunEnd)
  | 0, _ => some ([], 0, .plain)
  | _ + 1, [] => some ([], 0, .plain)
  | fuel + 1, c :: rest =>
    if isGap c || isBreak c then some ([], 0, .plain)
    else if single then
      if c = '\'' then
        if rest.head? = some '\'' then do
          let (text, count, ending) ← quotedRun? single fuel (rest.drop 1)
          return ('\'' :: text, count + 2, ending)
        else some ([], 0, .plain)
      else do
        let (text, count, ending) ← quotedRun? single fuel rest
        return (c :: text, count + 1, ending)
    else if c = '"' then some ([], 0, .plain)
    else if c = '\\' then
      if rest.head?.any isBreak then some ([], 0, .escapedBreak)
      else do
        let (shown, length) ← escape? rest
        let (text, count, ending) ← quotedRun? single fuel (rest.drop length)
        return (shown :: text, count + length + 1, ending)
    else do
      let (text, count, ending) ← quotedRun? single fuel rest
      return (c :: text, count + 1, ending)

/-- Reads a quoted scalar behind its opening quote and what was already read of it. -/
def quotedRuns? (single : Bool) : Nat → List Char → Place → Option (List Char × Place)
  | 0, _, _ => none
  | fuel + 1, written, place =>
    if place.isDocumentBorder || place.ahead.isEmpty then none
    else do
      let (text, count, ending) ← quotedRun? single place.ahead.length place.ahead
      let written := written ++ text
      let place := place.skip count
      let (gap, place) : Gap × Place :=
        match ending with
        | .plain => (.empty, place)
        | .escapedBreak => (⟨[], some [], []⟩, (place.skip 1).skipBreak)
      if place.next? = some (if single then '\'' else '"') then
        return (written, place.skip 1)
      let (gap, place) ← Gap.read? 0 place.ahead.length gap place
      quotedRuns? single fuel (written ++ gap.text) place

/-- A quoted scalar, behind its opening quote. -/
def quotedScalar? (single : Bool) (place : Place) : Option (String × Place) := do
  let (text, rest) ← quotedRuns? single (place.ahead.length + 1) [] place
  return (String.ofList text, rest)

/-! ### Block scalars -/

/-- What happens to the line breaks at the end of a block scalar. -/
inductive Chomping
  | strip
  | clip
  | keep
deriving DecidableEq

/-- The chomping a character asks for. -/
def chomping? : Option Char → Option Chomping
  | some '+' => some .keep
  | some '-' => some .strip
  | _ => none

/-- The indentation a character gives: none, or a digit that is not zero. -/
def indentation? (next : Option Char) : Option (Option Nat) :=
  match next with
  | some c => if Decimal.isDigit c then if c = '0' then none else some (some (c.toNat - 48))
    else some none
  | none => some none

/-- The chomping and the indentation at the head of a block scalar, in either order. -/
def blockHead? (place : Place) : Option (Chomping × Option Nat × Place) :=
  match chomping? place.next? with
  | some chomping => do
    let place := place.skip 1
    let indentation ← indentation? place.next?
    return (chomping, indentation, if indentation.isSome then place.skip 1 else place)
  | none => do
    match ← indentation? place.next? with
    | none => return (.clip, none, place)
    | some indentation =>
      let place := place.skip 1
      match chomping? place.next? with
      | none => return (.clip, some indentation, place)
      | some chomping => return (chomping, some indentation, place.skip 1)

/-- Reads empty lines: their breaks, the greatest column reached by their spaces, and the
place behind. Spaces count as indentation up to the column `indent`, or all of them while
it is not known. A tab in the indentation is refused. -/
def emptyLines? (indent : Option Nat) :
    Nat → List Char → Nat → Place → Option (List Char × Nat × Place)
  | 0, breaks, widest, place => some (breaks, widest, place)
  | fuel + 1, breaks, widest, place =>
    let spaces := (place.span (· = ' ')).1.length
    let place := place.skip <|
      match indent with
      | none => spaces
      | some indent => min spaces (indent - place.column)
    let widest := max widest place.column
    if place.next? = some '\t' ∧ indent.all (place.column < ·) then none
    else if place.next?.any isBreak then
      let (shown, rest) := place.readBreak
      emptyLines? indent fuel (breaks ++ shown) widest rest
    else some (breaks, widest, place)

/-- Reads the lines of a block scalar at column `indent` behind what was already read:
`pending` is the break of the last line and `empty` those of the empty lines after it, and
`blank` tells whether the last line starts with a blank. Gives the text, `pending` and
`empty` at the end. -/
def blockLines? (folded : Bool) (indent : Nat) :
    Nat → List Char → List Char → List Char → Bool → Place →
      Option (List Char × List Char × List Char × Place)
  | 0, written, pending, empty, _, place => some (written, pending, empty, place)
  | fuel + 1, written, pending, empty, blank, place =>
    if place.column = indent ∧ !place.ahead.isEmpty then do
      let startsBlank := place.next?.any isGap
      let joint :=
        if folded && pending.head? = some '\n' && !blank && !startsBlank then
          if empty.isEmpty then [' '] else []
        else pending
      let (line, place) := place.span fun c => !isBreak c
      let (pending, place) := place.readBreak
      let (breaks, _, place) ← emptyLines? (some indent) (place.ahead.length + 1) [] 0 place
      blockLines? folded indent fuel (written ++ joint ++ empty ++ line) pending breaks
        startsBlank place
    else some (written, pending, empty, place)

/-- A block scalar behind its indicator, in a block at column `parent` (negative outside of
all blocks). -/
def blockScalar? (folded : Bool) (parent : Int) (place : Place) : Option (String × Place) := do
  let (chomping, indentation, place) ← blockHead? place
  let place := place.skipWhile isGap
  let place := if place.next? = some '#' then place.skipLineRest else place
  if !endsLine place.ahead then none
  let place := place.skipBreak
  let given := indentation.map fun width => width + parent.toNat
  let (empty, widest, place) ← emptyLines? given (place.ahead.length + 1) [] 0 place
  let indent := given.getD (max widest (max (parent + 1).toNat 1))
  let (text, pending, empty, place) ←
    blockLines? folded indent (place.ahead.length + 1) [] [] empty false place
  let text := if chomping = .strip then text else text ++ pending
  let text := if chomping = .keep then text ++ empty else text
  return (String.ofList text, place)

end ProxyProfile.Yaml
