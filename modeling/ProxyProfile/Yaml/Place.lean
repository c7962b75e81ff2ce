/-
This file walks through the text of a YAML file.

A place is what is still ahead together with the line, the column and the number
of characters behind. Indentation is a matter of columns and the limits on keys
are a matter of lines and counts, so every step keeps all three. Five characters
break lines, a carriage return and a line feed together once; the end of the text
counts as blank wherever a blank is asked for.
-/

namespace ProxyProfile.Yaml

/-! ### Characters -/

/-- A space or a tab. -/
def isGap (c : Char) : Bool :=
  c = ' ' || c = '\t'

/-- A character that breaks a line. -/
def isBreak (c : Char) : Bool :=
  c = '\n' || c = '\r' || c.toNat = 0x85 || c.toNat = 0x2028 || c.toNat = 0x2029

/-- The mark of the byte order. -/
def isByteOrderMark (c : Char) : Bool :=
  c.toNat = 0xFEFF

/-- A character of a name: an ASCII letter or digit, a hyphen or an underscore. -/
def isNameChar (c : Char) : Bool :=
  c.isAlphanum || c = '-' || c = '_'

/-- Whether a word ends before what comes next: a gap, a break or the end. -/
def endsWord : List Char → Bool
  | [] => true
  | c :: _ => isGap c || isBreak c

/-- Whether a line ends before what comes next. -/
def endsLine : List Char → Bool
  | [] => true
  | c :: _ => isBreak c

/-- A character that may stand in a file at all. -/
def isAllowed (c : Char) : Bool :=
  let n := c.toNat
  n = 9 || n = 10 || n = 13 || (0x20 ≤ n && n ≤ 0x7E) || n = 0x85 ||
    (0xA0 ≤ n && n ≤ 0xD7FF) || (0xE000 ≤ n && n ≤ 0xFFFD) || 0x10000 ≤ n

/-! ### Places -/

/-- A place in a text. -/
structure Place where
  /-- What is ahead. -/
  ahead : List Char
  line : Nat
  column : Nat
  /-- How many characters are behind. -/
  behind : Nat

namespace Place

/-- The place before the first character. -/
def start (text : List Char) : Place :=
  ⟨text, 0, 0, 0⟩

/-- The next character. -/
def next? (place : Place) : Option Char :=
  place.ahead.head?

/-- Passes over `count` characters none of which breaks the line. -/
def skip (count : Nat) (place : Place) : Place :=
  { place with
    ahead := place.ahead.drop count
    column := place.column + count
    behind := place.behind + count }

/-- The characters ahead that satisfy a condition, no break among them, and the place
behind them. -/
def span (condition : Char → Bool) (place : Place) : List Char × Place :=
  let taken := place.ahead.takeWhile condition
  (taken, place.skip taken.length)

/-- Passes over characters that satisfy a condition. -/
def skipWhile (condition : Char → Bool) (place : Place) : Place :=
  (place.span condition).2

/-- Passes over a mark of the byte order at the start of a line. -/
def skipByteOrderMark (place : Place) : Place :=
  if place.column = 0 && place.next?.any isByteOrderMark then place.skip 1 else place

/-- Passes over the rest of the line. -/
def skipLineRest (place : Place) : Place :=
  place.skipWhile fun c => !isBreak c

/-- Passes over a line break, giving the text it stands for: the two separators of Unicode
stand for themselves, all others for a line feed. Gives nothing where no line ends. -/
def readBreak (place : Place) : List Char × Place :=
  let broken (length : Nat) : Place :=
    { ahead := place.ahead.drop length
      line := place.line + 1
      column := 0
      behind := place.behind + length }
  match place.ahead with
  | '\r' :: '\n' :: _ => (['\n'], broken 2)
  | c :: _ =>
    if c.toNat = 0x2028 ∨ c.toNat = 0x2029 then ([c], broken 1)
    else if isBreak c then (['\n'], broken 1)
    else ([], place)
  | [] => ([], place)

/-- Passes over a line break. -/
def skipBreak (place : Place) : Place :=
  place.readBreak.2

/-- Whether a line starts here that separates documents: three times `mark`, then a blank. -/
def isSeparator (mark : Char) (place : Place) : Bool :=
  place.column = 0 && place.ahead.take 3 == [mark, mark, mark] && endsWord (place.ahead.drop 3)

/-- Whether a line starts here that begins or ends a document. -/
def isDocumentBorder (place : Place) : Bool :=
  place.isSeparator '-' || place.isSeparator '.'

end Place

end ProxyProfile.Yaml
