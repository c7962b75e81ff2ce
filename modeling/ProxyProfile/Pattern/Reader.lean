/-
This file reads patterns.

A pattern is a choice of sequences of items. Items are characters, classes,
assertions, groups and mode switches; all but the last may be repeated. Modes
hold from where they are switched on to the end of the group. What could only be
answered by looking ahead or by remembering what was matched is refused, and so
is every escape without a meaning.

Every step of the reader takes at least one character, so the length of the
pattern bounds the number of calls.
-/

import ProxyProfile.Decimal.Digits
import ProxyProfile.Decimal.Width
import ProxyProfile.Pattern.Property
import ProxyProfile.Pattern.Weight

namespace ProxyProfile.Pattern

/-! ### Modes -/

/-- The modes that a pattern may switch. -/
structure Mode where
  ignoreCase : Bool := false
  multiLine : Bool := false
  dotAll : Bool := false
  returns : Bool := false
  verbose : Bool := false
  unicode : Bool := true

/-- Switches the mode of a letter on or off. Which of several matches is preferred makes no
difference here, so that mode only has its letter. -/
def Mode.switch? (mode : Mode) (letter : Char) (on : Bool) : Option Mode :=
  match letter with
  | 'i' => some { mode with ignoreCase := on }
  | 'm' => some { mode with multiLine := on }
  | 's' => some { mode with dotAll := on }
  | 'R' => some { mode with returns := on }
  | 'x' => some { mode with verbose := on }
  | 'u' => some { mode with unicode := on }
  | 'U' => some mode
  | _ => none

/-- The modes written behind a question mark, up to a colon or a closing parenthesis. No
letter and no minus sign stands twice, and a minus sign has a letter behind it. -/
def readModes? (mode : Mode) (seen : List Char) (on : Bool) :
    List Char → Option (Mode × List Char × List Char)
  | [] => none
  | c :: rest =>
    if c = ':' ∨ c = ')' then
      if seen.head? = some '-' then none else some (mode, seen, c :: rest)
    else if seen.contains c then none
    else if c = '-' then readModes? mode (c :: seen) false rest
    else
      match mode.switch? c on with
      | none => none
      | some mode => readModes? mode (c :: seen) on rest

/-- Drops blanks and comments in the mode that passes over them. A comment reaches to the
end of its line. -/
def skipIgnored (mode : Mode) (inComment : Bool) : List Char → List Char
  | [] => []
  | c :: rest =>
    if !mode.verbose then c :: rest
    else if inComment then skipIgnored mode (c != '\n') rest
    else if Text.isBlank c then skipIgnored mode false rest
    else if c = '#' then skipIgnored mode true rest
    else c :: rest

/-- Drops blanks and comments in the mode that passes over them. -/
def skip (mode : Mode) (characters : List Char) : List Char :=
  skipIgnored mode false characters

/-! ### Escapes -/

/-- What stands for itself in a pattern: a character, a class or an assertion. -/
inductive Primitive
  | literal (c : Char)
  | set (members : CharSet)
  | look (asked : Look)

/-- The value of a hexadecimal digit of either case. -/
def hexDigit? (c : Char) : Option Nat :=
  if 48 ≤ c.toNat ∧ c.toNat ≤ 57 then some (c.toNat - 48)
  else if 'a' ≤ c ∧ c ≤ 'f' then some (c.toNat - 87)
  else if 'A' ≤ c ∧ c ≤ 'F' then some (c.toNat - 55)
  else none

/-- The character of a code point that is given by hexadecimal digits. -/
def charOfHex? (shown : List Char) : Option Char := do
  if shown.isEmpty then none
  let number ← shown.foldlM (fun number c => do
    let next := number * 16 + (← hexDigit? c)
    if Decimal.fits 32 next then some next else none) 0
  if number.isValidChar then some (Char.ofNat number) else none

/-- The part of a list up to a mark, and what follows the mark. -/
def upToMark? (mark : Char) : List Char → Option (List Char × List Char)
  | [] => none
  | c :: rest =>
    if c = mark then some ([], rest)
    else (upToMark? mark rest).map fun (before, after) => (c :: before, after)

/-- A character by its code point, behind `x`, `u` or `U`: a fixed number of digits, or any
number of them in braces. -/
def readHex? (mode : Mode) (count : Nat) (characters : List Char) :
    Option (Char × List Char) :=
  match skip mode characters with
  | '\x7b' :: rest => do
    let (shown, rest) ← upToMark? '\x7d' rest
    return (← charOfHex? (shown.filter fun c => !(mode.verbose && Text.isBlank c)), rest)
  | rest =>
    if rest.length < count then none
    else (charOfHex? (rest.take count)).map fun c => (c, rest.drop count)

/-- A class of Unicode, behind `p` or `P`. -/
def readProperty? (mode : Mode) (characters : List Char) : Option (CharSet × List Char) :=
  if !mode.unicode then none
  else
    match skip mode characters with
    | [] => none
    | '\x7b' :: rest => do
      let (shown, rest) ← upToMark? '\x7d' rest
      return (← propertySet? shown, rest)
    | '\\' :: _ => none
    | c :: rest => (namedSet? (plainName [c])).map fun set => (set, rest)

/-- The assertions about words that have names in braces. Where no name begins, the brace is
left to begin a repetition. -/
def readBoundary? (characters : List Char) : Option (Look × List Char) :=
  let isNameChar (c : Char) := c = '-' || c.isAlpha
  match characters with
  | '\x7b' :: c :: rest =>
    if !isNameChar c then some (.wordBoundary, characters)
    else do
      let (name, rest) ← upToMark? '\x7d' (c :: rest)
      match String.ofList name with
      | "start" => some (.wordStart, rest)
      | "end" => some (.wordEnd, rest)
      | "start-half" => some (.wordStartHalf, rest)
      | "end-half" => some (.wordEndHalf, rest)
      | _ => none
  | ['\x7b'] => none
  | _ => some (.wordBoundary, characters)

/-- The characters with an escape of one letter. -/
def controlEscape? (c : Char) : Option Char :=
  match c with
  | 'a' => some (Char.ofNat 7)
  | 'f' => some (Char.ofNat 12)
  | 't' => some '\t'
  | 'n' => some '\n'
  | 'r' => some '\r'
  | 'v' => some (Char.ofNat 11)
  | _ => none

/-- The assertions with an escape of one letter. -/
def lookEscape? (c : Char) : Option Look :=
  match c with
  | 'A' => some .textStart
  | 'z' => some .textEnd
  | 'B' => some .noWordBoundary
  | '<' => some .wordStart
  | '>' => some .wordEnd
  | _ => none

/-- What an escape stands for, behind its backslash. Any character of ASCII that is neither
a letter nor a digit may be escaped to stand for itself. -/
def readEscape? (mode : Mode) : List Char → Option (Primitive × List Char)
  | [] => none
  | c :: rest =>
    if c = 'x' then (readHex? mode 2 rest).map fun (c, rest) => (.literal c, rest)
    else if c = 'u' then (readHex? mode 4 rest).map fun (c, rest) => (.literal c, rest)
    else if c = 'U' then (readHex? mode 8 rest).map fun (c, rest) => (.literal c, rest)
    else if c = 'p' ∨ c = 'P' then
      (readProperty? mode rest).map fun (set, rest) =>
        let set := if mode.ignoreCase then .anyCase set else set
        (.set (if c = 'P' then .complement set else set), rest)
    else if c = 'b' then (readBoundary? rest).map fun (asked, rest) => (.look asked, rest)
    else
      match shortClass? mode.unicode c, shortClass? mode.unicode c.toLower with
      | some set, _ => some (.set set, rest)
      | none, some set => if mode.unicode then some (.set (.complement set), rest) else none
      | none, none =>
        match controlEscape? c, lookEscape? c with
        | some plain, _ => some (.literal plain, rest)
        | none, some asked => some (.look asked, rest)
        | none, none =>
          if c.toNat < 128 && !c.isAlphanum then some (.literal c, rest) else none

/-! ### Bracketed classes -/

/-- How two sets are combined inside a class. -/
inductive SetOperator
  | intersection
  | difference
  | oneSided

/-- The set of an operator. -/
def SetOperator.apply (operator : SetOperator) (mode : Mode) (first second : CharSet) :
    CharSet :=
  let fold (set : CharSet) : CharSet := if mode.ignoreCase then .anyCase set else set
  match operator with
  | intersection => .intersection (fold first) (fold second)
  | difference => .difference (fold first) (fold second)
  | oneSided => .oneSided (fold first) (fold second)

/-- The part of a class that has been read: the members since the last operator, and what
stands before it. -/
structure OpenClass where
  members : List CharSet
  before : Option (CharSet × SetOperator)

/-- The set of a class as far as it has been read. -/
def OpenClass.close (opened : OpenClass) (mode : Mode) : CharSet :=
  let last := CharSet.unions opened.members.reverse
  match opened.before with
  | none => last
  | some (first, operator) => operator.apply mode first last

/-- Adds a set to the members since the last operator. -/
def OpenClass.add (opened : OpenClass) (set : CharSet) : OpenClass :=
  { opened with members := set :: opened.members }

/-- Puts an operator behind what has been read. -/
def OpenClass.combine (opened : OpenClass) (mode : Mode) (operator : SetOperator) :
    OpenClass :=
  { members := [], before := some (opened.close mode, operator) }

/-- A class of ASCII by its name between `[:` and `:]`, behind the opening bracket. -/
def readAsciiClass? : List Char → Option (CharSet × List Char)
  | ':' :: rest => do
    let (negated, rest) := match rest with
      | '^' :: rest => (true, rest)
      | rest => (false, rest)
    let (name, rest) ← upToMark? ':' rest
    let set ← asciiClass? (String.ofList name)
    match rest with
    | ']' :: rest => some (if negated then .complement set else set, rest)
    | _ => none
  | _ => none

/-- One end of a range or a member of a class: a character or an escape. -/
def readMember? (mode : Mode) : List Char → Option (Primitive × List Char)
  | [] => none
  | '\\' :: rest => readEscape? mode rest
  | c :: rest => if mode.unicode || c.toNat < 128 then some (.literal c, rest) else none

/-- The set of a member of a class; an assertion has none. -/
def Primitive.set? : Primitive → Option CharSet
  | literal c => some (.single c)
  | set members => some members
  | look _ => none

/-- A member or a range of a class. A hyphen makes a range unless it is the last character
or begins an operator. -/
def readRange? (mode : Mode) (characters : List Char) : Option (CharSet × List Char) := do
  let (first, rest) ← readMember? mode characters
  match skip mode rest with
  | [] => none
  | '-' :: tail =>
    match skip mode tail with
    | [] => none
    | next :: more =>
      if next = ']' ∨ next = '-' then return (← first.set?, '-' :: tail)
      else
        let (last, rest) ← readMember? mode (next :: more)
        match first, last with
        | .literal least, .literal greatest =>
          if least ≤ greatest then some (.range least.toNat greatest.toNat, rest) else none
        | _, _ => none
  | rest => return (← first.set?, rest)

/-- The hyphens at the start of a class, which stand for themselves. -/
def readHyphens (mode : Mode) (opened : OpenClass) : List Char → OpenClass × List Char
  | '-' :: rest => readHyphens mode (opened.add (.single '-')) rest
  | c :: rest =>
    if mode.verbose && Text.isBlank c then readHyphens mode opened rest else (opened, c :: rest)
  | [] => (opened, [])

/-- The start of a class, behind its bracket: whether it is negated, and the characters
there that stand for themselves. -/
def openClass (mode : Mode) (characters : List Char) : Bool × OpenClass × List Char :=
  let (negated, rest) := match skip mode characters with
    | '^' :: rest => (true, skip mode rest)
    | rest => (false, rest)
  let (opened, rest) := readHyphens mode ⟨[], none⟩ rest
  match opened.members, rest with
  | [], ']' :: rest => (negated, opened.add (.single ']'), rest)
  | _, _ => (negated, opened, rest)

/-- The rest of a class, up to its closing bracket. A class may stand inside another one. -/
def readClass? (mode : Mode) (fuel : Nat) (negated : Bool) (opened : OpenClass)
    (characters : List Char) : Option (CharSet × List Char) :=
  match fuel with
  | 0 => none
  | fuel + 1 =>
    match skip mode characters with
    | [] => none
    | ']' :: rest =>
      let set := opened.close mode
      let folded := if mode.ignoreCase then .anyCase set else set
      if negated then (if mode.unicode then some (.complement folded, rest) else none)
      else some (folded, rest)
    | '[' :: rest =>
      match readAsciiClass? rest with
      | some (set, rest) => readClass? mode fuel negated (opened.add set) rest
      | none =>
        let (innerNegated, inner, rest) := openClass mode rest
        match readClass? mode fuel innerNegated inner rest with
        | none => none
        | some (set, rest) => readClass? mode fuel negated (opened.add set) rest
    | '&' :: '&' :: rest =>
      readClass? mode fuel negated (opened.combine mode .intersection) rest
    | '-' :: '-' :: rest =>
      readClass? mode fuel negated (opened.combine mode .difference) rest
    | '~' :: '~' :: rest =>
      readClass? mode fuel negated (opened.combine mode .oneSided) rest
    | rest =>
      match readRange? mode rest with
      | none => none
      | some (set, rest) => readClass? mode fuel negated (opened.add set) rest

/-! ### Repetitions -/

/-- A number of repetitions, with blanks around it. -/
def readCount? (characters : List Char) : Option (Nat × List Char) :=
  let shown := characters.dropWhile Text.isBlank
  let digits := shown.takeWhile Decimal.isDigit
  let count := Decimal.value digits
  if digits.isEmpty || !Decimal.fits 32 count then none
  else some (count, (shown.dropWhile Decimal.isDigit).dropWhile Text.isBlank)

/-- Repetition of a node between braces, behind the opening one. -/
def readBraces? (mode : Mode) (node : Node) (characters : List Char) :
    Option (Node × List Char) := do
  let (least, rest) ← readCount? (skip mode characters)
  match rest with
  | '\x7d' :: rest => some (.between least 0 node, rest)
  | ',' :: rest =>
    match skip mode rest with
    | '\x7d' :: rest => some (.sequence (.between least 0 node) (.star node), rest)
    | rest =>
      let (most, rest) ← readCount? rest
      match rest with
      | '\x7d' :: rest =>
        if least ≤ most then some (.between least (most - least) node, rest) else none
      | _ => none
  | _ => none

/-- The question mark that makes a repetition prefer few. -/
def dropLazy : List Char → List Char
  | '?' :: rest => rest
  | rest => rest

/-! ### Groups -/

/-- The first character of the name of a group. -/
def isNameStart (c : Char) : Bool :=
  c = '_' || isLetterLike c

/-- The other characters of the name of a group. -/
def isNamePart (c : Char) : Bool :=
  isNameStart c || c = '.' || c = '[' || c = ']' || isDecimal c

/-- The name of a group, behind its opening bracket. -/
def readName? (names : List String) (characters : List Char) : Option (String × List Char) := do
  let (shown, rest) ← upToMark? '>' characters
  match shown with
  | [] => none
  | c :: more =>
    let name := String.ofList shown
    if isNameStart c && more.all isNamePart && !names.contains name then some (name, rest)
    else none

/-- What an opening parenthesis begins: a group with the modes that hold inside it, or a
switch of modes. -/
inductive Opening
  | group (mode : Mode) (names : List String) (rest : List Char)
  | modes (mode : Mode) (rest : List Char)

/-- Reads what follows an opening parenthesis. -/
def readOpening? (mode : Mode) (names : List String) (characters : List Char) :
    Option Opening :=
  match skip mode characters with
  | '?' :: 'P' :: '<' :: rest => do
    let (name, rest) ← readName? names rest
    return .group mode (name :: names) rest
  | '?' :: '<' :: rest => do
    let (name, rest) ← readName? names rest
    return .group mode (name :: names) rest
  | '?' :: rest => do
    let (switched, seen, rest) ← readModes? mode [] true rest
    match rest with
    | ')' :: rest => if seen.isEmpty then none else some (.modes switched rest)
    | ':' :: rest => some (.group switched names rest)
    | _ => none
  | rest => some (.group mode names rest)

/-! ### Patterns -/

/-- What has been read of a group: the modes and names so far, the choices that are
complete, and the items of the current one, the last first; a switch of modes is an item
that cannot be repeated. -/
structure OpenGroup where
  mode : Mode
  names : List String
  choices : List Node
  items : List (Option Node)

/-- The sequence of some items, the last first. -/
def sequenceOf (items : List (Option Node)) : Node :=
  (items.filterMap id).foldl (fun later item => .sequence item later) .empty

/-- The node of a group as far as it has been read. -/
def OpenGroup.close (opened : OpenGroup) : Node :=
  opened.choices.foldl (fun later choice => .choice choice later) (sequenceOf opened.items)

/-- Puts an item behind the others. -/
def OpenGroup.add (opened : OpenGroup) (node : Node) : OpenGroup :=
  { opened with items := some node :: opened.items }

/-- The node of an assertion. -/
def Mode.lookNode (mode : Mode) (asked : Look) : Node :=
  .look asked (if mode.unicode then .words else .asciiWord) mode.returns

/-- The set of a single character. -/
def Mode.literalSet (mode : Mode) (c : Char) : CharSet :=
  if mode.ignoreCase then .anyCase (.single c) else .single c

/-- The set that a dot stands for: all characters but those that end lines. -/
def Mode.dotSet (mode : Mode) : CharSet :=
  if mode.dotAll then .all
  else if mode.returns then .complement (.union (.single '\n') (.single '\r'))
  else .complement (.single '\n')

/-- The node of a character, a dot, an anchor or an escape. -/
def readPrimitive? (mode : Mode) : List Char → Option (Node × List Char)
  | [] => none
  | '.' :: rest => if mode.unicode then some (.one mode.dotSet, rest) else none
  | '^' :: rest =>
    some (mode.lookNode (if mode.multiLine then .lineStart else .textStart), rest)
  | '$' :: rest => some (mode.lookNode (if mode.multiLine then .lineEnd else .textEnd), rest)
  | '\\' :: rest =>
    match readEscape? mode rest with
    | none => none
    | some (.literal c, rest) =>
      if mode.unicode || c.toNat < 128 then some (.one (mode.literalSet c), rest) else none
    | some (.set set, rest) => some (.one set, rest)
    | some (.look asked, rest) => some (mode.lookNode asked, rest)
  | c :: rest =>
    if mode.unicode || c.toNat < 128 then some (.one (mode.literalSet c), rest) else none

/-- Reads a group up to its closing parenthesis or the end, inside groups of which `depth`
more may open. -/
def readGroup? (fuel depth : Nat) (opened : OpenGroup) (characters : List Char) :
    Option (OpenGroup × List Char) :=
  match fuel with
  | 0 => none
  | fuel + 1 =>
    match skip opened.mode characters with
    | [] => some (opened, [])
    | ')' :: rest => some (opened, ')' :: rest)
    | '|' :: rest =>
      readGroup? fuel depth
        { opened with choices := sequenceOf opened.items :: opened.choices, items := [] } rest
    | '(' :: rest =>
      match depth, readOpening? opened.mode opened.names rest with
      | _, none => none
      | _, some (.modes mode rest) =>
        readGroup? fuel depth { opened with mode, items := none :: opened.items } rest
      | 0, some (.group ..) => none
      | inner + 1, some (.group mode names rest) =>
        match readGroup? fuel inner ⟨mode, names, [], []⟩ rest with
        | some (group, ')' :: rest) =>
          readGroup? fuel depth
            { opened with names := group.names, items := some group.close :: opened.items } rest
        | _ => none
    | '[' :: rest =>
      let (negated, inner, rest) := openClass opened.mode rest
      match readClass? opened.mode fuel negated inner rest with
      | none => none
      | some (set, rest) => readGroup? fuel depth (opened.add (.one set)) rest
    | c :: rest =>
      if c = '?' ∨ c = '*' ∨ c = '+' ∨ c = '\x7b' then
        match opened.items with
        | some node :: before =>
          let repeated :=
            if c = '?' then some (.between 0 1 node, rest)
            else if c = '*' then some (.star node, rest)
            else if c = '+' then some (.sequence node (.star node), rest)
            else readBraces? opened.mode node rest
          match repeated with
          | none => none
          | some (node, rest) =>
            readGroup? fuel depth { opened with items := some node :: before } (dropLazy rest)
        | _ => none
      else
        match readPrimitive? opened.mode (c :: rest) with
        | none => none
        | some (node, rest) => readGroup? fuel depth (opened.add node) rest

/-- The greatest number of groups that may be open at once. -/
def groupLimit : Nat := 250

/-- The pattern that a text spells, if it is one and not too heavy. -/
def parse? (text : String) : Option Node :=
  let characters := text.toList
  match readGroup? (2 * characters.length + 2) groupLimit ⟨{}, [], [], []⟩ characters with
  | some (opened, []) => some opened.close |>.filter fun node => node.weight ≤ weightLimit
  | _ => none

end ProxyProfile.Pattern
