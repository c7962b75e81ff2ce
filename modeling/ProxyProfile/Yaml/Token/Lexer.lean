/-
This file cuts the text of a YAML file into tokens.

Blocks have no brackets: one begins where a line is indented deeper than the
block around it and ends where a line is indented less, and the lexer writes the
borders down as tokens. A key has no mark in front either. So the lexer remembers
where a key may have begun, at most one place for each open bracket, and when it
meets the colon it puts the tokens for the key in front of what it has already
written. Such a key has to stand on one line and may not be longer than 1024
characters; where the indentation says that a key must stand, its absence is an
error.
-/

import ProxyProfile.Yaml.Token.Scalar

namespace ProxyProfile.Yaml

/-- A place where a key may have begun. -/
structure KeyStart where
  /-- How many tokens are before it. -/
  position : Nat
  line : Nat
  column : Nat
  behind : Nat
  /-- Whether nothing but a key may stand there. -/
  required : Bool

/-- The state between two tokens. -/
structure Lexer where
  place : Place
  /-- The tokens so far, the last one first. -/
  tokens : List Token
  /-- The columns of the open blocks, the innermost first. -/
  blocks : List Nat
  /-- Where a key may have begun, for each open bracket and outside of them, the innermost
  first. -/
  keys : List (Option KeyStart)
  /-- Whether a key may begin here. -/
  keyAllowed : Bool

namespace Lexer

/-! ### State -/

/-- The state before the first token. -/
def start (text : List Char) : Lexer :=
  { place := .start text, tokens := [], blocks := [], keys := [none], keyAllowed := true }

/-- Whether a bracket is open. -/
def inFlow (lexer : Lexer) : Bool :=
  1 < lexer.keys.length

/-- The column of the innermost block, -1 outside of all. -/
def indent (lexer : Lexer) : Int :=
  match lexer.blocks with
  | [] => -1
  | column :: _ => column

/-- Writes a token down and goes on at a place. -/
def emit (token : Token) (place : Place) (lexer : Lexer) : Lexer :=
  { lexer with place, tokens := token :: lexer.tokens }

/-- Writes a token down in front of those from `position` on. -/
def insertAt (position : Nat) (token : Token) (lexer : Lexer) : Lexer :=
  let later := lexer.tokens.length - position
  { lexer with tokens := lexer.tokens.take later ++ token :: lexer.tokens.drop later }

/-- Says whether a key may begin at the next token. -/
def allowKey (allowed : Bool) (lexer : Lexer) : Lexer :=
  { lexer with keyAllowed := allowed }

/-! ### Blocks -/

/-- Opens a block at a column, unless it is open already or a bracket is. -/
def openBlock (token : Token) (column position : Nat) (lexer : Lexer) : Lexer :=
  if lexer.inFlow || (column : Int) ≤ lexer.indent then lexer
  else { lexer.insertAt position token with blocks := column :: lexer.blocks }

/-- Opens a block here. -/
def openBlockHere (token : Token) (lexer : Lexer) : Lexer :=
  lexer.openBlock token lexer.place.column lexer.tokens.length

/-- Closes the blocks that are indented deeper than a column. -/
def closeBlocks (column : Int) (lexer : Lexer) : Lexer :=
  if lexer.inFlow then lexer
  else
    let closed := lexer.blocks.takeWhile fun (block : Nat) => column < (block : Int)
    { lexer with
      tokens := closed.map (fun _ => Token.blockEnd) ++ lexer.tokens
      blocks := lexer.blocks.drop closed.length }

/-! ### Keys -/

/-- Gives up the key that may have begun inside the innermost bracket. -/
def dropKey? (lexer : Lexer) : Option Lexer :=
  match lexer.keys with
  | some key :: outer => if key.required then none else some { lexer with keys := none :: outer }
  | _ => some lexer

/-- Remembers that a key may begin here. -/
def saveKey? (lexer : Lexer) : Option Lexer :=
  if lexer.keyAllowed then do
    let lexer ← lexer.dropKey?
    let key : KeyStart :=
      { position := lexer.tokens.length
        line := lexer.place.line
        column := lexer.place.column
        behind := lexer.place.behind
        required := !lexer.inFlow && lexer.indent = lexer.place.column }
    return { lexer with keys := some key :: lexer.keys.drop 1 }
  else some lexer

/-- Gives up keys that began on another line or too far behind. -/
def dropStaleKeys? (lexer : Lexer) : Option Lexer := do
  let keys ← lexer.keys.mapM fun key =>
    match key with
    | none => some none
    | some key =>
      if key.line < lexer.place.line || key.behind + 1024 < lexer.place.behind then
        if key.required then none else some none
      else some (some key)
  return { lexer with keys }

/-! ### Tokens -/

/-- Passes over blanks, comments, line breaks, and marks of the byte order at the start of a
line. -/
def skipBlank : Nat → Lexer → Lexer
  | 0, lexer => lexer
  | fuel + 1, lexer =>
    let tabs := lexer.inFlow || !lexer.keyAllowed
    let place := lexer.place.skipByteOrderMark.skipWhile fun c => c = ' ' || (tabs && c = '\t')
    let place := if place.next? = some '#' then place.skipLineRest else place
    if place.next?.any isBreak then
      skipBlank fuel
        { lexer with place := place.skipBreak, keyAllowed := lexer.keyAllowed || !lexer.inFlow }
    else { lexer with place }

/-- Closes everything that is open outside of brackets, before a border of the document. -/
def leaveBlocks? (lexer : Lexer) : Option Lexer := do
  return (← (lexer.closeBlocks (-1)).dropKey?).allowKey false

/-- An opening bracket. -/
def openBracket? (token : Token) (lexer : Lexer) : Option Lexer := do
  let lexer ← lexer.saveKey?
  return ({ lexer with keys := none :: lexer.keys }.allowKey true).emit token (lexer.place.skip 1)

/-- A closing bracket. -/
def closeBracket? (token : Token) (lexer : Lexer) : Option Lexer := do
  let lexer ← lexer.dropKey?
  let keys := if lexer.inFlow then lexer.keys.drop 1 else lexer.keys
  return ({ lexer with keys }.allowKey false).emit token (lexer.place.skip 1)

/-- A comma between brackets. -/
def comma? (lexer : Lexer) : Option Lexer := do
  let lexer ← lexer.dropKey?
  return (lexer.allowKey true).emit .comma (lexer.place.skip 1)

/-- The dash before an item. -/
def dash? (lexer : Lexer) : Option Lexer := do
  if !lexer.inFlow && !lexer.keyAllowed then none
  let lexer ← (lexer.openBlockHere .blockList).dropKey?
  return (lexer.allowKey true).emit .dash (lexer.place.skip 1)

/-- The question mark before a key. -/
def key? (lexer : Lexer) : Option Lexer := do
  if !lexer.inFlow && !lexer.keyAllowed then none
  let lexer ← (lexer.openBlockHere .blockTable).dropKey?
  return (lexer.allowKey (!lexer.inFlow)).emit .key (lexer.place.skip 1)

/-- The colon before a value: the key began where one may have begun, or there is none. -/
def value? (lexer : Lexer) : Option Lexer :=
  match lexer.keys with
  | some key :: outer =>
    let lexer := lexer.insertAt key.position .key
    let lexer := lexer.openBlock .blockTable key.column key.position
    some (({ lexer with keys := none :: outer }.allowKey false).emit .value (lexer.place.skip 1))
  | _ =>
    if !lexer.inFlow && !lexer.keyAllowed then none
    else
      let lexer := lexer.openBlockHere .blockTable
      some ((lexer.allowKey (!lexer.inFlow)).emit .value (lexer.place.skip 1))

/-- A border of the document. -/
def border? (token : Token) (lexer : Lexer) : Option Lexer := do
  let lexer ← lexer.leaveBlocks?
  return lexer.emit token (lexer.place.skip 3)

/-- A directive. -/
def directiveLine? (lexer : Lexer) : Option Lexer := do
  let lexer ← lexer.leaveBlocks?
  let (token, place) ← directive? (lexer.place.skip 1)
  return lexer.emit token place

/-- A token that may begin a key, as read by `read`. -/
def keyPart? (read : Place → Option (Token × Place)) (lexer : Lexer) : Option Lexer := do
  let lexer ← lexer.saveKey?
  let (token, place) ← read lexer.place
  return (lexer.allowKey false).emit token place

/-- A quoted scalar. -/
def quoted? (single : Bool) : Lexer → Option Lexer :=
  keyPart? fun place => do
    let (text, rest) ← quotedScalar? single (place.skip 1)
    return (.scalar .quoted text, rest)

/-- A block scalar. -/
def block? (folded : Bool) (lexer : Lexer) : Option Lexer := do
  let lexer ← lexer.dropKey?
  let (text, place) ← blockScalar? folded lexer.indent (lexer.place.skip 1)
  let style := if folded then Style.folded else Style.literal
  return (lexer.allowKey true).emit (.scalar style text) place

/-- A plain scalar. A key may follow it if it ends with its line. -/
def plain? (lexer : Lexer) : Option Lexer := do
  let lexer ← lexer.saveKey?
  let (text, broken, place) ← plainScalar? lexer.inFlow (lexer.indent + 1).toNat lexer.place
  return (lexer.allowKey broken).emit (.scalar .plain text) place

/-- Whether a plain scalar may begin with a character that is followed by `rest`. -/
def beginsPlain (inFlow : Bool) (c : Char) (rest : List Char) : Bool :=
  !(isGap c || "-?:,[]\x7b\x7d#&*!|>'\"%@`".contains c) ||
    (c = '-' && !(rest.head?.any isGap)) ||
    (!inFlow && (c = '?' || c = ':') && !endsWord rest)

/-- The token that begins with a character, blanks being passed. -/
def token? (c : Char) (rest : List Char) (lexer : Lexer) : Option Lexer :=
  let inFlow := lexer.inFlow
  if lexer.place.column = 0 ∧ c = '%' then lexer.directiveLine?
  else if lexer.place.isSeparator '-' then lexer.border? .documentStart
  else if lexer.place.isSeparator '.' then lexer.border? .documentEnd
  else if c = '[' then lexer.openBracket? .flowList
  else if c.toNat = 0x7B then lexer.openBracket? .flowTable
  else if c = ']' then lexer.closeBracket? .flowListEnd
  else if c.toNat = 0x7D then lexer.closeBracket? .flowTableEnd
  else if c = ',' then lexer.comma?
  else if c = '-' && endsWord rest then lexer.dash?
  else if c = '?' && (inFlow || endsWord rest) then lexer.key?
  else if c = ':' && (inFlow || endsWord rest) then lexer.value?
  else if c = '*' then
    lexer.keyPart? fun place => do
      let (name, rest) ← anchorName? (place.skip 1)
      return (.alias name, rest)
  else if c = '&' then
    lexer.keyPart? fun place => do
      let (name, rest) ← anchorName? (place.skip 1)
      return (.anchor name, rest)
  else if c = '!' then lexer.keyPart? (tag? inFlow)
  else if c = '|' && !inFlow then lexer.block? false
  else if c = '>' && !inFlow then lexer.block? true
  else if c = '\'' then lexer.quoted? true
  else if c = '"' then lexer.quoted? false
  else if beginsPlain inFlow c rest then lexer.plain?
  else none

/-- The tokens of what is ahead, behind those already written. -/
def run : Nat → Lexer → Option (List Token)
  | 0, _ => none
  | fuel + 1, lexer => do
    let lexer := lexer.skipBlank (lexer.place.ahead.length + 1)
    let lexer ← lexer.dropStaleKeys?
    let lexer := lexer.closeBlocks lexer.place.column
    match lexer.place.ahead with
    | [] => return (← lexer.leaveBlocks?).tokens.reverse
    | c :: rest => run fuel (← lexer.token? c rest)

end Lexer

/-- The tokens of a file. A mark of the byte order at its start is passed over. -/
def tokens? (text : String) : Option (List Token) :=
  let characters :=
    match text.toList with
    | c :: rest => if isByteOrderMark c then rest else c :: rest
    | [] => []
  if characters.all isAllowed then Lexer.run (characters.length + 1) (.start characters) else none

end ProxyProfile.Yaml
