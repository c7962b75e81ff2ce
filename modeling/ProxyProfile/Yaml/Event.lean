/-
This file groups the tokens of a YAML file into events.

An event is a scalar, an alias, or the start or end of a list or table; what
stands in no token, such as the missing value of a key, becomes an empty scalar.
Anchors get numbers in the order in which their names first occur, and an alias
is the number its name has at that point. A file holds one document; a second
one is refused.
-/

import ProxyProfile.Yaml.Token.Lexer

namespace ProxyProfile.Yaml

/-- What may precede a value. -/
structure Properties where
  anchor : Option Nat := none
  tag : Option String := none

/-- An event. -/
inductive Event
  | alias (target : Nat)
  | scalar (properties : Properties) (style : Style) (text : String)
  | startList (properties : Properties)
  | startTable (properties : Properties)
  /-- The end of the innermost list or table. -/
  | stop

/-- The tokens ahead, the meanings of handles and anchors, and the events so far, the last
one first. -/
structure Cursor where
  tokens : List Token
  handles : List (String × String)
  anchors : List (String × Nat)
  events : List Event

namespace Cursor

/-- Passes over a token. -/
def skip (cursor : Cursor) : Cursor :=
  { cursor with tokens := cursor.tokens.drop 1 }

/-- Writes an event down. -/
def emit (event : Event) (cursor : Cursor) : Cursor :=
  { cursor with events := event :: cursor.events }

/-- Writes an empty scalar down. -/
def emitEmpty (cursor : Cursor) : Cursor :=
  cursor.emit (.scalar {} .plain "")

/-- Defines an anchor. Its number is how many names are known; a name known already is
defined anew. -/
def define (name : String) (cursor : Cursor) : Nat × Cursor :=
  let number := cursor.anchors.length
  let others := cursor.anchors.filter fun entry => entry.1 ≠ name
  (number, { cursor with anchors := (name, number) :: others })

/-- The text of a tag. -/
def tagText? (cursor : Cursor) (handle suffix : String) : Option String :=
  if handle = "" then some suffix
  else (cursor.handles.lookup handle).map (· ++ suffix)

/-- Reads an anchor, if one comes next. -/
def anchor (cursor : Cursor) : Option Nat × Cursor :=
  match cursor.tokens with
  | .anchor name :: _ =>
    let (number, cursor) := cursor.skip.define name
    (some number, cursor)
  | _ => (none, cursor)

/-- Reads a tag, if one comes next. -/
def tag? (cursor : Cursor) : Option (Option String × Cursor) :=
  match cursor.tokens with
  | .tag handle suffix :: _ => (cursor.tagText? handle suffix).map fun text => (text, cursor.skip)
  | _ => some (none, cursor)

/-- Reads an anchor and a tag, in either order. -/
def properties? (cursor : Cursor) : Option (Properties × Cursor) := do
  match cursor.tokens with
  | .tag _ _ :: _ =>
    let (tag, cursor) ← cursor.tag?
    let (anchor, cursor) := cursor.anchor
    return (⟨anchor, tag⟩, cursor)
  | _ =>
    let (anchor, cursor) := cursor.anchor
    let (tag, cursor) ← cursor.tag?
    return (⟨anchor, tag⟩, cursor)

end Cursor

/-- Where a value stands. -/
structure Spot where
  /-- Outside of brackets, where blocks may stand. -/
  inBlock : Bool
  /-- Behind a key, where a list needs no indentation of its own. -/
  behindKey : Bool

/-- Whether a token ends the item or member before it. -/
def endsMember : List Token → Bool
  | .key :: _ => true
  | .value :: _ => true
  | .blockEnd :: _ => true
  | _ => false

/-- The value of a key in a block. -/
def keySpot : Spot :=
  ⟨true, true⟩

/-- An item of a list in a block. -/
def itemSpot : Spot :=
  ⟨true, false⟩

/-- A value between brackets. -/
def flowSpot : Spot :=
  ⟨false, false⟩

mutual

/-- Reads a value. -/
def value? : Nat → Spot → Cursor → Option Cursor
  | 0, _, _ => none
  | fuel + 1, spot, cursor =>
    match cursor.tokens with
    | .alias name :: _ => do
      return cursor.skip.emit (.alias (← cursor.anchors.lookup name))
    | _ => do
      let (properties, cursor) ← cursor.properties?
      match cursor.tokens with
      | .scalar style text :: _ =>
        let kept := if properties.tag = some "!" then { properties with tag := none } else properties
        return cursor.skip.emit (.scalar kept style text)
      | .flowList :: _ => flowItems? fuel true (cursor.skip.emit (.startList properties))
      | .flowTable :: _ => flowMembers? fuel true (cursor.skip.emit (.startTable properties))
      | .dash :: _ =>
        if spot.behindKey then dashes? fuel (cursor.emit (.startList properties))
        else orEmpty properties cursor
      | .blockList :: _ =>
        if spot.inBlock then blockItems? fuel (cursor.skip.emit (.startList properties))
        else orEmpty properties cursor
      | .blockTable :: _ =>
        if spot.inBlock then blockMembers? fuel (cursor.skip.emit (.startTable properties))
        else orEmpty properties cursor
      | _ => orEmpty properties cursor

/-- An empty scalar, which only stands where properties announce one. -/
def orEmpty (properties : Properties) (cursor : Cursor) : Option Cursor :=
  if properties.anchor.isSome || properties.tag.isSome then
    some (cursor.emit (.scalar properties .plain ""))
  else none

/-- Reads the items of a list in a block. -/
def blockItems? : Nat → Cursor → Option Cursor
  | 0, _ => none
  | fuel + 1, cursor =>
    match cursor.tokens with
    | .dash :: rest => do
      let cursor ←
        match rest with
        | .dash :: _ => some cursor.skip.emitEmpty
        | .blockEnd :: _ => some cursor.skip.emitEmpty
        | _ => value? fuel itemSpot cursor.skip
      blockItems? fuel cursor
    | .blockEnd :: _ => some (cursor.skip.emit .stop)
    | _ => none

/-- Reads the items of a list that is not indented. -/
def dashes? : Nat → Cursor → Option Cursor
  | 0, _ => none
  | fuel + 1, cursor =>
    match cursor.tokens with
    | .dash :: rest => do
      let isEmpty :=
        match rest with
        | .dash :: _ => true
        | _ => endsMember rest
      let cursor ← if isEmpty then some cursor.skip.emitEmpty else value? fuel itemSpot cursor.skip
      dashes? fuel cursor
    | _ => some (cursor.emit .stop)

/-- Reads the members of a table in a block. -/
def blockMembers? : Nat → Cursor → Option Cursor
  | 0, _ => none
  | fuel + 1, cursor =>
    match cursor.tokens with
    | .key :: rest => do
      let cursor ← if endsMember rest then some cursor.skip.emitEmpty
        else value? fuel keySpot cursor.skip
      blockMembers? fuel (← blockValue? fuel cursor)
    | .blockEnd :: _ => some (cursor.skip.emit .stop)
    | _ => none

/-- Reads the value of a member in a block. -/
def blockValue? : Nat → Cursor → Option Cursor
  | 0, _ => none
  | fuel + 1, cursor =>
    match cursor.tokens with
    | .value :: rest =>
      if endsMember rest then some cursor.skip.emitEmpty else value? fuel keySpot cursor.skip
    | _ => some cursor.emitEmpty

/-- Reads the items of a list between brackets. -/
def flowItems? : Nat → Bool → Cursor → Option Cursor
  | 0, _, _ => none
  | fuel + 1, isFirst, cursor =>
    match cursor.tokens with
    | .flowListEnd :: _ => some (cursor.skip.emit .stop)
    | _ => do
      let cursor ←
        if isFirst then some cursor
        else
          match cursor.tokens with
          | .comma :: _ => some cursor.skip
          | _ => none
      match cursor.tokens with
      | .flowListEnd :: _ => return cursor.skip.emit .stop
      | .key :: _ =>
        let cursor ← pair? fuel (cursor.skip.emit (.startTable {}))
        flowItems? fuel false (cursor.emit .stop)
      | _ => flowItems? fuel false (← value? fuel flowSpot cursor)

/-- Reads the key and the value of a table that is written as a mere pair. Where the key is
missing, the token that shows it is passed over with it. -/
def pair? : Nat → Cursor → Option Cursor
  | 0, _ => none
  | fuel + 1, cursor => do
    let cursor ←
      match cursor.tokens with
      | .value :: _ => some cursor.skip.emitEmpty
      | .comma :: _ => some cursor.skip.emitEmpty
      | .flowListEnd :: _ => some cursor.skip.emitEmpty
      | _ => value? fuel flowSpot cursor
    match cursor.tokens with
    | .value :: .comma :: _ => return cursor.skip.emitEmpty
    | .value :: .flowListEnd :: _ => return cursor.skip.emitEmpty
    | .value :: _ => value? fuel flowSpot cursor.skip
    | _ => return cursor.emitEmpty

/-- Reads the members of a table between brackets. -/
def flowMembers? : Nat → Bool → Cursor → Option Cursor
  | 0, _, _ => none
  | fuel + 1, isFirst, cursor =>
    match cursor.tokens with
    | .flowTableEnd :: _ => some (cursor.skip.emit .stop)
    | _ => do
      let cursor ←
        if isFirst then some cursor
        else
          match cursor.tokens with
          | .comma :: _ => some cursor.skip
          | _ => none
      match cursor.tokens with
      | .flowTableEnd :: _ => return cursor.skip.emit .stop
      | .key :: rest =>
        let cursor ←
          match rest with
          | .value :: _ => some cursor.skip.emitEmpty
          | .comma :: _ => some cursor.skip.emitEmpty
          | .flowTableEnd :: _ => some cursor.skip.emitEmpty
          | _ => value? fuel flowSpot cursor.skip
        let cursor ←
          match cursor.tokens with
          | .value :: .comma :: _ => some cursor.skip.emitEmpty
          | .value :: .flowTableEnd :: _ => some cursor.skip.emitEmpty
          | .value :: _ => value? fuel flowSpot cursor.skip
          | _ => some cursor.emitEmpty
        flowMembers? fuel false cursor
      | _ =>
        let cursor ← value? fuel flowSpot cursor
        flowMembers? fuel false cursor.emitEmpty

end

/-! ### Documents -/

/-- The handles that need no directive. -/
def standardHandles : List (String × String) :=
  [("!", "!"), ("!!", "tag:yaml.org,2002:")]

/-- Reads the directives before a document. The version stands at most once and is 1.1 or
1.2, and no handle is given two meanings. -/
def directives? : List Token → Bool → List (String × String) →
    Option (List (String × String) × List Token)
  | .version major minor :: rest, versioned, handles =>
    if versioned || major ≠ 1 || (minor ≠ 1 && minor ≠ 2) then none
    else directives? rest true handles
  | .handle name meaning :: rest, versioned, handles =>
    if (handles.lookup name).isSome then none
    else directives? rest versioned (handles ++ [(name, meaning)])
  | rest, _, handles => some (handles ++ standardHandles, rest)

/-- Whether a document begins with a line of its own or with directives. -/
def beginsMarked : List Token → Bool
  | .version _ _ :: _ => true
  | .handle _ _ :: _ => true
  | .documentStart :: _ => true
  | _ => false

/-- The events of the only document, in order; none if there is no document. -/
def events? (tokens : List Token) : Option (List Event) := do
  if tokens.isEmpty then return []
  let (handles, rest) ← directives? tokens false []
  let fuel := 4 * tokens.length + 4
  let cursor : Cursor := { tokens := rest, handles, anchors := [], events := [] }
  let cursor ←
    if beginsMarked tokens then
      match rest with
      | .documentStart :: [] => some cursor.skip.emitEmpty
      | .documentStart :: .documentEnd :: _ => some cursor.skip.emitEmpty
      | .documentStart :: rest =>
        if beginsMarked rest then none else value? fuel itemSpot cursor.skip
      | _ => none
    else value? fuel itemSpot cursor
  let after := cursor.tokens.dropWhile fun token =>
    match token with
    | .documentEnd => true
    | _ => false
  if after.isEmpty then return cursor.events.reverse else none

end ProxyProfile.Yaml
