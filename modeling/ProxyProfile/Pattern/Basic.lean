/-
This file defines patterns over text and when a text contains a match.

A match is described by the places it may end at. For a text of `n` characters a
set of places is a number whose bits `0` to `n` tell which of them belong to it,
and a pattern is a function on such sets: from the places where it may begin to
the places where it may have ended. A single character moves the places in front
of its occurrences one step on, an assertion keeps the places where it holds, a
sequence composes, a choice unites, and a repetition adds places until there are
no new ones, which happens after at most `n + 1` rounds. After as many rounds a
repetition of fixed length stops changing as well, for more rounds than places
can only be spent by staying somewhere, and that can be done any number of times.
So every pattern is answered in a number of steps that the text bounds, whatever
it repeats. A text contains a match when the set reached from all places is not
empty.
-/

import ProxyProfile.Decimal.Width
import ProxyProfile.Pattern.CaseOrbit
import ProxyProfile.Pattern.Category
import ProxyProfile.Pattern.Feature
import ProxyProfile.Pattern.Script
import ProxyProfile.Text.Blank

namespace ProxyProfile.Pattern

/-! ### Sets of characters -/

/-- A set of characters. -/
inductive CharSet
  | range (least greatest : Nat)
  | categories (names : List String)
  | script (name : String)
  | usedIn (name : String)
  | feature (feature : Feature)
  | words
  | union (first second : CharSet)
  | intersection (first second : CharSet)
  | difference (first second : CharSet)
  | oneSided (first second : CharSet)
  | complement (set : CharSet)
  | anyCase (set : CharSet)

namespace CharSet

/-- The set without members. -/
def empty : CharSet := range 1 0

/-- The set of all characters. -/
def all : CharSet := range 0 0x10FFFF

/-- The set of one character. -/
def single (c : Char) : CharSet := range c.toNat c.toNat

/-- The union of some sets. -/
def unions : List CharSet → CharSet
  | [] => empty
  | [set] => set
  | set :: rest => union set (unions rest)

/-- Whether a code point belongs to a set. A set without regard to case has a member when it
has any that equals it but for case. -/
def has (point : Nat) : CharSet → Bool
  | range least greatest => least ≤ point && point ≤ greatest
  | categories names => names.contains (valueAt categoryRuns point)
  | script name => valueAt scriptRuns point == name
  | usedIn name => isUsedIn name point
  | feature asked => hasFeature asked point
  | words => isWord (Char.ofNat point)
  | union first second => first.has point || second.has point
  | intersection first second => first.has point && second.has point
  | difference first second => first.has point && !second.has point
  | oneSided first second => first.has point != second.has point
  | complement set => !set.has point
  | anyCase set => (caseOrbit point).any fun other => set.has other

end CharSet

/-! ### Patterns -/

/-- What an assertion asks of a place. -/
inductive Look
  | textStart
  | textEnd
  | lineStart
  | lineEnd
  | wordBoundary
  | noWordBoundary
  | wordStart
  | wordEnd
  | wordStartHalf
  | wordEndHalf
deriving DecidableEq

/-- A pattern. Assertions carry the characters that count as those of words, and the lines
that they know of end at a line feed or, with `returns`, also at a carriage return. -/
inductive Node
  | empty
  | one (set : CharSet)
  | look (asked : Look) (word : CharSet) (returns : Bool)
  | sequence (first second : Node)
  | choice (first second : Node)
  | star (node : Node)
  | between (least : Nat) (more : Nat) (node : Node)

/-! ### Assertions -/

/-- Whether a neighbour of a place is a character of words. -/
def isWordSide (word : CharSet) : Option Char → Bool
  | none => false
  | some c => word.has c.toNat

/-- Whether a line starts behind `before` and in front of `after`: not between the two
halves of a line break. -/
def startsLine (returns : Bool) : Option Char → Option Char → Bool
  | none, _ => true
  | some before, after =>
    before == '\n' || (returns && before == '\r' && after != some '\n')

/-- Whether a line ends behind `before` and in front of `after`. -/
def endsLine (returns : Bool) : Option Char → Option Char → Bool
  | _, none => true
  | before, some after =>
    (after == '\n' && !(returns && before == some '\r')) || (returns && after == '\r')

/-- Whether an assertion holds between two neighbours; there is none at the ends of the
text. -/
def Look.holds (look : Look) (word : CharSet) (returns : Bool) (before after : Option Char) :
    Bool :=
  match look with
  | textStart => before.isNone
  | textEnd => after.isNone
  | lineStart => startsLine returns before after
  | lineEnd => endsLine returns before after
  | wordBoundary => isWordSide word before != isWordSide word after
  | noWordBoundary => isWordSide word before == isWordSide word after
  | wordStart => !isWordSide word before && isWordSide word after
  | wordEnd => isWordSide word before && !isWordSide word after
  | wordStartHalf => !isWordSide word before
  | wordEndHalf => !isWordSide word after

/-! ### Sets of places -/

/-- The set of the places at which a list has a member with a property. -/
def placesOf {α : Type} (property : α → Bool) : List α → Nat
  | [] => 0
  | item :: rest => 2 * placesOf property rest + if property item then 1 else 0

/-- The neighbours of every place of a text. -/
def neighbours (before : Option Char) : List Char → List (Option Char × Option Char)
  | [] => [(before, none)]
  | c :: rest => (before, some c) :: neighbours (some c) rest

/-- A text with what matching asks about it. -/
structure Subject where
  characters : List Char
  sides : List (Option Char × Option Char)

/-- The subject of a text. -/
def Subject.ofString (text : String) : Subject :=
  ⟨text.toList, neighbours none text.toList⟩

/-- The places reached by applying `step` a number of times; the empty set stays. -/
def repeatedly (step : Nat → Nat) : Nat → Nat → Nat
  | 0, places => places
  | times + 1, places => if places = 0 then 0 else repeatedly step times (step places)

/-- The places reached by applying `step` up to a number of times. -/
def upTo (step : Nat → Nat) : Nat → Nat → Nat
  | 0, places => places
  | times + 1, places =>
    let reached := places ||| step places
    if reached = places then places else upTo step times reached

/-- The places at which a match may end that begins at one of `places`. -/
def Node.ends (subject : Subject) : Node → Nat → Nat
  | empty, places => places
  | one set, places =>
    (places &&& placesOf (fun c : Char => set.has c.toNat) subject.characters) * 2
  | look asked word returns, places =>
    places &&& placesOf (fun sides => asked.holds word returns sides.1 sides.2) subject.sides
  | sequence first second, places => second.ends subject (first.ends subject places)
  | choice first second, places => first.ends subject places ||| second.ends subject places
  | star node, places =>
    upTo (node.ends subject) (subject.characters.length + 1) places
  | between least more node, places =>
    upTo (node.ends subject) (min more (subject.characters.length + 1))
      (repeatedly (node.ends subject) (min least (subject.characters.length + 1)) places)

/-- Whether a text contains a match. -/
def Node.isMatch (node : Node) (text : String) : Bool :=
  let subject := Subject.ofString text
  node.ends subject (Decimal.valuesOf (subject.characters.length + 1) - 1) != 0

end ProxyProfile.Pattern
