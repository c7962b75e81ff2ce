/-
This file reads YAML files.

Aliases are replaced by what their anchors stand for. As that can make a small
file arbitrarily large, the number of replacements is limited by the number of
events, and lists and tables nest at most 128 deep; what lies beyond is
broken and does harm only where it is read. The keys of tables are scalars, and
only their text counts.
-/

import ProxyProfile.Yaml.Scalar

namespace ProxyProfile.Yaml

/-! ### Aliases -/

/-- Whether an event is what a number of an anchor stands for. -/
def Event.defines (number : Nat) : Event → Bool
  | .scalar properties _ _ => properties.anchor = some number
  | .startList properties => properties.anchor = some number
  | .startTable properties => properties.anchor = some number
  | _ => false

/-- The events from the last one on that a number of an anchor stands for. -/
def anchored? (number : Nat) : List Event → Option (List Event)
  | [] => none
  | event :: rest =>
    match anchored? number rest with
    | some found => some found
    | none => if event.defines number then some (event :: rest) else none

/-- The events behind the end of the list or table that is open `depth` deep. -/
def afterStop : Nat → List Event → List Event
  | _, [] => []
  | depth, .startList _ :: rest => afterStop (depth + 1) rest
  | depth, .startTable _ :: rest => afterStop (depth + 1) rest
  | 0, .stop :: rest => rest
  | depth + 1, .stop :: rest => afterStop depth rest
  | depth, _ :: rest => afterStop depth rest

/-- The text of a key. -/
def keyText? : Tree → Option String
  | .leaf scalar => scalar.text
  | _ => none

/-- Lists and tables are what they are, and one with a tag of one's own cannot be read
where no type is asked for. -/
def formOf (properties : Properties) : Form :=
  { loose := false, untyped := (ownTag? properties.tag).isNone }

/-! ### Trees -/

mutual

/-- Reads one value off the events: `depth` is how many more lists and tables may open, and
`jumps` how many more aliases may be replaced. Gives the tree, the events behind it, and
the remaining number of aliases. -/
def treeOf (all : List Event) : Nat → Nat → Nat → List Event → Tree × List Event × Nat
  | 0, _, jumps, events => (.broken, events, jumps)
  | _ + 1, _, jumps, [] => (.broken, [], jumps)
  | fuel + 1, depth, jumps, event :: rest =>
    match event with
    | .alias number =>
      match jumps, anchored? number all with
      | jumps + 1, some target =>
        let (tree, _, jumps) := treeOf all fuel depth jumps target
        (tree, rest, jumps)
      | jumps, _ => (.broken, rest, jumps)
    | .scalar properties style text => (.leaf (leafOf properties.tag style text), rest, jumps)
    | .startList properties =>
      match depth with
      | 0 => (.broken, afterStop 0 rest, jumps)
      | depth + 1 =>
        let (items, rest, jumps) := itemsOf all fuel depth jumps rest
        (.list (formOf properties) items, rest, jumps)
    | .startTable properties =>
      match depth with
      | 0 => (.broken, afterStop 0 rest, jumps)
      | depth + 1 =>
        let (members, rest, jumps) := membersOf all fuel depth jumps rest
        (.table (formOf properties) members, rest, jumps)
    | .stop => (.broken, rest, jumps)

/-- Reads the items of a list. -/
def itemsOf (all : List Event) : Nat → Nat → Nat → List Event → List Tree × List Event × Nat
  | 0, _, jumps, events => ([.broken], events, jumps)
  | _ + 1, _, jumps, [] => ([.broken], [], jumps)
  | _ + 1, _, jumps, .stop :: rest => ([], rest, jumps)
  | fuel + 1, depth, jumps, event :: rest =>
    let (item, rest, jumps) := treeOf all fuel depth jumps (event :: rest)
    let (items, rest, jumps) := itemsOf all fuel depth jumps rest
    (item :: items, rest, jumps)

/-- Reads the members of a table. -/
def membersOf (all : List Event) :
    Nat → Nat → Nat → List Event → List (Option String × Tree) × List Event × Nat
  | 0, _, jumps, events => ([(none, .broken)], events, jumps)
  | _ + 1, _, jumps, [] => ([(none, .broken)], [], jumps)
  | _ + 1, _, jumps, .stop :: rest => ([], rest, jumps)
  | fuel + 1, depth, jumps, event :: rest =>
    let (key, rest, jumps) := treeOf all fuel depth jumps (event :: rest)
    let (item, rest, jumps) := treeOf all fuel depth jumps rest
    let (members, rest, jumps) := membersOf all fuel depth jumps rest
    ((keyText? key, item) :: members, rest, jumps)

end

/-- How deep lists and tables nest. -/
def depthLimit : Nat := 128

/-- How often aliases are replaced for each event. -/
def jumpFactor : Nat := 100

/-- Reads a file. -/
def tree? (text : String) : Option Tree := do
  let events ← events? (← tokens? text)
  if events.isEmpty then return .leaf emptyLeaf
  let fuel := (2 * events.length + 2) * (depthLimit + 2)
  return (treeOf events fuel depthLimit (jumpFactor * events.length) events).1

/-- Reads a file where no type is asked for. -/
def parse? (text : String) : Option Json.Value :=
  (tree? text).bind Tree.value?

end ProxyProfile.Yaml
