/-
This file defines the shape that all text formats of the library share before
the types of their parts are known.

A leaf does not say what it is but what it may be read as: the same `80` in a
YAML file is a text to a field that wants text, a number to one that wants a
number, and a number where nothing is known. Each format fills these readings in
by its own rules, and one set of readers then serves every format. A broken node
is one that no reader accepts, such as a number that does not fit any type; it
does no harm in a place that nobody reads.
-/

import ProxyProfile.Decimal.Width
import ProxyProfile.Json.Value

namespace ProxyProfile

/-- What a scalar may be read as. -/
structure Leaf where
  /-- Its reading as text. -/
  text : Option String := none
  /-- Its reading as a truth value. -/
  flag : Option Bool := none
  /-- Its reading as a number without sign. -/
  natural : Option Nat := none
  /-- Its reading as a number with a sign. -/
  integer : Option Int := none
  /-- Its reading as the name of one of several choices. -/
  choice : Option String := none
  /-- Its reading where no type is asked for. -/
  value : Option Json.Value := none
  /-- Whether it says that there is nothing. -/
  absent : Bool := false
  /-- Whether it is so empty that it also reads as an empty list or record. -/
  hollow : Bool := false

/-- What lists and tables of a format may be read as besides themselves. -/
structure Form where
  /-- Records may be written as lists and choices as tables. -/
  loose : Bool
  /-- The node can be read where no type is asked for. -/
  untyped : Bool
  /-- An empty list or table stands for nothing where a choice is written as a table. -/
  emptyIsNothing : Bool := false

/-- A text of any format, read but not yet typed. A key is missing when it is no text. -/
inductive Tree
  | broken
  | leaf (scalar : Leaf)
  | list (form : Form) (items : List Tree)
  | table (form : Form) (members : List (Option String × Tree))

namespace Tree

/-! ### Untyped reading -/

mutual

/-- The document a tree stands for where no type is asked for. A key that stands twice
keeps its first place and its last value. -/
def value? : Tree → Option Json.Value
  | broken => none
  | leaf scalar => scalar.value
  | list form items => if form.untyped then (values? items).map .array else none
  | table form members =>
    if form.untyped then (members? members []).map .object else none

/-- The documents of the items of a list. -/
def values? : List Tree → Option (List Json.Value)
  | [] => some []
  | item :: rest => do return (← item.value?) :: (← values? rest)

/-- The members of a table, written behind those in `written`. -/
def members? : List (Option String × Tree) → Json.Object → Option Json.Object
  | [], written => some written
  | (key, item) :: rest, written => do
    members? rest (written.insert (← key) (← item.value?))

end

/-- The members of a table or of an empty node. -/
def object? : Tree → Option Json.Object
  | table _ members => members? members []
  | leaf scalar => if scalar.hollow then some [] else none
  | _ => none

/-! ### Scalars -/

/-- The scalar of a leaf. -/
def leaf? : Tree → Option Leaf
  | leaf scalar => some scalar
  | _ => none

/-- A text. -/
def text? (tree : Tree) : Option String :=
  tree.leaf?.bind Leaf.text

/-- A truth value. -/
def flag? (tree : Tree) : Option Bool :=
  tree.leaf?.bind Leaf.flag

/-- A number without sign that fits into some bits. -/
def natural? (bits : Nat) (tree : Tree) : Option Nat :=
  (tree.leaf?.bind Leaf.natural).filter (Decimal.fits bits)

/-- A signed number of sixty-four bits. -/
def integer? (tree : Tree) : Option Int :=
  (tree.leaf?.bind Leaf.integer).filter (Decimal.fitsSigned 63)

/-- Whether a table of some form that holds a tree at a name gives the name nothing. -/
def isNothing (form : Form) : Tree → Bool
  | leaf scalar => scalar.absent
  | list _ items => form.emptyIsNothing && items.isEmpty
  | table _ members => form.emptyIsNothing && members.isEmpty
  | broken => false

/-- The name of a choice: a scalar, or in loose formats a table that gives the name
nothing. -/
def choice? : Tree → Option String
  | leaf scalar => scalar.choice
  | table form [(some name, item)] =>
    if form.loose && isNothing form item then some name else none
  | _ => none

/-- A thing that may be absent. -/
def optional? {α : Type} (read : Tree → Option α) (tree : Tree) : Option (Option α) :=
  match tree with
  | leaf { absent := true, .. } => some none
  | _ => (read tree).map some

/-! ### Lists and records -/

/-- The items of a list or of an empty node. -/
def items? : Tree → Option (List Tree)
  | list _ items => some items
  | leaf scalar => if scalar.hollow then some [] else none
  | _ => none

/-- A list of things of one kind. -/
def listOf? {α : Type} (read : Tree → Option α) (tree : Tree) : Option (List α) :=
  tree.items?.bind fun items => items.mapM read

/-- The fields a record type has: each one's names, the one it is written with first. -/
abbrev Schema := List (List String)

/-- The name a field is written with, for any of its names. -/
def Schema.nameOf? (schema : Schema) (name : String) : Option String :=
  (schema.find? fun names => names.contains name).bind List.head?

/-- The fields that a record gives, each at most once. -/
abbrev Fields := List (String × Tree)

/-- The known fields among the members of a table, refusing one that stands twice, and the
members that are not fields. -/
def fieldsOf? (schema : Schema) :
    List (Option String × Tree) → Option (Fields × List (Option String × Tree))
  | [] => some ([], [])
  | (key, item) :: rest => do
    let key ← key
    let (fields, others) ← fieldsOf? schema rest
    match schema.nameOf? key with
    | none => return (fields, (some key, item) :: others)
    | some name =>
      if (fields.lookup name).isSome then none else return ((name, item) :: fields, others)

/-- The fields of a record. Members that are not fields are passed over. A loose format may
give the fields as a list in their order, leaving out the last ones. -/
def record? (schema : Schema) : Tree → Option Fields
  | table _ members => (fieldsOf? schema members).map Prod.fst
  | list form items =>
    if form.loose && items.length ≤ schema.length then
      some ((schema.filterMap List.head?).zip items)
    else none
  | leaf scalar => if scalar.hollow then some [] else none
  | broken => none

/-- The fields of a record that keeps the members that are not fields, and these. -/
def openRecord? (schema : Schema) : Tree → Option (Fields × Json.Object)
  | table _ members => do
    let (fields, others) ← fieldsOf? schema members
    return (fields, ← members? others [])
  | leaf scalar => if scalar.hollow then some ([], []) else none
  | _ => none

/-- A field of a record, or what stands for it when the record does not give it. -/
def Fields.get {α : Type} (fields : Fields) (name : String) (default : α)
    (read : Tree → Option α) : Option α :=
  match fields.lookup name with
  | none => some default
  | some tree => read tree

namespace Fields

variable (fields : Fields) (name : String)

/-- A text field, empty when it is not given. -/
def text : Option String :=
  fields.get name "" Tree.text?

/-- A truth value, false when it is not given. -/
def flag : Option Bool :=
  fields.get name false Tree.flag?

/-- A list of texts, empty when it is not given. -/
def texts : Option (List String) :=
  fields.get name [] (listOf? Tree.text?)

/-- A list of records, empty when it is not given. -/
def list {α : Type} (read : Tree → Option α) : Option (List α) :=
  fields.get name [] (listOf? read)

/-- An object, empty when it is not given. -/
def object : Option Json.Object :=
  fields.get name [] Tree.object?

/-- A choice among named things, the default when it is not given. -/
def choice {α : Type} (default : α) (ofName? : String → Option α) : Option α :=
  fields.get name default fun tree => tree.choice?.bind ofName?

end Fields

/-! ### Documents as trees -/

/-- The leaf of a scalar document. A number without sign also reads as one with a sign; a
floating point number reads as neither. -/
def scalarOfValue : Json.Value → Leaf
  | .null => { value := some .null, absent := true }
  | .bool flag => { flag, value := some (.bool flag) }
  | .number (.integer number) =>
    { natural := if 0 ≤ number then some number.toNat else none
      integer := some number
      value := some (.number (.integer number)) }
  | .string text => { text, choice := text, value := some (.string text) }
  | value => { value }

/-- Documents are loose, and can be read where no type is asked for. -/
def looseForm : Form :=
  { loose := true, untyped := true }

mutual

/-- The tree of a document. -/
def ofValue : Json.Value → Tree
  | .array items => list looseForm (ofValues items)
  | .object members => table looseForm (ofMembers members)
  | .null => leaf (scalarOfValue .null)
  | .bool flag => leaf (scalarOfValue (.bool flag))
  | .number number => leaf (scalarOfValue (.number number))
  | .string text => leaf (scalarOfValue (.string text))

/-- The trees of some documents. -/
def ofValues : List Json.Value → List Tree
  | [] => []
  | item :: rest => ofValue item :: ofValues rest

/-- The trees of some members. -/
def ofMembers : List (String × Json.Value) → List (Option String × Tree)
  | [] => []
  | (key, item) :: rest => (some key, ofValue item) :: ofMembers rest

end

end Tree

end ProxyProfile
