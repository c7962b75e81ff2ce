/-
This file reads TOML files.

A file is a sequence of sections, each a list of keys and values under a header
that says which table they belong to. No table may be given twice: a header may
name a table that so far only stood in the names of deeper ones, and a key with
points may add to tables that such keys have made, but neither may touch what the
other has made, and values between braces are closed.
-/

import ProxyProfile.Decimal.Width
import ProxyProfile.Toml.Date
import ProxyProfile.Tree

namespace ProxyProfile.Toml

/-! ### Tables under construction -/

/-- What a key stands for while the file is being read. -/
inductive Item
  /-- A value that cannot be added to. -/
  | value (tree : Tree)
  /-- A table: whether no header or brace has given it, whether keys with points have made
  it, and its members. -/
  | table (implied dotted : Bool) (members : List (String × Item))
  /-- A list of tables, the last one first. -/
  | tables (items : List (List (String × Item)))

/-- The members of a table. -/
abbrev Members := List (String × Item)

/-- Puts a value in the place of a key, at the end if the key is new. -/
def Members.put (members : Members) (key : String) (item : Item) : Members :=
  match members with
  | [] => [(key, item)]
  | (name, old) :: rest =>
    if name = key then (name, item) :: rest else (name, old) :: Members.put rest key item

/-- Changes the table that a path leads to. Tables on the way that are missing are made;
`dotted` tells that the path is part of a key and not a header. The change learns whether
the table was made by keys with points. -/
def change? (dotted : Bool) (path : List String) (isDotted : Bool) (members : Members)
    (edit : Bool → Members → Option Members) : Option Members :=
  match path with
  | [] => edit isDotted members
  | key :: path =>
    match members.lookup key with
    | none => do
      return members.put key (.table true dotted (← change? dotted path dotted [] edit))
    | some (.value _) => none
    | some (.tables []) => none
    | some (.tables (last :: earlier)) => do
      return members.put key (.tables ((← change? dotted path false last edit) :: earlier))
    | some (.table implied wasDotted inner) => do
      if dotted && !implied then none
      return members.put key
        (.table implied wasDotted (← change? dotted path wasDotted inner edit))

/-- Gives a key with points a value. -/
def assign? (path : List String) (item : Item) (members : Members) : Option Members :=
  match path.getLast? with
  | none => none
  | some key =>
    let parents := path.dropLast
    change? true parents false members fun isDotted members =>
      if isDotted = parents.isEmpty || (members.lookup key).isSome then none
      else some (members ++ [(key, item)])

/-! ### Trees -/

/-- Lists and tables are loose, can be read where no type is asked for, and stand for nothing
when they are empty. -/
def form : Form :=
  { loose := true, untyped := true, emptyIsNothing := true }

mutual

/-- The tree of what a key stands for. -/
def Item.tree : Item → Tree
  | .value tree => tree
  | .table _ _ members => .table form (memberTrees members)
  | .tables items => .list form (tableTrees items [])

/-- The trees of the members of a table. -/
def memberTrees : List (String × Item) → List (Option String × Tree)
  | [] => []
  | (key, item) :: rest => (some key, item.tree) :: memberTrees rest

/-- The trees of a list of tables that starts with the last one, in front of `later`. -/
def tableTrees : List (List (String × Item)) → List Tree → List Tree
  | [], later => later
  | members :: rest, later => tableTrees rest (.table form (memberTrees members) :: later)

end

/-! ### Numbers -/

/-- Digits of a kind at the start of a list, single underscores between them, without these. -/
def spanGrouped (isDigit : Char → Bool) : List Char → List Char × List Char
  | [] => ([], [])
  | '_' :: c :: rest =>
    if isDigit c then
      let (digits, rest) := spanGrouped isDigit rest
      (c :: digits, rest)
    else ([], '_' :: c :: rest)
  | c :: rest =>
    if isDigit c then
      let (digits, rest) := spanGrouped isDigit rest
      (c :: digits, rest)
    else ([], c :: rest)

/-- Digits of a kind, the first one not behind an underscore. -/
def grouped? (isDigit : Char → Bool) (characters : List Char) :
    Option (List Char × List Char) :=
  if characters.head?.any isDigit then some (spanGrouped isDigit characters) else none

/-- A digit of a base. -/
def isDigitOf (base : Nat) (c : Char) : Bool :=
  (hexValue? c).any (· < base)

/-- The leaf of an integer of sixty-four bits. -/
def integerLeaf? (number : Int) : Option Tree :=
  if Decimal.fitsSigned 63 number then
    some (.leaf (Tree.scalarOfValue (.number (.integer number))))
  else none

/-- An integer in another base, behind its mark. -/
def based? (base : Nat) (characters : List Char) : Option (Tree × List Char) := do
  let (digits, rest) ← grouped? (isDigitOf base) characters
  let number := digits.foldl (fun number c => number * base + (hexValue? c).getD 0) 0
  return (← integerLeaf? number, rest)

/-- The leaf of a floating point number. Documents cannot hold one that is not finite. -/
def floatLeaf (number : Decimal.Binary64) : Tree :=
  if number.isFinite then .leaf (Tree.scalarOfValue (.number (.binary number)))
  else .leaf { value := some .null }

/-- The exponent of a number: its sign and digits. -/
def exponent? (characters : List Char) : Option (Int × List Char) := do
  let (negative, unsigned) := Decimal.spanSign characters
  let (digits, rest) ← grouped? Decimal.isDigit unsigned
  return (if negative then -(Decimal.value digits : Int) else Decimal.value digits, rest)

/-- Whether an exponent comes next. -/
def startsExponent (characters : List Char) : Bool :=
  characters.head?.any fun c => c = 'e' || c = 'E'

/-- What follows the whole part of a number: its fraction and its exponent. -/
def fractionAndExponent? (characters : List Char) : Option (List Char × Int × List Char) := do
  match characters with
  | '.' :: rest =>
    let (fraction, rest) ← grouped? Decimal.isDigit rest
    if startsExponent rest then
      let (exponent, rest) ← exponent? (rest.drop 1)
      return (fraction, exponent, rest)
    else return (fraction, 0, rest)
  | _ =>
    let (exponent, rest) ← exponent? (characters.drop 1)
    return ([], exponent, rest)

/-- A decimal number with or without a sign. A zero stands in front of no other digit of the
whole part. A positive number that is too large is refused. -/
def decimal? (characters : List Char) : Option (Tree × List Char) := do
  let (negative, unsigned) := Decimal.spanSign characters
  match unsigned with
  | 'i' :: 'n' :: 'f' :: rest => return (.leaf { value := some .null }, rest)
  | 'n' :: 'a' :: 'n' :: rest => return (.leaf { value := some .null }, rest)
  | _ =>
    let (whole, rest) ← grouped? Decimal.isDigit unsigned
    if 1 < whole.length && whole.head? = some '0' then none
    if rest.head? = some '.' || startsExponent rest then
      let (fraction, exponent, rest) ← fractionAndExponent? rest
      let number := Decimal.Binary64.ofDecimal negative (Decimal.value (whole ++ fraction))
        (exponent - fraction.length)
      if !number.isFinite && !negative then none
      return (floatLeaf number, rest)
    else
      let magnitude : Int := Decimal.value whole
      return (← integerLeaf? (if negative then -magnitude else magnitude), rest)

/-- A date, a time, or a number. -/
def number? (characters : List Char) : Option (Tree × List Char) :=
  match dateTime? characters with
  | some (text, rest) =>
    let member : Tree := .leaf (Tree.scalarOfValue (.string text))
    some (.table form [(some "$__toml_private_datetime", member)], rest)
  | none =>
    match characters with
    | '0' :: 'x' :: rest => based? 16 rest
    | '0' :: 'o' :: rest => based? 8 rest
    | '0' :: 'b' :: rest => based? 2 rest
    | _ => decimal? characters

/-! ### Values -/

mutual

/-- A value. -/
def value? : Nat → Nat → List Char → Option (Tree × List Char)
  | 0, _, _ => none
  | fuel + 1, depth, characters =>
    match characters with
    | [] => none
    | c :: rest =>
      if c = '"' ∨ c = '\'' then do
        let (text, rest) ← string? characters
        return (.leaf (Tree.scalarOfValue (.string text)), rest)
      else if c = '[' then
        if depth ≤ 1 then none
        else do
          let (items, rest) ← items? fuel (depth - 1) rest
          return (.list form items, rest)
      else if c.toNat = 0x7B then
        if depth ≤ 1 then none
        else
          match expect? (Char.ofNat 0x7D) (skipGap rest) with
          | some rest => some (.table form [], rest)
          | none => do
            let (members, rest) ← members? fuel (depth - 1) [] rest
            return (Item.tree (.table false false members), rest)
      else
        match characters with
        | 't' :: 'r' :: 'u' :: 'e' :: rest =>
          some (.leaf (Tree.scalarOfValue (.bool true)), rest)
        | 'f' :: 'a' :: 'l' :: 's' :: 'e' :: rest =>
          some (.leaf (Tree.scalarOfValue (.bool false)), rest)
        | _ => number? characters

/-- The items of a list, behind its bracket or a comma. -/
def items? : Nat → Nat → List Char → Option (List Tree × List Char)
  | 0, _, _ => none
  | fuel + 1, depth, characters =>
    let characters := skipLines (characters.length + 1) characters
    match characters with
    | ']' :: rest => some ([], rest)
    | _ => do
      let (item, rest) ← value? fuel depth characters
      match skipLines (rest.length + 1) rest with
      | ',' :: rest =>
        let (items, rest) ← items? fuel depth rest
        return (item :: items, rest)
      | ']' :: rest => return ([item], rest)
      | _ => none

/-- The members of a table between braces, behind those already read. -/
def members? : Nat → Nat → Members → List Char → Option (Members × List Char)
  | 0, _, _, _ => none
  | fuel + 1, depth, members, characters => do
    let (path, rest) ← key? characters
    let (tree, rest) ← value? fuel depth (skipGap (← expect? '=' rest))
    let members ← assign? path (.value tree) members
    match skipGap rest with
    | ',' :: rest => members? fuel depth members rest
    | rest => return (members, ← expect? (Char.ofNat 0x7D) rest)

end

/-! ### Sections -/

/-- Reads keys and values up to the next header or the end. -/
def assignments? : Nat → Members → List Char → Option (Members × List Char)
  | 0, _, _ => none
  | fuel + 1, members, characters =>
    let characters := skipLines (characters.length + 1) characters
    match characters with
    | [] => some (members, [])
    | '[' :: _ => some (members, characters)
    | _ => do
      let (path, rest) ← key? characters
      let (tree, rest) ← value? (rest.length + 1) depthLimit (skipGap (← expect? '=' rest))
      assignments? fuel (← assign? path (.value tree) members) (← lineEnd? rest)

/-- Reads a section with the header of a table. A table that only stood in the names of
deeper ones is taken out of its place and goes to the end. -/
def tableSection? (path : List String) (root : Members) (characters : List Char) :
    Option (Members × List Char) := do
  let key ← path.getLast?
  let parents := path.dropLast
  let parent ← change? false parents false root fun _ members => some members
  let soFar ←
    match (member? parents parent).bind fun members => members.lookup key with
    | none => some []
    | some (.table true false members) => some members
    | some _ => none
  let (members, rest) ← assignments? (characters.length + 1) soFar characters
  let root ← change? false parents false parent fun _ siblings =>
    some (siblings.filter (fun entry => entry.1 ≠ key) ++ [(key, .table false false members)])
  return (root, rest)
where
  /-- The members of the table that a path leads to. -/
  member? : List String → Members → Option Members
    | [], members => some members
    | key :: path, members =>
      match members.lookup key with
      | some (.table _ _ inner) => member? path inner
      | some (.tables (last :: _)) => member? path last
      | _ => none

/-- Reads a section with the header of a list of tables. -/
def listSection? (path : List String) (root : Members) (characters : List Char) :
    Option (Members × List Char) := do
  let key ← path.getLast?
  let (members, rest) ← assignments? (characters.length + 1) [] characters
  let root ← change? false path.dropLast false root fun _ siblings =>
    match siblings.lookup key with
    | none => some (siblings ++ [(key, .tables [members])])
    | some (.tables items) => some (siblings.put key (.tables (members :: items)))
    | some _ => none
  return (root, rest)

/-- Reads the sections that have headers. -/
def sections? : Nat → Members → List Char → Option Members
  | 0, _, _ => none
  | fuel + 1, root, characters =>
    match characters with
    | [] => some root
    | '[' :: '[' :: rest => do
      let (path, rest) ← key? rest
      let rest ← lineEnd? (← expect? ']' (← expect? ']' rest))
      let (root, rest) ← listSection? path root rest
      sections? fuel root rest
    | '[' :: rest => do
      let (path, rest) ← key? rest
      let rest ← lineEnd? (← expect? ']' rest)
      let (root, rest) ← tableSection? path root rest
      sections? fuel root rest
    | _ => none

/-- Reads a file. A mark of the byte order at its start is passed over. -/
def tree? (text : String) : Option Tree := do
  let characters :=
    match text.toList with
    | c :: rest => if c.toNat = 0xFEFF then rest else c :: rest
    | [] => []
  let (root, rest) ← assignments? (characters.length + 1) [] characters
  let root ← sections? (characters.length + 1) root rest
  return Item.tree (.table false false root)

end ProxyProfile.Toml
