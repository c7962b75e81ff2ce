/-
This file proves that the reader of JSON accepts the grammar of JSON and nothing else.

As for texts and numbers, a rule of the grammar says what a list of characters begins with and
what is left behind that. The rule for an array names the places between its items, and says
nothing of how anybody gets from one to the next. Blanks may stand in front of everything. What
the rules leave out is what the reader may not accept either: brackets that are nested too
deeply, and numbers that are too large for a floating point number.

Both directions follow the readers, which call one another. What they read is derived, by
induction on their fuel, and what is derived they read, by induction on the derivation; there
every part takes some characters, so that the fuel suffices.
-/

import Mathlib.Data.List.TakeWhile
import ProxyProfile.Proofs.Spelling

namespace ProxyProfile.Json

/-! ### The grammar -/

/-- The names of values. -/
def words : List (String × Value) :=
  [("null", .null), ("true", .bool true), ("false", .bool false)]

/-- What a list of characters may begin with: a mark between other parts, a key, a value, the items
of an array that has some up to its closing bracket, a key with its value, the members of an object
that has some up to its closing bracket, or an object, told by its members. -/
inductive Part
  | mark (c : Char)
  | key (name : String)
  | value (value : Value)
  | items (items : List Value)
  | member (name : String) (value : Value)
  | members (members : List (String × Value))
  | object (members : List (String × Value))

/-- A list begins with a part, inside brackets of which some more may open, and something is left
behind it. -/
inductive Spells : Nat → Part → List Char → List Char → Prop
  | blank {depth : Nat} {part : Part} {c : Char} {before rest : List Char} (space : isSpace c)
      (later : Spells depth part before rest) : Spells depth part (c :: before) rest
  | mark {depth : Nat} {c : Char} (solid : isSpace c = false) (rest : List Char) :
      Spells depth (.mark c) (c :: rest) rest
  | key {depth : Nat} {text before rest : List Char} (spelled : SpellsText before text rest) :
      Spells depth (.key (String.ofList text)) ('"' :: before) rest
  | word {depth : Nat} {name : String} {value : Value} (known : (name, value) ∈ words)
      (rest : List Char) : Spells depth (.value value) (name.toList ++ rest) rest
  | number {depth : Nat} {shown : NumberText} {number : Number} {before rest : List Char}
      (spelled : SpellsNumber false before shown rest)
      (known : shown.number? = some number) :
      Spells depth (.value (.number number)) before rest
  | negative {depth : Nat} {shown : NumberText} {number : Number} {before rest : List Char}
      (spelled : SpellsNumber true before shown rest) (known : shown.number? = some number) :
      Spells depth (.value (.number number)) ('-' :: before) rest
  | string {depth : Nat} {text before rest : List Char} (spelled : SpellsText before text rest) :
      Spells depth (.value (.string (String.ofList text))) ('"' :: before) rest
  | emptyArray {depth : Nat} {before rest : List Char}
      (closed : Spells depth (.mark ']') before rest) :
      Spells (depth + 1) (.value (.array [])) ('[' :: before) rest
  | array {depth : Nat} {items : List Value} {before rest : List Char}
      (listed : Spells depth (.items items) before rest) :
      Spells (depth + 1) (.value (.array items)) ('[' :: before) rest
  | emptyObject {depth : Nat} {before rest : List Char}
      (closed : Spells depth (.mark '\x7d') before rest) :
      Spells (depth + 1) (.object []) ('\x7b' :: before) rest
  | object {depth : Nat} {members : List (String × Value)} {before rest : List Char}
      (listed : Spells depth (.members members) before rest) :
      Spells (depth + 1) (.object members) ('\x7b' :: before) rest
  | table {depth : Nat} {members : List (String × Value)} {before rest : List Char}
      (spelled : Spells depth (.object members) before rest) :
      Spells depth (.value (.object (Object.ofList members))) before rest
  | lastItem {depth : Nat} {item : Value} {before between rest : List Char}
      (spelled : Spells depth (.value item) before between)
      (closed : Spells depth (.mark ']') between rest) : Spells depth (.items [item]) before rest
  | nextItem {depth : Nat} {item : Value} {more : List Value}
      {before between after rest : List Char} (spelled : Spells depth (.value item) before between)
      (comma : Spells depth (.mark ',') between after)
      (others : Spells depth (.items more) after rest) :
      Spells depth (.items (item :: more)) before rest
  | member {depth : Nat} {name : String} {value : Value} {before between after rest : List Char}
      (named : Spells depth (.key name) before between)
      (colon : Spells depth (.mark ':') between after)
      (spelled : Spells depth (.value value) after rest) :
      Spells depth (.member name value) before rest
  | lastMember {depth : Nat} {name : String} {value : Value} {before between rest : List Char}
      (spelled : Spells depth (.member name value) before between)
      (closed : Spells depth (.mark '\x7d') between rest) :
      Spells depth (.members [(name, value)]) before rest
  | nextMember {depth : Nat} {name : String} {value : Value} {more : List (String × Value)}
      {before between after rest : List Char}
      (spelled : Spells depth (.member name value) before between)
      (comma : Spells depth (.mark ',') between after)
      (others : Spells depth (.members more) after rest) :
      Spells depth (.members ((name, value) :: more)) before rest

/-- A text is one part and nothing else, but for blanks. -/
def IsText (depth : Nat) (part : Part) (text : String) : Prop :=
  ∃ rest, Spells depth part text.toList rest ∧ ∀ c ∈ rest, isSpace c

/-! ### Blanks -/

section Blanks

variable {depth : Nat} {part : Part} {c : Char} {before rest : List Char}

/-- Blanks in front of a part change nothing. -/
theorem spells_of_skipSpace (spelled : Spells depth part (skipSpace before) rest) :
    Spells depth part before rest := by
  induction before with
  | nil => exact spelled
  | cons c more inductionHypothesis =>
    by_cases space : isSpace c
    · rw [skipSpace, List.dropWhile_cons_of_pos space] at spelled
      exact .blank space (inductionHypothesis spelled)
    · rwa [skipSpace, List.dropWhile_cons_of_neg space] at spelled

theorem spells_mark (begins : skipSpace before = c :: rest) :
    Spells depth (.mark c) before rest := by
  have solid := List.head?_dropWhile_not isSpace before
  rw [show before.dropWhile isSpace = _ from begins] at solid
  exact spells_of_skipSpace (begins ▸ .mark solid rest)

theorem skipSpace_blank (space : isSpace c) (before : List Char) :
    skipSpace (c :: before) = skipSpace before :=
  List.dropWhile_cons_of_pos space

end Blanks

/-! ### What is read is derived -/

/-- The keys of a table are texts, and its nodes mean some values. -/
def StandFor (trees : List (Option String × Tree)) (members : List (String × Value)) : Prop :=
  List.Forall₂ (fun tree member => tree.1 = some member.1 ∧ tree.2.value? = some member.2) trees
    members

/-- The document of a table is made of what its members stand for, one after the other. -/
theorem members?_eq_some_iff {trees : List (Option String × Tree)} {written object : Object} :
    Tree.members? trees written = some object ↔
      ∃ members, StandFor trees members ∧ object = written.insertAll members := by
  induction trees generalizing written with
  | nil =>
    rw [Tree.members?, Option.some.injEq, eq_comm]
    constructor
    · rintro rfl
      exact ⟨[], .nil, rfl⟩
    · rintro ⟨members, none, rfl⟩
      cases none
      rfl
  | cons tree trees inductionHypothesis =>
    obtain ⟨key, item⟩ := tree
    constructor
    · intro read
      rw [Tree.members?] at read
      obtain ⟨name, rfl, named⟩ := Option.bind_eq_some_iff.mp read
      obtain ⟨value, valued, others⟩ := Option.bind_eq_some_iff.mp named
      obtain ⟨members, stand, rfl⟩ := inductionHypothesis.mp others
      exact ⟨(name, value) :: members, .cons ⟨rfl, valued⟩ stand, rfl⟩
    · rintro ⟨_, stand, rfl⟩
      obtain _ | ⟨⟨rfl, valued⟩, stand⟩ := stand
      rw [Tree.members?, valued]
      exact inductionHypothesis.mpr ⟨_, stand, rfl⟩

theorem value?_table {trees : List (Option String × Tree)} {value : Value} :
    (Tree.table Tree.looseForm trees).value? = some value ↔
      ∃ members, StandFor trees members ∧ value = .object (Object.ofList members) := by
  rw [Tree.value?, if_pos (show Tree.looseForm.untyped = true from rfl), Option.map_eq_some_iff]
  constructor
  · rintro ⟨object, read, rfl⟩
    obtain ⟨members, stand, rfl⟩ := members?_eq_some_iff.mp read
    exact ⟨members, stand, rfl⟩
  · rintro ⟨members, stand, rfl⟩
    exact ⟨_, members?_eq_some_iff.mpr ⟨members, stand, rfl⟩, rfl⟩

theorem value?_list {trees : List Tree} {value : Value} :
    (Tree.list Tree.looseForm trees).value? = some value ↔
      ∃ items, Tree.values? trees = some items ∧ value = .array items := by
  rw [Tree.value?, if_pos (show Tree.looseForm.untyped = true from rfl), Option.map_eq_some_iff]
  simp only [eq_comm]

theorem values?_cons {tree : Tree} {trees : List Tree} {items : List Value} :
    Tree.values? (tree :: trees) = some items ↔
      ∃ item more, tree.value? = some item ∧ Tree.values? trees = some more ∧
        items = item :: more := by
  rw [Tree.values?]
  constructor
  · intro read
    obtain ⟨item, valued, others⟩ := Option.bind_eq_some_iff.mp read
    obtain ⟨more, listed, equal⟩ := Option.bind_eq_some_iff.mp others
    cases equal
    exact ⟨item, more, valued, listed, rfl⟩
  · rintro ⟨item, more, valued, listed, rfl⟩
    rw [valued, listed]
    rfl

section Sound

variable {depth : Nat} {before rest : List Char} {tree : Tree} {value : Value}

/-- A number that is read is spelled, and known. -/
theorem exists_spellsNumber {negative : Bool}
    (read : readNumber? negative before = some (tree, rest))
    (valued : tree.value? = some value) :
    ∃ shown number, SpellsNumber negative before shown rest ∧ shown.number? = some number ∧
      value = .number number := by
  obtain ⟨⟨shown, after⟩, spanned, equal⟩ := Option.map_eq_some_iff.mp read
  cases equal
  rw [value?_scalarTree] at valued
  obtain ⟨number, known, rfl⟩ := Option.map_eq_some_iff.mp valued
  exact ⟨shown, number, spellsNumber_of_read spanned, known, rfl⟩

/-- So is a name, behind its first letter. -/
theorem spells_word {first : Char} {name last : String} {named : Value}
    (known : (name, named) ∈ words) (parts : name.toList = first :: last.toList)
    (read : readWord? last named before = some (tree, rest)) (valued : tree.value? = some value) :
    Spells depth (.value value) (first :: before) rest := by
  obtain ⟨after, dropped, equal⟩ := Option.map_eq_some_iff.mp read
  cases equal
  rw [value?_scalarTree] at valued
  cases valued
  rw [Text.dropStart?_eq_some_iff.mp dropped, ← List.cons_append, ← parts]
  exact .word known rest

/-- What the readers read with some fuel is derived. -/
structure ReadersDerive (fuel : Nat) : Prop where
  tree : ∀ {depth : Nat} {before rest : List Char} {tree : Tree} {value : Value},
    readTree fuel depth before = some (tree, rest) → tree.value? = some value →
      Spells depth (.value value) before rest
  items : ∀ {depth : Nat} {before rest : List Char} {trees : List Tree} {items : List Value},
    readItems fuel depth before = some (trees, rest) → Tree.values? trees = some items →
      Spells depth (.items items) before rest
  members : ∀ {depth : Nat} {before rest : List Char} {trees : List (Option String × Tree)}
    {members : List (String × Value)},
    readMembers fuel depth before = some (trees, rest) → StandFor trees members →
      Spells depth (.members members) before rest

namespace ReadersDerive

variable {fuel : Nat} {more : List Char}

/-- An object that is read is derived, with its members. -/
theorem object_succ (readers : ReadersDerive fuel) {form : Form}
    {trees : List (Option String × Tree)} {members : List (String × Value)}
    (begins : skipSpace before = '\x7b' :: more)
    (read : readTree (fuel + 1) depth before = some (.table form trees, rest))
    (stand : StandFor trees members) : Spells depth (.object members) before rest := by
  obtain ⟨less, listed, rfl, equal, ⟨rfl, closes⟩ | readMembers⟩ := table_of_readTree begins read
  · cases equal
    cases stand
    exact spells_of_skipSpace (begins ▸ .emptyObject (spells_mark closes))
  · cases equal
    exact spells_of_skipSpace (begins ▸ .object
      (spells_of_skipSpace (readers.members readMembers stand)))

/-- So is an array. -/
theorem array_succ (readers : ReadersDerive fuel) (begins : skipSpace before = '[' :: more)
    (read : readTree (fuel + 1) depth before = some (tree, rest))
    (valued : tree.value? = some value) : Spells depth (.value value) before rest := by
  obtain ⟨less, trees, rfl, rfl, ⟨rfl, closes⟩ | readItems⟩ := list_of_readTree begins read
  · cases valued
    exact spells_of_skipSpace (begins ▸ .emptyArray (spells_mark closes))
  · obtain ⟨items, listed, rfl⟩ := value?_list.mp valued
    exact spells_of_skipSpace (begins ▸ .array
      (spells_of_skipSpace (readers.items readItems listed)))

theorem tree_succ (readers : ReadersDerive fuel)
    (read : readTree (fuel + 1) depth before = some (tree, rest))
    (valued : tree.value? = some value) : Spells depth (.value value) before rest := by
  have whole := read
  rw [readTree] at read
  split at read
  · cases read
  · rename_i begins
    obtain ⟨⟨shown, tail⟩, string, equal⟩ := Option.map_eq_some_iff.mp read
    cases equal
    rw [value?_scalarTree] at valued
    obtain ⟨text, rfl, rfl⟩ := Option.map_eq_some_iff.mp valued
    exact spells_of_skipSpace (begins ▸ .string (spells_of_readString string))
  · rename_i begins
    exact readers.array_succ begins whole valued
  · rename_i begins
    obtain ⟨_, trees, _, rfl, _⟩ := table_of_readTree begins whole
    obtain ⟨members, stand, rfl⟩ := value?_table.mp valued
    exact .table (readers.object_succ begins whole stand)
  · rename_i begins
    obtain ⟨shown, number, spelled, known, rfl⟩ := exists_spellsNumber read valued
    exact spells_of_skipSpace (begins ▸ .negative spelled known)
  · rename_i begins
    have known : ("true", Value.bool true) ∈ words := by simp [words]
    exact spells_of_skipSpace (begins ▸ spells_word known rfl read valued)
  · rename_i begins
    have known : ("false", Value.bool false) ∈ words := by simp [words]
    exact spells_of_skipSpace (begins ▸ spells_word known rfl read valued)
  · rename_i begins
    have known : ("null", Value.null) ∈ words := by simp [words]
    exact spells_of_skipSpace (begins ▸ spells_word known rfl read valued)
  · rename_i begins
    obtain ⟨shown, number, spelled, known, rfl⟩ := exists_spellsNumber read valued
    exact spells_of_skipSpace (begins ▸ .number spelled known)

theorem items_succ (readers : ReadersDerive fuel) {trees : List Tree} {items : List Value}
    (read : readItems (fuel + 1) depth before = some (trees, rest))
    (listed : Tree.values? trees = some items) : Spells depth (.items items) before rest := by
  rw [readItems] at read
  split at read
  · cases read
  · rename_i item between first
    split at read
    · rename_i begins
      obtain ⟨⟨others, tail⟩, later, equal⟩ := Option.map_eq_some_iff.mp read
      cases equal
      obtain ⟨value, values, valued, valuedMore, rfl⟩ := values?_cons.mp listed
      exact .nextItem (readers.tree first valued) (spells_mark begins)
        (readers.items later valuedMore)
    · rename_i begins
      cases read
      obtain ⟨value, values, valued, none, rfl⟩ := values?_cons.mp listed
      cases none
      exact .lastItem (readers.tree first valued) (spells_mark begins)
    · cases read

theorem members_succ (readers : ReadersDerive fuel) {trees : List (Option String × Tree)}
    {members : List (String × Value)}
    (read : readMembers (fuel + 1) depth before = some (trees, rest))
    (stand : StandFor trees members) : Spells depth (.members members) before rest := by
  rw [readMembers] at read
  split at read
  · rename_i quoted
    split at read
    · cases read
    · rename_i text afterKey string
      split at read
      · rename_i colon
        split at read
        · cases read
        · rename_i item between first
          have member : ∀ {name : String} {value : Value}, text.map String.ofList = some name →
              item.value? = some value → Spells depth (.member name value) before between := by
            intro name value named valued
            obtain ⟨characters, rfl, rfl⟩ := Option.map_eq_some_iff.mp named
            have key : Spells depth (.key (String.ofList characters)) before afterKey :=
              spells_of_skipSpace (quoted ▸ .key (spells_of_readString string))
            exact .member key (spells_mark colon) (readers.tree first valued)
          split at read
          · rename_i begins
            obtain ⟨⟨others, tail⟩, later, equal⟩ := Option.map_eq_some_iff.mp read
            cases equal
            obtain _ | ⟨⟨named, valued⟩, stand⟩ := stand
            exact .nextMember (member named valued) (spells_mark begins)
              (readers.members later stand)
          · rename_i begins
            cases read
            obtain _ | ⟨⟨named, valued⟩, none⟩ := stand
            cases none
            exact .lastMember (member named valued) (spells_mark begins)
          · cases read
      · cases read
  · cases read

end ReadersDerive

theorem readersDerive (fuel : Nat) : ReadersDerive fuel := by
  induction fuel with
  | zero => exact { tree := nofun, items := nofun, members := nofun }
  | succ fuel inductionHypothesis =>
    exact {
      tree := inductionHypothesis.tree_succ
      items := inductionHypothesis.items_succ
      members := inductionHypothesis.members_succ }

/-- What is read as a table is derived as an object. -/
theorem spells_object {fuel : Nat} {trees : List (Option String × Tree)}
    {members : List (String × Value)}
    (read : readTree fuel depth before = some (.table Tree.looseForm trees, rest))
    (stand : StandFor trees members) : Spells depth (.object members) before rest := by
  obtain ⟨more, begins⟩ :=
    begins_of_readTree read (value?_table.mpr ⟨members, stand, rfl⟩) (c := '\x7b') rfl
  cases fuel with
  | zero => cases read
  | succ fuel => exact (readersDerive fuel).object_succ begins read stand

end Sound

/-! ### Lengths -/

section Lengths

variable {before rest : List Char}

theorem length_skipSpace_le (before : List Char) : (skipSpace before).length ≤ before.length :=
  (List.dropWhile_sublist isSpace).length_le

theorem EscapesUnit.length_lt {code : Nat} (escaped : EscapesUnit before code rest) :
    rest.length < before.length := by
  obtain ⟨rest, _⟩ := escaped
  simp only [List.length_cons]
  omega

theorem SpellsText.length_lt {text : List Char} (spelled : SpellsText before text rest) :
    rest.length < before.length := by
  induction spelled with
  | close => exact Nat.lt_succ_self _
  | plain _ _ _ _ inductionHypothesis => exact Nat.lt_succ_of_lt inductionHypothesis
  | letter _ _ inductionHypothesis =>
    exact Nat.lt_succ_of_lt (Nat.lt_succ_of_lt inductionHypothesis)
  | unit escaped _ _ _ inductionHypothesis =>
    exact Nat.lt_trans inductionHypothesis escaped.length_lt
  | pair first _ second _ _ inductionHypothesis =>
    exact Nat.lt_trans inductionHypothesis (Nat.lt_trans second.length_lt first.length_lt)

theorem SpellsDigits.length_lt {digits : List Char} (spelled : SpellsDigits before digits rest) :
    rest.length < before.length := by
  rw [spelled.parts, List.length_append]
  exact Nat.lt_add_of_pos_left (List.length_pos_of_ne_nil spelled.filled)

theorem SpellsFraction.length_le {digits : List Char}
    (spelled : SpellsFraction before digits rest) :
    rest.length ≤ before.length := by
  cases spelled with
  | absent => exact Nat.le_refl _
  | given spelled => exact Nat.le_succ_of_le (Nat.le_of_lt spelled.length_lt)

theorem SpellsSign.length_le {negative : Bool} (spelled : SpellsSign before negative rest) :
    rest.length ≤ before.length := by
  cases spelled with
  | absent => exact Nat.le_refl _
  | plus => exact Nat.le_succ _
  | minus => exact Nat.le_succ _

theorem SpellsExponent.length_le {exponent : Option Int}
    (spelled : SpellsExponent before exponent rest) : rest.length ≤ before.length := by
  cases spelled with
  | absent => exact Nat.le_refl _
  | given _ sign spelled =>
    have behind := Nat.le_trans (Nat.le_of_lt spelled.length_lt) sign.length_le
    exact Nat.le_succ_of_le behind

theorem SpellsNumber.length_lt {negative : Bool} {shown : NumberText}
    (spelled : SpellsNumber negative before shown rest) : rest.length < before.length := by
  obtain ⟨digits, _, places, scale⟩ := spelled
  exact Nat.lt_of_le_of_lt (Nat.le_trans scale.length_le places.length_le) digits.length_lt

/-- A number without sign begins with a digit. -/
theorem SpellsNumber.begins {negative : Bool} {shown : NumberText}
    (spelled : SpellsNumber negative before shown rest) :
    ∃ c more, before = c :: more ∧ Decimal.isDigit c = true := by
  obtain ⟨digits, _, _, _⟩ := spelled
  obtain ⟨c, more, rfl⟩ := List.exists_cons_of_ne_nil digits.filled
  exact ⟨c, _, digits.parts, digits.each c List.mem_cons_self⟩

/-- Every part takes characters, and not only the blanks in front of it. -/
theorem Spells.length_lt {depth : Nat} {part : Part} (spelled : Spells depth part before rest) :
    rest.length < (skipSpace before).length := by
  induction spelled with
  | blank space _ inductionHypothesis => rwa [skipSpace_blank space]
  | mark solid rest =>
    rw [skipSpace_cons rest solid]
    exact Nat.lt_succ_self _
  | key spelled =>
    rw [skipSpace_cons _ rfl]
    exact Nat.lt_succ_of_lt spelled.length_lt
  | word known rest =>
    simp only [words, List.mem_cons, Prod.mk.injEq, List.not_mem_nil, or_false] at known
    rcases known with ⟨rfl, _⟩ | ⟨rfl, _⟩ | ⟨rfl, _⟩
    · exact Nat.lt_add_of_pos_right (show 0 < 4 by decide)
    · exact Nat.lt_add_of_pos_right (show 0 < 4 by decide)
    · exact Nat.lt_add_of_pos_right (show 0 < 5 by decide)
  | number spelled =>
    obtain ⟨c, more, rfl, digit⟩ := spelled.begins
    rw [skipSpace_cons more (isSpace_of_isDigit digit)]
    exact spelled.length_lt
  | negative spelled =>
    rw [skipSpace_cons _ rfl]
    exact Nat.lt_succ_of_lt spelled.length_lt
  | string spelled =>
    rw [skipSpace_cons _ rfl]
    exact Nat.lt_succ_of_lt spelled.length_lt
  | emptyArray _ inside | array _ inside | emptyObject _ inside | object _ inside =>
    rw [skipSpace_cons _ rfl]
    exact Nat.lt_succ_of_lt (Nat.lt_of_lt_of_le inside (length_skipSpace_le _))
  | table _ inside => exact inside
  | lastItem _ _ first last | lastMember _ _ first last =>
    exact Nat.lt_trans (Nat.lt_of_lt_of_le last (length_skipSpace_le _)) first
  | nextItem _ _ _ first comma others | nextMember _ _ _ first comma others
  | member _ _ _ first comma others =>
    have shorter := Nat.lt_trans (Nat.lt_of_lt_of_le comma (length_skipSpace_le _)) first
    exact Nat.lt_trans (Nat.lt_of_lt_of_le others (length_skipSpace_le _)) shorter

end Lengths

/-! ### What is derived is read -/

section Blanks

variable {before rest : List Char}

/-- What is skipped are blanks. -/
theorem exists_blanks (before : List Char) :
    ∃ blanks : List Char, (∀ c ∈ blanks, isSpace c) ∧ before = blanks ++ skipSpace before :=
  ⟨before.takeWhile isSpace, List.all_eq_true.mp List.all_takeWhile,
    List.takeWhile_append_dropWhile.symm⟩

theorem readTree_skipSpace (fuel depth : Nat) (before : List Char) :
    readTree fuel depth (skipSpace before) = readTree fuel depth before := by
  obtain ⟨blanks, blank, parts⟩ := exists_blanks before
  conv_rhs => rw [parts]
  exact (readTree_blanks blank fuel depth _).symm

theorem readItems_skipSpace (fuel depth : Nat) (before : List Char) :
    readItems fuel depth (skipSpace before) = readItems fuel depth before := by
  cases fuel with
  | zero => rw [readItems, readItems]
  | succ fuel => rw [readItems, readItems, readTree_skipSpace]

theorem readMembers_skipSpace (fuel depth : Nat) (before : List Char) :
    readMembers fuel depth (skipSpace before) = readMembers fuel depth before := by
  obtain ⟨blanks, blank, parts⟩ := exists_blanks before
  conv_rhs => rw [parts]
  exact (readMembers_blanks blank fuel depth _).symm

theorem endsNumber_of_skipSpace (ends : EndsNumber (skipSpace before)) : EndsNumber before := by
  obtain ⟨blanks, blank, parts⟩ := exists_blanks before
  rw [parts]
  exact endsNumber_blanks blank ends

/-- A number ends in front of a mark. -/
theorem endsNumber_of_mark {c : Char} (begins : skipSpace before = c :: rest)
    (other : Decimal.isDigit c = false ∧ c ≠ '.' ∧ c ≠ 'e' ∧ c ≠ 'E') : EndsNumber before :=
  endsNumber_of_skipSpace (begins ▸ endsNumber_cons rest other)

end Blanks

section Brackets

variable {fuel depth : Nat} {before rest : List Char}

/-- No item begins with the bracket that closes an array. -/
theorem readItems_closed (fuel depth : Nat) (rest : List Char) :
    readItems fuel depth (']' :: rest) = none := by
  cases fuel with
  | zero => rfl
  | succ fuel => cases fuel <;> rfl

theorem readMembers_closed (fuel depth : Nat) (rest : List Char) :
    readMembers fuel depth ('\x7d' :: rest) = none := by
  cases fuel <;> rfl

theorem readTree_list {items : List Tree}
    (read : readItems fuel depth (skipSpace before) = some (items, rest)) :
    readTree (fuel + 1) (depth + 1) ('[' :: before) =
      some (.list Tree.looseForm items, rest) := by
  simp only [readTree, skipSpace_cons before (rfl : isSpace '[' = false)]
  split
  · rename_i zero
    cases zero
  · rename_i closes
    rw [closes, readItems_closed] at read
    cases read
  · rename_i deeper _
    cases deeper
    rw [read]
    rfl

theorem readTree_table {members : List (Option String × Tree)}
    (read : readMembers fuel depth (skipSpace before) = some (members, rest)) :
    readTree (fuel + 1) (depth + 1) ('\x7b' :: before) =
      some (.table Tree.looseForm members, rest) := by
  simp only [readTree, skipSpace_cons before (rfl : isSpace '\x7b' = false)]
  split
  · rename_i zero
    cases zero
  · rename_i closes
    rw [closes, readMembers_closed] at read
    cases read
  · rename_i deeper _
    cases deeper
    rw [read]
    rfl

end Brackets

/-- The reader of values reads a value, if the fuel suffices and a number ends where it does. -/
def ReadsValue (depth : Nat) (before rest : List Char) (value : Value) : Prop :=
  EndsNumber rest → ∀ fuel, 2 * before.length ≤ fuel →
    ∃ tree, readTree fuel depth before = some (tree, rest) ∧ tree.value? = some value

/-- The reader of texts reads a key. -/
def ReadsKey (before rest : List Char) (name : String) : Prop :=
  ∃ more text, before = '"' :: more ∧ readString none more = some (some text, rest) ∧
    String.ofList text = name

/-- The readers read a part that no blanks stand in front of. -/
def Reads (depth : Nat) (before rest : List Char) : Part → Prop
  | .mark c => before = c :: rest
  | .key name => ReadsKey before rest name
  | .value value => ReadsValue depth before rest value
  | .items items => ∀ fuel, 2 * before.length < fuel →
      ∃ trees, readItems fuel depth before = some (trees, rest) ∧ Tree.values? trees = some items
  | .member name value => ∃ between after, ReadsKey before between name ∧
      skipSpace between = ':' :: after ∧ after.length < before.length ∧
      ReadsValue depth (skipSpace after) rest value
  | .members members => ∀ fuel, 2 * before.length < fuel →
      ∃ trees, readMembers fuel depth before = some (trees, rest) ∧ StandFor trees members
  | .object members => ∀ fuel, 2 * before.length ≤ fuel →
      ∃ trees, readTree fuel depth before = some (.table Tree.looseForm trees, rest) ∧
        StandFor trees members

section Complete

variable {depth : Nat} {before rest : List Char}

/-- A value is read in one step or more. -/
theorem readsValue_of_succ {value : Value} (filled : before ≠ [])
    (step : EndsNumber rest → ∀ fuel, 2 * before.length ≤ fuel + 1 →
      ∃ tree, readTree (fuel + 1) depth before = some (tree, rest) ∧ tree.value? = some value) :
    ReadsValue depth before rest value := by
  intro ends fuel enough
  have positive := List.length_pos_of_ne_nil filled
  obtain ⟨less, rfl⟩ : ∃ less, fuel = less + 1 := ⟨fuel - 1, by omega⟩
  exact step ends less enough

theorem readNumber?_of_spelled {negative : Bool} {shown : NumberText} {number : Number}
    (spelled : SpellsNumber negative before shown rest) (known : shown.number? = some number)
    (ends : EndsNumber rest) :
    readNumber? negative before = some (scalarTree (some (.number number)), rest) := by
  unfold readNumber?
  simp only [spelled.read ends, Option.map_some, known]

/-- The names of values are read. -/
theorem reads_word {name : String} {value : Value} (known : (name, value) ∈ words)
    (rest : List Char) : Reads depth (skipSpace (name.toList ++ rest)) rest (.value value) := by
  simp only [words, List.mem_cons, Prod.mk.injEq, List.not_mem_nil, or_false] at known
  rcases known with ⟨rfl, rfl⟩ | ⟨rfl, rfl⟩ | ⟨rfl, rfl⟩
  · exact readsValue_of_succ (List.cons_ne_nil _ _) fun _ _ _ => ⟨_, rfl, rfl⟩
  · exact readsValue_of_succ (List.cons_ne_nil _ _) fun _ _ _ => ⟨_, rfl, rfl⟩
  · exact readsValue_of_succ (List.cons_ne_nil _ _) fun _ _ _ => ⟨_, rfl, rfl⟩

variable {between after : List Char} {name : String} {value : Value}

/-- A last member is read with the brace that closes its object. -/
theorem readMembers_lastMember (member : Reads depth before between (.member name value))
    (closes : skipSpace between = '\x7d' :: rest) :
    Reads depth before rest (.members [(name, value)]) := by
  obtain ⟨afterKey, afterColon, ⟨more, text, rfl, key, rfl⟩, colon, shorter, reads⟩ := member
  intro fuel enough
  obtain ⟨less, rfl⟩ : ∃ less, fuel = less + 1 := ⟨fuel - 1, by omega⟩
  have tight := length_skipSpace_le afterColon
  obtain ⟨tree, read, valued⟩ := reads (endsNumber_of_mark closes (by decide)) less (by omega)
  rw [readTree_skipSpace] at read
  refine ⟨[(some (String.ofList text), tree)], ?_, .cons ⟨rfl, valued⟩ .nil⟩
  rw [readMembers, skipSpace_cons _ rfl]
  simp only [key, colon, read, closes, Option.map_some]

theorem readMembers_nextMember {others : List (String × Value)}
    (member : Reads depth before between (.member name value))
    (comma : skipSpace between = ',' :: after) (shorter : after.length < before.length)
    (later : Reads depth (skipSpace after) rest (.members others)) :
    Reads depth before rest (.members ((name, value) :: others)) := by
  obtain ⟨afterKey, afterColon, ⟨more, text, rfl, key, rfl⟩, colon, inside, reads⟩ := member
  intro fuel enough
  obtain ⟨less, rfl⟩ : ∃ less, fuel = less + 1 := ⟨fuel - 1, by omega⟩
  have tight := length_skipSpace_le afterColon
  have tightLater := length_skipSpace_le after
  obtain ⟨tree, read, valued⟩ := reads (endsNumber_of_mark comma (by decide)) less (by omega)
  obtain ⟨trees, readMore, stand⟩ := later less (by omega)
  rw [readTree_skipSpace] at read
  rw [readMembers_skipSpace] at readMore
  refine ⟨(some (String.ofList text), tree) :: trees, ?_, .cons ⟨rfl, valued⟩ stand⟩
  rw [readMembers, skipSpace_cons _ rfl]
  simp only [key, colon, read, comma, readMore, Option.map_some]

/-- What is derived is read. -/
theorem Spells.reads {part : Part} (spelled : Spells depth part before rest) :
    Reads depth (skipSpace before) rest part := by
  induction spelled with
  | blank space _ inductionHypothesis => rwa [skipSpace_blank space]
  | mark solid rest => exact skipSpace_cons rest solid
  | key spelled =>
    rw [skipSpace_cons _ rfl]
    exact ⟨_, _, rfl, spelled.read, rfl⟩
  | word known rest => exact reads_word known rest
  | number spelled known =>
    obtain ⟨c, more, rfl, digit⟩ := spelled.begins
    rw [skipSpace_cons more (isSpace_of_isDigit digit)]
    refine readsValue_of_succ (List.cons_ne_nil _ _) fun ends fuel _ => ?_
    rw [readTree_digit _ _ _ digit]
    exact ⟨_, readNumber?_of_spelled spelled known ends, value?_scalarTree _⟩
  | negative spelled known =>
    rw [skipSpace_cons _ rfl]
    refine readsValue_of_succ (List.cons_ne_nil _ _) fun ends fuel _ => ?_
    rw [readTree, skipSpace_cons _ rfl]
    exact ⟨_, readNumber?_of_spelled spelled known ends, value?_scalarTree _⟩
  | string spelled =>
    rw [skipSpace_cons _ rfl]
    refine readsValue_of_succ (List.cons_ne_nil _ _) fun ends fuel _ => ?_
    rw [readTree, skipSpace_cons _ rfl]
    simp only [spelled.read]
    exact ⟨_, rfl, value?_scalarTree _⟩
  | @emptyArray depth before rest _ closes =>
    rw [skipSpace_cons _ rfl]
    refine readsValue_of_succ (List.cons_ne_nil _ _) fun ends fuel _ => ?_
    simp only [readTree, skipSpace_cons before (rfl : isSpace '[' = false),
      show skipSpace before = ']' :: rest from closes]
    exact ⟨_, rfl, rfl⟩
  | @array depth items before rest _ listed =>
    rw [skipSpace_cons _ rfl]
    refine readsValue_of_succ (List.cons_ne_nil _ _) fun ends fuel enough => ?_
    have tight := length_skipSpace_le before
    rw [List.length_cons] at enough
    obtain ⟨trees, read, valued⟩ := listed fuel (by omega)
    exact ⟨_, readTree_list read, value?_list.mpr ⟨items, valued, rfl⟩⟩
  | @emptyObject depth before rest _ closes =>
    rw [skipSpace_cons _ rfl]
    intro fuel enough
    rw [List.length_cons] at enough
    obtain ⟨less, rfl⟩ : ∃ less, fuel = less + 1 := ⟨fuel - 1, by omega⟩
    simp only [readTree, skipSpace_cons before (rfl : isSpace '\x7b' = false),
      show skipSpace before = '\x7d' :: rest from closes]
    exact ⟨[], rfl, .nil⟩
  | @object depth members before rest _ listed =>
    rw [skipSpace_cons _ rfl]
    intro fuel enough
    rw [List.length_cons] at enough
    obtain ⟨less, rfl⟩ : ∃ less, fuel = less + 1 := ⟨fuel - 1, by omega⟩
    have tight := length_skipSpace_le before
    obtain ⟨trees, read, stand⟩ := listed less (by omega)
    exact ⟨trees, readTree_table read, stand⟩
  | table _ reads =>
    intro _ fuel enough
    obtain ⟨trees, read, stand⟩ := reads fuel enough
    exact ⟨_, read, value?_table.mpr ⟨_, stand, rfl⟩⟩
  | @lastItem depth item before between rest _ _ reads closes =>
    intro fuel enough
    obtain ⟨less, rfl⟩ : ∃ less, fuel = less + 1 := ⟨fuel - 1, by omega⟩
    obtain ⟨tree, read, valued⟩ := reads (endsNumber_of_mark closes (by decide)) less (by omega)
    exact ⟨[tree], readItems_last read closes, values?_cons.mpr ⟨item, [], valued, rfl, rfl⟩⟩
  | @nextItem depth item more before between after rest spelled marked _ reads comma later =>
    intro fuel enough
    obtain ⟨less, rfl⟩ : ∃ less, fuel = less + 1 := ⟨fuel - 1, by omega⟩
    have shorter := spelled.length_lt
    have tight := length_skipSpace_le between
    have shorterAfter := marked.length_lt
    have tightAfter := length_skipSpace_le after
    obtain ⟨tree, read, valued⟩ := reads (endsNumber_of_mark comma (by decide)) less (by omega)
    obtain ⟨trees, readMore, valuedMore⟩ := later less (by omega)
    rw [readItems_skipSpace] at readMore
    exact ⟨tree :: trees, readItems_more read comma readMore,
      values?_cons.mpr ⟨item, more, valued, valuedMore, rfl⟩⟩
  | @member depth name value before between after rest named marked _ key colon reads =>
    have shorter := Nat.lt_of_lt_of_le marked.length_lt (length_skipSpace_le between)
    exact ⟨between, after, key, colon, Nat.lt_trans shorter named.length_lt, reads⟩
  | lastMember _ _ member closes => exact readMembers_lastMember member closes
  | @nextMember depth name value more before between after rest spelled marked _ member comma
      later =>
    have shorter := Nat.lt_of_lt_of_le marked.length_lt (length_skipSpace_le between)
    exact readMembers_nextMember member comma (Nat.lt_trans shorter spelled.length_lt) later

end Complete

/-! ### Texts of documents -/

theorem endsNumber_of_blank {rest : List Char} (blank : ∀ c ∈ rest, isSpace c) :
    EndsNumber rest := by
  rw [← List.append_nil rest]
  exact endsNumber_blanks blank fun _ none => nomatch none

theorem isEmpty_skipSpace_iff {rest : List Char} :
    (skipSpace rest).isEmpty = true ↔ ∀ c ∈ rest, isSpace c := by
  rw [List.isEmpty_iff, skipSpace, List.dropWhile_eq_nil_iff]

section Texts

variable {text : String}

/-- A text has a tree if the reader stops in front of blanks. -/
theorem tree?_eq_some_iff {tree : Tree} :
    tree? text = some tree ↔ ∃ rest,
      readTree (2 * text.toList.length + 2) nestingLimit text.toList = some (tree, rest) ∧
        ∀ c ∈ rest, isSpace c := by
  unfold tree?
  constructor
  · intro planted
    obtain ⟨⟨found, rest⟩, reached, ends⟩ := Option.bind_eq_some_iff.mp planted
    obtain ⟨blank, equal⟩ := Option.ite_none_right_eq_some.mp ends
    cases equal
    exact ⟨rest, reached, isEmpty_skipSpace_iff.mp blank⟩
  · rintro ⟨rest, reached, blank⟩
    simp only [reached]
    exact if_pos (isEmpty_skipSpace_iff.mpr blank)

/-- A text is read as a document exactly if it is derived as one, and nothing else stands in it. -/
theorem parse?_eq_some_iff {value : Value} :
    parse? text = some value ↔ IsText nestingLimit (.value value) text := by
  unfold parse?
  constructor
  · intro read
    obtain ⟨tree, planted, valued⟩ := Option.bind_eq_some_iff.mp read
    obtain ⟨rest, reached, blank⟩ := tree?_eq_some_iff.mp planted
    exact ⟨rest, (readersDerive _).tree reached valued, blank⟩
  · rintro ⟨rest, spelled, blank⟩
    have tight := length_skipSpace_le text.toList
    obtain ⟨tree, read, valued⟩ := spelled.reads (endsNumber_of_blank blank)
      (2 * text.toList.length + 2) (by omega)
    rw [readTree_skipSpace] at read
    rw [tree?_eq_some_iff.mpr ⟨rest, read, blank⟩]
    exact valued

/-- Its tree is a table whose members stand for some exactly if it is derived as an object with
these. -/
theorem table_iff_isText {members : List (String × Value)} :
    (∃ trees, tree? text = some (.table Tree.looseForm trees) ∧ StandFor trees members) ↔
      IsText nestingLimit (.object members) text := by
  constructor
  · rintro ⟨trees, planted, stand⟩
    obtain ⟨rest, reached, blank⟩ := tree?_eq_some_iff.mp planted
    exact ⟨rest, spells_object reached stand, blank⟩
  · rintro ⟨rest, spelled, blank⟩
    have tight := length_skipSpace_le text.toList
    obtain ⟨trees, read, stand⟩ := spelled.reads (2 * text.toList.length + 2) (by omega)
    rw [readTree_skipSpace] at read
    exact ⟨trees, tree?_eq_some_iff.mpr ⟨rest, read, blank⟩, stand⟩

end Texts

end ProxyProfile.Json
