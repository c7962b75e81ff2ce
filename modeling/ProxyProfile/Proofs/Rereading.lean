/-
This file proves that a document is read back from the text it is written as.

The two printers differ only in the blanks they put between the parts of a
document, and the reader passes over blanks wherever it looks for a part. So one
printer with the blanks left open stands for both, and one induction over the
document serves both: behind the text of a value, whatever follows it, the reader
stands where the value ends. Only a number needs to know what follows, for its
digits end where something else begins.

What is read back is a document whose numbers are integers of at most sixty-four
bits, whose objects have no key twice, and which does not nest deeper than the
reader goes. The first two ask no more than that it has no floating point number, for
the library makes no other integers and never writes a key twice.
-/

import ProxyProfile.Proofs.Distinctness

namespace ProxyProfile

namespace Json

/-! ### Plain documents -/

mutual

/-- Whether every number of a document is an integer that the format can hold, and no object
has a key twice. -/
def Value.isPlain : Value → Bool
  | .null => true
  | .bool _ => true
  | .number (.integer value) => Decimal.fitsEither 64 value
  | .number (.binary _) => false
  | .string _ => true
  | .array items => arePlain items
  | .object members => decide (Object.keys members).Nodup && haveMembersPlain members

/-- Whether all items of an array are plain. -/
def arePlain : List Value → Bool
  | [] => true
  | item :: rest => item.isPlain && arePlain rest

/-- Whether the values of all members of an object are plain. -/
def haveMembersPlain : List (String × Value) → Bool
  | [] => true
  | (_, item) :: rest => item.isPlain && haveMembersPlain rest

end

mutual

/-- How many brackets stand around the innermost part of a document. -/
def Value.nesting : Value → Nat
  | .null => 0
  | .bool _ => 0
  | .number _ => 0
  | .string _ => 0
  | .array items => nestingOfItems items + 1
  | .object members => nestingOfMembers members + 1

/-- How deep the deepest item of an array is. -/
def nestingOfItems : List Value → Nat
  | [] => 0
  | item :: rest => max item.nesting (nestingOfItems rest)

/-- How deep the deepest member of an object is. -/
def nestingOfMembers : List (String × Value) → Nat
  | [] => 0
  | (_, item) :: rest => max item.nesting (nestingOfMembers rest)

end

/-- A document that the reader gives back: it is plain, and does not nest deeper than the
reader goes. -/
structure Value.Storable (value : Value) : Prop where
  plain : value.isPlain
  shallow : value.nesting ≤ nestingLimit

/-! ### What a plain document has besides -/

mutual

theorem hasDistinctKeys_of_isPlain (value : Value) (plain : value.isPlain) :
    value.hasDistinctKeys := by
  cases value with
  | null => rfl
  | bool flag => rfl
  | number number => rfl
  | string text => rfl
  | array items => exact itemsHaveDistinctKeys_of_arePlain items plain
  | object members =>
    rw [Value.isPlain, Bool.and_eq_true] at plain
    rw [Value.hasDistinctKeys, Bool.and_eq_true]
    exact ⟨plain.1, membersHaveDistinctKeys_of_plain members plain.2⟩

theorem itemsHaveDistinctKeys_of_arePlain (items : List Value) (plain : arePlain items) :
    itemsHaveDistinctKeys items := by
  cases items with
  | nil => rfl
  | cons item rest =>
    rw [arePlain, Bool.and_eq_true] at plain
    rw [itemsHaveDistinctKeys, Bool.and_eq_true]
    exact ⟨hasDistinctKeys_of_isPlain item plain.1,
      itemsHaveDistinctKeys_of_arePlain rest plain.2⟩

theorem membersHaveDistinctKeys_of_plain (members : List (String × Value))
    (plain : haveMembersPlain members) : membersHaveDistinctKeys members := by
  cases members with
  | nil => rfl
  | cons member rest =>
    rw [haveMembersPlain, Bool.and_eq_true] at plain
    rw [membersHaveDistinctKeys, Bool.and_eq_true]
    exact ⟨hasDistinctKeys_of_isPlain member.2 plain.1,
      membersHaveDistinctKeys_of_plain rest plain.2⟩

end

/-! ### Layouts -/

/-- The blanks that a printer puts between the parts of a document. -/
structure Spacing where
  /-- What stands in front of an item, a member or a closing bracket inside some brackets. -/
  line : Nat → List Char
  /-- What stands between a colon and a value. -/
  gap : List Char
  lineBlank : ∀ depth, ∀ c ∈ line depth, isSpace c
  gapBlank : ∀ c ∈ gap, isSpace c

/-- The blanks of compact text: none. -/
def Spacing.compact : Spacing where
  line _ := []
  gap := []
  lineBlank _ _ none := nomatch none
  gapBlank _ none := nomatch none

/-- The blanks of indented text. -/
def Spacing.indented : Spacing where
  line := newline
  gap := [' ']
  lineBlank depth c member := by
    rcases List.mem_cons.mp member with rfl | among
    · rfl
    · rw [List.eq_of_mem_replicate among]
      rfl
  gapBlank c member := by
    rw [List.mem_singleton.mp member]
    rfl

mutual

/-- The text of a document inside `depth` brackets. -/
def Value.spaced (spacing : Spacing) (depth : Nat) : Value → List Char
  | .array [] => ['[', ']']
  | .object [] => ['\x7b', '\x7d']
  | .array items =>
    '[' :: spacing.line (depth + 1) ++ spacedItems spacing (depth + 1) items ++
      spacing.line depth ++ [']']
  | .object members =>
    '\x7b' :: spacing.line (depth + 1) ++ spacedMembers spacing (depth + 1) members ++
      spacing.line depth ++ ['\x7d']
  | .null => ['n', 'u', 'l', 'l']
  | .bool true => ['t', 'r', 'u', 'e']
  | .bool false => ['f', 'a', 'l', 's', 'e']
  | .number number => number.chars
  | .string text => quote text

/-- The items of an array with commas between them. -/
def spacedItems (spacing : Spacing) (depth : Nat) : List Value → List Char
  | [] => []
  | [item] => item.spaced spacing depth
  | item :: next :: rest =>
    item.spaced spacing depth ++ ',' :: spacing.line depth ++
      spacedItems spacing depth (next :: rest)

/-- The members of an object with commas between them. -/
def spacedMembers (spacing : Spacing) (depth : Nat) : List (String × Value) → List Char
  | [] => []
  | [(key, value)] => quote key ++ ':' :: (spacing.gap ++ value.spaced spacing depth)
  | (key, value) :: next :: rest =>
    quote key ++ ':' :: (spacing.gap ++ value.spaced spacing depth) ++
      ',' :: spacing.line depth ++ spacedMembers spacing depth (next :: rest)

end

mutual

theorem chars_eq_spaced (depth : Nat) (value : Value) :
    value.chars = value.spaced .compact depth := by
  cases value with
  | null => rfl
  | bool flag => cases flag <;> rfl
  | number number => rfl
  | string text => rfl
  | array items =>
    cases items with
    | nil => rfl
    | cons item rest =>
      rw [Value.chars, itemsChars_eq_spaced (depth + 1) (item :: rest)]
      simp [Value.spaced, Spacing.compact]
  | object members =>
    cases members with
    | nil => rfl
    | cons member rest =>
      rw [Value.chars, membersChars_eq_spaced (depth + 1) (member :: rest)]
      simp [Value.spaced, Spacing.compact]

theorem itemsChars_eq_spaced (depth : Nat) (items : List Value) :
    itemsChars items = spacedItems .compact depth items := by
  cases items with
  | nil => rfl
  | cons item rest =>
    cases rest with
    | nil => rw [itemsChars, spacedItems, chars_eq_spaced depth item]
    | cons next others =>
      rw [itemsChars, spacedItems, chars_eq_spaced depth item,
        itemsChars_eq_spaced depth (next :: others)]
      simp [Spacing.compact]

theorem membersChars_eq_spaced (depth : Nat) (members : List (String × Value)) :
    membersChars members = spacedMembers .compact depth members := by
  cases members with
  | nil => rfl
  | cons member rest =>
    obtain ⟨key, value⟩ := member
    cases rest with
    | nil =>
      rw [membersChars, spacedMembers, chars_eq_spaced depth value]
      rfl
    | cons next others =>
      rw [membersChars, spacedMembers, chars_eq_spaced depth value,
        membersChars_eq_spaced depth (next :: others)]
      simp [Spacing.compact]

end

mutual

theorem prettyChars_eq_spaced (depth : Nat) (value : Value) :
    value.prettyChars depth = value.spaced .indented depth := by
  cases value with
  | null => rfl
  | bool flag => cases flag <;> rfl
  | number number => rfl
  | string text => rfl
  | array items =>
    cases items with
    | nil => rfl
    | cons item rest =>
      rw [Value.prettyChars, Value.spaced, prettyItems_eq_spaced]
      · rfl
      · simp
      · simp
  | object members =>
    cases members with
    | nil => rfl
    | cons member rest =>
      rw [Value.prettyChars, Value.spaced, prettyMembers_eq_spaced]
      · rfl
      · simp
      · simp

theorem prettyItems_eq_spaced (depth : Nat) (items : List Value) :
    prettyItems depth items = spacedItems .indented depth items := by
  cases items with
  | nil => rfl
  | cons item rest =>
    cases rest with
    | nil => rw [prettyItems, spacedItems, prettyChars_eq_spaced depth item]
    | cons next others =>
      rw [prettyItems, spacedItems, prettyChars_eq_spaced depth item,
        prettyItems_eq_spaced depth (next :: others)]
      rfl

theorem prettyMembers_eq_spaced (depth : Nat) (members : List (String × Value)) :
    prettyMembers depth members = spacedMembers .indented depth members := by
  cases members with
  | nil => rfl
  | cons member rest =>
    obtain ⟨key, value⟩ := member
    cases rest with
    | nil =>
      rw [prettyMembers, spacedMembers, prettyChars_eq_spaced depth value]
      rfl
    | cons next others =>
      rw [prettyMembers, spacedMembers, prettyChars_eq_spaced depth value,
        prettyMembers_eq_spaced depth (next :: others)]
      rfl

end

/-! ### Strings -/

theorem hexFour?_control (number : Nat) (control : number < 32) :
    hexFour? '0' '0' (hexDigit (number / 16)) (hexDigit (number % 16)) = some number := by
  revert number
  decide

/-- A character is read back from the way it is written inside a string. -/
theorem readString_escapeChar (c : Char) (characters : List Char) :
    readString none (escapeChar c ++ characters) =
      (readString none characters).map fun (text, tail) => (text.map (c :: ·), tail) := by
  unfold escapeChar
  split
  · subst c
    rfl
  split
  · subst c
    rfl
  split
  · subst c
    rfl
  split
  · subst c
    rfl
  split
  · subst c
    rfl
  split
  · rename_i code
    obtain rfl : Char.ofNat 8 = c := by rw [← code, Char.ofNat_toNat]
    rfl
  split
  · rename_i code
    obtain rfl : Char.ofNat 12 = c := by rw [← code, Char.ofNat_toNat]
    rfl
  split
  · rename_i control
    simp only [List.cons_append, List.nil_append]
    rw [readString, hexFour?_control c.toNat control]
    dsimp only
    -- A control character is no half of a surrogate pair.
    rw [if_neg (by omega), if_neg (by omega), Char.ofNat_toNat]
    rfl
  · rename_i quoteFree slashFree _ _ _ _ _ printable
    rw [List.singleton_append, readString]
    · rw [if_neg (by simp [slashFree]; omega)]
      rfl
    · exact quoteFree
    · intro _ _ _ _ _ same
      exact absurd same slashFree
    · intro _ _ same
      exact absurd same slashFree

/-- A text is read back from between its quotes. -/
theorem readString_escaped (text rest : List Char) :
    readString none (text.flatMap escapeChar ++ '"' :: rest) = some (some text, rest) := by
  induction text with
  | nil => rfl
  | cons c text inductionHypothesis =>
    rw [List.flatMap_cons, List.append_assoc, readString_escapeChar, inductionHypothesis]
    rfl

theorem quote_append (text : String) (rest : List Char) :
    quote text ++ rest = '"' :: (text.toList.flatMap escapeChar ++ '"' :: rest) := by
  simp [quote]

/-! ### Numbers -/

theorem digits_eq_cons (number : Nat) (positive : 0 < number) :
    ∃ first rest, Decimal.digits number = first :: rest ∧ first ≠ '0' := by
  induction number using Nat.strongRecOn with
  | ind number inductionHypothesis =>
    rw [Decimal.digits]
    split
    · rename_i small
      refine ⟨_, [], rfl, fun zero => ?_⟩
      have code := Decimal.digitChar_toNat small
      rw [zero, show ('0' : Char).toNat = 48 from rfl] at code
      omega
    · obtain ⟨first, rest, shown, nonzero⟩ :=
        inductionHypothesis (number / 10) (by omega) (by omega)
      exact ⟨first, rest ++ [Decimal.digitChar (number % 10)],
        by rw [shown, List.cons_append], nonzero⟩

/-- No second digit follows a leading zero. -/
theorem digits_ne_zero_cons (number : Nat) (next : Char) (rest : List Char) :
    Decimal.digits number ≠ '0' :: next :: rest := by
  intro shown
  rcases Nat.eq_zero_or_pos number with rfl | positive
  · rw [Decimal.digits] at shown
    cases shown
  · obtain ⟨first, others, equal, nonzero⟩ := digits_eq_cons number positive
    rw [equal] at shown
    exact nonzero (List.cons.inj shown).1

/-- A list that does not go on with a number. -/
def EndsNumber (rest : List Char) : Prop :=
  ∀ c ∈ rest.head?, Decimal.isDigit c = false ∧ c ≠ '.' ∧ c ≠ 'e' ∧ c ≠ 'E'

theorem endsNumber_cons {c : Char} (rest : List Char)
    (other : Decimal.isDigit c = false ∧ c ≠ '.' ∧ c ≠ 'e' ∧ c ≠ 'E') : EndsNumber (c :: rest) := by
  intro first same
  cases same
  exact other

theorem endsNumber_blanks {blanks rest : List Char} (blank : ∀ c ∈ blanks, isSpace c)
    (ends : EndsNumber rest) : EndsNumber (blanks ++ rest) := by
  cases blanks with
  | nil => exact ends
  | cons c more =>
    have space := blank c List.mem_cons_self
    simp only [isSpace, Bool.or_eq_true, decide_eq_true_iff] at space
    refine endsNumber_cons _ ?_
    rcases space with ((rfl | rfl) | rfl) | rfl <;> decide

theorem spanDigits_digits (number : Nat) (rest : List Char) (ends : EndsNumber rest) :
    Decimal.spanDigits (Decimal.digits number ++ rest) = (Decimal.digits number, rest) := by
  have digits := List.all_eq_true.mp (Decimal.all_isDigit_digits number)
  unfold Decimal.spanDigits
  rw [List.takeWhile_append_of_pos digits, List.dropWhile_append_of_pos digits]
  cases rest with
  | nil => simp
  | cons c rest =>
    have other : ¬ Decimal.isDigit c = true := by simp [(ends c rfl).1]
    rw [List.takeWhile_cons_of_neg other, List.dropWhile_cons_of_neg other, List.append_nil]

theorem spanNumber?_digits (negative : Bool) (number : Nat) (rest : List Char)
    (ends : EndsNumber rest) :
    spanNumber? negative (Decimal.digits number ++ rest) =
      some (⟨negative, Decimal.digits number, [], none⟩, rest) := by
  have fraction : spanFraction? rest = some ([], rest) := by
    cases rest with
    | nil => rfl
    | cons c rest =>
      rw [spanFraction?]
      intro _ same
      exact (ends c rfl).2.1 (List.cons.inj same).1
  have exponent : spanExponent? rest = some (none, rest) := by
    cases rest with
    | nil => rfl
    | cons c rest =>
      rw [spanExponent?, if_neg]
      rintro (lower | upper)
      · exact (ends c rfl).2.2.1 lower
      · exact (ends c rfl).2.2.2 upper
  unfold spanNumber?
  rw [spanDigits_digits number rest ends]
  dsimp only
  split
  · rename_i empty
    exact absurd empty (Decimal.digits_ne_nil number)
  · rename_i leading
    exact absurd leading (digits_ne_zero_cons number _ _)
  · rw [fraction]
    simp [exponent]

theorem number?_digits (number : Nat) (small : Decimal.fits 64 number = true) :
    NumberText.number? ⟨false, Decimal.digits number, [], none⟩ = some (.integer number) := by
  simp [NumberText.number?, Decimal.value_digits, small]

theorem number?_negative (number : Nat)
    (small : Decimal.fitsSigned 63 (-((number + 1 : Nat) : Int)) = true) :
    NumberText.number? ⟨true, Decimal.digits (number + 1), [], none⟩ =
      some (.integer (.negSucc number)) := by
  simp only [NumberText.number?, Decimal.value_digits, List.isEmpty_nil, Option.isNone_none,
    Bool.and_self, if_true, Bool.not_true, Bool.false_eq_true, if_false]
  rw [if_pos ⟨Nat.succ_pos number, small⟩]
  rfl

theorem readNumber?_digits (negative : Bool) (number : Nat) (rest : List Char)
    (ends : EndsNumber rest) {value : Int}
    (known : NumberText.number? ⟨negative, Decimal.digits number, [], none⟩ =
      some (.integer value)) :
    readNumber? negative (Decimal.digits number ++ rest) =
      some (Tree.ofValue (.number (.integer value)), rest) := by
  rw [readNumber?, spanNumber?_digits negative number rest ends, Option.map_some]
  dsimp only
  rw [known]
  rfl

/-! ### Blanks -/

theorem skipSpace_blanks {blanks : List Char} (characters : List Char)
    (blank : ∀ c ∈ blanks, isSpace c) : skipSpace (blanks ++ characters) = skipSpace characters :=
  List.dropWhile_append_of_pos blank

theorem skipSpace_cons {c : Char} (rest : List Char) (solid : isSpace c = false) :
    skipSpace (c :: rest) = c :: rest :=
  List.dropWhile_cons_of_neg (by simp [solid])

section Blanks

variable {blanks : List Char} (blank : ∀ c ∈ blanks, isSpace c) (fuel depth : Nat)
  (characters : List Char)

include blank

theorem readTree_blanks :
    readTree fuel depth (blanks ++ characters) = readTree fuel depth characters := by
  cases fuel with
  | zero => rw [readTree, readTree]
  | succ fuel => rw [readTree, readTree, skipSpace_blanks characters blank]

theorem readItems_blanks :
    readItems fuel depth (blanks ++ characters) = readItems fuel depth characters := by
  cases fuel with
  | zero => rw [readItems, readItems]
  | succ fuel => rw [readItems, readItems, readTree_blanks blank]

theorem readMembers_blanks :
    readMembers fuel depth (blanks ++ characters) = readMembers fuel depth characters := by
  cases fuel with
  | zero => rw [readMembers, readMembers]
  | succ fuel => rw [readMembers, readMembers, skipSpace_blanks characters blank]

end Blanks

/-! ### The start of a value -/

theorem ne_of_isDigit {c other : Char} (digit : Decimal.isDigit c = true)
    (plain : Decimal.isDigit other = false) : c ≠ other := by
  rintro rfl
  rw [digit] at plain
  cases plain

theorem isSpace_of_isDigit {c : Char} (digit : Decimal.isDigit c = true) : isSpace c = false := by
  have apart : ∀ other, Decimal.isDigit other = false → ¬ c = other :=
    fun _ plain => ne_of_isDigit digit plain
  simp [isSpace, apart ' ' rfl, apart '\n' rfl, apart '\t' rfl, apart '\r' rfl]

/-- A text starts with a character that is no blank and closes no array. -/
def StartsValue (characters : List Char) : Prop :=
  ∃ c rest, characters = c :: rest ∧ isSpace c = false ∧ c ≠ ']'

theorem startsValue_append {front : List Char} (back : List Char) (starts : StartsValue front) :
    StartsValue (front ++ back) := by
  obtain ⟨c, rest, rfl, solid, inner⟩ := starts
  exact ⟨c, rest ++ back, rfl, solid, inner⟩

theorem digits_starts (number : Nat) :
    ∃ first rest, Decimal.digits number = first :: rest ∧ Decimal.isDigit first = true := by
  obtain ⟨first, rest, shown⟩ := List.exists_cons_of_ne_nil (Decimal.digits_ne_nil number)
  have among : first ∈ Decimal.digits number := by rw [shown]; exact List.mem_cons_self
  exact ⟨first, rest, shown, List.all_eq_true.mp (Decimal.all_isDigit_digits number) first among⟩

theorem startsValue_spaced (spacing : Spacing) (depth : Nat) (value : Value)
    (plain : value.isPlain) : StartsValue (value.spaced spacing depth) := by
  cases value with
  | null => exact ⟨_, _, rfl, rfl, by decide⟩
  | bool flag => cases flag <;> exact ⟨_, _, rfl, rfl, by decide⟩
  | number number =>
    cases number with
    | integer value =>
      cases value with
      | ofNat number =>
        obtain ⟨first, rest, shown, digit⟩ := digits_starts number
        exact ⟨first, rest, shown, isSpace_of_isDigit digit, ne_of_isDigit digit rfl⟩
      | negSucc number => exact ⟨_, _, rfl, rfl, by decide⟩
    | binary value => cases plain
  | string text => exact ⟨_, _, rfl, rfl, by decide⟩
  | array items => cases items <;> exact ⟨_, _, rfl, rfl, by decide⟩
  | object members => cases members <;> exact ⟨_, _, rfl, rfl, by decide⟩

theorem startsValue_spacedItems (spacing : Spacing) (depth : Nat) (item : Value)
    (rest : List Value) (plain : arePlain (item :: rest)) :
    StartsValue (spacedItems spacing depth (item :: rest)) := by
  rw [arePlain, Bool.and_eq_true] at plain
  have first := startsValue_spaced spacing depth item plain.1
  cases rest with
  | nil => exact first
  | cons next others =>
    rw [spacedItems, List.append_assoc]
    exact startsValue_append _ first

/-! ### Scalars -/

theorem readTree_digit (fuel depth : Nat) {c : Char} (rest : List Char)
    (digit : Decimal.isDigit c = true) :
    readTree (fuel + 1) depth (c :: rest) = readNumber? false (c :: rest) := by
  rw [readTree, skipSpace_cons rest (isSpace_of_isDigit digit)]
  -- Only the last case has a digit; the others begin with something else.
  split
  case h_1 empty => cases empty
  case h_9 same =>
    cases same
    rfl
  all_goals
    rename_i same
    exact absurd (List.cons.inj same).1 (ne_of_isDigit digit rfl)

/-- An integer is read back from its digits. -/
theorem readTree_integer (fuel depth : Nat) (value : Int) (rest : List Char)
    (small : Decimal.fitsEither 64 value = true) (ends : EndsNumber rest) :
    readTree (fuel + 1) depth (Decimal.signedDigits value ++ rest) =
      some (Tree.ofValue (.number (.integer value)), rest) := by
  rw [Decimal.fitsEither, Bool.and_eq_true, decide_eq_true_iff, decide_eq_true_iff] at small
  cases value with
  | ofNat number =>
    have fits : Decimal.fits 64 number = true := by
      rw [Decimal.fits, decide_eq_true_iff]
      exact Int.ofNat_lt.mp small.2
    have read := readNumber?_digits false number rest ends (number?_digits number fits)
    obtain ⟨first, more, shown, digit⟩ := digits_starts number
    rw [Decimal.signedDigits]
    rw [shown, List.cons_append] at read ⊢
    rw [readTree_digit fuel depth _ digit]
    exact read
  | negSucc number =>
    have fits : Decimal.fitsSigned 63 (-((number + 1 : Nat) : Int)) = true := by
      rw [Decimal.fitsSigned, Bool.and_eq_true, decide_eq_true_iff, decide_eq_true_iff]
      have bound : (0 : Int) ≤ Decimal.valuesOf 63 := Int.natCast_nonneg _
      exact ⟨small.1, by omega⟩
    rw [Decimal.signedDigits, List.cons_append, readTree, skipSpace_cons _ rfl]
    exact readNumber?_digits true (number + 1) rest ends (number?_negative number fits)

theorem readTree_quote (fuel depth : Nat) (text : String) (rest : List Char) :
    readTree (fuel + 1) depth (quote text ++ rest) = some (Tree.ofValue (.string text), rest) := by
  rw [quote_append, readTree, skipSpace_cons _ rfl]
  simp only [readString_escaped, Option.map_some, String.ofList_toList]
  rfl

/-! ### Brackets -/

section Brackets

variable {fuel depth : Nat} {blanks characters rest tail after : List Char} {item : Tree}

theorem readTree_array {items : List Tree} (blank : ∀ c ∈ blanks, isSpace c)
    (starts : StartsValue characters)
    (read : readItems fuel depth characters = some (items, tail)) :
    readTree (fuel + 1) (depth + 1) ('[' :: (blanks ++ characters)) =
      some (.list Tree.looseForm items, tail) := by
  obtain ⟨c, rest, rfl, solid, inner⟩ := starts
  rw [readTree, skipSpace_cons _ rfl]
  simp only [skipSpace_blanks _ blank, skipSpace_cons rest solid]
  split
  · rename_i zero
    cases zero
  · rename_i closed
    exact absurd (List.cons.inj closed).1 inner
  · rename_i deeper _
    cases deeper
    rw [read]
    rfl

theorem readTree_object {members : List (Option String × Tree)}
    (blank : ∀ c ∈ blanks, isSpace c)
    (read : readMembers fuel depth ('"' :: characters) = some (members, tail)) :
    readTree (fuel + 1) (depth + 1) ('\x7b' :: (blanks ++ '"' :: characters)) =
      some (.table Tree.looseForm members, tail) := by
  have opened : skipSpace (blanks ++ '"' :: characters) = '"' :: characters := by
    rw [skipSpace_blanks _ blank, skipSpace_cons _ rfl]
  rw [readTree, skipSpace_cons _ rfl]
  simp only [opened]
  show (readMembers fuel depth ('"' :: characters)).map _ = _
  rw [read]
  rfl

theorem readItems_last (read : readTree fuel depth characters = some (item, rest))
    (closed : skipSpace rest = ']' :: tail) :
    readItems (fuel + 1) depth characters = some ([item], tail) := by
  rw [readItems]
  simp only [read, closed]

theorem readItems_more {items : List Tree}
    (read : readTree fuel depth characters = some (item, rest))
    (comma : skipSpace rest = ',' :: tail)
    (more : readItems fuel depth tail = some (items, after)) :
    readItems (fuel + 1) depth characters = some (item :: items, after) := by
  rw [readItems]
  simp only [read, comma, more, Option.map_some]

variable {key : String}

theorem readMembers_last (read : readTree fuel depth characters = some (item, rest))
    (closed : skipSpace rest = '\x7d' :: tail) :
    readMembers (fuel + 1) depth (quote key ++ ':' :: characters) =
      some ([(some key, item)], tail) := by
  rw [quote_append, readMembers, skipSpace_cons _ rfl]
  simp only [readString_escaped, skipSpace_cons characters (rfl : isSpace ':' = false), read, closed,
    Option.map_some, String.ofList_toList]

theorem readMembers_more {members : List (Option String × Tree)}
    (read : readTree fuel depth characters = some (item, rest))
    (comma : skipSpace rest = ',' :: tail)
    (more : readMembers fuel depth tail = some (members, after)) :
    readMembers (fuel + 1) depth (quote key ++ ':' :: characters) =
      some ((some key, item) :: members, after) := by
  rw [quote_append, readMembers, skipSpace_cons _ rfl]
  simp only [readString_escaped, skipSpace_cons characters (rfl : isSpace ':' = false), read, comma,
    more, Option.map_some, String.ofList_toList]

end Brackets

/-! ### Documents -/

section Documents

variable (spacing : Spacing)

mutual

/-- Behind the text of a value the reader has the value, and stands at what follows. -/
theorem readTree_spaced (value : Value) (level depth fuel : Nat) (rest : List Char)
    (plain : value.isPlain) (shallow : value.nesting ≤ depth) (ends : EndsNumber rest)
    (enough : 2 * (value.spaced spacing level).length ≤ fuel) :
    readTree fuel depth (value.spaced spacing level ++ rest) =
      some (Tree.ofValue value, rest) := by
  obtain ⟨first, more, shown, _⟩ := startsValue_spaced spacing level value plain
  obtain ⟨fuel, rfl⟩ : ∃ less, fuel = less + 1 := by
    rw [shown, List.length_cons] at enough
    exact ⟨fuel - 1, by omega⟩
  cases value with
  | null => rfl
  | bool flag => cases flag <;> rfl
  | number number =>
    cases number with
    | integer value => exact readTree_integer fuel depth value rest plain ends
    | binary value => cases plain
  | string text => exact readTree_quote fuel depth text rest
  | array items =>
    rw [Value.nesting] at shallow
    obtain ⟨depth, rfl⟩ : ∃ less, depth = less + 1 := ⟨depth - 1, by omega⟩
    cases items with
    | nil => rfl
    | cons item others =>
      have starts := startsValue_spacedItems spacing (level + 1) item others plain
      have inside := readItems_spaced (item :: others) (List.cons_ne_nil _ _) (level + 1) depth fuel
        (spacing.line level) rest plain (by omega) (spacing.lineBlank level)
      rw [Value.spaced] at enough ⊢
      · simp only [List.length_append, List.length_cons] at enough
        simp only [List.append_assoc, List.cons_append, List.nil_append]
        exact readTree_array (spacing.lineBlank _) (startsValue_append _ starts)
          (inside (by omega))
      · simp
      · simp
  | object members =>
    rw [Value.nesting] at shallow
    obtain ⟨depth, rfl⟩ : ∃ less, depth = less + 1 := ⟨depth - 1, by omega⟩
    rw [Value.isPlain, Bool.and_eq_true] at plain
    cases members with
    | nil => rfl
    | cons member others =>
      obtain ⟨tail, starts⟩ :
          ∃ tail, spacedMembers spacing (level + 1) (member :: others) = '"' :: tail := by
        obtain ⟨key, item⟩ := member
        cases others <;> exact ⟨_, rfl⟩
      have inside := readMembers_spaced (member :: others) (List.cons_ne_nil _ _) (level + 1) depth
        fuel (spacing.line level) rest plain.2 (by omega) (spacing.lineBlank level)
      rw [Value.spaced] at enough ⊢
      · simp only [List.length_append, List.length_cons] at enough
        have read := inside (by omega)
        rw [starts] at read ⊢
        simp only [List.append_assoc, List.cons_append, List.nil_append] at read ⊢
        exact readTree_object (spacing.lineBlank _) read
      · simp
      · simp

/-- Behind the items of an array and its closing bracket the reader has the items. -/
theorem readItems_spaced (items : List Value) (filled : items ≠ []) (level depth fuel : Nat)
    (blanks rest : List Char) (plain : arePlain items) (shallow : nestingOfItems items ≤ depth)
    (blank : ∀ c ∈ blanks, isSpace c)
    (enough : 2 * (spacedItems spacing level items).length + 1 ≤ fuel) :
    readItems fuel depth (spacedItems spacing level items ++ (blanks ++ ']' :: rest)) =
      some (Tree.ofValues items, rest) := by
  obtain ⟨fuel, rfl⟩ : ∃ less, fuel = less + 1 := ⟨fuel - 1, by omega⟩
  cases items with
  | nil => exact absurd rfl filled
  | cons item others =>
    rw [arePlain, Bool.and_eq_true] at plain
    rw [nestingOfItems, Nat.max_le] at shallow
    cases others with
    | nil =>
      rw [spacedItems] at enough ⊢
      have ends : EndsNumber (blanks ++ ']' :: rest) :=
        endsNumber_blanks blank (endsNumber_cons rest (by decide))
      have closed : skipSpace (blanks ++ ']' :: rest) = ']' :: rest := by
        rw [skipSpace_blanks _ blank, skipSpace_cons _ rfl]
      exact readItems_last
        (readTree_spaced item level depth fuel _ plain.1 shallow.1 ends (by omega)) closed
    | cons next others =>
      rw [spacedItems] at enough ⊢
      simp only [List.length_append, List.length_cons] at enough
      simp only [List.append_assoc, List.cons_append]
      have ends := endsNumber_cons (c := ',') (spacing.line level ++
        (spacedItems spacing level (next :: others) ++ (blanks ++ ']' :: rest))) (by decide)
      have more := readItems_spaced (next :: others) (List.cons_ne_nil _ _) level depth fuel blanks
        rest plain.2 shallow.2 blank (by omega)
      rw [← readItems_blanks (spacing.lineBlank level)] at more
      exact readItems_more
        (readTree_spaced item level depth fuel _ plain.1 shallow.1 ends (by omega))
        (skipSpace_cons _ rfl) more

/-- Behind the members of an object and its closing brace the reader has the members. -/
theorem readMembers_spaced (members : List (String × Value)) (filled : members ≠ [])
    (level depth fuel : Nat) (blanks rest : List Char) (plain : haveMembersPlain members)
    (shallow : nestingOfMembers members ≤ depth) (blank : ∀ c ∈ blanks, isSpace c)
    (enough : 2 * (spacedMembers spacing level members).length + 1 ≤ fuel) :
    readMembers fuel depth (spacedMembers spacing level members ++ (blanks ++ '\x7d' :: rest)) =
      some (Tree.ofMembers members, rest) := by
  obtain ⟨fuel, rfl⟩ : ∃ less, fuel = less + 1 := ⟨fuel - 1, by omega⟩
  cases members with
  | nil => exact absurd rfl filled
  | cons member others =>
    obtain ⟨key, item⟩ := member
    rw [haveMembersPlain, Bool.and_eq_true] at plain
    rw [nestingOfMembers, Nat.max_le] at shallow
    cases others with
    | nil =>
      rw [spacedMembers] at enough ⊢
      simp only [List.length_append, List.length_cons] at enough
      simp only [List.append_assoc, List.cons_append]
      have ends : EndsNumber (blanks ++ '\x7d' :: rest) :=
        endsNumber_blanks blank (endsNumber_cons rest (by decide))
      have closed : skipSpace (blanks ++ '\x7d' :: rest) = '\x7d' :: rest := by
        rw [skipSpace_blanks _ blank, skipSpace_cons _ rfl]
      have read := readTree_spaced item level depth fuel _ plain.1 shallow.1 ends (by omega)
      rw [← readTree_blanks spacing.gapBlank] at read
      exact readMembers_last read closed
    | cons next others =>
      rw [spacedMembers] at enough ⊢
      simp only [List.length_append, List.length_cons] at enough
      simp only [List.append_assoc, List.cons_append]
      have ends := endsNumber_cons (c := ',') (spacing.line level ++
        (spacedMembers spacing level (next :: others) ++ (blanks ++ '\x7d' :: rest))) (by decide)
      have read := readTree_spaced item level depth fuel _ plain.1 shallow.1 ends (by omega)
      have more := readMembers_spaced (next :: others) (List.cons_ne_nil _ _) level depth fuel
        blanks rest plain.2 shallow.2 blank (by omega)
      rw [← readTree_blanks spacing.gapBlank] at read
      rw [← readMembers_blanks (spacing.lineBlank level)] at more
      exact readMembers_more read (skipSpace_cons _ rfl) more

end

theorem tree?_spaced (value : Value) (storable : value.Storable) :
    tree? (String.ofList (value.spaced spacing 0)) = some (Tree.ofValue value) := by
  have ends : EndsNumber [] := fun _ none => nomatch none
  have read := readTree_spaced spacing value 0 nestingLimit
    (2 * (value.spaced spacing 0).length + 2) [] storable.plain storable.shallow ends
    (Nat.le_add_right _ 2)
  rw [List.append_nil] at read
  unfold tree?
  rw [String.toList_ofList]
  simp only [read]
  rfl

theorem parse?_spaced (value : Value) (storable : value.Storable) :
    parse? (String.ofList (value.spaced spacing 0)) = some value := by
  unfold parse?
  rw [tree?_spaced spacing value storable]
  exact Tree.value?_ofValue value (hasDistinctKeys_of_isPlain value storable.plain)

end Documents

/-- A document is read back from its compact text. -/
theorem parse?_compact (value : Value) (storable : value.Storable) :
    parse? value.compact = some value := by
  rw [Value.compact, chars_eq_spaced 0]
  exact parse?_spaced .compact value storable

/-- A document is read back from its indented text. -/
theorem parse?_pretty (value : Value) (storable : value.Storable) :
    parse? value.pretty = some value := by
  rw [Value.pretty, prettyChars_eq_spaced]
  exact parse?_spaced .indented value storable

/-! ### First brackets -/

/-- The bracket that every text of a document begins with, if that is an array or an object. -/
def Value.bracket? : Value → Option Char
  | .array _ => some '['
  | .object _ => some '\x7b'
  | _ => none

theorem value?_scalarTree (value : Option Value) : (scalarTree value).value? = value := by
  cases value with
  | none => rfl
  | some value =>
    cases value with
    | number number => cases number <;> rfl
    | _ => rfl

theorem bracket?_of_readNumber? {negative : Bool} {characters rest : List Char} {tree : Tree}
    {value : Value} (read : readNumber? negative characters = some (tree, rest))
    (valued : tree.value? = some value) : value.bracket? = none := by
  obtain ⟨⟨shown, tail⟩, _, equal⟩ := Option.map_eq_some_iff.mp read
  cases equal
  rw [value?_scalarTree] at valued
  obtain ⟨number, _, rfl⟩ := Option.map_eq_some_iff.mp valued
  rfl

theorem bracket?_of_readWord? {word : String} {known : Value} {characters rest : List Char}
    {tree : Tree} {value : Value} (scalar : known.bracket? = none)
    (read : readWord? word known characters = some (tree, rest))
    (valued : tree.value? = some value) : value.bracket? = none := by
  obtain ⟨tail, _, equal⟩ := Option.map_eq_some_iff.mp read
  cases equal
  rw [value?_scalarTree] at valued
  cases valued
  exact scalar

/-- Behind an opening bracket an array is read: it is empty, or its items come next. -/
theorem list_of_readTree {fuel depth : Nat} {characters more rest : List Char} {tree : Tree}
    (begins : skipSpace characters = '[' :: more)
    (read : readTree (fuel + 1) depth characters = some (tree, rest)) :
    ∃ less items, depth = less + 1 ∧ tree = .list Tree.looseForm items ∧
      (items = [] ∧ skipSpace more = ']' :: rest ∨
        readItems fuel less (skipSpace more) = some (items, rest)) := by
  simp only [readTree, begins] at read
  split at read
  · cases read
  · rename_i closes
    cases read
    exact ⟨_, [], rfl, rfl, Or.inl ⟨rfl, closes⟩⟩
  · obtain ⟨⟨items, tail⟩, listed, equal⟩ := Option.map_eq_some_iff.mp read
    cases equal
    exact ⟨_, items, rfl, rfl, Or.inr listed⟩

/-- So is an object. -/
theorem table_of_readTree {fuel depth : Nat} {characters more rest : List Char} {tree : Tree}
    (begins : skipSpace characters = '\x7b' :: more)
    (read : readTree (fuel + 1) depth characters = some (tree, rest)) :
    ∃ less members, depth = less + 1 ∧ tree = .table Tree.looseForm members ∧
      (members = [] ∧ skipSpace more = '\x7d' :: rest ∨
        readMembers fuel less (skipSpace more) = some (members, rest)) := by
  simp only [readTree, begins] at read
  split at read
  · cases read
  · rename_i closes
    cases read
    exact ⟨_, [], rfl, rfl, Or.inl ⟨rfl, closes⟩⟩
  · obtain ⟨⟨members, tail⟩, listed, equal⟩ := Option.map_eq_some_iff.mp read
    cases equal
    exact ⟨_, members, rfl, rfl, Or.inr listed⟩

/-- A text that is read as an array or an object begins with its bracket, behind blanks. -/
theorem begins_of_readTree {fuel depth : Nat} {characters rest : List Char} {tree : Tree}
    {value : Value} {c : Char} (read : readTree fuel depth characters = some (tree, rest))
    (valued : tree.value? = some value) (bracket : value.bracket? = some c) :
    ∃ more, skipSpace characters = c :: more := by
  have scalar : value.bracket? ≠ none := by
    rw [bracket]
    exact Option.some_ne_none c
  cases fuel with
  | zero => cases read
  | succ fuel =>
    have whole := read
    rw [readTree] at read
    split at read
    · cases read
    · obtain ⟨⟨text, tail⟩, _, equal⟩ := Option.map_eq_some_iff.mp read
      cases equal
      rw [value?_scalarTree] at valued
      obtain ⟨shown, _, rfl⟩ := Option.map_eq_some_iff.mp valued
      exact absurd rfl scalar
    · rename_i more begins
      obtain ⟨_, items, _, rfl, _⟩ := list_of_readTree begins whole
      obtain ⟨shown, _, rfl⟩ := Option.map_eq_some_iff.mp valued
      cases bracket
      exact ⟨more, begins⟩
    · rename_i more begins
      obtain ⟨_, members, _, rfl, _⟩ := table_of_readTree begins whole
      obtain ⟨shown, _, rfl⟩ := Option.map_eq_some_iff.mp valued
      cases bracket
      exact ⟨more, begins⟩
    · exact absurd (bracket?_of_readNumber? read valued) scalar
    · exact absurd (bracket?_of_readWord? rfl read valued) scalar
    · exact absurd (bracket?_of_readWord? rfl read valued) scalar
    · exact absurd (bracket?_of_readWord? rfl read valued) scalar
    · exact absurd (bracket?_of_readNumber? read valued) scalar

theorem begins_of_parse? {text : String} {value : Value} {c : Char}
    (read : parse? text = some value) (bracket : value.bracket? = some c) :
    ∃ more, skipSpace text.toList = c :: more := by
  obtain ⟨tree, planted, valued⟩ := Option.bind_eq_some_iff.mp read
  obtain ⟨⟨found, rest⟩, reached, ends⟩ := Option.bind_eq_some_iff.mp planted
  obtain rfl := Option.some.inj (Option.ite_none_right_eq_some.mp ends).2
  exact begins_of_readTree reached valued bracket

end Json

end ProxyProfile
