/-
This file fixes what counts as blank text and how text is cut at a separator.

A character is blank when it has Unicode's property `White_Space`; the property
has twenty-five members and they are written out here as ranges. Trimming drops
blank characters at both ends and nothing in between. Cutting at a separator
never loses a character: gluing the pieces with the separator gives the text
back, and the pieces hold no separator.
-/

namespace ProxyProfile.Text

/-! ### Blank characters -/

/-- The characters of Unicode's property `White_Space`. -/
def isBlank (c : Char) : Bool :=
  let n := c.toNat
  (9 ≤ n && n ≤ 13) || n == 0x20 || n == 0x85 || n == 0xA0 || n == 0x1680 ||
    (0x2000 ≤ n && n ≤ 0x200A) || n == 0x2028 || n == 0x2029 || n == 0x202F ||
    n == 0x205F || n == 0x3000

/-- Drops the blank characters at the end of a list. -/
def dropBlankEnd (characters : List Char) : List Char :=
  (characters.reverse.dropWhile isBlank).reverse

/-- Drops the blank characters at both ends of a list. -/
def trimChars (characters : List Char) : List Char :=
  dropBlankEnd (characters.dropWhile isBlank)

/-- Drops the blank characters at both ends of a text. -/
def trim (text : String) : String :=
  String.ofList (trimChars text.toList)

/-- A text that holds no character other than blank ones. -/
def isBlankText (text : String) : Bool :=
  text.toList.all isBlank

/-! ### Cutting at a separator -/

/-- The pieces of a list between the occurrences of `separator`; a list without
one is a single piece. -/
def splitChars (separator : Char) : List Char → List (List Char)
  | [] => [[]]
  | c :: rest =>
    if c = separator then [] :: splitChars separator rest
    else
      match splitChars separator rest with
      | [] => [[c]]
      | piece :: pieces => (c :: piece) :: pieces

/-- The pieces of a text between the occurrences of `separator`. -/
def split (separator : Char) (text : String) : List String :=
  (splitChars separator text.toList).map String.ofList

/-- The pieces glued together again with the separator between them. -/
def joinChars (separator : Char) : List (List Char) → List Char
  | [] => []
  | [piece] => piece
  | piece :: next :: pieces => piece ++ separator :: joinChars separator (next :: pieces)

theorem splitChars_ne_nil (separator : Char) (characters : List Char) :
    splitChars separator characters ≠ [] := by
  cases characters with
  | nil => simp [splitChars]
  | cons c rest =>
    rw [splitChars]
    split
    · simp
    · split <;> simp

/-- Cutting and gluing gives the text back. -/
theorem joinChars_splitChars (separator : Char) (characters : List Char) :
    joinChars separator (splitChars separator characters) = characters := by
  induction characters with
  | nil => rfl
  | cons c rest inductionHypothesis =>
    rw [splitChars]
    cases pieces : splitChars separator rest with
    | nil => exact absurd pieces (splitChars_ne_nil separator rest)
    | cons piece more =>
      rw [pieces] at inductionHypothesis
      by_cases same : c = separator
      · simp [same, joinChars, inductionHypothesis]
      · cases more with
        | nil => simpa [same, joinChars] using inductionHypothesis
        | cons next others => simpa [same, joinChars] using inductionHypothesis

/-- No piece has the separator in it. -/
theorem notMem_of_mem_splitChars (separator : Char) (characters : List Char) :
    ∀ piece ∈ splitChars separator characters, separator ∉ piece := by
  induction characters with
  | nil => exact List.forall_mem_singleton.mpr List.not_mem_nil
  | cons c rest inductionHypothesis =>
    rw [splitChars]
    split
    · exact List.forall_mem_cons.mpr ⟨List.not_mem_nil, inductionHypothesis⟩
    · rename_i other
      cases pieces : splitChars separator rest with
      | nil => exact absurd pieces (splitChars_ne_nil separator rest)
      | cons piece more =>
        rw [pieces] at inductionHypothesis
        obtain ⟨first, later⟩ := List.forall_mem_cons.mp inductionHypothesis
        refine List.forall_mem_cons.mpr ⟨fun inside => ?_, later⟩
        rcases List.mem_cons.mp inside with same | inside
        · exact other same.symm
        · exact first inside

/-! ### Beginnings and ends -/

/-- What follows `start` in a list that begins with it. -/
def dropStart? : List Char → List Char → Option (List Char)
  | [], characters => some characters
  | _ :: _, [] => none
  | s :: start, c :: rest => if s = c then dropStart? start rest else none

theorem dropStart?_append (start rest : List Char) :
    dropStart? start (start ++ rest) = some rest := by
  induction start with
  | nil => rfl
  | cons s start inductionHypothesis => simp [dropStart?, inductionHypothesis]

/-- A list is its start and what follows it. -/
theorem dropStart?_eq_some_iff {start characters rest : List Char} :
    dropStart? start characters = some rest ↔ characters = start ++ rest := by
  constructor
  · intro dropped
    induction start generalizing characters with
    | nil => exact Option.some.inj dropped
    | cons s start inductionHypothesis =>
      cases characters with
      | nil => cases dropped
      | cons c others =>
        rw [dropStart?] at dropped
        obtain ⟨same, later⟩ := Option.ite_none_right_eq_some.mp dropped
        rw [same, inductionHypothesis later, List.cons_append]
  · rintro rfl
    exact dropStart?_append start rest

/-- Something follows a start exactly if the start is one. -/
theorem dropStart?_isSome_iff (start characters : List Char) :
    (dropStart? start characters).isSome ↔ start <+: characters := by
  rw [Option.isSome_iff_exists]
  exact exists_congr fun rest => dropStart?_eq_some_iff.trans eq_comm

/-- The two sides of the first occurrence of `mark`, if there is one. -/
def cutAt? (mark : List Char) : List Char → Option (List Char × List Char)
  | [] => if mark.isEmpty then some ([], []) else none
  | c :: rest =>
    match dropStart? mark (c :: rest) with
    | some tail => some ([], tail)
    | none => (cutAt? mark rest).map fun (before, after) => (c :: before, after)

/-- Replaces the first occurrence of `mark` by `substitute`. -/
def replaceFirst (mark substitute text : String) : String :=
  match cutAt? mark.toList text.toList with
  | some (before, after) => String.ofList (before ++ substitute.toList ++ after)
  | none => text

/-- Lower case for the letters of ASCII; every other character stays. -/
def lowerAscii (text : String) : String :=
  String.ofList (text.toList.map Char.toLower)

end ProxyProfile.Text
