/-
This file gives the texts and the numbers of JSON by rules, and proves that the reader knows
exactly these.

A rule says what a list of characters begins with, and what is left behind that. The rules do
not know the reader. A text in quotes stands for characters; so half a surrogate pair, which
stands for none, is no escape of its own. A number is taken apart as it is written, and what
number that is, if a floating point number is near to it at all, is told where documents are.

What is read is spelled, and what is spelled is read. Only for the second it matters that the
reader takes as many digits as there are: another part may not go on where a number ends.
-/

import ProxyProfile.Proofs.Rereading

namespace ProxyProfile.Json

/-! ### Texts in quotes -/

/-- A list begins with the escape of a number of sixteen bits. -/
inductive EscapesUnit : List Char → Nat → List Char → Prop
  | intro {first second third fourth : Char} {code : Nat} (rest : List Char)
      (known : hexFour? first second third fourth = some code) :
      EscapesUnit ('\\' :: 'u' :: first :: second :: third :: fourth :: rest) code rest

/-- The first half of a surrogate pair. -/
def IsHighHalf (code : Nat) : Prop :=
  0xD800 ≤ code ∧ code ≤ 0xDBFF

/-- The second half. -/
def IsLowHalf (code : Nat) : Prop :=
  0xDC00 ≤ code ∧ code ≤ 0xDFFF

/-- Behind an opening quote a list spells a text, up to the closing quote and what is left behind
it. A character spells itself, or it is escaped by a letter, by its number, or by the two halves of
a surrogate pair. -/
inductive SpellsText : List Char → List Char → List Char → Prop
  | close (rest : List Char) : SpellsText ('"' :: rest) [] rest
  | plain {c : Char} {before text rest : List Char} (shown : 32 ≤ c.toNat) (noQuote : c ≠ '"')
      (noSlash : c ≠ '\\') (later : SpellsText before text rest) :
      SpellsText (c :: before) (c :: text) rest
  | letter {mark c : Char} {before text rest : List Char} (known : unescape? mark = some c)
      (later : SpellsText before text rest) :
      SpellsText ('\\' :: mark :: before) (c :: text) rest
  | unit {code : Nat} {before after text rest : List Char} (escaped : EscapesUnit before code after)
      (notHigh : ¬IsHighHalf code) (notLow : ¬IsLowHalf code) (later : SpellsText after text rest) :
      SpellsText before (Char.ofNat code :: text) rest
  | pair {high low : Nat} {before between after text rest : List Char}
      (first : EscapesUnit before high between) (isHigh : IsHighHalf high)
      (second : EscapesUnit between low after) (isLow : IsLowHalf low)
      (later : SpellsText after text rest) :
      SpellsText before
        (Char.ofNat (0x10000 + (high - 0xD800) * 0x400 + (low - 0xDC00)) :: text) rest

/-- Behind the first half of a surrogate pair a list spells a text that the pair begins. -/
def SpellsPair (high : Nat) (before text rest : List Char) : Prop :=
  ∃ low after more, EscapesUnit before low after ∧ IsLowHalf low ∧ SpellsText after more rest ∧
    text = Char.ofNat (0x10000 + (high - 0xD800) * 0x400 + (low - 0xDC00)) :: more

/-- Half a surrogate pair cannot wait for anything else than its second half. -/
theorem eq_none_of_finishHalf {surrogate : Option Nat} {text : Option (List Char)}
    {shown : List Char} (finished : finishHalf surrogate text = some shown) :
    surrogate = none ∧ text = some shown := by
  cases surrogate with
  | none => exact ⟨rfl, finished⟩
  | some high => cases finished

/-- So a character in front of a text stands for itself, where none is waiting. -/
theorem exists_of_finishHalf {surrogate : Option Nat} {c : Char} {characters text rest : List Char}
    (read : (readString none characters).map (fun (text, tail) =>
      (finishHalf surrogate (text.map (c :: ·)), tail)) = some (some text, rest)) :
    surrogate = none ∧
      ∃ later, text = c :: later ∧ readString none characters = some (some later, rest) := by
  obtain ⟨⟨shown, tail⟩, later, equal⟩ := Option.map_eq_some_iff.mp read
  obtain ⟨finished, rfl⟩ := Prod.mk.inj equal
  obtain ⟨nothing, given⟩ := eq_none_of_finishHalf finished
  obtain ⟨others, rfl, rfl⟩ := Option.map_eq_some_iff.mp given
  exact ⟨nothing, others, rfl, later⟩

/-- What the reader reads is spelled, also where it is behind half a surrogate pair. -/
theorem spells_of_readString {surrogate : Option Nat} {characters text rest : List Char}
    (read : readString surrogate characters = some (some text, rest)) :
    surrogate.elim (SpellsText characters text rest) (SpellsPair · characters text rest) := by
  fun_induction readString surrogate characters generalizing text rest with
  | case1 => cases read
  | case2 surrogate more =>
    obtain ⟨finished, rfl⟩ := Prod.mk.inj (Option.some.inj read)
    obtain ⟨rfl, equal⟩ := eq_none_of_finishHalf finished
    cases equal
    exact .close more
  | case3 => cases read
  | case4 surrogate a b c d more code known isHigh inductionHypothesis =>
    obtain ⟨⟨shown, tail⟩, later, equal⟩ := Option.map_eq_some_iff.mp read
    obtain ⟨finished, rfl⟩ := Prod.mk.inj equal
    obtain ⟨rfl, rfl⟩ := eq_none_of_finishHalf finished
    obtain ⟨low, after, others, second, isLow, spelled, rfl⟩ := inductionHypothesis later
    exact .pair (.intro more known) isHigh second isLow spelled
  | case5 surrogate a b c d more code known notHigh isLow inductionHypothesis =>
    obtain ⟨⟨shown, tail⟩, later, equal⟩ := Option.map_eq_some_iff.mp read
    cases surrogate with
    | none => cases equal
    | some high =>
      obtain ⟨paired, rfl⟩ := Prod.mk.inj equal
      obtain ⟨others, rfl, rfl⟩ := Option.map_eq_some_iff.mp paired
      exact ⟨code, more, others, .intro more known, isLow, inductionHypothesis later, rfl⟩
  | case6 surrogate a b c d more code known notHigh notLow inductionHypothesis =>
    obtain ⟨rfl, others, rfl, later⟩ := exists_of_finishHalf read
    exact .unit (.intro more known) notHigh notLow (inductionHypothesis later)
  | case7 => cases read
  | case8 surrogate mark more _ c known inductionHypothesis =>
    obtain ⟨rfl, others, rfl, later⟩ := exists_of_finishHalf read
    exact .letter known (inductionHypothesis later)
  | case9 => cases read
  | case10 surrogate c more noQuote _ _ bounds inductionHypothesis =>
    obtain ⟨rfl, others, rfl, later⟩ := exists_of_finishHalf read
    obtain ⟨shown, noSlash⟩ := not_or.mp bounds
    exact .plain (Nat.le_of_not_lt shown) noQuote noSlash (inductionHypothesis later)

/-- A character that needs no escape is read as itself. -/
theorem readString_plain {c : Char} (shown : 32 ≤ c.toNat) (noQuote : c ≠ '"')
    (noSlash : c ≠ '\\') (characters : List Char) :
    readString none (c :: characters) =
      (readString none characters).map fun (text, tail) => (text.map (c :: ·), tail) := by
  rw [readString.eq_def]
  split
  · rename_i same
    cases same
  · rename_i same
    cases same
    exact absurd rfl noQuote
  · rename_i same
    cases same
    exact absurd rfl noSlash
  · rename_i same
    cases same
    exact absurd rfl noSlash
  · rename_i same
    cases same
    rw [if_neg (not_or.mpr ⟨Nat.not_lt.mpr shown, noSlash⟩)]
    rfl

/-- A letter that escapes a character is read as that. -/
theorem readString_letter {mark c : Char} (known : unescape? mark = some c)
    (characters : List Char) :
    readString none ('\\' :: mark :: characters) =
      (readString none characters).map fun (text, tail) => (text.map (c :: ·), tail) := by
  rw [readString.eq_def]
  split
  · rename_i same
    cases same
  · rename_i same
    cases same
  · -- The letter before the digits of a number escapes nothing by itself.
    rename_i same
    cases same
    cases known
  · rename_i same
    cases same
    rw [known]
    rfl
  · rename_i noEscape same
    cases same
    exact absurd rfl (noEscape _ _ rfl)

/-- What is spelled is read. -/
theorem SpellsText.read {before text rest : List Char} (spells : SpellsText before text rest) :
    readString none before = some (some text, rest) := by
  induction spells with
  | close rest => rw [readString, finishHalf, Option.isNone_none, if_pos rfl]
  | plain shown noQuote noSlash _ inductionHypothesis =>
    rw [readString_plain shown noQuote noSlash, inductionHypothesis]
    rfl
  | letter known _ inductionHypothesis =>
    rw [readString_letter known, inductionHypothesis]
    rfl
  | unit escaped notHigh notLow _ inductionHypothesis =>
    obtain ⟨rest, known⟩ := escaped
    unfold IsHighHalf at notHigh
    unfold IsLowHalf at notLow
    simp only [readString, known, if_neg notHigh, if_neg notLow, inductionHypothesis]
    rfl
  | @pair high low before between after text rest first isHigh second isLow _ inductionHypothesis =>
    obtain ⟨_, known⟩ := first
    obtain ⟨_, knownLow⟩ := second
    unfold IsHighHalf at isHigh
    unfold IsLowHalf at isLow
    have notHigh : ¬(0xD800 ≤ low ∧ low ≤ 0xDBFF) := by omega
    simp only [readString, known, knownLow, if_pos isHigh, if_neg notHigh, if_pos isLow,
      inductionHypothesis]
    rfl

/-! ### Numbers -/

/-- A list begins with digits, at least one. -/
structure SpellsDigits (before digits rest : List Char) : Prop where
  parts : before = digits ++ rest
  filled : digits ≠ []
  each : ∀ c ∈ digits, Decimal.isDigit c

/-- A list begins with a point and digits, or with neither. -/
inductive SpellsFraction : List Char → List Char → List Char → Prop
  | absent (rest : List Char) : SpellsFraction rest [] rest
  | given {before digits rest : List Char} (spelled : SpellsDigits before digits rest) :
      SpellsFraction ('.' :: before) digits rest

/-- A list begins with the sign of an exponent, or with none; the sign may be a minus. -/
inductive SpellsSign : List Char → Bool → List Char → Prop
  | absent (rest : List Char) : SpellsSign rest false rest
  | plus (rest : List Char) : SpellsSign ('+' :: rest) false rest
  | minus (rest : List Char) : SpellsSign ('-' :: rest) true rest

/-- A list begins with an exponent, or with none. -/
inductive SpellsExponent : List Char → Option Int → List Char → Prop
  | absent (rest : List Char) : SpellsExponent rest none rest
  | given {mark : Char} {before between digits rest : List Char} {negative : Bool}
      (isMark : mark = 'e' ∨ mark = 'E') (sign : SpellsSign before negative between)
      (spelled : SpellsDigits between digits rest) :
      SpellsExponent (mark :: before)
        (some (if negative then -(Decimal.value digits : Int) else Decimal.value digits)) rest

/-- Behind its sign, if it has one, a list spells a number. No second digit follows a zero. -/
inductive SpellsNumber (negative : Bool) : List Char → NumberText → List Char → Prop
  | intro {before whole afterWhole fraction afterFraction rest : List Char} {exponent : Option Int}
      (digits : SpellsDigits before whole afterWhole)
      (lead : ∀ second more, whole ≠ '0' :: second :: more)
      (places : SpellsFraction afterWhole fraction afterFraction)
      (scale : SpellsExponent afterFraction exponent rest) :
      SpellsNumber negative before ⟨negative, whole, fraction, exponent⟩ rest

section Numbers

variable {before digits rest : List Char}

/-- The digits that are read are spelled, if there are some. -/
theorem spellsDigits_of_spanDigits (spanned : Decimal.spanDigits before = (digits, rest))
    (filled : digits ≠ []) : SpellsDigits before digits rest := by
  unfold Decimal.spanDigits at spanned
  obtain ⟨rfl, rfl⟩ := Prod.mk.inj spanned
  exact ⟨List.takeWhile_append_dropWhile.symm, filled, List.all_eq_true.mp List.all_takeWhile⟩

/-- All digits are read. -/
theorem SpellsDigits.span (spelled : SpellsDigits before digits rest)
    (ends : ∀ c ∈ rest.head?, Decimal.isDigit c = false) :
    Decimal.spanDigits before = (digits, rest) := by
  unfold Decimal.spanDigits
  rw [spelled.parts, List.takeWhile_append_of_pos spelled.each,
    List.dropWhile_append_of_pos spelled.each]
  cases rest with
  | nil => simp
  | cons c rest =>
    have other : ¬Decimal.isDigit c = true := by simp [ends c rfl]
    rw [List.takeWhile_cons_of_neg other, List.dropWhile_cons_of_neg other, List.append_nil]

theorem spellsFraction_of_read (read : spanFraction? before = some (digits, rest)) :
    SpellsFraction before digits rest := by
  unfold spanFraction? at read
  split at read
  · rename_i more
    dsimp only at read
    split at read
    · cases read
    · rename_i filled
      cases read
      exact .given (spellsDigits_of_spanDigits rfl fun empty => filled (List.isEmpty_iff.mpr empty))
  · cases read
    exact .absent _

theorem SpellsFraction.read (spelled : SpellsFraction before digits rest)
    (ends : ∀ c ∈ rest.head?, Decimal.isDigit c = false ∧ c ≠ '.') :
    spanFraction? before = some (digits, rest) := by
  cases spelled with
  | absent =>
    unfold spanFraction?
    split
    · exact absurd rfl (ends '.' rfl).2
    · rfl
  | given spelled =>
    have filled : ¬digits.isEmpty = true := fun empty => spelled.filled (List.isEmpty_iff.mp empty)
    rw [spanFraction?, spelled.span fun c first => (ends c first).1]
    exact if_neg filled

theorem spellsSign_spanSign (characters : List Char) :
    SpellsSign characters (Decimal.spanSign characters).1 (Decimal.spanSign characters).2 := by
  unfold Decimal.spanSign
  split
  · exact .minus _
  · exact .plus _
  · exact .absent _

/-- A sign is read in front of a digit. -/
theorem SpellsSign.read {between : List Char} {negative : Bool}
    (spelled : SpellsSign before negative between) (digits : SpellsDigits between digits rest) :
    Decimal.spanSign before = (negative, between) := by
  cases spelled with
  | plus => rfl
  | minus => rfl
  | absent =>
    obtain ⟨first, more, rfl⟩ := List.exists_cons_of_ne_nil digits.filled
    have digit := digits.each first List.mem_cons_self
    rw [digits.parts]
    unfold Decimal.spanSign
    split
    · rename_i same
      cases same
      cases digit
    · rename_i same
      cases same
      cases digit
    · rfl

variable {exponent : Option Int}

theorem spellsExponent_of_read (read : spanExponent? before = some (exponent, rest)) :
    SpellsExponent before exponent rest := by
  unfold spanExponent? at read
  split at read
  · cases read
    exact .absent []
  · rename_i mark more
    split at read
    · rename_i isMark
      dsimp only at read
      split at read
      · cases read
      · rename_i filled
        cases read
        exact .given isMark (spellsSign_spanSign more)
          (spellsDigits_of_spanDigits rfl fun empty => filled (List.isEmpty_iff.mpr empty))
    · cases read
      exact .absent _

theorem SpellsExponent.read (spelled : SpellsExponent before exponent rest)
    (ends : EndsNumber rest) : spanExponent? before = some (exponent, rest) := by
  cases spelled with
  | absent =>
    unfold spanExponent?
    split
    · rfl
    · exact if_neg (not_or.mpr (ends _ rfl).2.2)
  | given isMark sign spelled =>
    have filled : ¬List.isEmpty _ = true := fun empty => spelled.filled (List.isEmpty_iff.mp empty)
    rw [spanExponent?, if_pos isMark, sign.read spelled]
    dsimp only
    rw [spelled.span fun c first => (ends c first).1]
    exact if_neg filled

/-- An exponent begins with its mark, and where there is none the number ends. -/
theorem SpellsExponent.ends (spelled : SpellsExponent before exponent rest)
    (ends : EndsNumber rest) : ∀ c ∈ before.head?, Decimal.isDigit c = false ∧ c ≠ '.' := by
  cases spelled with
  | absent => exact fun c first => ⟨(ends c first).1, (ends c first).2.1⟩
  | given isMark =>
    intro c first
    cases first
    rcases isMark with rfl | rfl <;> decide

/-- A fraction begins with its point, and where there is none no digit comes next. -/
theorem SpellsFraction.ends (spelled : SpellsFraction before digits rest)
    (ends : ∀ c ∈ rest.head?, Decimal.isDigit c = false ∧ c ≠ '.') :
    ∀ c ∈ before.head?, Decimal.isDigit c = false := by
  cases spelled with
  | absent => exact fun c first => (ends c first).1
  | given =>
    intro c first
    cases first
    rfl

variable {negative : Bool} {shown : NumberText}

theorem spellsNumber_of_read (read : spanNumber? negative before = some (shown, rest)) :
    SpellsNumber negative before shown rest := by
  unfold spanNumber? at read
  generalize spanned : Decimal.spanDigits before = parts at read
  obtain ⟨whole, afterWhole⟩ := parts
  dsimp only at read
  split at read
  · cases read
  · cases read
  · rename_i filled lead
    obtain ⟨⟨fraction, afterFraction⟩, places, read⟩ := Option.bind_eq_some_iff.mp read
    obtain ⟨⟨exponent, after⟩, scale, equal⟩ := Option.bind_eq_some_iff.mp read
    cases equal
    exact .intro (spellsDigits_of_spanDigits spanned filled) (fun second more => lead second more)
      (spellsFraction_of_read places) (spellsExponent_of_read scale)

theorem SpellsNumber.read (spelled : SpellsNumber negative before shown rest)
    (ends : EndsNumber rest) : spanNumber? negative before = some (shown, rest) := by
  obtain ⟨digits, lead, places, scale⟩ := spelled
  have afterFraction := scale.ends ends
  unfold spanNumber?
  rw [digits.span (places.ends afterFraction)]
  dsimp only
  split
  · exact absurd rfl digits.filled
  · exact absurd rfl (lead _ _)
  · rw [places.read afterFraction]
    show (spanExponent? _).bind _ = _
    rw [scale.read ends]
    rfl

end Numbers

end ProxyProfile.Json
