/-
This file says how far the readers of YAML scalars go in a text of JSON.

A quoted scalar of JSON ends as YAML at its own closing quote: what may stand behind a
backslash in JSON is an escape of YAML as well, and each is passed over whole. YAML
breaks lines and folds blanks inside quotes, but only a quote ends them. The words of
JSON, which are its numbers and its three names, are plain scalars of YAML. They end at
the comma or bracket behind them, and the blanks before it are passed over with them.
-/

import Mathlib.Data.Bool.AllAny
import ProxyProfile.Proofs.Rereading
import ProxyProfile.Yaml.Token.Scalar

namespace ProxyProfile

namespace Yaml

/-! ### Inside quotes -/

/-- What is ahead inside a quoted text: from here the reader of JSON comes to the closing quote and
to what follows it. -/
def InsideQuotes (rest ahead : List Char) : Prop :=
  ∃ surrogate text, Json.readString surrogate ahead = some (text, rest)

/-- An escape with a number is as long as its digits and the character before them. -/
theorem length_of_escape? {mark shown : Char} {digits : List Char} {count length : Nat}
    (counted : escapeLength? mark = some count)
    (read : escape? (mark :: digits) = some (shown, length)) : length = count + 1 := by
  rw [escape?, counted] at read
  dsimp only at read
  by_cases short : digits.length < count
  · rw [if_pos short] at read
    cases read
  · rw [if_neg short] at read
    obtain ⟨code, _, read⟩ := Option.bind_eq_some_iff.mp read
    by_cases valid : code.isValidChar
    · rw [dif_pos valid] at read
      cases read
      rfl
    · rw [dif_neg valid] at read
      cases read

/-- An escape of one letter has no number in YAML, and its letter breaks no line. -/
theorem letter_of_unescape? {mark plain : Char} (known : Json.unescape? mark = some plain) :
    escapeLength? mark = none ∧ isBreak mark = false := by
  unfold Json.unescape? at known
  split at known
  case h_9 => cases known
  all_goals exact ⟨rfl, rfl⟩

/-- It is as long as its letter. -/
theorem length_of_letter {mark shown : Char} {more : List Char} {length : Nat}
    (letter : escapeLength? mark = none) (read : escape? (mark :: more) = some (shown, length)) :
    length = 1 := by
  rw [escape?, letter] at read
  obtain ⟨character, _, equal⟩ := Option.map_eq_some_iff.mp read
  cases equal
  rfl

/-- What is ahead inside a quoted text starts with the closing quote, with a character that stands
for itself, or with an escape that can be passed over. -/
theorem InsideQuotes.cases {rest ahead : List Char} (inside : InsideQuotes rest ahead) :
    ahead = '"' :: rest ∨
      (∃ c more, ahead = c :: more ∧ InsideQuotes rest more ∧
        c ≠ '"' ∧ c ≠ '\\' ∧ c ≠ '\n' ∧ c ≠ '\r') ∨
      ∃ mark more, ahead = '\\' :: mark :: more ∧ isBreak mark = false ∧
        ∀ shown length, escape? (mark :: more) = some (shown, length) →
          InsideQuotes rest ((mark :: more).drop length) := by
  obtain ⟨surrogate, text, read⟩ := inside
  rw [Json.readString.eq_def] at read
  split at read
  · cases read
  · cases read
    exact Or.inl rfl
  · rename_i first second third fourth more
    have numbered : ∀ {other : Option Nat} {shown : Option (List Char)},
        Json.readString other more = some (shown, rest) →
        ∀ character length, escape? ('u' :: first :: second :: third :: fourth :: more) =
          some (character, length) →
          InsideQuotes rest (('u' :: first :: second :: third :: fourth :: more).drop length) := by
      intro other shown later character length escaped
      obtain rfl := length_of_escape? rfl escaped
      exact ⟨other, shown, later⟩
    refine Or.inr (Or.inr ⟨'u', _, rfl, rfl, ?_⟩)
    split at read
    · cases read
    · split at read
      · obtain ⟨⟨shown, tail⟩, later, equal⟩ := Option.map_eq_some_iff.mp read
        cases equal
        exact numbered later
      · split at read
        · obtain ⟨⟨shown, tail⟩, later, equal⟩ := Option.map_eq_some_iff.mp read
          dsimp only at equal
          split at equal <;> cases equal <;> exact numbered later
        · obtain ⟨⟨shown, tail⟩, later, equal⟩ := Option.map_eq_some_iff.mp read
          cases equal
          exact numbered later
  · rename_i mark more _
    split at read
    · cases read
    · rename_i plain known
      obtain ⟨⟨shown, tail⟩, later, equal⟩ := Option.map_eq_some_iff.mp read
      cases equal
      obtain ⟨letter, solid⟩ := letter_of_unescape? known
      refine Or.inr (Or.inr ⟨mark, more, rfl, solid, fun character length escaped => ?_⟩)
      obtain rfl := length_of_letter letter escaped
      exact ⟨_, _, later⟩
  · rename_i c more noQuote _ _
    split at read
    · cases read
    · rename_i bounds
      obtain ⟨⟨shown, tail⟩, later, equal⟩ := Option.map_eq_some_iff.mp read
      cases equal
      rw [not_or] at bounds
      refine Or.inr (Or.inl ⟨c, more, rfl, ⟨_, _, later⟩, noQuote, bounds.2, ?_, ?_⟩)
      · rintro rfl
        exact bounds.1 (by decide)
      · rintro rfl
        exact bounds.1 (by decide)

/-- A run ends inside the quotes. -/
theorem InsideQuotes.run {rest ahead : List Char} (inside : InsideQuotes rest ahead)
    {fuel count : Nat} {shown : List Char} {ending : RunEnd}
    (read : quotedRun? false fuel ahead = some (shown, count, ending)) :
    InsideQuotes rest (ahead.drop count) ∧ ending = .plain := by
  induction fuel generalizing ahead shown count ending with
  | zero =>
    cases read
    exact ⟨inside, rfl⟩
  | succ fuel inductionHypothesis =>
    rcases inside.cases with rfl | ⟨c, more, rfl, later, noQuote, noSlash, _⟩ |
      ⟨mark, more, rfl, solid, passes⟩
    · cases read
      exact ⟨inside, rfl⟩
    · rw [quotedRun?] at read
      by_cases blank : isGap c || isBreak c
      · rw [if_pos blank] at read
        cases read
        exact ⟨inside, rfl⟩
      · rw [if_neg blank, if_neg Bool.false_ne_true, if_neg noQuote, if_neg noSlash] at read
        obtain ⟨⟨text, less, ended⟩, further, equal⟩ := Option.bind_eq_some_iff.mp read
        cases equal
        exact inductionHypothesis later further
    · rw [quotedRun?, if_neg (by decide), if_neg (by decide), if_neg (by decide), if_pos rfl,
        List.head?_cons, Option.any_some, solid, if_neg (by decide)] at read
      obtain ⟨⟨character, length⟩, escaped, read⟩ := Option.bind_eq_some_iff.mp read
      obtain ⟨⟨text, less, ended⟩, further, equal⟩ := Option.bind_eq_some_iff.mp read
      cases equal
      have ends := inductionHypothesis (passes character length escaped) further
      rw [List.drop_drop] at ends
      rw [show less + length + 1 = (length + less) + 1 by omega, List.drop_succ_cons]
      exact ends

/-- A character that breaks a line is passed over by itself, unless it is a carriage return. -/
theorem insideQuotes_break {rest more : List Char} {c : Char} (noReturn : c ≠ '\r')
    (broken : isBreak c) (later : InsideQuotes rest more) (line column behind : Nat) :
    InsideQuotes rest (Place.readBreak ⟨c :: more, line, column, behind⟩).2.ahead := by
  unfold Place.readBreak
  dsimp only
  split
  · rename_i same
    exact absurd (List.cons.inj same).1 noReturn
  · rename_i same
    cases same
    split <;> exact later
  · rename_i same
    cases same

/-- Blanks inside quotes end inside the quotes, also if lines are broken. -/
theorem InsideQuotes.gap {rest : List Char} {place after : Place}
    (inside : InsideQuotes rest place.ahead) {indent fuel : Nat} {gap read : Gap}
    (passed : Gap.read? indent fuel gap place = some (read, after)) :
    InsideQuotes rest after.ahead := by
  induction fuel generalizing gap place with
  | zero =>
    cases passed
    exact inside
  | succ fuel inductionHypothesis =>
    obtain ⟨ahead, line, column, behind⟩ := place
    rcases inside.cases with rfl | ⟨c, more, rfl, later, _, _, noFeed, noReturn⟩ |
      ⟨mark, more, rfl, _, _⟩
    · cases passed
      exact inside
    · rw [Gap.read?] at passed
      simp only [Place.next?, List.head?_cons] at passed
      by_cases blank : isGap c
      · rw [if_pos blank] at passed
        split at passed
        · split at passed
          · cases passed
          · exact inductionHypothesis later passed
        · exact inductionHypothesis later passed
      rw [if_neg blank] at passed
      by_cases broken : isBreak c
      · rw [if_pos broken] at passed
        have ends := insideQuotes_break noReturn broken later line column behind
        split at passed <;> exact inductionHypothesis ends passed
      · rw [if_neg broken] at passed
        cases passed
        exact inside
    · cases passed
      exact inside

/-- A quoted scalar that is read ends behind the closing quote. -/
theorem quotedRuns?_ahead {rest : List Char} {place after : Place}
    (inside : InsideQuotes rest place.ahead) {fuel : Nat} {written text : List Char}
    (read : quotedRuns? false fuel written place = some (text, after)) : after.ahead = rest := by
  induction fuel generalizing written place with
  | zero => cases read
  | succ fuel inductionHypothesis =>
    rw [quotedRuns?] at read
    split at read
    · cases read
    obtain ⟨⟨shown, count, ending⟩, ran, read⟩ := Option.bind_eq_some_iff.mp read
    obtain ⟨later, rfl⟩ := inside.run ran
    simp only [Bool.false_eq_true, if_false] at read
    by_cases closing : (place.skip count).next? = some '"'
    · rw [if_pos closing] at read
      cases read
      rcases later.cases with ends | ⟨c, more, ahead, _, noQuote, _⟩ | ⟨mark, more, ahead, _⟩
      · show (List.drop count place.ahead).drop 1 = rest
        rw [ends, List.drop_one, List.tail_cons]
      · simp only [Place.next?, Place.skip, ahead, List.head?_cons] at closing
        exact absurd (Option.some.inj closing) noQuote
      · simp only [Place.next?, Place.skip, ahead, List.head?_cons] at closing
        exact absurd (Option.some.inj closing) (by decide)
    · rw [if_neg closing] at read
      obtain ⟨⟨gap, between⟩, passed, read⟩ := Option.bind_eq_some_iff.mp read
      exact inductionHypothesis (later.gap passed) read

/-- So does one whose characters the reader of JSON reads. -/
theorem quotedScalar?_ahead {place after : Place} {characters rest : List Char}
    {text : Option (List Char)} {shown : String} (quoted : place.ahead = '"' :: characters)
    (string : Json.readString none characters = some (text, rest))
    (read : quotedScalar? false (place.skip 1) = some (shown, after)) : after.ahead = rest := by
  obtain ⟨⟨characters, between⟩, ran, equal⟩ := Option.bind_eq_some_iff.mp read
  cases equal
  refine quotedRuns?_ahead ⟨none, text, ?_⟩ ran
  show Json.readString none (place.ahead.drop 1) = _
  rw [quoted, List.drop_one, List.tail_cons, string]

/-! ### Words -/

/-- The characters that the words of JSON begin with, but for the sign of a number, and all
characters of its three names. -/
def wordCharacters : List Char :=
  ['0', '1', '2', '3', '4', '5', '6', '7', '8', '9', 'a', 'e', 'f', 'l', 'n', 'r', 's', 't', 'u']

/-- The characters of words. -/
def innerCharacters : List Char :=
  ['-', '+', '.', 'E'] ++ wordCharacters

/-- A word: perhaps a sign, and then at least one character. -/
def IsWord (word : List Char) : Prop :=
  ∃ sign c rest, word = sign ++ c :: rest ∧ (sign = [] ∨ sign = ['-']) ∧
    c ∈ wordCharacters ∧ ∀ d ∈ rest, d ∈ innerCharacters

theorem mem_innerCharacters {c : Char} (among : c ∈ '-' :: wordCharacters) :
    c ∈ innerCharacters := by
  revert c
  exact @(List.all_iff_forall_prop.mp (by decide))

theorem IsWord.exists_cons {word : List Char} (isWord : IsWord word) :
    ∃ d rest, word = d :: rest ∧ d ∈ '-' :: wordCharacters ∧ ∀ c ∈ rest, c ∈ innerCharacters := by
  obtain ⟨sign, c, rest, rfl, rfl | rfl, first, others⟩ := isWord
  · exact ⟨c, rest, rfl, List.mem_cons_of_mem _ first, others⟩
  · refine ⟨'-', c :: rest, rfl, List.mem_cons_self, List.forall_mem_cons.mpr ⟨?_, others⟩⟩
    exact mem_innerCharacters (List.mem_cons_of_mem _ first)

theorem IsWord.mem {word : List Char} (isWord : IsWord word) :
    ∀ c ∈ word, c ∈ innerCharacters := by
  obtain ⟨d, rest, rfl, first, others⟩ := isWord.exists_cons
  exact List.forall_mem_cons.mpr ⟨mem_innerCharacters first, others⟩

theorem mem_wordCharacters_of_isDigit {c : Char} (digit : Decimal.isDigit c) :
    c ∈ wordCharacters := by
  unfold Decimal.isDigit at digit
  rw [Bool.and_eq_true, decide_eq_true_iff, decide_eq_true_iff] at digit
  rw [← Char.ofNat_toNat c]
  generalize c.toNat = code at digit
  have ten : code = 48 ∨ code = 49 ∨ code = 50 ∨ code = 51 ∨ code = 52 ∨ code = 53 ∨ code = 54 ∨
      code = 55 ∨ code = 56 ∨ code = 57 := by omega
  rcases ten with rfl | rfl | rfl | rfl | rfl | rfl | rfl | rfl | rfl | rfl <;> decide

theorem isWord_cons {c : Char} {rest : List Char} (first : c ∈ wordCharacters)
    (others : ∀ d ∈ rest, d ∈ innerCharacters) : IsWord (c :: rest) :=
  ⟨[], c, rest, rfl, .inl rfl, first, others⟩

/-! ### Numbers and names of JSON -/

/-- One list begins with some characters of words, and the other is what follows them. -/
def FollowsInner (before after : List Char) : Prop :=
  ∃ passed, before = passed ++ after ∧ ∀ c ∈ passed, c ∈ innerCharacters

theorem followsInner_refl (characters : List Char) : FollowsInner characters characters :=
  ⟨[], rfl, nofun⟩

theorem FollowsInner.cons {c : Char} {before after : List Char} (among : c ∈ innerCharacters)
    (follows : FollowsInner before after) : FollowsInner (c :: before) after := by
  obtain ⟨passed, rfl, inner⟩ := follows
  exact ⟨c :: passed, rfl, List.forall_mem_cons.mpr ⟨among, inner⟩⟩

theorem FollowsInner.trans {before between after : List Char}
    (first : FollowsInner before between) (second : FollowsInner between after) :
    FollowsInner before after := by
  obtain ⟨passed, rfl, inner⟩ := first
  obtain ⟨more, rfl, others⟩ := second
  exact ⟨passed ++ more, (List.append_assoc ..).symm, List.forall_mem_append.mpr ⟨inner, others⟩⟩

theorem followsInner_spanDigits (characters : List Char) :
    FollowsInner characters (Decimal.spanDigits characters).2 := by
  refine ⟨characters.takeWhile Decimal.isDigit, List.takeWhile_append_dropWhile.symm, ?_⟩
  intro c among
  have digit := List.all_eq_true.mp List.all_takeWhile c among
  exact mem_innerCharacters (List.mem_cons_of_mem _ (mem_wordCharacters_of_isDigit digit))

theorem followsInner_spanSign (characters : List Char) :
    FollowsInner characters (Decimal.spanSign characters).2 := by
  unfold Decimal.spanSign
  split
  · exact (followsInner_refl _).cons (by decide)
  · exact (followsInner_refl _).cons (by decide)
  · exact followsInner_refl _

theorem followsInner_spanFraction? {characters digits rest : List Char}
    (read : Json.spanFraction? characters = some (digits, rest)) :
    FollowsInner characters rest := by
  unfold Json.spanFraction? at read
  split at read
  · rename_i more
    dsimp only at read
    split at read
    · cases read
    · cases read
      exact (followsInner_spanDigits more).cons (by decide)
  · cases read
    exact followsInner_refl _

theorem followsInner_spanExponent? {characters rest : List Char} {exponent : Option Int}
    (read : Json.spanExponent? characters = some (exponent, rest)) :
    FollowsInner characters rest := by
  unfold Json.spanExponent? at read
  split at read
  · cases read
    exact followsInner_refl _
  · rename_i c more
    split at read
    · rename_i mark
      dsimp only at read
      split at read
      · cases read
      · cases read
        have among : c ∈ innerCharacters := by rcases mark with rfl | rfl <;> decide
        exact ((followsInner_spanSign more).trans (followsInner_spanDigits _)).cons among
    · cases read
      exact followsInner_refl _

/-- A number without its sign begins with a digit. -/
theorem exists_of_spanNumber? {negative : Bool} {characters rest : List Char}
    {shown : Json.NumberText} (read : Json.spanNumber? negative characters = some (shown, rest)) :
    ∃ c more, characters = c :: (more ++ rest) ∧ c ∈ wordCharacters ∧
      ∀ d ∈ more, d ∈ innerCharacters := by
  unfold Json.spanNumber? at read
  dsimp only [Decimal.spanDigits] at read
  cases characters with
  | nil => cases read
  | cons c others =>
    by_cases digit : Decimal.isDigit c
    · have behind := followsInner_spanDigits others
      rw [List.takeWhile_cons_of_pos digit, List.dropWhile_cons_of_pos digit] at read
      have number : FollowsInner others rest := by
        split at read
        · cases read
        · cases read
        · obtain ⟨⟨fraction, between⟩, pointed, read⟩ := Option.bind_eq_some_iff.mp read
          obtain ⟨⟨exponent, after⟩, scaled, equal⟩ := Option.bind_eq_some_iff.mp read
          cases equal
          exact (behind.trans (followsInner_spanFraction? pointed)).trans
            (followsInner_spanExponent? scaled)
      obtain ⟨passed, rfl, inner⟩ := number
      exact ⟨c, passed, rfl, mem_wordCharacters_of_isDigit digit, inner⟩
    · rw [List.takeWhile_cons_of_neg digit] at read
      cases read

/-- The number that the reader of JSON reads is a word. -/
theorem exists_word_of_readNumber? {negative : Bool} {sign characters rest : List Char}
    {tree : Tree} (signed : sign = [] ∨ sign = ['-'])
    (read : Json.readNumber? negative characters = some (tree, rest)) :
    ∃ word, sign ++ characters = word ++ rest ∧ IsWord word := by
  obtain ⟨⟨shown, after⟩, spanned, equal⟩ := Option.map_eq_some_iff.mp read
  cases equal
  obtain ⟨c, more, rfl, first, others⟩ := exists_of_spanNumber? spanned
  refine ⟨sign ++ c :: more, ?_, sign, c, more, rfl, signed, first, others⟩
  rw [List.append_assoc, List.cons_append]

/-- So is the name. -/
theorem exists_word_of_readWord? {c : Char} {name : String} {value : Json.Value}
    {characters rest : List Char} {tree : Tree} (first : c ∈ wordCharacters)
    (others : name.toList ⊆ innerCharacters)
    (read : Json.readWord? name value characters = some (tree, rest)) :
    ∃ word, c :: characters = word ++ rest ∧ IsWord word := by
  obtain ⟨after, dropped, equal⟩ := Option.map_eq_some_iff.mp read
  cases equal
  exact ⟨c :: name.toList, by rw [Text.dropStart?_eq_some_iff.mp dropped, List.cons_append],
    isWord_cons first fun _ among => others among⟩

/-! ### Plain scalars -/

theorem isFlowMark_eq (c : Char) :
    isFlowMark c = decide (c ∈ [',', '[', ']', '\x7b', '\x7d']) := by
  unfold isFlowMark
  rw [String.contains_char_eq]
  congr

/-- No character of a word ends one. -/
theorem plain_of_mem {c : Char} (among : c ∈ innerCharacters) :
    isGap c = false ∧ isBreak c = false ∧ isFlowMark c = false ∧ c ≠ ':' := by
  rw [isFlowMark_eq]
  revert c
  exact @(List.all_iff_forall_prop.mp (by decide))

/-- A comma and the closing brackets. -/
def delimiters : List Char :=
  [',', ']', '\x7d']

/-- A comma or a closing bracket is next, blanks apart. -/
def Delimits (rest : List Char) : Prop :=
  ∃ c ∈ delimiters, ∃ more, Json.skipSpace rest = c :: more

theorem flowMark_of_mem {c : Char} (among : c ∈ delimiters) :
    isGap c = false ∧ isBreak c = false ∧ isFlowMark c ∧ c ≠ ':' := by
  rw [isFlowMark_eq]
  revert c
  exact @(List.all_iff_forall_prop.mp (by decide))

/-- The blanks of JSON are blanks of YAML. -/
theorem blank_of_isSpace {c : Char} (space : Json.isSpace c) : isGap c || isBreak c := by
  unfold Json.isSpace at space
  unfold isGap isBreak
  simp only [Bool.or_eq_true, decide_eq_true_eq] at space ⊢
  tauto

theorem Delimits.congr {rest other : List Char} (same : Json.skipSpace other = Json.skipSpace rest)
    (delimited : Delimits rest) : Delimits other := by
  unfold Delimits
  rw [same]
  exact delimited

/-- In front of a delimiter there are blanks that both formats pass over, or none. -/
theorem Delimits.cases {rest : List Char} (delimited : Delimits rest) :
    (∃ c more, rest = c :: more ∧ Json.isSpace c ∧ Delimits more) ∨
      ∃ c more, rest = c :: more ∧ c ∈ delimiters := by
  obtain ⟨d, among, others, equal⟩ := delimited
  cases rest with
  | nil => cases equal
  | cons c more =>
    by_cases space : Json.isSpace c
    · rw [Json.skipSpace, List.dropWhile_cons_of_pos space] at equal
      exact Or.inl ⟨c, more, rfl, space, d, among, others, equal⟩
    · rw [Json.skipSpace, List.dropWhile_cons_of_neg space] at equal
      exact Or.inr ⟨d, others, equal, among⟩

/-- A word ends in front of what delimits it. -/
theorem plainWord?_of_delimits {rest : List Char} (delimited : Delimits rest) :
    plainWord? true rest = some [] := by
  rcases delimited.cases with ⟨c, more, rfl, space, _⟩ | ⟨c, more, rfl, among⟩
  · rw [plainWord?, if_pos (blank_of_isSpace space)]
  · obtain ⟨noGap, noBreak, mark, noColon⟩ := flowMark_of_mem among
    rw [plainWord?]
    simp [noGap, noBreak, mark, noColon]

theorem plainWord?_append {word rest : List Char} (inner : ∀ c ∈ word, c ∈ innerCharacters)
    (delimited : Delimits rest) : plainWord? true (word ++ rest) = some word := by
  induction word with
  | nil => exact plainWord?_of_delimits delimited
  | cons c word inductionHypothesis =>
    rw [List.forall_mem_cons] at inner
    obtain ⟨noGap, noBreak, noMark, noColon⟩ := plain_of_mem inner.1
    rw [List.cons_append, plainWord?, inductionHypothesis inner.2]
    simp [noGap, noBreak, noMark, noColon]

/-- A break of a line is one blank of JSON, or two. -/
theorem skipSpace_readBreak {c : Char} (space : Json.isSpace c) (more : List Char)
    (line column behind : Nat) :
    Json.skipSpace (Place.readBreak ⟨c :: more, line, column, behind⟩).2.ahead =
      Json.skipSpace (c :: more) := by
  have dropped : Json.skipSpace more = Json.skipSpace (c :: more) :=
    (List.dropWhile_cons_of_pos space).symm
  unfold Place.readBreak
  dsimp only
  split
  · rename_i same
    cases same
    rfl
  · rename_i same
    cases same
    split
    · exact dropped
    · split
      · exact dropped
      · rfl
  · rfl

/-- Passing blanks and line breaks in front of a delimiter changes nothing but blanks. -/
theorem Gap.read?_skipSpace {place after : Place} (delimited : Delimits place.ahead)
    {indent fuel : Nat} {gap read : Gap}
    (passed : Gap.read? indent fuel gap place = some (read, after)) :
    Json.skipSpace after.ahead = Json.skipSpace place.ahead := by
  induction fuel generalizing gap place with
  | zero =>
    cases passed
    rfl
  | succ fuel inductionHypothesis =>
    obtain ⟨ahead, line, column, behind⟩ := place
    rcases Delimits.cases delimited with ⟨c, more, rfl, space, later⟩ | ⟨c, more, rfl, among⟩
    · have dropped : Json.skipSpace more = Json.skipSpace (c :: more) :=
        (List.dropWhile_cons_of_pos space).symm
      rw [Gap.read?] at passed
      simp only [Place.next?, List.head?_cons] at passed
      by_cases blank : isGap c
      · rw [if_pos blank] at passed
        split at passed
        · split at passed
          · cases passed
          · exact (inductionHypothesis later passed).trans dropped
        · exact (inductionHypothesis later passed).trans dropped
      · have broken : isBreak c := (Bool.or_eq_true _ _ ▸ blank_of_isSpace space).resolve_left blank
        rw [if_neg blank, if_pos broken] at passed
        have same := skipSpace_readBreak space more line column behind
        have delimited' := Delimits.congr same delimited
        split at passed <;> exact (inductionHypothesis delimited' passed).trans same
    · obtain ⟨noGap, noBreak, _⟩ := flowMark_of_mem among
      rw [Gap.read?] at passed
      simp only [Place.next?, List.head?_cons, noGap, noBreak, Bool.false_eq_true, if_false]
        at passed
      cases passed
      rfl

/-- In front of a delimiter there are no further words of a plain scalar. -/
theorem plainWords?_skipSpace {place after : Place} (delimited : Delimits place.ahead)
    {indent fuel : Nat} {written text : List Char} {gap : Gap} {broken : Bool}
    (read : plainWords? true indent fuel written gap place = some (text, broken, after)) :
    Json.skipSpace after.ahead = Json.skipSpace place.ahead := by
  induction fuel generalizing written gap place with
  | zero =>
    cases read
    rfl
  | succ fuel inductionHypothesis =>
    rw [plainWords?, plainWord?_of_delimits delimited] at read
    split at read
    · cases read
      rfl
    simp only [Option.bind_eq_bind, Option.bind_some, List.isEmpty_nil, if_true, List.length_nil,
      Bool.not_true, Bool.false_and, Bool.false_eq_true, if_false] at read
    split at read
    · cases read
      rfl
    · obtain ⟨⟨gap, between⟩, passed, read⟩ := Option.bind_eq_some_iff.mp read
      have same := Gap.read?_skipSpace delimited passed
      exact (inductionHypothesis (delimited.congr same) read).trans same

/-- No border of a document begins with another character than its mark. -/
theorem isSeparator_of_ne {mark c : Char} {place : Place} {rest : List Char}
    (ahead : place.ahead = c :: rest) (other : c ≠ mark) : place.isSeparator mark = false := by
  unfold Place.isSeparator
  rw [ahead, List.take_succ_cons]
  simp [other]

/-- No border of a document begins with a word. -/
theorem isSeparator_word {word rest : List Char} (isWord : IsWord word) {place : Place}
    (ahead : place.ahead = word ++ rest) :
    place.isSeparator '-' = false ∧ place.isSeparator '.' = false := by
  obtain ⟨sign, c, more, rfl, signed, among, _⟩ := isWord
  have noDash : c ≠ '-' := ne_of_mem_of_not_mem among (by decide)
  rcases signed with rfl | rfl
  · have noDot : c ≠ '.' := ne_of_mem_of_not_mem among (by decide)
    exact ⟨isSeparator_of_ne ahead noDash, isSeparator_of_ne ahead noDot⟩
  · refine ⟨?_, isSeparator_of_ne ahead (by decide)⟩
    unfold Place.isSeparator
    rw [ahead]
    simp [noDash]

/-- A word in front of a comma or a closing bracket is a plain scalar. The blanks behind it are
passed over with it. -/
theorem plainScalar?_word {word rest : List Char} (isWord : IsWord word)
    (delimited : Delimits rest) (indent : Nat) {place after : Place} {text : String}
    {broken : Bool} (ahead : place.ahead = word ++ rest)
    (read : plainScalar? true indent place = some (text, broken, after)) :
    Json.skipSpace after.ahead = Json.skipSpace rest := by
  obtain ⟨⟨shown, ended, between⟩, words, equal⟩ := Option.bind_eq_some_iff.mp read
  cases equal
  obtain ⟨noDash, noDot⟩ := isSeparator_word isWord ahead
  have noComment : place.next? ≠ some '#' := by
    obtain ⟨d, more, rfl, among, _⟩ := isWord.exists_cons
    unfold Place.next?
    rw [ahead, List.cons_append, List.head?_cons]
    exact fun same => ne_of_mem_of_not_mem among (by decide) (Option.some.inj same)
  have begins : (place.isDocumentBorder || place.next? = some '#') = false := by
    simp [Place.isDocumentBorder, noDash, noDot, noComment]
  rw [plainWords?, begins, if_neg Bool.false_ne_true, ahead,
    plainWord?_append isWord.mem delimited] at words
  simp only [Option.bind_eq_bind, Option.bind_some, Bool.not_true, Bool.false_and,
    Bool.false_eq_true, if_false] at words
  have left : (place.skip word.length).ahead = rest := by
    unfold Place.skip
    rw [ahead]
    exact List.drop_left
  split at words
  · cases words
    rw [left]
  · obtain ⟨⟨gap, later⟩, passed, words⟩ := Option.bind_eq_some_iff.mp words
    have same := Gap.read?_skipSpace (left.symm ▸ delimited) passed
    exact ((plainWords?_skipSpace (delimited.congr (same.trans (congrArg _ left))) words).trans
      same).trans (congrArg _ left)

end Yaml

end ProxyProfile
