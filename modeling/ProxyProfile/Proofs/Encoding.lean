/-
This file proves that Base64 reads back what it writes, and says what the readers of JSON
and of YAML make of such a text.

Three bytes and four letters say the same, so each step of the encoding is undone by one of
the decoding; only the padding shows where the text ends, and no letter is a padding. To
the other readers the letters are no marks. A text of them may be a number or a name of
JSON and is a single plain scalar of YAML, but it holds no bracket and no colon, and so it
is never a table.
-/

import ProxyProfile.Proofs.Sequencing
import ProxyProfile.Text.Base64

namespace ProxyProfile

namespace Text.Base64

/-! ### Letters -/

/-- The letters of all numbers of six bits. -/
def letters : List Char :=
  (List.range 64).map letter

theorem letter_mem {sextet : Nat} (bounded : sextet < 64) : letter sextet ∈ letters :=
  List.mem_map_of_mem (List.mem_range.mpr bounded)

/-- A letter is read as the number it stands for. -/
theorem sextet?_letter {sextet : Nat} (bounded : sextet < 64) :
    sextet? (letter sextet) = some sextet := by
  have all : ∀ number ∈ List.range 64, sextet? (letter number) = some number :=
    List.all_iff_forall_prop.mp (by decide)
  exact all sextet (List.mem_range.mpr bounded)

/-- No letter is a padding. -/
theorem letter_ne_padding {sextet : Nat} (bounded : sextet < 64) : letter sextet ≠ '=' := by
  intro same
  have read := sextet?_letter bounded
  rw [same] at read
  cases read

/-! ### Decoding -/

section Decoding

variable {first second third fourth : Nat}

theorem decode?_one (firstBounded : first < 64) (secondBounded : second < 64)
    (unused : second % 16 = 0) :
    decode? [letter first, letter second, '=', '='] =
      some [UInt8.ofNat (first * 4 + second / 16)] := by
  rw [decode?, sextet?_letter firstBounded, sextet?_letter secondBounded]
  exact if_pos unused

theorem decode?_two (firstBounded : first < 64) (secondBounded : second < 64)
    (thirdBounded : third < 64) (unused : third % 4 = 0) :
    decode? [letter first, letter second, letter third, '='] =
      some [UInt8.ofNat (first * 4 + second / 16), UInt8.ofNat (second % 16 * 16 + third / 4)] := by
  rw [decode?, sextet?_letter firstBounded, sextet?_letter secondBounded,
    sextet?_letter thirdBounded]
  · exact if_pos unused
  · exact letter_ne_padding thirdBounded

theorem decode?_three (firstBounded : first < 64) (secondBounded : second < 64)
    (thirdBounded : third < 64) (fourthBounded : fourth < 64) (rest : List Char) :
    decode? (letter first :: letter second :: letter third :: letter fourth :: rest) =
      (decode? rest).map fun bytes => UInt8.ofNat (first * 4 + second / 16) ::
        UInt8.ofNat (second % 16 * 16 + third / 4) :: UInt8.ofNat (third % 4 * 64 + fourth) ::
          bytes := by
  have noPadding := letter_ne_padding fourthBounded
  rw [decode?, sextet?_letter firstBounded, sextet?_letter secondBounded,
    sextet?_letter thirdBounded, sextet?_letter fourthBounded]
  · cases decode? rest <;> rfl
  · exact fun _ same => absurd same noPadding
  · exact fun same => absurd same noPadding

/-- A byte is put together from its parts. -/
theorem ofNat_eq (byte : UInt8) {number : Nat} (same : number = byte.toNat) :
    UInt8.ofNat number = byte := by
  rw [same, UInt8.ofNat_toNat]

/-- The bytes are read back from their encoding. -/
theorem decode?_encode (bytes : List UInt8) : decode? (encode bytes) = some bytes := by
  fun_induction encode bytes with
  | case1 => rfl
  | case2 a =>
    have := a.toNat_lt
    rw [decode?_one (by omega) (by omega) (by omega), ofNat_eq a (by omega)]
  | case3 a b =>
    have := a.toNat_lt
    have := b.toNat_lt
    rw [decode?_two (by omega) (by omega) (by omega) (by omega), ofNat_eq a (by omega),
      ofNat_eq b (by omega)]
  | case4 a b c rest inductionHypothesis =>
    have := a.toNat_lt
    have := b.toNat_lt
    have := c.toNat_lt
    rw [decode?_three (by omega) (by omega) (by omega) (by omega), inductionHypothesis,
      ofNat_eq a (by omega), ofNat_eq b (by omega), ofNat_eq c (by omega)]
    rfl

end Decoding

/-! ### Texts -/

/-- A text of letters and paddings that begins with a letter. -/
def IsLettered (text : List Char) : Prop :=
  ∃ c rest, text = c :: rest ∧ c ∈ letters ∧ ∀ d ∈ text, d ∈ '=' :: letters

theorem mem_encode (bytes : List UInt8) : ∀ c ∈ encode bytes, c ∈ '=' :: letters := by
  have lettered {sextet : Nat} (bounded : sextet < 64) : letter sextet ∈ '=' :: letters :=
    List.mem_cons_of_mem _ (letter_mem bounded)
  fun_induction encode bytes with
  | case1 => nofun
  | case2 a =>
    have := a.toNat_lt
    simp only [List.forall_mem_cons]
    exact ⟨lettered (by omega), lettered (by omega), List.mem_cons_self, List.mem_cons_self, nofun⟩
  | case3 a b =>
    have := a.toNat_lt
    have := b.toNat_lt
    simp only [List.forall_mem_cons]
    exact ⟨lettered (by omega), lettered (by omega), lettered (by omega), List.mem_cons_self, nofun⟩
  | case4 a b c rest inductionHypothesis =>
    have := a.toNat_lt
    have := b.toNat_lt
    have := c.toNat_lt
    simp only [List.forall_mem_cons]
    exact ⟨lettered (by omega), lettered (by omega), lettered (by omega), lettered (by omega),
      inductionHypothesis⟩

theorem isLettered_encode {bytes : List UInt8} (filled : bytes ≠ []) :
    IsLettered (encode bytes) := by
  obtain ⟨byte, others, rfl⟩ := List.exists_cons_of_ne_nil filled
  have bounded : byte.toNat / 4 < 64 := by
    have := byte.toNat_lt
    omega
  obtain ⟨rest, equal⟩ : ∃ rest, encode (byte :: others) = letter (byte.toNat / 4) :: rest := by
    match others with
    | [] => exact ⟨_, rfl⟩
    | [_] => exact ⟨_, rfl⟩
    | _ :: _ :: _ => exact ⟨_, rfl⟩
  exact ⟨_, rest, equal, letter_mem bounded, mem_encode _⟩

/-- The encoding of some bytes is told from other texts. -/
theorem isEncoding_encode {bytes : List UInt8} (filled : bytes ≠ []) :
    isEncoding (String.ofList (encode bytes)) = true := by
  obtain ⟨byte, others, rfl⟩ := List.exists_cons_of_ne_nil filled
  unfold isEncoding
  rw [String.toList_ofList, decode?_encode]
  exact beq_self_eq_true _

/-- What begins with no letter is not in Base64. -/
theorem decode?_of_first {c : Char} (other : sextet? c = none) (rest : List Char) :
    decode? (c :: rest) = none := by
  unfold decode?
  split
  case h_1 =>
    rename_i equal
    cases equal
  case h_2 | h_3 | h_4 =>
    rename_i equal
    cases equal
    rw [other]
    rfl
  case h_5 => rfl

theorem isEncoding_of_first {text : String} {c : Char} {rest : List Char}
    (other : sextet? c = none) (begins : text.toList = c :: rest) : isEncoding text = false := by
  unfold isEncoding
  rw [begins, decode?_of_first other]

end Text.Base64

open Text.Base64

/-! ### JSON -/

namespace Json

/-- A text of letters begins with no bracket. -/
theorem bracket?_of_isLettered {text : String} {value : Value} (lettered : IsLettered text.toList)
    (read : parse? text = some value) : value.bracket? = none := by
  obtain ⟨first, others, _, _, mem⟩ := lettered
  cases bracket : value.bracket? with
  | none => rfl
  | some c =>
    obtain ⟨more, begins⟩ := begins_of_parse? read bracket
    have among : c ∈ text.toList := by
      refine (List.dropWhile_suffix isSpace).subset ?_
      show c ∈ skipSpace text.toList
      rw [begins]
      exact List.mem_cons_self
    cases value with
    | array | object =>
      cases bracket
      exact absurd (mem _ among) (by decide)
    | _ => cases bracket

end Json

/-! ### YAML -/

namespace Yaml

open Lexer

/-- Neither letters nor paddings are marks. -/
theorem unmarked_of_mem {c : Char} (among : c ∈ '=' :: letters) :
    IsSolid c ∧ IsUnmarked c ∧ c ≠ '-' ∧ c ≠ '.' ∧ c ≠ ':' := by
  have all : ∀ d ∈ '=' :: letters, (isGap d = false ∧ isBreak d = false ∧
      isByteOrderMark d = false ∧ d ≠ '#') ∧ IsUnmarked d ∧ d ≠ '-' ∧ d ≠ '.' ∧ d ≠ ':' := by
    unfold IsUnmarked
    exact List.all_iff_forall_prop.mp (by decide)
  obtain ⟨⟨noGap, noBreak, noMark, noComment⟩, others⟩ := all c among
  exact ⟨⟨noGap, noBreak, noMark, noComment⟩, others⟩

/-- A text of letters is one word. -/
theorem plainWord?_of_mem {word : List Char} (lettered : ∀ c ∈ word, c ∈ '=' :: letters) :
    plainWord? false word = some word := by
  induction word with
  | nil => rfl
  | cons c word inductionHypothesis =>
    rw [List.forall_mem_cons] at lettered
    obtain ⟨solid, _, _, _, noColon⟩ := unmarked_of_mem lettered.1
    rw [plainWord?, inductionHypothesis lettered.2]
    simp [solid.gap, solid.lineBreak, noColon]

/-- It is read to its end. -/
theorem plainScalar?_of_isLettered {place after : Place} {indent : Nat} {text : String}
    {broken : Bool} (lettered : IsLettered place.ahead)
    (read : plainScalar? false indent place = some (text, broken, after)) : after.ahead = [] := by
  obtain ⟨⟨shown, ended, between⟩, words, equal⟩ := Option.bind_eq_some_iff.mp read
  cases equal
  obtain ⟨c, rest, ahead, first, mem⟩ := lettered
  obtain ⟨solid, _, noDash, noDot, _⟩ := unmarked_of_mem (List.mem_cons_of_mem '=' first)
  have begins : (place.isDocumentBorder || place.next? = some '#') = false := by
    have noComment : place.next? ≠ some '#' := by
      unfold Place.next?
      rw [ahead, List.head?_cons]
      exact fun same => solid.comment (Option.some.inj same)
    simp [Place.isDocumentBorder, isSeparator_of_ne ahead noDash, isSeparator_of_ne ahead noDot,
      noComment]
  have left : (place.skip place.ahead.length).ahead = [] := List.drop_length
  rw [plainWords?, begins, if_neg Bool.false_ne_true, plainWord?_of_mem mem] at words
  simp only [Option.bind_eq_bind, Option.bind_some, Place.next?, left, List.head?_nil,
    Option.any_none, Bool.not_false, if_true] at words
  cases words
  exact left

/-- A text of letters is one token. -/
theorem tokens?_of_isLettered {text : String} (lettered : IsLettered text.toList)
    {tokens : List Token} (cut : tokens? text = some tokens) :
    ∃ shown, tokens = [.scalar .plain shown] := by
  have whole := lettered
  obtain ⟨c, rest, begins, first, _⟩ := lettered
  obtain ⟨solid, unmarked, noDash, noDot, _⟩ := unmarked_of_mem (List.mem_cons_of_mem '=' first)
  have unblank : Json.skipSpace text.toList = c :: rest := by
    rw [begins, Json.skipSpace_cons rest solid.isSpace]
  obtain ⟨less, between, after, untouched, ahead, begun, ran⟩ :=
    exists_first_token solid unblank cut
  have noItem : (c = '-' && endsWord rest) = false := by
    rw [decide_eq_false noDash, Bool.false_and]
  have passed := plain?_of_token? (isSeparator_of_ne ahead noDash)
    (isSeparator_of_ne ahead noDot) unmarked noItem begun
  obtain ⟨indent, shown, broken, read, blocks, equal⟩ := untouched.plain? passed
  have ends := plainScalar?_of_isLettered (by rw [ahead, ← begins]; exact whole) read
  refine ⟨shown, ?_⟩
  rw [tokens_of_run blocks (by rw [ends]; rfl) ran, equal, List.reverse_singleton]

theorem bracket?_of_integerValue? {characters : List Char} {value : Json.Value}
    (read : integerValue? characters = some (some value)) : value.bracket? = none := by
  unfold integerValue? at read
  split at read
  · cases read
  · split at read
    · cases read
      rfl
    · split at read <;> cases read

theorem bracket?_of_floatValue? {text : String} {value : Json.Value}
    (read : floatValue? text = some value) : value.bracket? = none := by
  unfold floatValue? at read
  split at read
  · cases read
    rfl
  · obtain ⟨number, _, rfl⟩ := Option.map_eq_some_iff.mp read
    rfl

/-- A plain scalar is neither an array nor an object. -/
theorem bracket?_of_plainValue? {text : String} {value : Json.Value}
    (read : plainValue? text = some value) : value.bracket? = none := by
  unfold plainValue? at read
  split at read
  · cases read
    rfl
  · split at read
    · cases read
      rfl
    · rename_i whole
      rw [read] at whole
      exact bracket?_of_integerValue? whole
    · split at read
      · cases read
        rfl
      · cases read
        cases scaled : floatValue? text with
        | none => rfl
        | some value => exact bracket?_of_floatValue? scaled

/-- A plain scalar is all that there is. -/
theorem events?_plain (text : String) :
    events? [.scalar .plain text] = some [.scalar {} .plain text] :=
  rfl

/-- The tree of a plain scalar is a leaf. -/
theorem treeOf_plain (all : List Event) {fuel : Nat} (left : fuel ≠ 0) (depth jumps : Nat)
    (text : String) (rest : List Event) :
    (treeOf all fuel depth jumps (.scalar {} .plain text :: rest)).1 =
      .leaf (leafOf none .plain text) := by
  obtain ⟨less, rfl⟩ := Nat.exists_eq_succ_of_ne_zero left
  rw [treeOf]

/-- A text of letters stands for a scalar, if for anything. -/
theorem bracket?_of_isLettered {text : String} {value : Json.Value}
    (lettered : IsLettered text.toList) (read : parse? text = some value) :
    value.bracket? = none := by
  obtain ⟨tree, planted, valued⟩ := Option.bind_eq_some_iff.mp read
  obtain ⟨tokens, cut, planted⟩ := Option.bind_eq_some_iff.mp planted
  obtain ⟨shown, rfl⟩ := tokens?_of_isLettered lettered cut
  rw [events?_plain] at planted
  obtain rfl := Option.some.inj planted
  rw [treeOf_plain _ (Nat.mul_ne_zero (Nat.succ_ne_zero _) (by decide))] at valued
  exact bracket?_of_plainValue? valued

end Yaml

end ProxyProfile
