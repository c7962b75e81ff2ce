/-
This file proves by what a text in Base64 is known, without decoding it.

A text is told from others by decoding it and encoding what comes out. It can be told by
its letters just as well: they come in groups of four, only the last group may have
paddings for its last letters, two of them at most, and each padding leaves two bits of
the letter in front of it unused, which have to be zero. Both descriptions are followed
group by group: a group of four letters is three bytes, and the last group, with its
paddings, is one byte or two.
-/

import ProxyProfile.Proofs.Encoding

namespace ProxyProfile.Text.Base64

/-! ### The alphabet -/

/-- The letters in order; each stands for its place. -/
def alphabet : List Char :=
  "ABCDEFGHIJKLMNOPQRSTUVWXYZabcdefghijklmnopqrstuvwxyz0123456789+/".toList

theorem letters_eq_alphabet : letters = alphabet := by
  decide

theorem letter_mem_alphabet {sextet : Nat} (bounded : sextet < 64) :
    letter sextet ∈ alphabet :=
  letters_eq_alphabet ▸ letter_mem bounded

theorem idxOf_letter {sextet : Nat} (bounded : sextet < 64) :
    alphabet.idxOf (letter sextet) = sextet := by
  have all : ∀ number ∈ List.range 64, alphabet.idxOf (letter number) = number :=
    List.all_iff_forall_prop.mp (by decide)
  exact all sextet (List.mem_range.mpr bounded)

theorem exists_letter {c : Char} (among : c ∈ alphabet) : ∃ sextet < 64, letter sextet = c := by
  rw [← letters_eq_alphabet] at among
  obtain ⟨sextet, bounded, same⟩ := List.mem_map.mp among
  exact ⟨sextet, List.mem_range.mp bounded, same⟩

/-! ### Groups -/

section Groups

variable {first second third fourth : Nat} (firstBounded : first < 64) (secondBounded : second < 64)
  (thirdBounded : third < 64) (fourthBounded : fourth < 64)

theorem toNat_ofNat {number : Nat} (bounded : number < 256) : (UInt8.ofNat number).toNat = number :=
  UInt8.toNat_ofNat_of_lt' bounded

include firstBounded secondBounded

/-- Two letters are one byte, if the second one has four unused bits. -/
theorem encode_one (unused : 16 ∣ second) :
    encode [UInt8.ofNat (first * 4 + second / 16)] = [letter first, letter second, '=', '='] := by
  have parts : (first * 4 + second / 16) / 4 = first ∧
      (first * 4 + second / 16) % 4 * 16 = second := by omega
  rw [encode, toNat_ofNat (by omega), parts.1, parts.2]

include thirdBounded

/-- Three letters are two bytes, if the third one has two unused bits. -/
theorem encode_two (unused : 4 ∣ third) :
    encode [UInt8.ofNat (first * 4 + second / 16), UInt8.ofNat (second % 16 * 16 + third / 4)] =
      [letter first, letter second, letter third, '='] := by
  have parts : (first * 4 + second / 16) / 4 = first ∧
      (first * 4 + second / 16) % 4 * 16 + (second % 16 * 16 + third / 4) / 16 = second ∧
      (second % 16 * 16 + third / 4) % 16 * 4 = third := by omega
  rw [encode, toNat_ofNat (by omega), toNat_ofNat (by omega), parts.1, parts.2.1, parts.2.2]

include fourthBounded

/-- Four letters are three bytes. -/
theorem encode_three (rest : List UInt8) :
    encode (UInt8.ofNat (first * 4 + second / 16) :: UInt8.ofNat (second % 16 * 16 + third / 4) ::
        UInt8.ofNat (third % 4 * 64 + fourth) :: rest) =
      letter first :: letter second :: letter third :: letter fourth :: encode rest := by
  have parts : (first * 4 + second / 16) / 4 = first ∧
      (first * 4 + second / 16) % 4 * 16 + (second % 16 * 16 + third / 4) / 16 = second ∧
      (second % 16 * 16 + third / 4) % 16 * 4 + (third % 4 * 64 + fourth) / 64 = third ∧
      (third % 4 * 64 + fourth) % 64 = fourth := by omega
  rw [encode, toNat_ofNat (by omega), toNat_ofNat (by omega), toNat_ofNat (by omega), parts.1,
    parts.2.1, parts.2.2.1, parts.2.2.2]

end Groups

/-! ### The shape of an encoding -/

/-- A text is some letters and at most two paddings behind them, in groups of four, and the bits
of the last letter that the paddings leave unused are zero. -/
structure IsPadded (text front : List Char) (paddings : Nat) : Prop where
  parts : text = front ++ List.replicate paddings '='
  few : paddings ≤ 2
  letters : ∀ c ∈ front, c ∈ alphabet
  groups : 4 ∣ text.length
  unused : ∀ c ∈ front.getLast?, Nat.pow 4 paddings ∣ alphabet.idxOf c

/-- The unused bits are those of the number that the last letter stands for. -/
theorem unused_concat_iff {paddings sextet : Nat} (front : List Char) (bounded : sextet < 64) :
    (∀ c ∈ (front ++ [letter sextet]).getLast?, Nat.pow 4 paddings ∣ alphabet.idxOf c) ↔
      Nat.pow 4 paddings ∣ sextet := by
  simp only [List.getLast?_concat, Option.mem_some_iff, forall_eq', idxOf_letter bounded]

theorem IsPadded.length {text front : List Char} {paddings : Nat}
    (padded : IsPadded text front paddings) : 4 ∣ front.length + paddings := by
  have groups := padded.groups
  rwa [padded.parts, List.length_append, List.length_replicate] at groups

/-- Four letters more or less in front change nothing. -/
theorem isPadded_cons_iff {text front : List Char} {paddings : Nat} {a b c d : Char}
    (letters : ∀ e ∈ [a, b, c, d], e ∈ alphabet) :
    IsPadded (a :: b :: c :: d :: text) (a :: b :: c :: d :: front) paddings ↔
      IsPadded text front paddings := by
  have last : (a :: b :: c :: d :: front).getLast? = some (front.getLast?.getD d) := by
    rw [List.getLast?_cons_cons, List.getLast?_cons_cons, List.getLast?_cons_cons,
      List.getLast?_cons]
  have groups : 4 ∣ (a :: b :: c :: d :: text).length ↔ 4 ∣ text.length := by
    simp only [List.length_cons]
    omega
  have all : (∀ e ∈ a :: b :: c :: d :: front, e ∈ alphabet) ↔ ∀ e ∈ front, e ∈ alphabet := by
    rw [show a :: b :: c :: d :: front = [a, b, c, d] ++ front from rfl, List.forall_mem_append]
    exact and_iff_right letters
  constructor
  · intro padded
    refine ⟨?_, padded.few, all.mp padded.letters, groups.mp padded.groups, fun e isLast => ?_⟩
    · simpa using padded.parts
    · refine padded.unused e ?_
      rw [last, isLast]
      rfl
  · intro padded
    refine ⟨?_, padded.few, all.mpr padded.letters, groups.mpr padded.groups, fun e isLast => ?_⟩
    · rw [padded.parts]
      rfl
    · rw [last] at isLast
      cases front with
      | nil =>
        -- Paddings alone are no group, so there are none and no bits are unused.
        obtain ⟨count, few⟩ := And.intro padded.length padded.few
        obtain rfl : paddings = 0 := by
          rw [List.length_nil] at count
          omega
        exact Nat.one_dvd _
      | cons f rest =>
        refine padded.unused e ?_
        rw [List.getLast?_cons] at isLast ⊢
        exact isLast

/-- A text of this shape is the encoding of some bytes. -/
theorem IsPadded.exists_encode {text front : List Char} {paddings : Nat}
    (padded : IsPadded text front paddings) : ∃ bytes, encode bytes = text := by
  obtain ⟨count, few⟩ := And.intro padded.length padded.few
  match front, padded with
  | [], padded =>
    obtain rfl : paddings = 0 := by
      rw [List.length_nil] at count
      omega
    exact ⟨[], padded.parts.symm⟩
  | [_], _ =>
    rw [List.length_singleton] at count
    omega
  | [a, b], padded =>
    obtain rfl : paddings = 2 := by
      simp only [List.length_cons, List.length_nil] at count
      omega
    obtain ⟨first, firstBounded, rfl⟩ := exists_letter (padded.letters a (by simp))
    obtain ⟨second, secondBounded, rfl⟩ := exists_letter (padded.letters b (by simp))
    have unused := (unused_concat_iff [letter first] secondBounded).mp padded.unused
    exact ⟨_, (encode_one firstBounded secondBounded unused).trans padded.parts.symm⟩
  | [a, b, c], padded =>
    obtain rfl : paddings = 1 := by
      simp only [List.length_cons, List.length_nil] at count
      omega
    obtain ⟨first, firstBounded, rfl⟩ := exists_letter (padded.letters a (by simp))
    obtain ⟨second, secondBounded, rfl⟩ := exists_letter (padded.letters b (by simp))
    obtain ⟨third, thirdBounded, rfl⟩ := exists_letter (padded.letters c (by simp))
    have unused := (unused_concat_iff [letter first, letter second] thirdBounded).mp padded.unused
    exact ⟨_, (encode_two firstBounded secondBounded thirdBounded unused).trans padded.parts.symm⟩
  | a :: b :: c :: d :: rest, padded =>
    have letters : ∀ e ∈ [a, b, c, d], e ∈ alphabet := fun e among =>
      padded.letters e (List.mem_append_left rest among)
    have whole := padded.parts
    subst whole
    obtain ⟨bytes, encoded⟩ := ((isPadded_cons_iff letters).mp padded).exists_encode
    obtain ⟨first, firstBounded, rfl⟩ := exists_letter (letters a (by simp))
    obtain ⟨second, secondBounded, rfl⟩ := exists_letter (letters b (by simp))
    obtain ⟨third, thirdBounded, rfl⟩ := exists_letter (letters c (by simp))
    obtain ⟨fourth, fourthBounded, rfl⟩ := exists_letter (letters d (by simp))
    refine ⟨_, (encode_three firstBounded secondBounded thirdBounded fourthBounded bytes).trans ?_⟩
    rw [encoded]
    rfl

/-- The encoding of some bytes has this shape. -/
theorem exists_isPadded (bytes : List UInt8) :
    ∃ front paddings, IsPadded (encode bytes) front paddings := by
  fun_induction encode bytes with
  | case1 => exact ⟨[], 0, rfl, Nat.zero_le 2, List.forall_mem_nil _, Nat.dvd_zero 4, by simp⟩
  | case2 a =>
    have := a.toNat_lt
    refine ⟨[letter (a.toNat / 4)] ++ [letter (a.toNat % 4 * 16)], 2, rfl, le_rfl, ?_,
      Nat.dvd_refl 4, (unused_concat_iff _ (by omega)).mpr (Nat.dvd_mul_left 16 _)⟩
    simp only [List.cons_append, List.nil_append, List.forall_mem_cons]
    exact ⟨letter_mem_alphabet (by omega), letter_mem_alphabet (by omega), List.forall_mem_nil _⟩
  | case3 a b =>
    have := a.toNat_lt
    have := b.toNat_lt
    refine ⟨[letter (a.toNat / 4), letter (a.toNat % 4 * 16 + b.toNat / 16)] ++
      [letter (b.toNat % 16 * 4)], 1, rfl, by decide, ?_, Nat.dvd_refl 4,
      (unused_concat_iff _ (by omega)).mpr (Nat.dvd_mul_left 4 _)⟩
    simp only [List.cons_append, List.nil_append, List.forall_mem_cons]
    exact ⟨letter_mem_alphabet (by omega), letter_mem_alphabet (by omega),
      letter_mem_alphabet (by omega), List.forall_mem_nil _⟩
  | case4 a b c rest inductionHypothesis =>
    have := a.toNat_lt
    have := b.toNat_lt
    have := c.toNat_lt
    obtain ⟨front, paddings, padded⟩ := inductionHypothesis
    refine ⟨_, paddings, (isPadded_cons_iff ?_).mpr padded⟩
    simp only [List.forall_mem_cons]
    exact ⟨letter_mem_alphabet (by omega), letter_mem_alphabet (by omega),
      letter_mem_alphabet (by omega), letter_mem_alphabet (by omega), List.forall_mem_nil _⟩

/-! ### Texts -/

theorem isEncoding_iff_exists (text : String) :
    isEncoding text = true ↔ ∃ bytes, bytes ≠ [] ∧ text.toList = encode bytes := by
  constructor
  · intro told
    unfold isEncoding at told
    split at told
    · exact ⟨_, List.cons_ne_nil _ _, (beq_iff_eq.mp told).symm⟩
    · cases told
  · rintro ⟨bytes, filled, encoded⟩
    rw [← String.ofList_toList (s := text), encoded]
    exact isEncoding_encode filled

theorem encode_eq_nil_iff (bytes : List UInt8) : encode bytes = [] ↔ bytes = [] := by
  fun_cases encode bytes <;> simp

/-- A text is told from others if it is the encoding of some bytes, at least one, and that is if
it is not empty and has the shape of an encoding. -/
theorem isEncoding_iff (text : String) :
    (isEncoding text = true ↔ ∃ bytes, bytes ≠ [] ∧ text.toList = encode bytes) ∧
      (isEncoding text = true ↔
        text ≠ "" ∧ ∃ front paddings, IsPadded text.toList front paddings) := by
  refine ⟨isEncoding_iff_exists text, (isEncoding_iff_exists text).trans ⟨?_, ?_⟩⟩
  · rintro ⟨bytes, filled, encoded⟩
    rw [encoded]
    refine ⟨?_, exists_isPadded bytes⟩
    rintro rfl
    exact filled ((encode_eq_nil_iff bytes).mp encoded.symm)
  · rintro ⟨filled, front, paddings, padded⟩
    obtain ⟨bytes, encoded⟩ := padded.exists_encode
    refine ⟨bytes, ?_, encoded.symm⟩
    rintro rfl
    exact filled (String.toList_eq_nil_iff.mp encoded.symm)

/-- A text whose last letter has unused bits that are not zero is not told from others. -/
example : isEncoding "YWJjZA==" = true ∧ isEncoding "YWJjZB==" = false := by
  decide

end ProxyProfile.Text.Base64
