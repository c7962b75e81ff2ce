/-
This file proves that the first token of a text is an opening bracket for the lexer of
YAML, if the reader of JSON reads the text as an array.

The lexer is followed through the text by the reader, as what the one reads as a value the
other passes over with a few tokens. The two are compared at the borders of values, where
only blanks can set them apart. The readers of JSON call one another, so the induction is
on their fuel and says it of all of them at once.
-/

import Mathlib.Data.List.DropRight
import ProxyProfile.Proofs.Bracketing

namespace ProxyProfile

namespace Yaml

namespace Lexer

/-! ### Texts -/

/-- A lexer that gets to the end comes from one text to another one behind it, inside brackets at
both of them. Blanks in front of the texts do not count. -/
def Leads (before after : Nat) (text rest : List Char) : Prop :=
  ∀ (fuel : Nat) (lexer : Lexer) (tokens : List Token), Inside before lexer →
    Json.skipSpace lexer.place.ahead = Json.skipSpace text → run fuel lexer = some tokens →
    ∃ less left, Inside after left ∧ Json.skipSpace left.place.ahead = Json.skipSpace rest ∧
      run less left = some tokens

section Leads

variable {before between after depth : Nat} {text more rest : List Char}

/-- There is nowhere to go if only blanks differ. -/
theorem leads_of_blanks (same : Json.skipSpace text = Json.skipSpace rest) :
    Leads depth depth text rest :=
  fun fuel lexer _ inside ahead ran => ⟨fuel, lexer, inside, ahead.trans same, ran⟩

theorem Leads.trans (first : Leads before between text more)
    (second : Leads between after more rest) : Leads before after text rest := by
  intro fuel lexer tokens inside ahead ran
  obtain ⟨less, middle, kept, left, ran⟩ := first fuel lexer tokens inside ahead ran
  exact second less middle tokens kept left ran

/-- It is enough to look at one token if that leads to the other text. -/
theorem leads_token {c : Char} (solid : c ∈ beginnings) (begins : Json.skipSpace text = c :: more)
    (token : ∀ lexer left : Lexer, Inside before lexer → lexer.place.ahead = c :: more →
      lexer.token? c more = some left →
      Inside after left ∧ Json.skipSpace left.place.ahead = Json.skipSpace rest) :
    Leads before after text rest := by
  intro fuel lexer tokens inside ahead ran
  obtain ⟨less, between, left, kept, same, begun, ran⟩ :=
    inside.step (isSolid_of_mem solid) (ahead.trans begins) ran
  obtain ⟨inner, behind⟩ := token between left kept same begun
  exact ⟨less, left, inner, behind, ran⟩

/-- A token of one character leaves what is behind it ahead. -/
theorem ahead_of_skip {lexer left : Lexer} {c : Char} (ahead : lexer.place.ahead = c :: rest)
    (moved : left.place = lexer.place.skip 1) : left.place.ahead = rest := by
  rw [moved]
  show lexer.place.ahead.drop 1 = rest
  rw [ahead, List.drop_one, List.tail_cons]

/-- So it is at a bracket, a comma or a colon. -/
theorem leads_mark {c : Char} (solid : c ∈ beginnings) (begins : Json.skipSpace text = c :: rest)
    (token : ∀ lexer left : Lexer, Inside before lexer → lexer.place.ahead = c :: rest →
      lexer.token? c rest = some left → Inside after left ∧ left.place = lexer.place.skip 1) :
    Leads before after text rest := by
  refine leads_token solid begins fun lexer left inside ahead begun => ?_
  obtain ⟨kept, moved⟩ := token lexer left inside ahead begun
  exact ⟨kept, congrArg Json.skipSpace (ahead_of_skip ahead moved)⟩

theorem leads_openList (begins : Json.skipSpace text = '[' :: rest) :
    Leads depth (depth + 1) text rest :=
  leads_mark (by decide) begins fun _ _ inside ahead begun =>
    inside.openBracket? (token?_openList ahead ▸ begun)

theorem leads_openTable (begins : Json.skipSpace text = '\x7b' :: rest) :
    Leads depth (depth + 1) text rest :=
  leads_mark (by decide) begins fun _ _ inside ahead begun =>
    inside.openBracket? (token?_openTable ahead ▸ begun)

theorem leads_closeList (begins : Json.skipSpace text = ']' :: rest) :
    Leads (depth + 1) depth text rest :=
  leads_mark (by decide) begins fun _ _ inside ahead begun =>
    inside.closeBracket? (token?_closeList ahead ▸ begun)

theorem leads_closeTable (begins : Json.skipSpace text = '\x7d' :: rest) :
    Leads (depth + 1) depth text rest :=
  leads_mark (by decide) begins fun _ _ inside ahead begun =>
    inside.closeBracket? (token?_closeTable ahead ▸ begun)

theorem leads_comma (begins : Json.skipSpace text = ',' :: rest) : Leads depth depth text rest :=
  leads_mark (by decide) begins fun _ _ inside ahead begun =>
    inside.comma? (token?_comma ahead ▸ begun)

theorem leads_colon (begins : Json.skipSpace text = ':' :: rest) : Leads depth depth text rest :=
  leads_mark (by decide) begins fun _ _ inside ahead begun =>
    inside.value? (token?_colon inside ahead ▸ begun)

theorem leads_quote {shown : Option (List Char)} (begins : Json.skipSpace text = '"' :: more)
    (string : Json.readString none more = some (shown, rest)) : Leads depth depth text rest := by
  refine leads_token (by decide) begins fun lexer left inside ahead begun => ?_
  rw [token?_quote ahead] at begun
  obtain ⟨kept, behind⟩ := inside.quoted? ahead string begun
  exact ⟨kept, congrArg Json.skipSpace behind⟩

theorem leads_word (isWord : ∃ word, Json.skipSpace text = word ++ rest ∧ IsWord word)
    (delimited : Delimits rest) : Leads depth depth text rest := by
  obtain ⟨word, begins, isWord⟩ := isWord
  obtain ⟨c, others, equal, among, _⟩ := isWord.exists_cons
  have first : word ++ rest = c :: (others ++ rest) := by rw [equal, List.cons_append]
  refine leads_token ?_ (begins.trans first) fun lexer left inside ahead begun => ?_
  · exact List.mem_append_right ['[', ']', '\x7b', '\x7d', ',', ':', '"'] among
  · rw [← first] at ahead
    exact inside.plain? isWord delimited ahead (plain?_of_isWord isWord first ahead begun)

end Leads

end Lexer

open Lexer

/-! ### The reader of JSON -/

theorem skipSpace_skipSpace (characters : List Char) :
    Json.skipSpace (Json.skipSpace characters) = Json.skipSpace characters :=
  List.dropWhile_idempotent _ _

theorem delimits_of_begins {c : Char} {text rest : List Char} (among : c ∈ delimiters)
    (begins : Json.skipSpace text = c :: rest) : Delimits text :=
  ⟨c, among, rest, begins⟩

/-- Where the reader of JSON gets with some fuel, the lexer of YAML gets as well. Items and members
are followed to the closing bracket behind them. -/
structure ReadersLead (fuel : Nat) : Prop where
  tree : ∀ {depth level : Nat} {text rest : List Char} {tree : Tree},
    Json.readTree fuel depth text = some (tree, rest) → Delimits rest →
      Leads level level text rest
  items : ∀ {depth level : Nat} {text rest : List Char} {items : List Tree},
    Json.readItems fuel depth text = some (items, rest) → Leads level level text (']' :: rest)
  members : ∀ {depth level : Nat} {text rest : List Char} {members : List (Option String × Tree)},
    Json.readMembers fuel depth text = some (members, rest) →
      Leads level level text ('\x7d' :: rest)

section Readers

variable {fuel depth level : Nat} {text more rest : List Char}

/-- Behind an opening bracket the items of an array lead to the closing one. -/
theorem ReadersLead.array (readers : ReadersLead fuel) {tree : Tree}
    (begins : Json.skipSpace text = '[' :: more)
    (read : Json.readTree (fuel + 1) depth text = some (tree, rest)) :
    Leads level level more (']' :: rest) := by
  obtain ⟨_, items, _, _, ⟨_, closes⟩ | listed⟩ := Json.list_of_readTree begins read
  · exact leads_of_blanks (closes.trans (Json.skipSpace_cons _ rfl).symm)
  · exact (leads_of_blanks (skipSpace_skipSpace more).symm).trans (readers.items listed)

/-- So do the members of an object. -/
theorem ReadersLead.object (readers : ReadersLead fuel) {tree : Tree}
    (begins : Json.skipSpace text = '\x7b' :: more)
    (read : Json.readTree (fuel + 1) depth text = some (tree, rest)) :
    Leads level level more ('\x7d' :: rest) := by
  obtain ⟨_, members, _, _, ⟨_, closes⟩ | listed⟩ := Json.table_of_readTree begins read
  · exact leads_of_blanks (closes.trans (Json.skipSpace_cons _ rfl).symm)
  · exact (leads_of_blanks (skipSpace_skipSpace more).symm).trans (readers.members listed)

theorem ReadersLead.tree_succ (readers : ReadersLead fuel) {tree : Tree}
    (read : Json.readTree (fuel + 1) depth text = some (tree, rest)) (delimited : Delimits rest) :
    Leads level level text rest := by
  have whole := read
  rw [Json.readTree] at read
  split at read
  · cases read
  · rename_i begins
    obtain ⟨⟨shown, tail⟩, string, equal⟩ := Option.map_eq_some_iff.mp read
    cases equal
    exact leads_quote begins string
  · rename_i begins
    exact ((leads_openList begins).trans (readers.array begins whole)).trans
      (leads_closeList (Json.skipSpace_cons _ rfl))
  · rename_i begins
    exact ((leads_openTable begins).trans (readers.object begins whole)).trans
      (leads_closeTable (Json.skipSpace_cons _ rfl))
  · rename_i begins
    exact leads_word (begins ▸ exists_word_of_readNumber? (.inr rfl) read) delimited
  · rename_i begins
    exact leads_word (begins ▸ exists_word_of_readWord? (by decide) (by decide) read) delimited
  · rename_i begins
    exact leads_word (begins ▸ exists_word_of_readWord? (by decide) (by decide) read) delimited
  · rename_i begins
    exact leads_word (begins ▸ exists_word_of_readWord? (by decide) (by decide) read) delimited
  · rename_i begins
    exact leads_word (begins ▸ exists_word_of_readNumber? (.inl rfl) read) delimited

theorem ReadersLead.items_succ (readers : ReadersLead fuel) {items : List Tree}
    (read : Json.readItems (fuel + 1) depth text = some (items, rest)) :
    Leads level level text (']' :: rest) := by
  rw [Json.readItems] at read
  split at read
  · cases read
  · rename_i item between first
    split at read
    · rename_i begins
      obtain ⟨⟨others, tail⟩, later, equal⟩ := Option.map_eq_some_iff.mp read
      cases equal
      exact ((readers.tree first (delimits_of_begins (by decide) begins)).trans
        (leads_comma begins)).trans (readers.items later)
    · rename_i begins
      cases read
      exact (readers.tree first (delimits_of_begins (by decide) begins)).trans
        (leads_of_blanks (begins.trans (Json.skipSpace_cons _ rfl).symm))
    · cases read

theorem ReadersLead.members_succ (readers : ReadersLead fuel)
    {members : List (Option String × Tree)}
    (read : Json.readMembers (fuel + 1) depth text = some (members, rest)) :
    Leads level level text ('\x7d' :: rest) := by
  rw [Json.readMembers] at read
  split at read
  · rename_i quoted
    split at read
    · cases read
    · rename_i key named string
      split at read
      · rename_i colon
        have keyed : Leads level level text _ :=
          (leads_quote quoted string).trans (leads_colon colon)
        split at read
        · cases read
        · rename_i item between first
          split at read
          · rename_i begins
            obtain ⟨⟨others, tail⟩, later, equal⟩ := Option.map_eq_some_iff.mp read
            cases equal
            exact ((keyed.trans (readers.tree first (delimits_of_begins (by decide) begins))).trans
              (leads_comma begins)).trans (readers.members later)
          · rename_i begins
            cases read
            exact (keyed.trans (readers.tree first (delimits_of_begins (by decide) begins))).trans
              (leads_of_blanks (begins.trans (Json.skipSpace_cons _ rfl).symm))
          · cases read
      · cases read
  · cases read

end Readers

/-- The lexer of YAML follows the reader of JSON. -/
theorem readersLead (fuel : Nat) : ReadersLead fuel := by
  induction fuel with
  | zero => exact { tree := nofun, items := nofun, members := nofun }
  | succ fuel inductionHypothesis =>
    exact {
      tree := inductionHypothesis.tree_succ
      items := inductionHypothesis.items_succ
      members := inductionHypothesis.members_succ }

/-! ### Arrays -/

/-- What JSON reads as an array begins in YAML with the token for a list. -/
theorem head?_tokens?_array {text : String} {more : List Char} {tree : Tree} {tokens : List Token}
    (begins : Json.skipSpace text.toList = '[' :: more) (read : Json.tree? text = some tree)
    (cut : tokens? text = some tokens) : tokens.head? = some .flowList := by
  obtain ⟨⟨found, rest⟩, read, ends⟩ := Option.bind_eq_some_iff.mp read
  have blank : Json.skipSpace rest = [] :=
    List.isEmpty_iff.mp (Option.ite_none_right_eq_some.mp ends).1
  -- The opening bracket is the first token,
  obtain ⟨less, between, after, untouched, ahead, begun, ran⟩ :=
    exists_first_token (isSolid_of_mem (by decide)) begins cut
  rw [token?_openList ahead] at begun
  obtain ⟨inside, moved⟩ := untouched.openBracket? begun
  -- it stays the first one up to the closing bracket,
  obtain ⟨less, lexer, inside, ahead, ran⟩ := (readersLead _).array begins read less after tokens
    inside (congrArg Json.skipSpace (ahead_of_skip ahead moved)) ran
  -- and behind that nothing but blanks is left.
  obtain ⟨less, between, left, kept, ahead, begun, ran⟩ :=
    inside.step (isSolid_of_mem (by decide)) (ahead.trans (Json.skipSpace_cons _ rfl)) ran
  rw [token?_closeList ahead] at begun
  obtain ⟨blocks, first, moved⟩ := kept.ends begun
  have ends : Json.skipSpace left.place.ahead = [] := by rw [ahead_of_skip ahead moved, blank]
  rw [tokens_of_run blocks ends ran, List.head?_reverse]
  exact first

end Yaml

end ProxyProfile
