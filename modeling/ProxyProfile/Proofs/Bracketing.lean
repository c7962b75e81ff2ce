/-
This file says what one token does to the lexer of YAML inside brackets, where the text may
be one of JSON.

Inside the outermost bracket, every place where a key may have begun is behind that
bracket, and blocks are neither opened nor closed. So the first token stays the first, as
no later colon may put the token for a key in front of it. One lemma says what each token
keeps of this. Between two tokens the blanks of JSON are passed over; YAML refuses a tab
in some places, and other characters in all, so everything is said of lexers that get to
the end.
-/

import ProxyProfile.Proofs.Scanning
import ProxyProfile.Yaml.Token.Lexer

namespace ProxyProfile

namespace Yaml

/-! ### Inside brackets -/

/-- Keys that may have begun inside some brackets, each behind the outermost of them; and last, a
key that may have begun with it. -/
def KeysInside (depth : Nat) (keys : List (Option KeyStart)) : Prop :=
  ∃ inner outermost, keys = inner ++ [outermost] ∧ inner.length = depth + 1 ∧
    ∀ key ∈ inner, ∀ start ∈ key, 0 < start.position

section KeysInside

variable {depth : Nat} {key : Option KeyStart} {keys : List (Option KeyStart)}

theorem KeysInside.exists_cons (inside : KeysInside depth keys) :
    ∃ key outer, keys = key :: outer ∧ ∀ start ∈ key, 0 < start.position := by
  obtain ⟨inner, outermost, rfl, length, behind⟩ := inside
  cases inner with
  | nil => cases length
  | cons key inner => exact ⟨key, inner ++ [outermost], rfl, behind key List.mem_cons_self⟩

theorem KeysInside.length (inside : KeysInside depth keys) : keys.length = depth + 2 := by
  obtain ⟨inner, outermost, rfl, length, _⟩ := inside
  rw [List.length_append, length, List.length_singleton]

theorem KeysInside.push (inside : KeysInside depth keys)
    (behind : ∀ start ∈ key, 0 < start.position) : KeysInside (depth + 1) (key :: keys) := by
  obtain ⟨inner, outermost, rfl, length, others⟩ := inside
  refine ⟨key :: inner, outermost, rfl, by rw [List.length_cons, length], ?_⟩
  exact List.forall_mem_cons.mpr ⟨behind, others⟩

theorem KeysInside.pop (inside : KeysInside (depth + 1) (key :: keys)) :
    KeysInside depth keys := by
  obtain ⟨inner, outermost, equal, length, behind⟩ := inside
  cases inner with
  | nil => cases length
  | cons first inner =>
    cases equal
    refine ⟨inner, outermost, rfl, Nat.succ.inj length, fun other among => ?_⟩
    exact behind other (List.mem_cons_of_mem _ among)

theorem KeysInside.replace {new : Option KeyStart} (inside : KeysInside depth (key :: keys))
    (behind : ∀ start ∈ new, 0 < start.position) : KeysInside depth (new :: keys) := by
  obtain ⟨inner, outermost, equal, length, others⟩ := inside
  cases inner with
  | nil => cases length
  | cons first inner =>
    cases equal
    refine ⟨new :: inner, outermost, rfl, length, ?_⟩
    exact List.forall_mem_cons.mpr ⟨behind, (List.forall_mem_cons.mp others).2⟩

/-- Giving up some keys leaves the others as they are. -/
theorem behind_of_mapM {update : Option KeyStart → Option (Option KeyStart)}
    (keeps : ∀ key after, update key = some after → ∀ start ∈ after, start ∈ key)
    {after : List (Option KeyStart)} (behind : ∀ key ∈ keys, ∀ start ∈ key, 0 < start.position)
    (updated : keys.mapM update = some after) :
    after.length = keys.length ∧ ∀ key ∈ after, ∀ start ∈ key, 0 < start.position := by
  induction keys generalizing after with
  | nil =>
    cases updated
    exact ⟨rfl, behind⟩
  | cons key keys inductionHypothesis =>
    rw [List.mapM_cons] at updated
    obtain ⟨first, updatedFirst, updated⟩ := Option.bind_eq_some_iff.mp updated
    obtain ⟨others, updatedOthers, equal⟩ := Option.bind_eq_some_iff.mp updated
    cases equal
    rw [List.forall_mem_cons] at behind
    obtain ⟨length, later⟩ := inductionHypothesis behind.2 updatedOthers
    refine ⟨by rw [List.length_cons, length, List.length_cons], ?_⟩
    refine List.forall_mem_cons.mpr ⟨fun start among => ?_, later⟩
    exact behind.1 start (keeps key first updatedFirst start among)

theorem KeysInside.mapM {update : Option KeyStart → Option (Option KeyStart)}
    (keeps : ∀ key after, update key = some after → ∀ start ∈ after, start ∈ key)
    (inside : KeysInside depth keys) {after : List (Option KeyStart)}
    (updated : keys.mapM update = some after) : KeysInside depth after := by
  obtain ⟨inner, outermost, rfl, length, behind⟩ := inside
  rw [List.mapM_append] at updated
  obtain ⟨updatedInner, inInner, updated⟩ := Option.bind_eq_some_iff.mp updated
  obtain ⟨last, single, equal⟩ := Option.bind_eq_some_iff.mp updated
  cases equal
  rw [List.mapM_cons] at single
  obtain ⟨new, _, single⟩ := Option.bind_eq_some_iff.mp single
  cases single
  obtain ⟨same, later⟩ := behind_of_mapM keeps behind inInner
  exact ⟨updatedInner, new, rfl, same.trans length, later⟩

end KeysInside

namespace Lexer

/-- The state inside some brackets: the first token is the outermost of them. -/
structure Inside (depth : Nat) (lexer : Lexer) : Prop where
  keys : KeysInside depth lexer.keys
  blocks : lexer.blocks = []
  first : lexer.tokens.getLast? = some .flowList

section Inside

variable {depth : Nat} {lexer after : Lexer}

theorem Inside.inFlow (inside : Inside depth lexer) : lexer.inFlow = true := by
  unfold Lexer.inFlow
  rw [inside.keys.length]
  exact decide_eq_true (by omega)

theorem Inside.tokens_ne_nil (inside : Inside depth lexer) : lexer.tokens ≠ [] := by
  intro none
  have first := inside.first
  rw [none] at first
  cases first

theorem Inside.emit (inside : Inside depth lexer) (token : Token) (place : Place) :
    Inside depth (lexer.emit token place) where
  keys := inside.keys
  blocks := inside.blocks
  first := by
    obtain ⟨last, tokens, equal⟩ := List.exists_cons_of_ne_nil inside.tokens_ne_nil
    have first := inside.first
    unfold Lexer.emit
    rw [equal] at first ⊢
    rw [List.getLast?_cons_cons]
    exact first

theorem Inside.dropKey? (inside : Inside depth lexer) (dropped : lexer.dropKey? = some after) :
    Inside depth after ∧ after.place = lexer.place := by
  obtain ⟨key, outer, keys, _⟩ := inside.keys.exists_cons
  unfold Lexer.dropKey? at dropped
  split at dropped
  · rename_i start others equal
    split at dropped
    · cases dropped
    · cases dropped
      refine ⟨⟨?_, inside.blocks, inside.first⟩, rfl⟩
      have held := inside.keys
      rw [equal] at held
      exact held.replace nofun
  · cases dropped
    exact ⟨inside, rfl⟩

/-- A key that may begin here is behind the outermost bracket. -/
theorem Inside.saveKey? (inside : Inside depth lexer) (saved : lexer.saveKey? = some after) :
    Inside depth after ∧ after.place = lexer.place := by
  unfold Lexer.saveKey? at saved
  split at saved
  · obtain ⟨between, dropped, equal⟩ := Option.bind_eq_some_iff.mp saved
    cases equal
    obtain ⟨kept, same⟩ := inside.dropKey? dropped
    refine ⟨⟨?_, kept.blocks, kept.first⟩, same⟩
    obtain ⟨key, outer, equal, _⟩ := kept.keys.exists_cons
    have held := kept.keys
    dsimp only
    rw [equal] at held ⊢
    refine held.replace fun start among => ?_
    cases among
    exact List.length_pos_iff.mpr kept.tokens_ne_nil
  · cases saved
    exact ⟨inside, rfl⟩

/-- Inside brackets no block is opened. -/
theorem Inside.openBlock (inside : Inside depth lexer) (token : Token) (column position : Nat) :
    lexer.openBlock token column position = lexer := by
  unfold Lexer.openBlock
  rw [inside.inFlow, Bool.true_or, if_pos rfl]

theorem closeBlocks_of_nil (blocks : lexer.blocks = []) (column : Int) :
    lexer.closeBlocks column = lexer := by
  obtain ⟨place, tokens, _, keys, allowed⟩ := lexer
  obtain rfl := blocks
  unfold Lexer.closeBlocks
  split <;> rfl

/-- A token that is put behind the first one leaves it the first. -/
theorem Inside.insertAt (inside : Inside depth lexer) {position : Nat} (behind : 0 < position)
    (token : Token) : Inside depth (lexer.insertAt position token) where
  keys := inside.keys
  blocks := inside.blocks
  first := by
    have some_left : lexer.tokens.drop (lexer.tokens.length - position) ≠ [] := by
      intro nothing
      have short := List.drop_eq_nil_iff.mp nothing
      have positive := List.length_pos_iff.mpr inside.tokens_ne_nil
      omega
    have first := inside.first
    unfold Lexer.insertAt
    dsimp only
    rw [← List.take_append_drop (lexer.tokens.length - position) lexer.tokens,
      List.getLast?_append_of_ne_nil _ some_left] at first
    obtain ⟨next, more, equal⟩ := List.exists_cons_of_ne_nil some_left
    rw [List.getLast?_append_of_ne_nil _ (List.cons_ne_nil _ _), equal, List.getLast?_cons_cons,
      ← equal]
    exact first

/-! ### Tokens -/

theorem Inside.openBracket? {token : Token} (inside : Inside depth lexer)
    (opened : lexer.openBracket? token = some after) :
    Inside (depth + 1) after ∧ after.place = lexer.place.skip 1 := by
  obtain ⟨between, saved, equal⟩ := Option.bind_eq_some_iff.mp opened
  obtain ⟨kept, same⟩ := inside.saveKey? saved
  cases equal
  have pushed : Inside (depth + 1) ({ between with keys := none :: between.keys }.allowKey true) :=
    ⟨kept.keys.push nofun, kept.blocks, kept.first⟩
  exact ⟨pushed.emit token _, congrArg (Place.skip 1) same⟩

theorem Inside.closeBracket? {token : Token} (inside : Inside (depth + 1) lexer)
    (closed : lexer.closeBracket? token = some after) :
    Inside depth after ∧ after.place = lexer.place.skip 1 := by
  obtain ⟨between, dropped, equal⟩ := Option.bind_eq_some_iff.mp closed
  obtain ⟨kept, same⟩ := inside.dropKey? dropped
  obtain ⟨key, outer, keys, _⟩ := kept.keys.exists_cons
  rw [kept.inFlow, if_pos rfl, keys] at equal
  cases equal
  have held := kept.keys
  rw [keys] at held
  have popped : Inside depth ({ between with keys := outer }.allowKey false) :=
    ⟨held.pop, kept.blocks, kept.first⟩
  exact ⟨popped.emit token _, congrArg (Place.skip 1) same⟩

theorem Inside.comma? (inside : Inside depth lexer) (separated : lexer.comma? = some after) :
    Inside depth after ∧ after.place = lexer.place.skip 1 := by
  obtain ⟨between, dropped, equal⟩ := Option.bind_eq_some_iff.mp separated
  obtain ⟨kept, same⟩ := inside.dropKey? dropped
  cases equal
  have allowed : Inside depth (between.allowKey true) := ⟨kept.keys, kept.blocks, kept.first⟩
  exact ⟨allowed.emit .comma _, congrArg (Place.skip 1) same⟩

/-- A colon puts the token for a key behind the outermost bracket, and opens no block. -/
theorem Inside.value? (inside : Inside depth lexer) (valued : lexer.value? = some after) :
    Inside depth after ∧ after.place = lexer.place.skip 1 := by
  obtain ⟨key, outer, keys, behind⟩ := inside.keys.exists_cons
  unfold Lexer.value? at valued
  rw [keys] at valued
  cases key with
  | none =>
    simp only [inside.inFlow, Bool.not_true, Bool.false_and, Bool.false_eq_true, if_false,
      Lexer.openBlockHere, inside.openBlock] at valued
    cases valued
    have allowed : Inside depth (lexer.allowKey false) := ⟨inside.keys, inside.blocks, inside.first⟩
    exact ⟨allowed.emit .value _, rfl⟩
  | some start =>
    have inserted := inside.insertAt (behind start rfl) .key
    dsimp only at valued
    rw [inserted.openBlock] at valued
    cases valued
    have held := inside.keys
    rw [keys] at held
    have allowed : Inside depth
        ({ lexer.insertAt start.position .key with keys := none :: outer }.allowKey false) :=
      ⟨held.replace nofun, inserted.blocks, inserted.first⟩
    exact ⟨allowed.emit .value _, rfl⟩

/-- A token that may begin a key ends where its reader ends. -/
theorem Inside.keyPart? {read : Place → Option (Token × Place)} (inside : Inside depth lexer)
    (passed : lexer.keyPart? read = some after) :
    Inside depth after ∧ ∃ token, read lexer.place = some (token, after.place) := by
  obtain ⟨between, saved, passed⟩ := Option.bind_eq_some_iff.mp passed
  obtain ⟨kept, same⟩ := inside.saveKey? saved
  obtain ⟨⟨token, place⟩, given, equal⟩ := Option.bind_eq_some_iff.mp passed
  cases equal
  rw [same] at given
  have allowed : Inside depth (between.allowKey false) := ⟨kept.keys, kept.blocks, kept.first⟩
  exact ⟨allowed.emit token place, token, given⟩

theorem Inside.quoted? (inside : Inside depth lexer) {characters rest : List Char}
    {text : Option (List Char)} (ahead : lexer.place.ahead = '"' :: characters)
    (string : Json.readString none characters = some (text, rest))
    (passed : lexer.quoted? false = some after) :
    Inside depth after ∧ after.place.ahead = rest := by
  obtain ⟨kept, token, read⟩ := inside.keyPart? passed
  obtain ⟨⟨shown, place⟩, scalar, equal⟩ := Option.bind_eq_some_iff.mp read
  cases equal
  exact ⟨kept, quotedScalar?_ahead ahead string scalar⟩

theorem Inside.plain? (inside : Inside depth lexer) {word rest : List Char} (isWord : IsWord word)
    (delimited : Delimits rest) (ahead : lexer.place.ahead = word ++ rest)
    (passed : lexer.plain? = some after) :
    Inside depth after ∧ Json.skipSpace after.place.ahead = Json.skipSpace rest := by
  obtain ⟨between, saved, passed⟩ := Option.bind_eq_some_iff.mp passed
  obtain ⟨kept, same⟩ := inside.saveKey? saved
  obtain ⟨⟨text, broken, place⟩, read, equal⟩ := Option.bind_eq_some_iff.mp passed
  cases equal
  rw [kept.inFlow, same] at read
  have allowed : Inside depth (between.allowKey broken) := ⟨kept.keys, kept.blocks, kept.first⟩
  exact ⟨allowed.emit _ place, plainScalar?_word isWord delimited _ ahead read⟩

/-! ### What begins a token -/

/-- A character that is not blank and begins no comment. -/
structure IsSolid (c : Char) : Prop where
  gap : isGap c = false
  lineBreak : isBreak c = false
  byteOrderMark : isByteOrderMark c = false
  comment : c ≠ '#'

theorem IsSolid.isSpace {c : Char} (solid : IsSolid c) : Json.isSpace c = false := by
  by_contra space
  have blank := blank_of_isSpace (Bool.not_eq_false _ ▸ space)
  rw [solid.gap, solid.lineBreak] at blank
  cases blank

/-- The characters that a token of a document begins with. -/
def beginnings : List Char :=
  ['[', ']', '\x7b', '\x7d', ',', ':', '"', '-'] ++ wordCharacters

theorem isSolid_of_mem {c : Char} (among : c ∈ beginnings) : IsSolid c := by
  have all : ∀ d ∈ beginnings,
      isGap d = false ∧ isBreak d = false ∧ isByteOrderMark d = false ∧ d ≠ '#' :=
    List.all_iff_forall_prop.mp (by decide)
  obtain ⟨noGap, noBreak, noMark, noComment⟩ := all c among
  exact ⟨noGap, noBreak, noMark, noComment⟩

/-- The blanks of one line; outside of brackets a tab is one only where no key may begin. -/
def isInlineBlank (lexer : Lexer) (c : Char) : Bool :=
  c = ' ' || ((lexer.inFlow || !lexer.keyAllowed) && c = '\t')

/-- The place behind the blanks of a line and a comment. -/
def inLine (lexer : Lexer) : Place :=
  let place := lexer.place.skipByteOrderMark.skipWhile lexer.isInlineBlank
  if place.next? = some '#' then place.skipLineRest else place

theorem skipBlank_succ (fuel : Nat) (lexer : Lexer) :
    lexer.skipBlank (fuel + 1) =
      if lexer.inLine.next?.any isBreak then
        skipBlank fuel { lexer with
          place := lexer.inLine.skipBreak
          keyAllowed := lexer.keyAllowed || !lexer.inFlow }
      else { lexer with place := lexer.inLine } :=
  rfl

/-- Passing blanks changes the place, and perhaps allows a key. -/
theorem skipBlank_eq (fuel : Nat) (lexer : Lexer) :
    ∃ place allowed, lexer.skipBlank fuel = { lexer with place, keyAllowed := allowed } := by
  induction fuel generalizing lexer with
  | zero => exact ⟨lexer.place, lexer.keyAllowed, rfl⟩
  | succ fuel inductionHypothesis =>
    rw [skipBlank_succ]
    split
    · exact inductionHypothesis { lexer with
        place := lexer.inLine.skipBreak
        keyAllowed := lexer.keyAllowed || !lexer.inFlow }
    · exact ⟨lexer.inLine, lexer.keyAllowed, rfl⟩

/-- Blanks of JSON come next, and then a solid character or the end of the text. -/
def IsBlankUpToSolid (characters : List Char) : Prop :=
  ∀ c rest, Json.skipSpace characters = c :: rest → IsSolid c

theorem IsBlankUpToSolid.cases {characters : List Char} (blank : IsBlankUpToSolid characters) :
    characters = [] ∨
      (∃ c rest, characters = c :: rest ∧ IsSolid c) ∨
      ∃ c rest, characters = c :: rest ∧ Json.isSpace c ∧ IsBlankUpToSolid rest := by
  cases characters with
  | nil => exact Or.inl rfl
  | cons c rest =>
    by_cases space : Json.isSpace c
    · refine Or.inr (Or.inr ⟨c, rest, rfl, space, fun d more equal => blank d more ?_⟩)
      exact (List.dropWhile_cons_of_pos space).trans equal
    · refine Or.inr (Or.inl ⟨c, rest, rfl, blank c rest ?_⟩)
      exact List.dropWhile_cons_of_neg space

theorem IsBlankUpToSolid.congr {characters others : List Char}
    (same : Json.skipSpace others = Json.skipSpace characters)
    (blank : IsBlankUpToSolid characters) : IsBlankUpToSolid others :=
  fun c rest equal => blank c rest (same.symm.trans equal)

/-- Neither a mark of the byte order nor a comment comes next. -/
theorem IsBlankUpToSolid.first {c : Char} {rest : List Char}
    (blank : IsBlankUpToSolid (c :: rest)) : isByteOrderMark c = false ∧ c ≠ '#' := by
  rcases blank.cases with none | ⟨d, more, equal, solid⟩ | ⟨d, more, equal, space, _⟩
  · cases none
  · cases equal
    exact ⟨solid.byteOrderMark, solid.comment⟩
  · cases equal
    unfold Json.isSpace at space
    simp only [Bool.or_eq_true, decide_eq_true_eq, or_assoc] at space
    rcases space with rfl | rfl | rfl | rfl <;> decide

theorem skipSpace_dropWhile (lexer : Lexer) (characters : List Char) :
    Json.skipSpace (characters.dropWhile lexer.isInlineBlank) = Json.skipSpace characters := by
  induction characters with
  | nil => rfl
  | cons c rest inductionHypothesis =>
    by_cases inline : lexer.isInlineBlank c
    · have space : Json.isSpace c := by
        unfold isInlineBlank at inline
        unfold Json.isSpace
        simp only [Bool.or_eq_true, Bool.and_eq_true, decide_eq_true_eq] at inline ⊢
        tauto
      rw [List.dropWhile_cons_of_pos inline, inductionHypothesis]
      exact (List.dropWhile_cons_of_pos space).symm
    · rw [List.dropWhile_cons_of_neg inline]

theorem ahead_inLine (blank : IsBlankUpToSolid lexer.place.ahead) :
    lexer.inLine.ahead = lexer.place.ahead.dropWhile lexer.isInlineBlank := by
  have noMark : lexer.place.skipByteOrderMark = lexer.place := by
    unfold Place.skipByteOrderMark Place.next?
    cases begins : lexer.place.ahead with
    | nil => simp
    | cons c rest => simp [(begins ▸ blank).first.1]
  have skipped : (lexer.place.skipWhile lexer.isInlineBlank).ahead =
      lexer.place.ahead.dropWhile lexer.isInlineBlank := by
    have dropped := @List.drop_left _ (lexer.place.ahead.takeWhile lexer.isInlineBlank)
      (lexer.place.ahead.dropWhile lexer.isInlineBlank)
    rwa [List.takeWhile_append_dropWhile] at dropped
  have noComment : (lexer.place.skipWhile lexer.isInlineBlank).next? ≠ some '#' := by
    have later := blank.congr (lexer.skipSpace_dropWhile _)
    unfold Place.next?
    rw [skipped]
    cases begins : lexer.place.ahead.dropWhile lexer.isInlineBlank with
    | nil => nofun
    | cons c rest => exact fun same => (begins ▸ later).first.2 (Option.some.inj same)
  unfold inLine
  rw [noMark, if_neg noComment, skipped]

theorem length_readBreak {c : Char} (broken : isBreak c) (rest : List Char)
    (line column behind : Nat) :
    (Place.readBreak ⟨c :: rest, line, column, behind⟩).2.ahead.length ≤ rest.length := by
  unfold Place.readBreak
  dsimp only
  split
  · rename_i same
    cases same
    simp
  · rename_i same
    cases same
    split
    · simp
    · simp
  · rename_i same
    cases same

/-- The blanks of JSON are passed over in front of a solid character and at the end of the text,
but a tab may be in the way. -/
theorem skipBlank_ahead {fuel : Nat} {lexer : Lexer} (enough : lexer.place.ahead.length < fuel)
    (blank : IsBlankUpToSolid lexer.place.ahead) :
    (lexer.skipBlank fuel).place.ahead = Json.skipSpace lexer.place.ahead ∨
      ∃ rest, (lexer.skipBlank fuel).place.ahead = '\t' :: rest := by
  induction fuel generalizing lexer with
  | zero => omega
  | succ fuel inductionHypothesis =>
    have moved := ahead_inLine blank
    have same : Json.skipSpace lexer.inLine.ahead = Json.skipSpace lexer.place.ahead := by
      rw [moved, skipSpace_dropWhile]
    have shorter : lexer.inLine.ahead.length ≤ lexer.place.ahead.length :=
      moved ▸ (List.dropWhile_suffix _).length_le
    have stops := List.head?_dropWhile_not lexer.isInlineBlank lexer.place.ahead
    rw [← moved] at stops
    have later := blank.congr same
    rw [skipBlank_succ, ← same]
    generalize lexer.inLine = place at same shorter stops later ⊢
    obtain ⟨characters, line, column, behind⟩ := place
    dsimp only at same shorter stops later ⊢
    rcases later.cases with rfl | ⟨c, rest, rfl, solid⟩ | ⟨c, rest, rfl, space, _⟩
    · exact Or.inl rfl
    · rw [if_neg (by simp [Place.next?, solid.lineBreak])]
      exact Or.inl (Json.skipSpace_cons rest solid.isSpace).symm
    · by_cases broken : isBreak c
      · rw [if_pos (show (Place.next? ⟨c :: rest, line, column, behind⟩).any isBreak from broken)]
        have less := length_readBreak broken rest line column behind
        have again := skipSpace_readBreak space rest line column behind
        rw [List.length_cons] at shorter
        rw [← again]
        refine @inductionHypothesis { lexer with
          place := Place.skipBreak ⟨c :: rest, line, column, behind⟩
          keyAllowed := lexer.keyAllowed || !lexer.inFlow } ?_ (later.congr again)
        exact Nat.lt_of_le_of_lt less (by omega)
      · -- A blank that was not passed over and breaks no line is a tab.
        rw [if_neg (show ¬ (Place.next? ⟨c :: rest, line, column, behind⟩).any isBreak from broken)]
        have gap := (Bool.or_eq_true _ _ ▸ blank_of_isSpace space).resolve_right broken
        have solid : lexer.isInlineBlank c = false := stops
        unfold isInlineBlank at solid
        unfold isGap at gap
        rw [Bool.or_eq_false_iff, decide_eq_false_iff_not] at solid
        rw [Bool.or_eq_true, decide_eq_true_eq, decide_eq_true_eq] at gap
        obtain rfl := gap.resolve_left solid.1
        exact Or.inr ⟨rest, rfl⟩

section Dispatch

variable {c : Char} {rest more : List Char}

theorem token?_openList (ahead : lexer.place.ahead = '[' :: rest) :
    lexer.token? '[' rest = lexer.openBracket? .flowList := by
  simp [Lexer.token?, isSeparator_of_ne ahead]

theorem token?_openTable (ahead : lexer.place.ahead = '\x7b' :: rest) :
    lexer.token? '\x7b' rest = lexer.openBracket? .flowTable := by
  simp [Lexer.token?, isSeparator_of_ne ahead]

theorem token?_closeList (ahead : lexer.place.ahead = ']' :: rest) :
    lexer.token? ']' rest = lexer.closeBracket? .flowListEnd := by
  simp [Lexer.token?, isSeparator_of_ne ahead]

theorem token?_closeTable (ahead : lexer.place.ahead = '\x7d' :: rest) :
    lexer.token? '\x7d' rest = lexer.closeBracket? .flowTableEnd := by
  simp [Lexer.token?, isSeparator_of_ne ahead]

theorem token?_comma (ahead : lexer.place.ahead = ',' :: rest) :
    lexer.token? ',' rest = lexer.comma? := by
  simp [Lexer.token?, isSeparator_of_ne ahead]

theorem token?_colon (inside : Inside depth lexer) (ahead : lexer.place.ahead = ':' :: rest) :
    lexer.token? ':' rest = lexer.value? := by
  simp [Lexer.token?, isSeparator_of_ne ahead, inside.inFlow]

theorem token?_quote (ahead : lexer.place.ahead = '"' :: rest) :
    lexer.token? '"' rest = lexer.quoted? false := by
  simp [Lexer.token?, isSeparator_of_ne ahead]

/-- No token begins with a tab. -/
theorem token?_tab (ahead : lexer.place.ahead = '\t' :: rest) : lexer.token? '\t' rest = none := by
  simp [Lexer.token?, isSeparator_of_ne ahead, beginsPlain, isGap]

/-- A character that marks nothing wherever it stands: a plain scalar may begin with it. -/
def IsUnmarked (c : Char) : Prop :=
  c ∉ ['%', '[', ']', ',', '?', ':', '*', '&', '!', '|', '>', '\'', '"'] ∧
    c.toNat ≠ 0x7B ∧ c.toNat ≠ 0x7D

/-- What begins with no mark is a plain scalar, if it is anything. -/
theorem plain?_of_token? (noDash : lexer.place.isSeparator '-' = false)
    (noDot : lexer.place.isSeparator '.' = false) (unmarked : IsUnmarked c)
    (noItem : (c = '-' && endsWord rest) = false) (begun : lexer.token? c rest = some after) :
    lexer.plain? = some after := by
  obtain ⟨others, noOpen, noClose⟩ := unmarked
  simp only [List.mem_cons, List.not_mem_nil, or_false, not_or] at others
  simp only [Lexer.token?, noDash, noDot, noItem, others, noOpen, noClose, decide_false, and_false,
    Bool.false_and, Bool.false_eq_true, if_false] at begun
  split at begun
  · exact begun
  · cases begun

theorem isUnmarked_of_mem (among : c ∈ '-' :: wordCharacters) : IsUnmarked c := by
  unfold IsUnmarked
  revert c
  exact @(List.all_iff_forall_prop.mp (by decide))

/-- The dash of a word begins no item. -/
theorem not_item_of_isWord {word : List Char} (isWord : IsWord word)
    (begins : word ++ rest = c :: more) : (c = '-' && endsWord more) = false := by
  obtain ⟨sign, d, others, rfl, signed, among, _⟩ := isWord
  rcases signed with rfl | rfl
  · cases begins
    have noDash : c ≠ '-' := ne_of_mem_of_not_mem among (by decide)
    rw [decide_eq_false noDash, Bool.false_and]
  · cases begins
    have inner := mem_innerCharacters (List.mem_cons_of_mem '-' among)
    obtain ⟨noGap, noBreak, _⟩ := plain_of_mem inner
    simp [endsWord, noGap, noBreak]

/-- A word begins a plain scalar, if it begins anything. -/
theorem plain?_of_isWord {word : List Char} (isWord : IsWord word)
    (begins : word ++ rest = c :: more) (ahead : lexer.place.ahead = word ++ rest)
    (begun : lexer.token? c more = some after) : lexer.plain? = some after := by
  obtain ⟨noDash, noDot⟩ := isSeparator_word isWord ahead
  have among : c ∈ '-' :: wordCharacters := by
    obtain ⟨d, others, rfl, first, _⟩ := isWord.exists_cons
    cases begins
    exact first
  exact plain?_of_token? noDash noDot (isUnmarked_of_mem among) (not_item_of_isWord isWord begins)
    begun

end Dispatch

/-! ### Steps -/

/-- Neither blanks nor keys that are given up change the tokens or the blocks. -/
theorem kept_of_dropStaleKeys? {fuel : Nat}
    (dropped : (lexer.skipBlank fuel).dropStaleKeys? = some after) :
    after.tokens = lexer.tokens ∧ after.blocks = lexer.blocks ∧
      after.place = (lexer.skipBlank fuel).place := by
  obtain ⟨keys, _, equal⟩ := Option.bind_eq_some_iff.mp dropped
  cases equal
  obtain ⟨place, allowed, moved⟩ := lexer.skipBlank_eq fuel
  rw [moved]
  exact ⟨rfl, rfl, rfl⟩

/-- A lexer with no block open passes blanks and gives up keys that are too far behind. Then it is
at the end of the text, or goes on with a token. -/
theorem run_cases (blocks : lexer.blocks = []) (blank : IsBlankUpToSolid lexer.place.ahead)
    {fuel : Nat} {tokens : List Token} (ran : run fuel lexer = some tokens) :
    ∃ between, (lexer.skipBlank (lexer.place.ahead.length + 1)).dropStaleKeys? = some between ∧
      between.place.ahead = Json.skipSpace lexer.place.ahead ∧
      ((between.place.ahead = [] ∧
          ∃ left, between.leaveBlocks? = some left ∧ tokens = left.tokens.reverse) ∨
        ∃ c rest less after, between.place.ahead = c :: rest ∧
          between.token? c rest = some after ∧ run less after = some tokens) := by
  cases fuel with
  | zero => cases ran
  | succ fuel =>
    have passed := skipBlank_ahead (Nat.lt_succ_self _) blank
    rw [run] at ran
    obtain ⟨between, dropped, ran⟩ := Option.bind_eq_some_iff.mp ran
    obtain ⟨_, sameBlocks, samePlace⟩ := kept_of_dropStaleKeys? dropped
    rw [closeBlocks_of_nil (sameBlocks.trans blocks)] at ran
    rw [← samePlace] at passed
    refine ⟨between, dropped, ?_⟩
    dsimp only at ran
    rcases passed with passed | ⟨rest, tab⟩
    · refine ⟨passed, ?_⟩
      split at ran
      · rename_i ends
        obtain ⟨left, closed, equal⟩ := Option.bind_eq_some_iff.mp ran
        cases equal
        exact Or.inl ⟨ends, left, closed, rfl⟩
      · rename_i c rest begins
        obtain ⟨after, begun, ran⟩ := Option.bind_eq_some_iff.mp ran
        exact Or.inr ⟨c, rest, fuel, after, begins, begun, ran⟩
    · rw [tab] at ran
      obtain ⟨after, begun, _⟩ := Option.bind_eq_some_iff.mp ran
      rw [token?_tab tab] at begun
      cases begun

/-- So it is the token that a solid character begins. -/
theorem step_of_run (blocks : lexer.blocks = []) {c : Char} {rest : List Char} (solid : IsSolid c)
    (ahead : Json.skipSpace lexer.place.ahead = c :: rest) {fuel : Nat} {tokens : List Token}
    (ran : run fuel lexer = some tokens) :
    ∃ between less after,
      (lexer.skipBlank (lexer.place.ahead.length + 1)).dropStaleKeys? = some between ∧
        between.place.ahead = c :: rest ∧ between.token? c rest = some after ∧
        run less after = some tokens := by
  have blank : IsBlankUpToSolid lexer.place.ahead := by
    intro d more equal
    cases ahead.symm.trans equal
    exact solid
  obtain ⟨between, dropped, passed, ⟨ends, _⟩ | ⟨d, more, less, after, begins, begun, ran⟩⟩ :=
    run_cases blocks blank ran
  · cases (passed.trans ahead).symm.trans ends
  · cases (passed.trans ahead).symm.trans begins
    exact ⟨between, less, after, dropped, begins, begun, ran⟩

theorem tokens_dropKey? (dropped : lexer.dropKey? = some after) :
    after.tokens = lexer.tokens := by
  unfold Lexer.dropKey? at dropped
  split at dropped
  · split at dropped
    · cases dropped
    · cases dropped
      rfl
  · cases dropped
    rfl

/-- Where only blanks are left, the tokens are there. -/
theorem tokens_of_run (blocks : lexer.blocks = []) (ends : Json.skipSpace lexer.place.ahead = [])
    {fuel : Nat} {tokens : List Token} (ran : run fuel lexer = some tokens) :
    tokens = lexer.tokens.reverse := by
  have blank : IsBlankUpToSolid lexer.place.ahead := by
    intro c rest equal
    cases ends.symm.trans equal
  obtain ⟨between, dropped, passed, ⟨_, left, closed, rfl⟩ | ⟨c, rest, _, _, begins, _⟩⟩ :=
    run_cases blocks blank ran
  · obtain ⟨sameTokens, sameBlocks, _⟩ := kept_of_dropStaleKeys? dropped
    obtain ⟨unkeyed, given, equal⟩ := Option.bind_eq_some_iff.mp closed
    cases equal
    rw [closeBlocks_of_nil (sameBlocks.trans blocks)] at given
    exact congrArg List.reverse ((tokens_dropKey? given).trans sameTokens)
  · cases (passed.trans ends).symm.trans begins

/-- Blanks may be passed over inside brackets. -/
theorem Inside.skipBlank (inside : Inside depth lexer) (fuel : Nat) :
    Inside depth (lexer.skipBlank fuel) := by
  obtain ⟨place, allowed, equal⟩ := lexer.skipBlank_eq fuel
  rw [equal]
  exact ⟨inside.keys, inside.blocks, inside.first⟩

/-- Keys that are too far behind are given up. -/
theorem Inside.dropStaleKeys? (inside : Inside depth lexer)
    (dropped : lexer.dropStaleKeys? = some after) : Inside depth after := by
  obtain ⟨keys, updated, equal⟩ := Option.bind_eq_some_iff.mp dropped
  cases equal
  refine ⟨inside.keys.mapM (fun key after update start among => ?_) updated, inside.blocks,
    inside.first⟩
  split at update
  · cases update
    exact among
  · split at update
    · split at update
      · cases update
      · cases update
        cases among
    · cases update
      exact among

/-- Inside brackets the lexer goes on with the token that a solid character begins. -/
theorem Inside.step {c : Char} {rest : List Char} {fuel : Nat} {tokens : List Token}
    (inside : Inside depth lexer) (solid : IsSolid c)
    (ahead : Json.skipSpace lexer.place.ahead = c :: rest) (ran : run fuel lexer = some tokens) :
    ∃ less between after, Inside depth between ∧ between.place.ahead = c :: rest ∧
      between.token? c rest = some after ∧ run less after = some tokens := by
  obtain ⟨between, less, after, dropped, begins, begun, ran⟩ :=
    step_of_run inside.blocks solid ahead ran
  exact ⟨less, between, after, (inside.skipBlank _).dropStaleKeys? dropped, begins, begun, ran⟩

/-! ### Before the first token -/

/-- The state before the first token: nothing is open. -/
structure Untouched (lexer : Lexer) : Prop where
  keys : lexer.keys = [none]
  blocks : lexer.blocks = []
  tokens : lexer.tokens = []

theorem untouched_start (text : List Char) : Untouched (start text) :=
  ⟨rfl, rfl, rfl⟩

theorem Untouched.step {c : Char} {rest : List Char} {fuel : Nat} {tokens : List Token}
    (untouched : Untouched lexer) (solid : IsSolid c)
    (ahead : Json.skipSpace lexer.place.ahead = c :: rest) (ran : run fuel lexer = some tokens) :
    ∃ less between after, Untouched between ∧ between.place.ahead = c :: rest ∧
      between.token? c rest = some after ∧ run less after = some tokens := by
  obtain ⟨between, less, after, dropped, begins, begun, ran⟩ :=
    step_of_run untouched.blocks solid ahead ran
  obtain ⟨sameTokens, sameBlocks, _⟩ := kept_of_dropStaleKeys? dropped
  refine ⟨less, between, after, ⟨?_, sameBlocks.trans untouched.blocks,
    sameTokens.trans untouched.tokens⟩, begins, begun, ran⟩
  obtain ⟨place, allowed, moved⟩ := lexer.skipBlank_eq (lexer.place.ahead.length + 1)
  obtain ⟨keys, updated, equal⟩ := Option.bind_eq_some_iff.mp dropped
  cases equal
  rw [moved] at updated
  dsimp only at updated
  rw [untouched.keys] at updated
  exact (Option.some.inj updated).symm

/-- A file is cut from its first solid character on. -/
theorem exists_first_token {text : String} {c : Char} {rest : List Char} {tokens : List Token}
    (solid : IsSolid c) (begins : Json.skipSpace text.toList = c :: rest)
    (cut : tokens? text = some tokens) :
    ∃ less between after, Untouched between ∧ between.place.ahead = c :: rest ∧
      between.token? c rest = some after ∧ run less after = some tokens := by
  have blank : IsBlankUpToSolid text.toList := by
    intro d more equal
    cases begins.symm.trans equal
    exact solid
  unfold tokens? at cut
  dsimp only at cut
  split at cut
  · rename_i d others equal
    have noMark : isByteOrderMark d = false := (equal ▸ blank).first.1
    rw [noMark, if_neg Bool.false_ne_true, ← equal] at cut
    exact (untouched_start text.toList).step solid begins (Option.ite_none_right_eq_some.mp cut).2
  · rename_i equal
    rw [equal] at begins
    cases begins

/-- A key that begins here is in front of all tokens. -/
theorem Untouched.saveKey? (untouched : Untouched lexer) (saved : lexer.saveKey? = some after) :
    ∃ key, after = { lexer with keys := [key] } := by
  unfold Lexer.saveKey? at saved
  split at saved
  · obtain ⟨between, dropped, equal⟩ := Option.bind_eq_some_iff.mp saved
    unfold Lexer.dropKey? at dropped
    rw [untouched.keys] at dropped
    cases dropped
    cases equal
    rw [untouched.keys]
    exact ⟨_, rfl⟩
  · cases saved
    exact ⟨none, by rw [← untouched.keys]⟩

/-- A plain scalar is the only token so far, and no block is open. -/
theorem Untouched.plain? (untouched : Untouched lexer) (passed : lexer.plain? = some after) :
    ∃ indent text broken, plainScalar? false indent lexer.place = some (text, broken, after.place) ∧
      after.blocks = [] ∧ after.tokens = [.scalar .plain text] := by
  obtain ⟨between, saved, passed⟩ := Option.bind_eq_some_iff.mp passed
  obtain ⟨key, rfl⟩ := untouched.saveKey? saved
  obtain ⟨⟨text, broken, place⟩, read, equal⟩ := Option.bind_eq_some_iff.mp passed
  cases equal
  refine ⟨_, text, broken, read, untouched.blocks, ?_⟩
  exact congrArg (Token.scalar .plain text :: ·) untouched.tokens

/-- An opening bracket of a list leads inside it. -/
theorem Untouched.openBracket? (untouched : Untouched lexer)
    (opened : lexer.openBracket? .flowList = some after) :
    Inside 0 after ∧ after.place = lexer.place.skip 1 := by
  obtain ⟨between, saved, equal⟩ := Option.bind_eq_some_iff.mp opened
  obtain ⟨key, rfl⟩ := untouched.saveKey? saved
  cases equal
  refine ⟨⟨⟨[none], key, rfl, rfl, ?_⟩, untouched.blocks, ?_⟩, rfl⟩
  · exact List.forall_mem_singleton.mpr nofun
  · show (Token.flowList :: lexer.tokens).getLast? = some .flowList
    rw [untouched.tokens, List.getLast?_singleton]

/-- The closing bracket of the outermost list leaves no block open. -/
theorem Inside.ends {token : Token} (inside : Inside depth lexer)
    (closed : lexer.closeBracket? token = some after) :
    after.blocks = [] ∧ after.tokens.getLast? = some .flowList ∧
      after.place = lexer.place.skip 1 := by
  obtain ⟨between, dropped, equal⟩ := Option.bind_eq_some_iff.mp closed
  obtain ⟨kept, same⟩ := inside.dropKey? dropped
  cases equal
  exact ⟨kept.blocks, (kept.emit token between.place).first, congrArg (Place.skip 1) same⟩

end Inside

end Lexer

end Yaml

end ProxyProfile
