/-
This file proves what the streams of an interpreter are read as, for all bytes.

An answer is one object with one member and nothing besides. Both sides of that are told by
the grammar of JSON and not by the reader: an object that is not of this shape, and a text
that is no object, are no answers, whatever else they are. Where there is none, the reason is
what the interpreter complains about, and that is told by places in its text: a line, and in
it the first colon and the first bracket.
-/

import ProxyProfile.Proofs.Decoding
import ProxyProfile.Proofs.Deriving
import ProxyProfile.Proofs.Relocating
import ProxyProfile.Proofs.Renaming
import ProxyProfile.Script.Envelope

namespace ProxyProfile

/-! ### Nodes that are texts -/

namespace Json

variable {fuel depth : Nat} {before rest : List Char}

theorem text?_scalarTree (value : Option Value) (text : String) :
    (scalarTree value).text? = some text ↔ value = some (.string text) := by
  cases value with
  | none => exact ⟨nofun, nofun⟩
  | some value =>
    cases value with
    | string shown => exact ⟨fun same => by cases same; rfl, fun same => by cases same; rfl⟩
    | number number => cases number <;> exact ⟨nofun, nofun⟩
    | _ => exact ⟨nofun, nofun⟩

/-- A node is read as a text exactly if it means one. -/
def IsHonest (tree : Tree) : Prop :=
  ∀ text, tree.text? = some text ↔ tree.value? = some (.string text)

theorem isHonest_scalarTree (value : Option Value) : IsHonest (scalarTree value) := by
  intro text
  rw [text?_scalarTree, value?_scalarTree]

theorem isHonest_list (trees : List Tree) : IsHonest (.list Tree.looseForm trees) := by
  refine fun text => ⟨nofun, fun valued => ?_⟩
  obtain ⟨_, _, equal⟩ := value?_list.mp valued
  cases equal

theorem isHonest_table (trees : List (Option String × Tree)) :
    IsHonest (.table Tree.looseForm trees) := by
  refine fun text => ⟨nofun, fun valued => ?_⟩
  obtain ⟨_, _, equal⟩ := value?_table.mp valued
  cases equal

theorem isHonest_of_readNumber? {negative : Bool} {tree : Tree}
    (read : readNumber? negative before = some (tree, rest)) : IsHonest tree := by
  obtain ⟨⟨shown, tail⟩, _, equal⟩ := Option.map_eq_some_iff.mp read
  cases equal
  exact isHonest_scalarTree _

theorem isHonest_of_readWord? {word : String} {value : Value} {tree : Tree}
    (read : readWord? word value before = some (tree, rest)) : IsHonest tree := by
  obtain ⟨tail, _, equal⟩ := Option.map_eq_some_iff.mp read
  cases equal
  exact isHonest_scalarTree _

/-- The nodes that the reader gives are honest. -/
theorem isHonest_of_readTree {tree : Tree} (read : readTree fuel depth before = some (tree, rest)) :
    IsHonest tree := by
  cases fuel with
  | zero => cases read
  | succ fuel =>
    have whole := read
    rw [readTree] at read
    split at read
    · cases read
    · obtain ⟨⟨shown, tail⟩, _, equal⟩ := Option.map_eq_some_iff.mp read
      cases equal
      exact isHonest_scalarTree _
    · rename_i begins
      obtain ⟨_, trees, _, rfl, _⟩ := list_of_readTree begins whole
      exact isHonest_list trees
    · rename_i begins
      obtain ⟨_, trees, _, rfl, _⟩ := table_of_readTree begins whole
      exact isHonest_table trees
    · exact isHonest_of_readNumber? read
    · exact isHonest_of_readWord? read
    · exact isHonest_of_readWord? read
    · exact isHonest_of_readWord? read
    · exact isHonest_of_readNumber? read

/-- So are those of members. -/
theorem isHonest_of_readMembers {trees : List (Option String × Tree)}
    (read : readMembers fuel depth before = some (trees, rest)) :
    ∀ member ∈ trees, IsHonest member.2 := by
  induction fuel generalizing depth before trees with
  | zero => cases read
  | succ fuel inductionHypothesis =>
    rw [readMembers] at read
    split at read
    · split at read
      · cases read
      · split at read
        · split at read
          · cases read
          · rename_i item between first
            split at read
            · obtain ⟨⟨others, tail⟩, later, equal⟩ := Option.map_eq_some_iff.mp read
              cases equal
              exact List.forall_mem_cons.mpr
                ⟨isHonest_of_readTree first, inductionHypothesis later⟩
            · cases read
              exact List.forall_mem_singleton.mpr (isHonest_of_readTree first)
            · cases read
        · cases read
    · cases read

theorem scalarTree_ne_table (value : Option Value) (form : Form)
    (trees : List (Option String × Tree)) : scalarTree value ≠ .table form trees := by
  cases value <;> exact nofun

/-- What is read as a table begins with its brace, also if the table means nothing. -/
theorem begins_of_table {form : Form} {trees : List (Option String × Tree)}
    (read : readTree fuel depth before = some (.table form trees, rest)) :
    ∃ more, skipSpace before = '\x7b' :: more := by
  cases fuel with
  | zero => cases read
  | succ fuel =>
    have whole := read
    rw [readTree] at read
    split at read
    · cases read
    · obtain ⟨_, _, equal⟩ := Option.map_eq_some_iff.mp read
      exact absurd (Prod.mk.inj equal).1 (scalarTree_ne_table _ _ _)
    · rename_i begins
      obtain ⟨_, _, _, equal, _⟩ := list_of_readTree begins whole
      cases equal
    · rename_i more begins
      exact ⟨more, begins⟩
    -- What is left are numbers and words.
    all_goals
      obtain ⟨_, _, equal⟩ := Option.map_eq_some_iff.mp read
      exact absurd (Prod.mk.inj equal).1 (scalarTree_ne_table _ _ _)

/-- The nodes of the members of a text are honest. -/
theorem isHonest_of_tree? {text : String} {form : Form} {trees : List (Option String × Tree)}
    (planted : tree? text = some (.table form trees)) :
    form = Tree.looseForm ∧ ∀ member ∈ trees, IsHonest member.2 := by
  obtain ⟨rest, reached, _⟩ := tree?_eq_some_iff.mp planted
  obtain ⟨more, begins⟩ := begins_of_table reached
  obtain ⟨_, members, _, equal, ⟨rfl, _⟩ | listed⟩ := table_of_readTree begins reached
  · cases equal
    exact ⟨rfl, List.forall_mem_nil _⟩
  · cases equal
    exact ⟨rfl, isHonest_of_readMembers listed⟩

end Json

namespace Text

/-! ### First occurrences and trimmed texts -/

/-- There is only one first occurrence. -/
theorem FirstAt.unique {mark text before after earlier later : List Char}
    (first : FirstAt mark text before after) (other : FirstAt mark text earlier later) :
    before = earlier ∧ after = later := by
  have same : before.length = earlier.length :=
    Nat.le_antisymm (first.first _ _ other.parts) (other.first _ _ first.parts)
  have parts : before ++ (mark ++ after) = earlier ++ (mark ++ later) := by
    rw [← List.append_assoc, ← List.append_assoc, ← first.parts, ← other.parts]
  obtain ⟨rfl, behind⟩ := List.append_inj parts same
  exact ⟨rfl, List.append_cancel_left behind⟩

theorem cutAt?_eq_some_iff {mark text before after : List Char} :
    cutAt? mark text = some (before, after) ↔ FirstAt mark text before after := by
  refine ⟨firstAt_of_cutAt?, fun first => ?_⟩
  cases cut : cutAt? mark text with
  | none => exact absurd ⟨before, after, first.parts.symm⟩ (not_infix_of_cutAt? cut)
  | some sides =>
    obtain ⟨rfl, rfl⟩ := first.unique (firstAt_of_cutAt? cut)
    rfl

theorem cutAt?_eq_none_iff {mark text : List Char} :
    cutAt? mark text = none ↔ ¬mark <:+: text := by
  refine ⟨not_infix_of_cutAt?, fun missing => ?_⟩
  cases cut : cutAt? mark text with
  | none => rfl
  | some sides => exact absurd ⟨_, _, (firstAt_of_cutAt? cut).parts.symm⟩ missing

/-- A list is trimmed if neither of its ends is blank. -/
theorem trimChars_of_ends {first last : Char} (between : List Char) (solidFirst : ¬isBlank first)
    (solidLast : ¬isBlank last) :
    trimChars (first :: (between ++ [last])) = first :: (between ++ [last]) := by
  unfold trimChars dropBlankEnd
  rw [List.dropWhile_cons_of_neg solidFirst, ← List.cons_append, List.reverse_append,
    List.reverse_singleton, List.singleton_append, List.dropWhile_cons_of_neg solidLast,
    List.reverse_cons, List.reverse_reverse]

/-- Trimming leaves something of a text that is not blank. -/
theorem not_isBlankText_trim {text : String} (filled : ¬isBlankText text) :
    ¬isBlankText (trim text) := by
  intro blank
  refine filled (List.all_eq_true.mpr fun c inside => ?_)
  have inner : ∀ c ∈ trimChars text.toList, isBlank c := by
    rw [isBlankText, trim, String.toList_ofList] at blank
    exact List.all_eq_true.mp blank
  rw [← blankStart_trimChars_blankEnd text.toList] at inside
  rcases List.mem_append.mp inside with inside | atEnd
  · rcases List.mem_append.mp inside with atStart | inside
    · exact isBlank_blankStart _ c atStart
    · exact inner c inside
  · exact isBlank_blankEnd _ c atEnd

end Text

namespace Script

/-! ### Answers -/

/-- Some streams hold an object with one member and nothing besides. -/
def Streams.Holds (streams : Streams) (name : String) (value : Json.Value) : Prop :=
  Json.IsText Json.nestingLimit (.object [(name, value)])
    (Text.trim (Text.decodeLossy streams.output))

/-- What the member says about a call: a value, the message of an error, or the name of a function
that is missing. -/
inductive Means : String → Json.Value → Except Failure Json.Value → Prop
  | answered (value : Json.Value) : Means "ok" value (.ok value)
  | raised (message : String) : Means "error" (.string message) (.error (.raised message))
  | missing (handler : String) :
      Means "missing" (.string handler) (.error (.missingHandler handler))

theorem envelope?_eq_some_iff {text : String} {result : Except Failure Json.Value} :
    envelope? text = some result ↔
      ∃ name value, Json.IsText Json.nestingLimit (.object [(name, value)]) text ∧
        Means name value result := by
  unfold envelope?
  constructor
  · intro answered
    split at answered
    · rename_i form name item planted
      obtain ⟨rfl, honest⟩ := Json.isHonest_of_tree? planted
      have said : ∀ {value}, item.value? = some value →
          Json.IsText Json.nestingLimit (.object [(name, value)]) text := fun valued =>
        Json.table_iff_isText.mp ⟨_, planted, .cons ⟨rfl, valued⟩ .nil⟩
      have isText := List.forall_mem_singleton.mp honest
      split at answered
      · subst name
        obtain ⟨value, valued, rfl⟩ := Option.map_eq_some_iff.mp answered
        exact ⟨"ok", value, said valued, .answered value⟩
      split at answered
      · subst name
        obtain ⟨message, shown, rfl⟩ := Option.map_eq_some_iff.mp answered
        exact ⟨"error", .string message, said ((isText message).mp shown), .raised message⟩
      split at answered
      · subst name
        obtain ⟨handler, shown, rfl⟩ := Option.map_eq_some_iff.mp answered
        exact ⟨"missing", .string handler, said ((isText handler).mp shown), .missing handler⟩
      · cases answered
    · cases answered
  · rintro ⟨name, value, object, means⟩
    obtain ⟨trees, planted, stand⟩ := Json.table_iff_isText.mpr object
    obtain _ | ⟨member, none⟩ := stand
    rename_i tree _
    obtain ⟨key, item⟩ := tree
    obtain ⟨rfl, valued⟩ := member
    cases none
    have isText := List.forall_mem_singleton.mp (Json.isHonest_of_tree? planted).2
    rw [planted]
    cases means with
    | answered value =>
      dsimp only
      rw [if_pos rfl, valued, Option.map_some]
    | raised message =>
      dsimp only
      rw [if_neg (by decide), if_pos rfl, (isText message).mpr valued, Option.map_some]
    | missing handler =>
      dsimp only
      rw [if_neg (by decide), if_neg (by decide), if_pos rfl, (isText handler).mpr valued,
        Option.map_some]

/-! ### Complaints -/

/-- What stands before a bracket behind a blank, or everything if there is none. -/
inductive BeforeBracket (head : List Char) : List Char → Prop
  | cut {name code : List Char} (first : Text.FirstAt " [".toList head name code) :
      BeforeBracket head name
  | whole (missing : ¬" [".toList <:+: head) : BeforeBracket head head

/-- A line names an error: before its first colon stands a name that ends in `Error`, with a code
in brackets or without. -/
def NamesError (line : List Char) : Prop :=
  ∃ head message name, Text.FirstAt ": ".toList line head message ∧ BeforeBracket head name ∧
    "Error".toList <:+ name ∧ ∀ c ∈ name, c.isAlphanum ∨ c = '_'

/-- The trimmed lines of a text. -/
def trimmedLines (text : String) : List String :=
  (Text.split '\n' text).map Text.trim

/-- What a text complains about: its first line that names an error, or else everything it says, or
else that it says nothing. -/
inductive Complains (errors : String) : String → Prop
  | named {earlier later : List String} {line : String}
      (lines : trimmedLines errors = earlier ++ line :: later)
      (first : ∀ other ∈ earlier, ¬NamesError other.toList) (names : NamesError line.toList) :
      Complains errors line
  | whole (nowhere : ∀ line ∈ trimmedLines errors, ¬NamesError line.toList)
      (filled : ¬Text.isBlankText errors) : Complains errors (Text.trim errors)
  | nothing (nowhere : ∀ line ∈ trimmedLines errors, ¬NamesError line.toList)
      (blank : Text.isBlankText errors) : Complains errors "no output"

theorem BeforeBracket.subset {head name : List Char} (before : BeforeBracket head name) :
    name ⊆ head := by
  cases before with
  | cut first =>
    rw [first.parts, List.append_assoc]
    exact List.subset_append_left _ _
  | whole => exact List.Subset.refl _

theorem before?_eq_some_iff {mark text before : String} :
    before? mark text = some before ↔
      ∃ after, Text.FirstAt mark.toList text.toList before.toList after := by
  unfold before?
  constructor
  · intro cut
    obtain ⟨⟨shown, after⟩, found, rfl⟩ := Option.map_eq_some_iff.mp cut
    rw [String.toList_ofList]
    exact ⟨after, Text.cutAt?_eq_some_iff.mp found⟩
  · rintro ⟨after, first⟩
    rw [Text.cutAt?_eq_some_iff.mpr first, Option.map_some, String.ofList_toList]

theorem before?_eq_none_iff {mark text : String} :
    before? mark text = none ↔ ¬mark.toList <:+: text.toList := by
  rw [before?, Option.map_eq_none_iff, Text.cutAt?_eq_none_iff]

theorem beforeBracket_iff {head name : String} :
    (before? " [" head).getD head = name ↔ BeforeBracket head.toList name.toList := by
  constructor
  · rintro rfl
    cases cut : before? " [" head with
    | none => exact .whole (before?_eq_none_iff.mp cut)
    | some name =>
      obtain ⟨code, first⟩ := before?_eq_some_iff.mp cut
      exact .cut first
  · intro before
    generalize shown : name.toList = characters at before
    cases before with
    | cut first =>
      rw [before?_eq_some_iff.mpr ⟨_, shown ▸ first⟩, Option.getD_some]
    | whole missing =>
      rw [before?_eq_none_iff.mpr missing, Option.getD_none]
      exact (String.toList_inj.mp shown).symm

theorem isErrorLine_iff (line : String) : isErrorLine line = true ↔ NamesError line.toList := by
  unfold isErrorLine
  constructor
  · intro isError
    split at isError
    · cases isError
    · rename_i head cut
      obtain ⟨message, first⟩ := before?_eq_some_iff.mp cut
      obtain ⟨ends, plain⟩ := Bool.and_eq_true_iff.mp isError
      refine ⟨head.toList, message, _, first, beforeBracket_iff.mp rfl,
        Text.endsWith_iff.mp ends, ?_⟩
      intro c inside
      have letter := List.all_eq_true.mp plain c inside
      rwa [Bool.or_eq_true, decide_eq_true_iff] at letter
  · rintro ⟨head, message, name, first, before, ends, plain⟩
    have cut : before? ": " line = some (String.ofList head) := by
      rw [before?_eq_some_iff, String.toList_ofList (l := head)]
      exact ⟨message, first⟩
    have named : (before? " [" (String.ofList head)).getD (String.ofList head) =
        String.ofList name := by
      rw [beforeBracket_iff, String.toList_ofList, String.toList_ofList]
      exact before
    rw [cut]
    dsimp only
    rw [named, Bool.and_eq_true, Text.endsWith_iff]
    have shown : (String.ofList name).toList = name := String.toList_ofList
    rw [shown]
    refine ⟨ends, List.all_eq_true.mpr fun c inside => ?_⟩
    rw [Bool.or_eq_true, decide_eq_true_iff]
    exact plain c inside

/-- Everything that is written has one complaint. -/
theorem complaint_eq_iff {errors reason : String} :
    complaint errors = reason ↔ Complains errors reason := by
  have nowhere_iff : (trimmedLines errors).find? isErrorLine = none ↔
      ∀ line ∈ trimmedLines errors, ¬NamesError line.toList := by
    simp only [List.find?_eq_none, isErrorLine_iff]
  constructor
  · rintro rfl
    unfold complaint
    dsimp only
    split
    · rename_i line found
      obtain ⟨isError, earlier, later, lines, first⟩ := List.find?_eq_some_iff_append.mp found
      refine .named lines (fun other among names => ?_) ((isErrorLine_iff line).mp isError)
      have plain := first other among
      rw [(isErrorLine_iff other).mpr names] at plain
      cases plain
    · rename_i nowhere
      split
      · rename_i blank
        exact .nothing (nowhere_iff.mp nowhere) blank
      · rename_i filled
        exact .whole (nowhere_iff.mp nowhere) filled
  · intro complains
    unfold complaint
    dsimp only
    rw [← trimmedLines]
    cases complains with
    | @named earlier later line lines first names =>
      have found : (trimmedLines errors).find? isErrorLine = some reason := by
        refine List.find?_eq_some_iff_append.mpr
          ⟨(isErrorLine_iff reason).mpr names, earlier, later, lines, fun other among => ?_⟩
        rw [Bool.not_eq_true', Bool.eq_false_iff, Ne, isErrorLine_iff]
        exact first other among
      rw [found]
    | whole nowhere filled =>
      rw [nowhere_iff.mpr nowhere]
      exact if_neg filled
    | nothing nowhere blank =>
      rw [nowhere_iff.mpr nowhere]
      exact if_pos blank

/-- No complaint is blank. -/
theorem Complains.not_blank {errors reason : String} (complains : Complains errors reason) :
    ¬Text.isBlankText reason := by
  cases complains with
  | named _ _ names =>
    intro blank
    obtain ⟨head, message, name, first, before, ends, _⟩ := names
    have named : 'E' ∈ name := ends.subset (by decide)
    have inside : 'E' ∈ reason.toList := by
      rw [first.parts]
      exact List.mem_append_left _ (List.mem_append_left _ (before.subset named))
    have empty := List.all_eq_true.mp blank 'E' inside
    exact absurd empty (by decide)
  | whole _ filled => exact Text.not_isBlankText_trim filled
  | nothing => decide

/-! ### Streams -/

/-- What streams are read as: what they say, or else the complaint about it. -/
theorem read_eq_iff {streams : Streams} {result : Except Failure Json.Value} :
    streams.read = result ↔
      (∃ name value, streams.Holds name value ∧ Means name value result) ∨
        (¬∃ name value other, streams.Holds name value ∧ Means name value other) ∧
          ∃ reason, Complains (Text.decodeLossy streams.errors) reason ∧
            result = .error (.invalidOutput reason) := by
  have held_iff {other : Except Failure Json.Value} :
      envelope? (Text.trim (Text.decodeLossy streams.output)) = some other ↔
        ∃ name value, streams.Holds name value ∧ Means name value other := envelope?_eq_some_iff
  unfold Streams.read
  cases found : envelope? (Text.trim (Text.decodeLossy streams.output)) with
  | some answer =>
    obtain ⟨name, value, held, means⟩ := held_iff.mp found
    constructor
    · rintro rfl
      exact Or.inl ⟨name, value, held, means⟩
    · rintro (answered | ⟨silent, _⟩)
      · exact Option.some.inj (found.symm.trans (held_iff.mpr answered))
      · exact absurd ⟨name, value, answer, held, means⟩ silent
  | none =>
    have silent : ¬∃ name value other, streams.Holds name value ∧ Means name value other := by
      rintro ⟨name, value, other, held, means⟩
      rw [held_iff.mpr ⟨name, value, held, means⟩] at found
      cases found
    constructor
    · rintro rfl
      exact Or.inr ⟨silent, _, complaint_eq_iff.mp rfl, rfl⟩
    · rintro (⟨name, value, held, means⟩ | ⟨_, reason, complains, rfl⟩)
      · exact absurd ⟨name, value, result, held, means⟩ silent
      · dsimp only
        rw [complaint_eq_iff.mpr complains]

/-- What some streams say is what they are read as, and nothing else is read so. -/
theorem read_eq_iff_holds {streams : Streams} {name : String} {value : Json.Value}
    {result : Except Failure Json.Value} (means : Means name value result) :
    streams.read = result ↔ streams.Holds name value := by
  rw [read_eq_iff]
  constructor
  · rintro (⟨other, shown, held, same⟩ | ⟨_, reason, _, rfl⟩)
    · cases means <;> cases same <;> exact held
    · cases means
  · exact fun held => Or.inl ⟨name, value, held, means⟩

/-- The text of an object with one member holds that, whatever blanks are in it. -/
theorem holds_spaced (spacing : Json.Spacing) (name : String) (value : Json.Value)
    (errors : ByteArray) (plain : value.isPlain) (shallow : value.nesting ≤ 126) :
    Streams.Holds
      ⟨(String.ofList ((Json.Value.object [(name, value)]).spaced spacing 0)).toUTF8, errors⟩
      name value := by
  have storable : (Json.Value.object [(name, value)]).Storable := by
    refine ⟨?_, ?_⟩
    · simpa [Json.Value.isPlain, Json.haveMembersPlain, Json.Object.keys] using plain
    · rw [Json.Value.nesting, Json.nestingOfMembers, Json.nestingOfMembers, Nat.max_zero]
      exact Nat.succ_le_succ shallow
  obtain ⟨between, shown⟩ : ∃ between,
      (Json.Value.object [(name, value)]).spaced spacing 0 = '\x7b' :: (between ++ ['\x7d']) :=
    ⟨_, rfl⟩
  have planted := Json.tree?_spaced spacing _ storable
  have valued := Tree.value?_ofValue value (Json.hasDistinctKeys_of_isPlain value plain)
  unfold Streams.Holds
  dsimp only
  rw [Text.decodeLossy_toUTF8, Text.trim, String.toList_ofList]
  rw [shown] at planted ⊢
  rw [Text.trimChars_of_ends between (by decide) (by decide)]
  exact Json.table_iff_isText.mp ⟨_, planted, .cons ⟨rfl, valued⟩ .nil⟩

/-- What an interpreter answers is read for all streams. An answer, an error and a missing function
are told exactly where the output is one object with one member that says so; everything else is
told with what the interpreter complains about, which is never blank. So an answer gets through
whatever is complained about. -/
theorem read_streams :
    (∀ (streams : Streams) (value : Json.Value),
      streams.read = .ok value ↔ streams.Holds "ok" value) ∧
    (∀ (streams : Streams) (message : String),
      streams.read = .error (.raised message) ↔ streams.Holds "error" (.string message)) ∧
    (∀ (streams : Streams) (handler : String),
      streams.read = .error (.missingHandler handler) ↔
        streams.Holds "missing" (.string handler)) ∧
    (∀ streams : Streams, (∀ value, ¬streams.Holds "ok" value) →
      (∀ message, ¬streams.Holds "error" (.string message)) →
      (∀ handler, ¬streams.Holds "missing" (.string handler)) →
      ∃ reason, streams.read = .error (.invalidOutput reason) ∧
        Complains (Text.decodeLossy streams.errors) reason ∧ ¬Text.isBlankText reason) ∧
    ∀ (spacing : Json.Spacing) (value : Json.Value) (errors : ByteArray), value.isPlain →
      value.nesting ≤ 126 →
        Streams.read
          ⟨(String.ofList ((Json.Value.object [("ok", value)]).spaced spacing 0)).toUTF8, errors⟩ =
            .ok value := by
  refine ⟨fun _ value => read_eq_iff_holds (.answered value),
    fun _ message => read_eq_iff_holds (.raised message),
    fun _ handler => read_eq_iff_holds (.missing handler),
    fun streams noAnswer noError noMissing => ?_, fun spacing value errors plain shallow => ?_⟩
  · have silent : ¬∃ name value other, streams.Holds name value ∧ Means name value other := by
      rintro ⟨name, value, other, held, means⟩
      cases means with
      | answered => exact noAnswer _ held
      | raised => exact noError _ held
      | missing => exact noMissing _ held
    have complains := complaint_eq_iff.mp (rfl : complaint (Text.decodeLossy streams.errors) = _)
    exact ⟨_, read_eq_iff.mpr (Or.inr ⟨silent, _, complains, rfl⟩), complains,
      complains.not_blank⟩
  · exact (read_eq_iff_holds (.answered value)).mpr
      (holds_spaced spacing "ok" value errors plain shallow)

/-- An interpreter that says nothing, but complains. -/
def complaining : Streams where
  output := "".toUTF8
  errors := "at [eval]\n  SyntaxError [E1]: no \n".toUTF8

/-- It is read as its complaint, and what it complains about does no harm to an answer. -/
theorem read_streams_complaining :
    ((∀ value, ¬complaining.Holds "ok" value) ∧
      (∀ message, ¬complaining.Holds "error" (.string message)) ∧
      (∀ handler, ¬complaining.Holds "missing" (.string handler)) ∧
      ∃ reason, complaining.read = .error (.invalidOutput reason) ∧
        Complains (Text.decodeLossy complaining.errors) reason ∧ ¬Text.isBlankText reason) ∧
    ∃ value : Json.Value, value.isPlain ∧ value.nesting ≤ 126 ∧
      Streams.read
        ⟨(String.ofList ((Json.Value.object [("ok", value)]).spaced .compact 0)).toUTF8,
          complaining.errors⟩ = .ok value := by
  have silent (name : String) (value : Json.Value) : ¬complaining.Holds name value := by
    intro held
    unfold Streams.Holds complaining at held
    dsimp only at held
    rw [Text.decodeLossy_toUTF8] at held
    obtain ⟨trees, planted, _⟩ := Json.table_iff_isText.mpr held
    cases planted
  refine ⟨⟨silent "ok", fun _ => silent _ _, fun _ => silent _ _, ?_⟩,
    .array [.number (.integer (-3)), .null], rfl, by decide, ?_⟩
  · exact read_streams.2.2.2.1 complaining (silent "ok") (fun _ => silent _ _) fun _ => silent _ _
  · exact read_streams.2.2.2.2 .compact _ complaining.errors rfl (by decide)

end Script

end ProxyProfile
