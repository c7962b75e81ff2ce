/-
This file proves that no document that is read from a text has a key twice.

The type of documents does not insist on it, and much that is true of objects is
true only where it holds. The members of a table are written one behind the
other, and writing a key again keeps its place; so whatever stands in the text,
no table makes two members with one key. What is left are the leaves, and the
scalars of JSON and YAML never mean an object. For both formats the induction is
on the fuel of the three readers, for a value, the items of a list and the members
of a table.

Where no key stands twice, nothing is lost on the way into a tree and back: the tree
of a document stands for the document.
-/

import Mathlib.Data.List.Nodup
import ProxyProfile.Json.Reader
import ProxyProfile.Yaml.Reader

namespace ProxyProfile

namespace Json

/-! ### Documents without a key that stands twice -/

mutual

/-- Whether no object inside a document has a key twice. -/
def Value.hasDistinctKeys : Value → Bool
  | .null => true
  | .bool _ => true
  | .number _ => true
  | .string _ => true
  | .array items => itemsHaveDistinctKeys items
  | .object members => decide (Object.keys members).Nodup && membersHaveDistinctKeys members

/-- Whether all items of an array have distinct keys. -/
def itemsHaveDistinctKeys : List Value → Bool
  | [] => true
  | item :: rest => item.hasDistinctKeys && itemsHaveDistinctKeys rest

/-- Whether the values of all members of an object have distinct keys. -/
def membersHaveDistinctKeys : List (String × Value) → Bool
  | [] => true
  | (_, item) :: rest => item.hasDistinctKeys && membersHaveDistinctKeys rest

end

theorem itemsHaveDistinctKeys_iff (items : List Value) :
    itemsHaveDistinctKeys items ↔ ∀ item ∈ items, item.hasDistinctKeys := by
  induction items with
  | nil => simp [itemsHaveDistinctKeys]
  | cons item rest inductionHypothesis =>
    rw [itemsHaveDistinctKeys, Bool.and_eq_true, inductionHypothesis, List.forall_mem_cons]

theorem membersHaveDistinctKeys_iff (members : Object) :
    membersHaveDistinctKeys members ↔ ∀ member ∈ members, member.2.hasDistinctKeys := by
  induction members with
  | nil => simp [membersHaveDistinctKeys]
  | cons member rest inductionHypothesis =>
    rw [membersHaveDistinctKeys, Bool.and_eq_true, inductionHypothesis, List.forall_mem_cons]

theorem hasDistinctKeys_array (items : List Value) :
    (Value.array items).hasDistinctKeys ↔ ∀ item ∈ items, item.hasDistinctKeys := by
  rw [Value.hasDistinctKeys, itemsHaveDistinctKeys_iff]

theorem hasDistinctKeys_object (members : Object) :
    (Value.object members).hasDistinctKeys ↔
      members.Distinct ∧ ∀ member ∈ members, member.2.hasDistinctKeys := by
  rw [Value.hasDistinctKeys, Bool.and_eq_true, decide_eq_true_iff, membersHaveDistinctKeys_iff,
    Object.Distinct]

namespace Object

theorem insert_of_notMem (object : Object) (key : String) (value : Value)
    (absent : key ∉ object.keys) : object.insert key value = object ++ [(key, value)] := by
  induction object with
  | nil => rfl
  | cons entry rest inductionHypothesis =>
    obtain ⟨name, old⟩ := entry
    simp only [keys, List.map_cons, List.mem_cons, not_or] at absent
    rw [insert, if_neg (Ne.symm absent.1), inductionHypothesis absent.2, List.cons_append]

/-- Writing a member does not make a key stand twice. -/
theorem Distinct.insert {object : Object} (distinct : object.Distinct) (key : String)
    (value : Value) : (object.insert key value).Distinct := by
  unfold Distinct at distinct ⊢
  rw [keys_insert]
  by_cases present : key ∈ object.keys
  · rw [if_pos present]
    exact distinct
  · rw [if_neg present]
    refine List.nodup_append.mpr ⟨distinct, by simp, ?_⟩
    intro first among second last
    rw [List.mem_singleton.mp last]
    rintro rfl
    exact present among

theorem mem_insert {object : Object} {key : String} {value : Value} {member : String × Value}
    (among : member ∈ object.insert key value) : member = (key, value) ∨ member ∈ object := by
  induction object with
  | nil => exact Or.inl (List.mem_singleton.mp among)
  | cons entry rest inductionHypothesis =>
    obtain ⟨name, old⟩ := entry
    unfold insert at among
    by_cases same : name = key
    · rw [if_pos same] at among
      rcases List.mem_cons.mp among with first | later
      · rw [first, same]
        exact Or.inl rfl
      · exact Or.inr (List.mem_cons_of_mem _ later)
    · rw [if_neg same] at among
      rcases List.mem_cons.mp among with first | later
      · rw [first]
        exact Or.inr List.mem_cons_self
      · rcases inductionHypothesis later with written | kept
        · exact Or.inl written
        · exact Or.inr (List.mem_cons_of_mem _ kept)

end Object

/-- An object with one more member has distinct keys if the object and the value have. -/
theorem hasDistinctKeys_insert {object : Object} (distinct : (Value.object object).hasDistinctKeys)
    (key : String) {value : Value} (inner : value.hasDistinctKeys) :
    (Value.object (object.insert key value)).hasDistinctKeys := by
  rw [hasDistinctKeys_object] at distinct ⊢
  refine ⟨distinct.1.insert key value, fun member among => ?_⟩
  rcases Object.mem_insert among with rfl | kept
  · exact inner
  · exact distinct.2 member kept

end Json

open Json

/-! ### Trees -/

namespace Tree

/-- Where a tree stands for a document, the document has distinct keys. -/
def MeansDistinct (tree : Tree) : Prop :=
  ∀ value, tree.value? = some value → value.hasDistinctKeys

theorem distinct_values? {items : List Tree} (each : ∀ item ∈ items, MeansDistinct item)
    {values : List Value} (read : values? items = some values) :
    ∀ value ∈ values, value.hasDistinctKeys := by
  induction items generalizing values with
  | nil =>
    cases read
    exact fun value among => absurd among List.not_mem_nil
  | cons item rest inductionHypothesis =>
    rw [List.forall_mem_cons] at each
    simp only [values?, Option.bind_eq_bind, Option.pure_def, Option.bind_eq_some_iff,
      Option.some.injEq] at read
    obtain ⟨first, readFirst, others, readOthers, rfl⟩ := read
    exact List.forall_mem_cons.mpr
      ⟨each.1 first readFirst, inductionHypothesis each.2 readOthers⟩

theorem distinct_members? {members : List (Option String × Tree)}
    (each : ∀ member ∈ members, MeansDistinct member.2) {written object : Object}
    (distinct : (Value.object written).hasDistinctKeys)
    (read : members? members written = some object) : (Value.object object).hasDistinctKeys := by
  induction members generalizing written with
  | nil =>
    cases read
    exact distinct
  | cons member rest inductionHypothesis =>
    obtain ⟨name, item⟩ := member
    rw [List.forall_mem_cons] at each
    simp only [members?, Option.bind_eq_bind, Option.bind_eq_some_iff] at read
    obtain ⟨key, _, value, readValue, readOthers⟩ := read
    have inner := each.1 value readValue
    exact inductionHypothesis each.2 (hasDistinctKeys_insert distinct key inner) readOthers

theorem meansDistinct_broken : MeansDistinct broken :=
  fun _ read => nomatch read

theorem meansDistinct_list (form : Form) {items : List Tree}
    (each : ∀ item ∈ items, MeansDistinct item) : MeansDistinct (list form items) := by
  intro value read
  rw [value?] at read
  split at read
  · obtain ⟨values, readItems, rfl⟩ := Option.map_eq_some_iff.mp read
    rw [hasDistinctKeys_array]
    exact distinct_values? each readItems
  · cases read

theorem meansDistinct_table (form : Form) {members : List (Option String × Tree)}
    (each : ∀ member ∈ members, MeansDistinct member.2) : MeansDistinct (table form members) := by
  intro value read
  rw [value?] at read
  split at read
  · obtain ⟨object, readMembers, rfl⟩ := Option.map_eq_some_iff.mp read
    exact distinct_members? each rfl readMembers
  · cases read

/-! ### Trees of documents -/

mutual

/-- A document without a key that stands twice is what its tree stands for. -/
theorem value?_ofValue (value : Value) (distinct : value.hasDistinctKeys) :
    (ofValue value).value? = some value := by
  have untyped : looseForm.untyped = true := rfl
  cases value with
  | null => rfl
  | bool flag => rfl
  | number number =>
    cases number with
    | integer value => rfl
    | binary value => rfl
  | string text => rfl
  | array items =>
    rw [ofValue, Tree.value?, if_pos untyped, values?_ofValues items distinct]
    rfl
  | object members =>
    rw [Value.hasDistinctKeys, Bool.and_eq_true, decide_eq_true_iff] at distinct
    rw [ofValue, Tree.value?, if_pos untyped,
      members?_ofMembers members [] distinct.2 distinct.1]
    rfl

theorem values?_ofValues (items : List Value) (distinct : itemsHaveDistinctKeys items) :
    values? (ofValues items) = some items := by
  cases items with
  | nil => rfl
  | cons item rest =>
    rw [itemsHaveDistinctKeys, Bool.and_eq_true] at distinct
    rw [ofValues, values?, value?_ofValue item distinct.1, values?_ofValues rest distinct.2]
    rfl

/-- The members of an object are written one behind the other, none over another. -/
theorem members?_ofMembers (members written : Object) (inner : membersHaveDistinctKeys members)
    (distinct : (written.keys ++ Object.keys members).Nodup) :
    members? (ofMembers members) written = some (written ++ members) := by
  cases members with
  | nil => rw [ofMembers, members?, List.append_nil]
  | cons entry rest =>
    obtain ⟨key, item⟩ := entry
    rw [membersHaveDistinctKeys, Bool.and_eq_true] at inner
    rw [Object.keys, Object.keys, List.map_cons, List.nodup_middle, List.nodup_cons,
      List.mem_append, not_or] at distinct
    have moved : ((written ++ [(key, item)]).keys ++ Object.keys rest).Nodup := by
      rw [Object.keys, Object.keys, List.map_append, List.map_cons, List.map_nil,
        List.append_assoc, List.singleton_append, List.nodup_middle, List.nodup_cons,
        List.mem_append, not_or]
      exact distinct
    rw [ofMembers, members?, value?_ofValue item inner.1]
    show members? (ofMembers rest) (written.insert key item) = _
    rw [Object.insert_of_notMem written key item distinct.1.1,
      members?_ofMembers rest _ inner.2 moved, List.append_assoc, List.singleton_append]

end

mutual

/-- What the tree of any document stands for has distinct keys. -/
theorem meansDistinct_ofValue (value : Value) : MeansDistinct (ofValue value) := by
  cases value with
  | null => exact fun _ means => by cases means; rfl
  | bool flag => exact fun _ means => by cases means; rfl
  | number number => cases number <;> exact fun _ means => by cases means; rfl
  | string text => exact fun _ means => by cases means; rfl
  | array items => exact meansDistinct_list _ (meansDistinct_ofValues items)
  | object members => exact meansDistinct_table _ (meansDistinct_ofMembers members)

theorem meansDistinct_ofValues (items : List Value) :
    ∀ item ∈ ofValues items, MeansDistinct item := by
  cases items with
  | nil => exact fun _ among => absurd among List.not_mem_nil
  | cons item rest =>
    exact List.forall_mem_cons.mpr ⟨meansDistinct_ofValue item, meansDistinct_ofValues rest⟩

theorem meansDistinct_ofMembers (members : Object) :
    ∀ member ∈ ofMembers members, MeansDistinct member.2 := by
  cases members with
  | nil => exact fun _ among => absurd among List.not_mem_nil
  | cons member rest =>
    exact List.forall_mem_cons.mpr
      ⟨meansDistinct_ofValue member.2, meansDistinct_ofMembers rest⟩

end

end Tree

/-! ### JSON -/

namespace Json

theorem meansDistinct_scalarTree {value : Option Value}
    (flat : ∀ scalar, value = some scalar → scalar.hasDistinctKeys) :
    (scalarTree value).MeansDistinct := by
  cases value with
  | none => exact Tree.meansDistinct_broken
  | some scalar =>
    intro meant means
    have equal : scalar = meant := by
      cases scalar with
      | number number => cases number <;> exact Option.some.inj means
      | _ => exact Option.some.inj means
    exact equal ▸ flat scalar rfl

theorem meansDistinct_readNumber? {negative : Bool} {characters rest : List Char} {tree : Tree}
    (read : readNumber? negative characters = some (tree, rest)) : tree.MeansDistinct := by
  obtain ⟨⟨shown, _⟩, _, equal⟩ := Option.map_eq_some_iff.mp read
  cases equal
  refine meansDistinct_scalarTree fun scalar number => ?_
  obtain ⟨_, _, rfl⟩ := Option.map_eq_some_iff.mp number
  rfl

theorem meansDistinct_readWord? {word : String} {value : Value} (flat : value.hasDistinctKeys)
    {characters rest : List Char} {tree : Tree}
    (read : readWord? word value characters = some (tree, rest)) : tree.MeansDistinct := by
  obtain ⟨_, _, equal⟩ := Option.map_eq_some_iff.mp read
  cases equal
  exact meansDistinct_scalarTree fun scalar same => by cases same; exact flat

/-- What the three readers read with some fuel has distinct keys. -/
structure ReadsDistinct (fuel : Nat) : Prop where
  tree : ∀ depth characters tree rest,
    readTree fuel depth characters = some (tree, rest) → tree.MeansDistinct
  items : ∀ depth characters items rest,
    readItems fuel depth characters = some (items, rest) → ∀ item ∈ items, item.MeansDistinct
  members : ∀ depth characters members rest,
    readMembers fuel depth characters = some (members, rest) →
      ∀ member ∈ members, member.2.MeansDistinct

namespace ReadsDistinct

variable {fuel : Nat} (reads : ReadsDistinct fuel)

include reads

theorem tree_succ (depth : Nat) (characters : List Char) (tree : Tree) (rest : List Char)
    (read : readTree (fuel + 1) depth characters = some (tree, rest)) : tree.MeansDistinct := by
  unfold readTree at read
  split at read
  · cases read
  · obtain ⟨⟨text, _⟩, _, equal⟩ := Option.map_eq_some_iff.mp read
    cases equal
    refine meansDistinct_scalarTree fun scalar same => ?_
    obtain ⟨_, _, rfl⟩ := Option.map_eq_some_iff.mp same
    rfl
  · split at read
    · cases read
    · cases read
      exact Tree.meansDistinct_list _ fun _ among => absurd among List.not_mem_nil
    · obtain ⟨⟨items, _⟩, inside, equal⟩ := Option.map_eq_some_iff.mp read
      cases equal
      exact Tree.meansDistinct_list _ (reads.items _ _ _ _ inside)
  · split at read
    · cases read
    · cases read
      exact Tree.meansDistinct_table _ fun _ among => absurd among List.not_mem_nil
    · obtain ⟨⟨members, _⟩, inside, equal⟩ := Option.map_eq_some_iff.mp read
      cases equal
      exact Tree.meansDistinct_table _ (reads.members _ _ _ _ inside)
  · exact meansDistinct_readNumber? read
  · exact meansDistinct_readWord? rfl read
  · exact meansDistinct_readWord? rfl read
  · exact meansDistinct_readWord? rfl read
  · exact meansDistinct_readNumber? read

theorem items_succ (depth : Nat) (characters : List Char) (items : List Tree) (rest : List Char)
    (read : readItems (fuel + 1) depth characters = some (items, rest)) :
    ∀ item ∈ items, item.MeansDistinct := by
  unfold readItems at read
  split at read
  · cases read
  · rename_i first after inside
    have head := reads.tree _ _ _ _ inside
    split at read
    · obtain ⟨⟨others, _⟩, more, equal⟩ := Option.map_eq_some_iff.mp read
      cases equal
      exact List.forall_mem_cons.mpr ⟨head, reads.items _ _ _ _ more⟩
    · cases read
      exact List.forall_mem_singleton.mpr head
    · cases read

theorem members_succ (depth : Nat) (characters : List Char)
    (members : List (Option String × Tree)) (rest : List Char)
    (read : readMembers (fuel + 1) depth characters = some (members, rest)) :
    ∀ member ∈ members, member.2.MeansDistinct := by
  unfold readMembers at read
  split at read
  case h_2 => cases read
  split at read
  · cases read
  split at read
  case h_2 => cases read
  split at read
  · cases read
  · rename_i first after inside
    have head := reads.tree _ _ _ _ inside
    split at read
    · obtain ⟨⟨others, _⟩, more, equal⟩ := Option.map_eq_some_iff.mp read
      cases equal
      exact List.forall_mem_cons.mpr ⟨head, reads.members _ _ _ _ more⟩
    · cases read
      exact List.forall_mem_singleton.mpr head
    · cases read

end ReadsDistinct

theorem readsDistinct_zero : ReadsDistinct 0 where
  tree _ _ _ _ read := nomatch read
  items _ _ _ _ read := nomatch read
  members _ _ _ _ read := nomatch read

theorem readsDistinct (fuel : Nat) : ReadsDistinct fuel := by
  induction fuel with
  | zero => exact readsDistinct_zero
  | succ fuel reads => exact ⟨reads.tree_succ, reads.items_succ, reads.members_succ⟩

/-- No object of a document that is read has a key twice. -/
theorem hasDistinctKeys_of_parse? {text : String} {value : Value}
    (parsed : parse? text = some value) : value.hasDistinctKeys := by
  obtain ⟨tree, read, means⟩ := Option.bind_eq_some_iff.mp parsed
  unfold tree? at read
  dsimp only at read
  obtain ⟨⟨whole, after⟩, inside, read⟩ := Option.bind_eq_some_iff.mp read
  split at read
  · cases read
    exact (readsDistinct _).tree _ _ _ _ inside value means
  · cases read

end Json

/-! ### YAML -/

namespace Yaml

theorem distinct_integerValue? {characters : List Char} {value : Value}
    (means : integerValue? characters = some (some value)) : value.hasDistinctKeys := by
  unfold integerValue? at means
  split at means
  · cases means
  · split at means
    · cases means
      rfl
    · split at means <;> cases means

theorem distinct_floatValue? {text : String} {value : Value}
    (means : floatValue? text = some value) : value.hasDistinctKeys := by
  unfold floatValue? at means
  split at means
  · cases means
    rfl
  · obtain ⟨number, _, rfl⟩ := Option.map_eq_some_iff.mp means
    rfl

theorem distinct_plainValue? {text : String} {value : Value}
    (means : plainValue? text = some value) : value.hasDistinctKeys := by
  unfold plainValue? at means
  split at means
  · cases means
    rfl
  · split at means
    · cases means
      rfl
    · rename_i integer
      rw [means] at integer
      exact distinct_integerValue? integer
    · split at means
      · cases means
        rfl
      · cases float : floatValue? text with
        | none =>
          rw [float] at means
          cases means
          rfl
        | some number =>
          rw [float] at means
          cases means
          exact distinct_floatValue? float

/-- A scalar never means an object or an array. -/
theorem distinct_scalarValue? {tag : Option String} {style : Style} {text : String} {value : Value}
    (means : scalarValue? tag style text = some value) : value.hasDistinctKeys := by
  unfold scalarValue? at means
  split at means
  · cases means
  split at means
  · obtain ⟨flag, _, rfl⟩ := Option.map_eq_some_iff.mp means
    rfl
  split at means
  · exact distinct_integerValue? (Option.join_eq_some_iff.mp means)
  split at means
  · exact distinct_floatValue? means
  split at means
  · split at means
    · cases means
      rfl
    · cases means
  split at means
  · exact distinct_plainValue? means
  · cases means
    rfl

/-- What the three readers read off some events with some fuel has distinct keys. -/
structure ReadsDistinct (all : List Event) (fuel : Nat) : Prop where
  tree : ∀ depth jumps events, (treeOf all fuel depth jumps events).1.MeansDistinct
  items : ∀ depth jumps events, ∀ item ∈ (itemsOf all fuel depth jumps events).1,
    item.MeansDistinct
  members : ∀ depth jumps events, ∀ member ∈ (membersOf all fuel depth jumps events).1,
    member.2.MeansDistinct

section Readers

variable {all : List Event} {fuel : Nat}

theorem readsDistinct_zero (all : List Event) : ReadsDistinct all 0 where
  tree depth jumps events := by
    rw [treeOf]
    exact Tree.meansDistinct_broken
  items depth jumps events item among := by
    rw [itemsOf] at among
    rw [List.mem_singleton.mp among]
    exact Tree.meansDistinct_broken
  members depth jumps events member among := by
    rw [membersOf] at among
    rw [List.mem_singleton.mp among]
    exact Tree.meansDistinct_broken

namespace ReadsDistinct

variable (reads : ReadsDistinct all fuel)

include reads

theorem tree_succ (depth jumps : Nat) (events : List Event) :
    (treeOf all (fuel + 1) depth jumps events).1.MeansDistinct := by
  cases events with
  | nil =>
    rw [treeOf]
    exact Tree.meansDistinct_broken
  | cons event rest =>
    cases event with
    | «alias» number =>
      unfold treeOf
      dsimp only
      split
      · exact reads.tree _ _ _
      · exact Tree.meansDistinct_broken
    | scalar properties style text =>
      rw [treeOf]
      exact fun value means => distinct_scalarValue? means
    | startList properties =>
      cases depth with
      | zero =>
        rw [treeOf]
        exact Tree.meansDistinct_broken
      | succ depth =>
        rw [treeOf]
        exact Tree.meansDistinct_list _ (reads.items depth jumps rest)
    | startTable properties =>
      cases depth with
      | zero =>
        rw [treeOf]
        exact Tree.meansDistinct_broken
      | succ depth =>
        rw [treeOf]
        exact Tree.meansDistinct_table _ (reads.members depth jumps rest)
    | stop =>
      rw [treeOf]
      exact Tree.meansDistinct_broken

theorem items_succ (depth jumps : Nat) (events : List Event) :
    ∀ item ∈ (itemsOf all (fuel + 1) depth jumps events).1, item.MeansDistinct := by
  intro item among
  cases events with
  | nil =>
    rw [itemsOf] at among
    rw [List.mem_singleton.mp among]
    exact Tree.meansDistinct_broken
  | cons event rest =>
    by_cases stops : event = .stop
    · rw [stops, itemsOf] at among
      exact absurd among List.not_mem_nil
    · rw [itemsOf] at among
      · rcases List.mem_cons.mp among with rfl | later
        · exact reads.tree _ _ _
        · exact reads.items _ _ _ item later
      · exact fun ends => stops ends

theorem members_succ (depth jumps : Nat) (events : List Event) :
    ∀ member ∈ (membersOf all (fuel + 1) depth jumps events).1, member.2.MeansDistinct := by
  intro member among
  cases events with
  | nil =>
    rw [membersOf] at among
    rw [List.mem_singleton.mp among]
    exact Tree.meansDistinct_broken
  | cons event rest =>
    by_cases stops : event = .stop
    · rw [stops, membersOf] at among
      exact absurd among List.not_mem_nil
    · rw [membersOf] at among
      · rcases List.mem_cons.mp among with rfl | later
        · exact reads.tree _ _ _
        · exact reads.members _ _ _ member later
      · exact fun ends => stops ends

end ReadsDistinct

theorem readsDistinct (all : List Event) (fuel : Nat) : ReadsDistinct all fuel := by
  induction fuel with
  | zero => exact readsDistinct_zero all
  | succ fuel reads => exact ⟨reads.tree_succ, reads.items_succ, reads.members_succ⟩

end Readers

/-- No object of a document that is read has a key twice. -/
theorem hasDistinctKeys_of_parse? {text : String} {value : Value}
    (parsed : parse? text = some value) : value.hasDistinctKeys := by
  obtain ⟨tree, read, means⟩ := Option.bind_eq_some_iff.mp parsed
  unfold tree? at read
  simp only [Option.bind_eq_bind, Option.pure_def, Option.bind_eq_some_iff] at read
  obtain ⟨tokens, _, events, _, chosen⟩ := read
  split at chosen
  · cases chosen
    cases means
    rfl
  · cases chosen
    exact (readsDistinct events _).tree _ _ _ value means

end Yaml

end ProxyProfile
