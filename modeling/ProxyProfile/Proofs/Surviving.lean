/-
This file proves what it takes for a record to be read back from the document that is
written for it.

A reader and a writer are declared apart from each other, and nothing but a proof
keeps them together. Not every item is read back: a number may be too large for its
field, an object may have a key twice. But whatever a reader gives is read back,
because it came out of a document, and this is the property that goes from the parts
of a record to the record: a field that is given was read by the reader of its kind,
and a field that is not given has its default.

What a document gives for a field does not depend on how it is written: under one
name or the other in an object, or at its place in a list. With this, what a
document and the document written for its record have in common is put together in
the same way: field by field, item by item, and for a record that keeps what it does
not know, in all the members that are not fields.
-/

import Mathlib.Data.List.Forall2
import ProxyProfile.Proofs.Merging

namespace ProxyProfile.Tree

open Json

/-! ### What a document gives -/

namespace Schema

variable (schema : Schema)

/-- What a document gives for a field: the first member of an object with one of the field's
names, or the item of a list at the place of the field. -/
def given? (document : Value) (name : String) : Option Value :=
  match document with
  | .object members =>
    (members.find? fun member => schema.nameOf? member.1 = some name).map Prod.snd
  | .array items => ((schema.filterMap List.head?).zip items).lookup name
  | _ => none

/-- The members of an object that are not fields, in order. -/
def others (document : Value) : Object :=
  (document.object?.getD []).filter fun member => schema.nameOf? member.1 = none

end Schema

section Fields

variable {schema : Schema} {members : Object} {fields : Fields}
  {rest : List (Option String × Tree)}

/-- A field is the first member with one of its names; there is no second one. -/
theorem lookup_fieldsOf? (read : fieldsOf? schema (ofMembers members) = some (fields, rest))
    (name : String) :
    fields.lookup name = (schema.given? (.object members) name).map ofValue := by
  induction members generalizing fields rest with
  | nil =>
    cases read
    rfl
  | cons entry behind inductionHypothesis =>
    obtain ⟨key, item⟩ := entry
    rw [ofMembers, fieldsOf?] at read
    obtain ⟨_, equal, read⟩ := Option.bind_eq_some_iff.mp read
    cases equal
    obtain ⟨⟨earlier, passed⟩, reads, read⟩ := Option.bind_eq_some_iff.mp read
    have before := inductionHypothesis reads
    unfold Schema.given? at before ⊢
    dsimp only at read before ⊢
    split at read
    · rename_i unknown
      cases read
      rw [List.find?_cons_of_neg (by simp [unknown]), before]
    · rename_i field named
      split at read
      · cases read
      · cases read
        by_cases same : field = name
        · rw [List.find?_cons_of_pos (by simp [named, same]), same, List.lookup_cons_self]
          rfl
        · rw [List.find?_cons_of_neg (by simp [named, same]), List.lookup_cons,
            beq_false_of_ne (Ne.symm same), before]

theorem others_fieldsOf? (read : fieldsOf? schema (ofMembers members) = some (fields, rest)) :
    rest = ofMembers (schema.others (.object members)) := by
  induction members generalizing fields rest with
  | nil =>
    cases read
    rfl
  | cons entry behind inductionHypothesis =>
    obtain ⟨key, item⟩ := entry
    rw [ofMembers, fieldsOf?] at read
    obtain ⟨_, equal, read⟩ := Option.bind_eq_some_iff.mp read
    cases equal
    obtain ⟨⟨earlier, passed⟩, reads, read⟩ := Option.bind_eq_some_iff.mp read
    have before := inductionHypothesis reads
    unfold Schema.others Value.object? at before ⊢
    dsimp only [Option.getD_some] at read before ⊢
    split at read
    · rename_i unknown
      cases read
      rw [List.filter_cons_of_pos (by simp [unknown]), before]
      rfl
    · rename_i field named
      rw [List.filter_cons_of_neg (by simp [named]), ← before]
      split at read <;> cases read
      rfl

/-- Members that are not fields are all passed over. -/
theorem fieldsOf?_of_unknown (unknown : ∀ member ∈ members, schema.nameOf? member.1 = none) :
    fieldsOf? schema (ofMembers members) = some ([], ofMembers members) := by
  induction members with
  | nil => rfl
  | cons entry behind inductionHypothesis =>
    rw [List.forall_mem_cons] at unknown
    rw [ofMembers, fieldsOf?, inductionHypothesis unknown.2]
    simp only [Option.bind_eq_bind, Option.bind_some, unknown.1]
    rfl

end Fields

theorem lookup_zip_ofValues (names : List String) (items : List Value) (name : String) :
    (names.zip (ofValues items)).lookup name = ((names.zip items).lookup name).map ofValue := by
  induction names generalizing items with
  | nil => rfl
  | cons first behind inductionHypothesis =>
    cases items with
    | nil => rfl
    | cons item rest =>
      rw [ofValues, List.zip_cons_cons, List.zip_cons_cons, List.lookup_cons, List.lookup_cons]
      by_cases same : name = first
      · rw [same, beq_self_eq_true]
        rfl
      · rw [beq_false_of_ne same]
        exact inductionHypothesis rest

/-- The fields of a record are what its document gives for them. -/
def Gives (schema : Schema) (document : Value) (fields : Fields) : Prop :=
  ∀ name, fields.lookup name = (schema.given? document name).map ofValue

theorem gives_of_record? {schema : Schema} {document : Value} {fields : Fields}
    (read : record? schema (ofValue document) = some fields) : Gives schema document fields := by
  intro name
  cases document with
  | object members =>
    obtain ⟨⟨_, rest⟩, split, rfl⟩ := Option.map_eq_some_iff.mp read
    exact lookup_fieldsOf? split name
  | array items =>
    rw [ofValue, record?] at read
    split at read
    · cases read
      exact lookup_zip_ofValues _ items name
    · cases read
  | number number => cases number <;> cases read
  | _ => cases read

/-! ### Fields with one name -/

section Single

variable {schema : Schema} (single : ∀ names ∈ schema, names.length = 1)

include single

/-- Where no field has alternative names, a field is written with its only name. -/
theorem eq_of_nameOf? {key name : String} (known : schema.nameOf? key = some name) :
    key = name := by
  obtain ⟨names, found, first⟩ := Option.bind_eq_some_iff.mp known
  obtain ⟨only, rfl⟩ := List.length_eq_one_iff.mp (single names (List.mem_of_find?_eq_some found))
  have among := List.find?_some found
  rw [List.contains_iff_mem, List.mem_singleton] at among
  rw [among]
  exact Option.some.inj first

/-- A field is what stands at its name. -/
theorem given?_object {name : String} (known : schema.nameOf? name = some name)
    (members : Object) : schema.given? (.object members) name = members.get? name := by
  unfold Schema.given?
  dsimp only
  induction members with
  | nil => rfl
  | cons entry rest inductionHypothesis =>
    obtain ⟨key, item⟩ := entry
    by_cases same : key = name
    · rw [List.find?_cons_of_pos (by simp [same, known]), Object.get?, if_pos same]
      rfl
    · have differs : schema.nameOf? key ≠ some name := fun named =>
        same (eq_of_nameOf? single named)
      rw [List.find?_cons_of_neg (by simp [differs]), inductionHypothesis, Object.get?,
        if_neg same]

/-- An object without a key that stands twice has no field that stands twice. -/
theorem exists_fieldsOf? {members : Object} (distinct : members.Distinct) :
    ∃ fields rest, fieldsOf? schema (ofMembers members) = some (fields, rest) := by
  induction members with
  | nil => exact ⟨[], [], rfl⟩
  | cons entry behind inductionHypothesis =>
    obtain ⟨key, item⟩ := entry
    obtain ⟨fresh, distinct⟩ := List.nodup_cons.mp distinct
    obtain ⟨fields, rest, read⟩ := inductionHypothesis distinct
    rw [ofMembers, fieldsOf?, read]
    simp only [Option.bind_eq_bind, Option.bind_some]
    split
    · exact ⟨_, _, rfl⟩
    · rename_i name named
      obtain rfl := eq_of_nameOf? single named
      have absent : fields.lookup key = none := by
        rw [lookup_fieldsOf? read, given?_object single named,
          (Object.get?_eq_none_iff behind key).mpr fresh]
        rfl
      rw [absent]
      exact ⟨_, _, rfl⟩

theorem exists_record? {members : Object} (distinct : members.Distinct) :
    ∃ fields, record? schema (ofValue (.object members)) = some fields := by
  obtain ⟨fields, rest, read⟩ := exists_fieldsOf? single distinct
  exact ⟨fields, by rw [ofValue, record?, read]; rfl⟩

end Single

/-! ### Records that keep what they do not know -/

section Extra

variable {schema : Schema}

/-- The keys of what is written are keys of what was there and of what is read. -/
theorem keys_members? (Key : String → Prop) {members written object : Object}
    (read : members? (ofMembers members) written = some object)
    (before : ∀ member ∈ written, Key member.1) (each : ∀ member ∈ members, Key member.1) :
    ∀ member ∈ object, Key member.1 := by
  induction members generalizing written with
  | nil =>
    cases read
    exact before
  | cons entry behind inductionHypothesis =>
    rw [List.forall_mem_cons] at each
    rw [ofMembers, members?] at read
    obtain ⟨_, equal, read⟩ := Option.bind_eq_some_iff.mp read
    cases equal
    obtain ⟨value, _, read⟩ := Option.bind_eq_some_iff.mp read
    refine inductionHypothesis read (fun member among => ?_) each.2
    rcases Object.mem_insert among with rfl | kept
    · exact each.1
    · exact before member kept

/-- What a record keeps of a document besides its fields. -/
structure IsExtra (schema : Schema) (document : Value) (extra : Object) : Prop where
  unknown : ∀ member ∈ extra, schema.nameOf? member.1 = none
  distinct : (Value.object extra).hasDistinctKeys
  whole : document.hasDistinctKeys → extra = schema.others document

theorem distinct_others (schema : Schema) {document : Value} (distinct : document.hasDistinctKeys) :
    (Value.object (schema.others document)).hasDistinctKeys := by
  cases document with
  | object members =>
    rw [hasDistinctKeys_object] at distinct ⊢
    have part : (schema.others (.object members)).Sublist members :=
      List.filter_sublist
    exact ⟨distinct.1.sublist (part.map Prod.fst),
      fun member among => distinct.2 member (part.subset among)⟩
  | _ => rfl

theorem isExtra_of_openRecord? {document : Value} {fields : Fields} {extra : Object}
    (read : openRecord? schema (ofValue document) = some (fields, extra)) :
    Gives schema document fields ∧ IsExtra schema document extra := by
  cases document with
  | object members =>
    rw [ofValue, openRecord?] at read
    obtain ⟨⟨known, rest⟩, split, read⟩ := Option.bind_eq_some_iff.mp read
    obtain ⟨written, writes, equal⟩ := Option.bind_eq_some_iff.mp read
    cases equal
    rw [others_fieldsOf? split] at writes
    refine ⟨lookup_fieldsOf? split, ?_, ?_, ?_⟩
    · refine keys_members? (schema.nameOf? · = none) writes
        (fun _ among => absurd among List.not_mem_nil) ?_
      exact fun member among => of_decide_eq_true (List.mem_filter.mp among).2
    · exact distinct_members? (meansDistinct_ofMembers _) rfl writes
    · intro distinct
      have inner := distinct_others schema distinct
      rw [Value.hasDistinctKeys, Bool.and_eq_true, decide_eq_true_iff] at inner
      rw [members?_ofMembers _ [] inner.2 inner.1] at writes
      exact (Option.some.inj writes).symm
  | number number => cases number <;> cases read
  | _ => cases read

theorem fieldsOf?_append {known extra : Object} {fields : Fields}
    (read : fieldsOf? schema (ofMembers known) = some (fields, []))
    (unknown : ∀ member ∈ extra, schema.nameOf? member.1 = none) :
    fieldsOf? schema (ofMembers (known ++ extra)) = some (fields, ofMembers extra) := by
  induction known generalizing fields with
  | nil =>
    cases read
    exact fieldsOf?_of_unknown unknown
  | cons entry behind inductionHypothesis =>
    rw [ofMembers, fieldsOf?] at read
    obtain ⟨_, equal, read⟩ := Option.bind_eq_some_iff.mp read
    cases equal
    obtain ⟨⟨earlier, passed⟩, reads, read⟩ := Option.bind_eq_some_iff.mp read
    rw [List.cons_append, ofMembers, fieldsOf?]
    dsimp only at read
    split at read
    · cases read
    · rename_i field named
      split at read
      · cases read
      · rename_i fresh
        cases read
        simp only [Option.bind_eq_bind, Option.bind_some, inductionHypothesis reads, named,
          if_neg fresh]
        rfl

/-- Members behind the fields are read back as what is kept besides them. -/
theorem openRecord?_append (known : Object) {extra : Object} {fields : Fields}
    (read : fieldsOf? schema (ofMembers known) = some (fields, []))
    (unknown : ∀ member ∈ extra, schema.nameOf? member.1 = none)
    (distinct : (Value.object extra).hasDistinctKeys) :
    openRecord? schema (ofValue (.object (known ++ extra))) = some (fields, extra) := by
  rw [Value.hasDistinctKeys, Bool.and_eq_true, decide_eq_true_iff] at distinct
  rw [ofValue, openRecord?, fieldsOf?_append read unknown]
  simp only [Option.bind_eq_bind, Option.bind_some,
    members?_ofMembers extra [] distinct.2 distinct.1]
  rfl

theorem others_append (known : Object) {extra : Object}
    (fields : ∀ member ∈ known, schema.nameOf? member.1 = some member.1)
    (unknown : ∀ member ∈ extra, schema.nameOf? member.1 = none) :
    schema.others (.object (known ++ extra)) = extra := by
  show List.filter _ (known ++ extra) = extra
  have none : known.filter (fun member => schema.nameOf? member.1 = none) = [] :=
    List.filter_eq_nil_iff.mpr fun member among => by simp [fields member among]
  rw [List.filter_append, none, List.filter_eq_self.mpr (by simpa using unknown), List.nil_append]

end Extra

/-! ### Reading back -/

section Survival

variable {Item : Type}

/-- An item is read back from the document that is written for it. -/
def ReadsBack (read : Tree → Option Item) (write : Item → Value) (item : Item) : Prop :=
  read (ofValue (write item)) = some item

/-- Whatever is read from a document is read back from the document that is written for it. -/
def Survives (read : Tree → Option Item) (write : Item → Value) : Prop :=
  ∀ document item, read (ofValue document) = some item → ReadsBack read write item

variable {read : Tree → Option Item} {write : Item → Value}

theorem survives_natural (bits : Nat) : Survives (natural? bits) .natural := by
  intro document number given
  have small : Decimal.fits bits number := (Option.filter_eq_some_iff.mp given).2
  show (some (Int.toNat number)).filter _ = some number
  rw [Int.toNat_natCast, Option.filter_some, if_pos small]

theorem survives_integer : Survives integer? fun number => .number (.integer number) := by
  intro document number given
  have small : Decimal.fitsSigned 63 number := (Option.filter_eq_some_iff.mp given).2
  show (some number).filter _ = some number
  rw [Option.filter_some, if_pos small]

theorem survives_value : Survives value? id :=
  fun document value given => value?_ofValue value (meansDistinct_ofValue document value given)

/-- An object is read back where no key stands twice. -/
theorem readsBack_object {members : Object} (distinct : (Value.object members).hasDistinctKeys) :
    ReadsBack object? .object members := by
  rw [Value.hasDistinctKeys, Bool.and_eq_true, decide_eq_true_iff] at distinct
  exact members?_ofMembers members [] distinct.2 distinct.1

theorem survives_object : Survives object? .object := by
  intro document members given
  cases document with
  | object written =>
    exact readsBack_object (distinct_members? (meansDistinct_ofMembers written) rfl given)
  | number number => cases number <;> cases given
  | _ => cases given

/-- The items of a list are read one by one, in order. -/
theorem mapM_ofValues_iff (documents : List Value) (items : List Item) :
    (ofValues documents).mapM read = some items ↔
      List.Forall₂ (fun document item => read (ofValue document) = some item) documents items := by
  induction documents generalizing items with
  | nil =>
    show some [] = some items ↔ _
    rw [List.forall₂_nil_left_iff, Option.some.injEq, eq_comm]
  | cons document rest inductionHypothesis =>
    rw [ofValues, List.mapM_cons, List.forall₂_cons_left_iff]
    constructor
    · intro reads
      obtain ⟨item, first, reads⟩ := Option.bind_eq_some_iff.mp reads
      obtain ⟨others, behind, equal⟩ := Option.bind_eq_some_iff.mp reads
      exact ⟨item, others, first, (inductionHypothesis others).mp behind,
        (Option.some.inj equal).symm⟩
    · rintro ⟨item, others, first, behind, rfl⟩
      rw [first, (inductionHypothesis others).mpr behind]
      rfl

theorem listOf?_ofValue_iff (document : Value) (items : List Item) :
    listOf? read (ofValue document) = some items ↔ ∃ documents, document = .array documents ∧
      List.Forall₂ (fun document item => read (ofValue document) = some item) documents items := by
  constructor
  · intro reads
    cases document with
    | array documents => exact ⟨documents, rfl, (mapM_ofValues_iff documents items).mp reads⟩
    | number number => cases number <;> cases reads
    | _ => cases reads
  · rintro ⟨documents, rfl, reads⟩
    exact (mapM_ofValues_iff documents items).mpr reads

theorem readsBack_list {items : List Item} (each : ∀ item ∈ items, ReadsBack read write item) :
    ReadsBack (listOf? read) (fun items => .array (items.map write)) items := by
  show (ofValues (items.map write)).mapM read = some items
  induction items with
  | nil => rfl
  | cons item rest inductionHypothesis =>
    rw [List.forall_mem_cons] at each
    have first : read (ofValue (write item)) = some item := each.1
    rw [List.map_cons, ofValues, List.mapM_cons, first, inductionHypothesis each.2]
    rfl

theorem survives_list (survives : Survives read write) :
    Survives (listOf? read) fun items => .array (items.map write) := by
  intro document items reads
  obtain ⟨documents, rfl, related⟩ := (listOf?_ofValue_iff document items).mp reads
  have each : List.Forall₂ (fun item _ => ReadsBack read write item ∧ True) items documents :=
    (related.imp fun document item given => ⟨survives document item given, trivial⟩).flip
  exact readsBack_list ((List.forall₂_and_left _ _).mp each).1

/-- A field that was read is read back, if its default is. -/
theorem readsBack_get {schema : Schema} {document : Value} {fields : Fields}
    (gives : Gives schema document fields) {name : String} {default item : Item}
    (given : fields.get name default read = some item) (survives : Survives read write)
    (back : ReadsBack read write default) : ReadsBack read write item := by
  unfold Fields.get at given
  rw [gives name] at given
  cases found : schema.given? document name with
  | none =>
    rw [found] at given
    cases given
    exact back
  | some value =>
    rw [found] at given
    exact survives value item given

end Survival

/-! ### What documents have in common -/

section Carrying

variable {Item : Type} {read : Tree → Option Item} {write : Item → Value}
  {related : Value → Value → Prop}

/-- What a document gives for a field is related to what the other has for it. -/
def Keeps (schema : Schema) (name : String) (related : Value → Value → Prop)
    (document other : Value) : Prop :=
  ∀ given, schema.given? document name = some given →
    ∃ written, other.get? name = some written ∧ related given written

/-- Both documents are lists, and the items at each place are related. -/
def Itemwise (related : Value → Value → Prop) (document other : Value) : Prop :=
  ∃ given written, document = .array given ∧ other = .array written ∧
    List.Forall₂ related given written

/-- Both documents have the same members that are not fields, in the same order, if the first
has no key twice, as no document has that is read from a text. -/
def KeepsOthers (schema : Schema) (document other : Value) : Prop :=
  document.hasDistinctKeys → schema.others other = schema.others document

/-- Whatever is read from a document, what is written for it is related to the document. -/
def Carries (read : Tree → Option Item) (write : Item → Value)
    (related : Value → Value → Prop) : Prop :=
  ∀ document item, read (ofValue document) = some item → related document (write item)

theorem carries_text : Carries text? .string Eq := by
  intro document text given
  cases document with
  | string written =>
    cases given
    rfl
  | number number => cases number <;> cases given
  | _ => cases given

theorem carries_value :
    Carries value? id fun document other => document.hasDistinctKeys → document = other := by
  intro document value given distinct
  rw [value?_ofValue document distinct] at given
  exact Option.some.inj given

theorem carries_list (carries : Carries read write related) :
    Carries (listOf? read) (fun items => .array (items.map write)) (Itemwise related) := by
  intro document items given
  obtain ⟨documents, rfl, reads⟩ := (listOf?_ofValue_iff document items).mp given
  refine ⟨documents, items.map write, rfl, rfl, List.forall₂_map_right_iff.mpr ?_⟩
  exact reads.imp fun document item => carries document item

/-- A field that was read and is written keeps what its kind keeps. -/
theorem keeps_of_get {schema : Schema} {document other : Value} {fields : Fields}
    (gives : Gives schema document fields) {name : String} {default item : Item}
    (given : fields.get name default read = some item) (carries : Carries read write related)
    (written : other.get? name = some (write item)) : Keeps schema name related document other := by
  intro value found
  unfold Fields.get at given
  rw [gives name, found] at given
  exact ⟨write item, written, carries value item given⟩

end Carrying

end ProxyProfile.Tree
