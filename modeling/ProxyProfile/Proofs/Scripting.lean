/-
This file proves what the script of a subscription does to the subscription and to
its list of proxies.

The script is called once, and only if it is not blank. It answers with a list and
with members of a record, and these are written over the record of the subscription.
A member that the script gives takes the place of the old one, and where it gives
none, the old one is read back from what was written for it; so the new
subscription is told field by field. Whatever goes wrong on the way, from the call
to the last field, the subscription is as it was before.
-/

import ProxyProfile.Proofs.Failing
import ProxyProfile.Proofs.Saving

namespace ProxyProfile

open Json ProxyProfile.Tree

/-! ### Objects -/

namespace Json.Object

/-- The value of the last member with a key. -/
def last? (object : Object) (key : String) : Option Value :=
  Object.get? object.reverse key

theorem get?_append (first second : Object) (key : String) :
    Object.get? (first ++ second) key = (first.get? key).or (second.get? key) := by
  induction first with
  | nil => rfl
  | cons entry rest inductionHypothesis =>
    obtain ⟨name, value⟩ := entry
    rw [List.cons_append, get?, get?]
    by_cases same : name = key
    · rw [if_pos same, if_pos same]
      rfl
    · rw [if_neg same, if_neg same]
      exact inductionHypothesis

/-- Of the members that are written, the last one with a key stays; where there is none, what
stood there stays. -/
theorem get?_insertAll (object more : Object) (key : String) :
    (object.insertAll more).get? key = (more.last? key).or (object.get? key) := by
  induction more generalizing object with
  | nil => rfl
  | cons entry rest inductionHypothesis =>
    obtain ⟨name, value⟩ := entry
    have split : last? ((name, value) :: rest) key =
        (last? rest key).or (Object.get? [(name, value)] key) := by
      unfold last?
      rw [List.reverse_cons, get?_append]
    show ((object.insert name value).insertAll rest).get? key = _
    rw [inductionHypothesis, split, Option.or_assoc]
    by_cases same : name = key
    · rw [same, get?_insert_self, get?, if_pos rfl]
      rfl
    · rw [get?_insert_of_ne object value same, get?, if_neg same]
      rfl

theorem last?_eq_none_iff (object : Object) (key : String) :
    object.last? key = none ↔ object.get? key = none := by
  unfold last?
  rw [get?_eq_none_iff, get?_eq_none_iff, keys, List.map_reverse, List.mem_reverse, keys]

theorem Distinct.insertAll {object : Object} (distinct : object.Distinct) (more : Object) :
    (object.insertAll more).Distinct := by
  induction more generalizing object with
  | nil => exact distinct
  | cons entry rest inductionHypothesis => exact inductionHypothesis (distinct.insert _ _)

end Json.Object

/-! ### Records that are written over -/

/-- A field of a record over which some members were written: what the last member with its key
means, or what it was before if there is none. -/
def Overlaid {α : Type} (Means : Value → α → Prop) (given : Json.Object) (key : String)
    (old new : α) : Prop :=
  match given.last? key with
  | some value => Means value new
  | none => new = old

section Overlay

variable {α : Type} {schema : Schema} {own given : Json.Object} {fields : Fields}

/-- A field is read to what is given for it, or to what was written for its old value. -/
theorem get_iff_overlaid (single : ∀ names ∈ schema, names.length = 1)
    (gives : Gives schema (.object (own.insertAll given)) fields) {name : String}
    (known : schema.nameOf? name = some name) {read : Tree → Option α} (write : α → Value)
    {Means : Value → α → Prop} {default old new : α}
    (means : ∀ value, read (ofValue value) = some new ↔ Means value new)
    (stands : own.get? name = some (write old)) (back : ReadsBack read write old) :
    fields.get name default read = some new ↔ Overlaid Means given name old new := by
  unfold Fields.get Overlaid
  rw [gives name, given?_object single known, Object.get?_insertAll, stands]
  cases given.last? name with
  | some value => exact means value
  | none =>
    show read (ofValue (write old)) = some new ↔ new = old
    rw [show read (ofValue (write old)) = some old from back, Option.some.injEq]
    exact eq_comm

end Overlay

theorem text?_ofValue_iff (value : Value) (text : String) :
    (ofValue value).text? = some text ↔ value = .string text := by
  constructor
  · exact carries_text value text
  · rintro rfl
    rfl

theorem flag?_ofValue_iff (value : Value) (flag : Bool) :
    (ofValue value).flag? = some flag ↔ value = .bool flag := by
  constructor
  · intro read
    cases value with
    | bool written =>
      cases read
      rfl
    | number number => cases number <;> cases read
    | _ => cases read
  · rintro rfl
    rfl

/-- A choice is given by its name, or by a member with its name that holds nothing. -/
def IsChoice (value : Value) (name : String) : Prop :=
  value = .string name ∨ value = .object [(name, .null)]

theorem choice?_ofValue_iff (value : Value) (name : String) :
    (ofValue value).choice? = some name ↔ IsChoice value name := by
  unfold IsChoice
  constructor
  · intro read
    cases value with
    | string text =>
      cases read
      exact Or.inl rfl
    | number number => cases number <;> cases read
    | object members =>
      refine Or.inr ?_
      match members with
      | [] => cases read
      | _ :: _ :: _ => cases read
      | [(key, inner)] =>
        cases inner with
        | null =>
          cases read
          rfl
        | number number => cases number <;> cases read
        | _ => cases read
    | _ => cases read
  · rintro (rfl | rfl) <;> rfl

theorem SubscriptionKind.ofName?_eq_some_iff (name : String) (kind : SubscriptionKind) :
    SubscriptionKind.ofName? name = some kind ↔ name = kind.name := by
  constructor
  · intro found
    exact (of_decide_eq_true (List.find?_some found :)).symm
  · rintro rfl
    exact SubscriptionKind.ofName?_name kind

namespace Subscription

/-! ### Subscriptions that are written over -/

theorem schema_single : ∀ names ∈ schema, names.length = 1 := by
  decide

/-- The fields of a record are read to those of a subscription. -/
structure ReadsFields (fields : Fields) (subscription : Subscription) : Prop where
  id : fields.text "id" = some subscription.id
  name : fields.text "name" = some subscription.name
  kind : fields.choice "type" .http SubscriptionKind.ofName? = some subscription.kind
  url : fields.text "url" = some subscription.url
  path : fields.text "path" = some subscription.path
  wanted : fields.text "include" = some subscription.wanted
  unwanted : fields.text "exclude" = some subscription.unwanted
  wantedProtocol : fields.text "includeProtocol" = some subscription.wantedProtocol
  unwantedProtocol : fields.text "excludeProtocol" = some subscription.unwantedProtocol
  proxyPrefix : fields.text "proxyPrefix" = some subscription.proxyPrefix
  script : fields.text "script" = some subscription.script
  disabled : fields.flag "disabled" = some subscription.disabled
  proxies : fields.list "proxies" ProxyIndex.read? = some subscription.proxies

theorem read?_eq_some_iff (tree : Tree) (subscription : Subscription) :
    Subscription.read? tree = some subscription ↔
      ∃ fields, tree.record? schema = some fields ∧ ReadsFields fields subscription := by
  unfold Subscription.read?
  constructor
  · intro read
    obtain ⟨fields, record, read⟩ := Option.bind_eq_some_iff.mp read
    obtain ⟨_, id, read⟩ := Option.bind_eq_some_iff.mp read
    obtain ⟨_, name, read⟩ := Option.bind_eq_some_iff.mp read
    obtain ⟨_, kind, read⟩ := Option.bind_eq_some_iff.mp read
    obtain ⟨_, url, read⟩ := Option.bind_eq_some_iff.mp read
    obtain ⟨_, path, read⟩ := Option.bind_eq_some_iff.mp read
    obtain ⟨_, wanted, read⟩ := Option.bind_eq_some_iff.mp read
    obtain ⟨_, unwanted, read⟩ := Option.bind_eq_some_iff.mp read
    obtain ⟨_, wantedProtocol, read⟩ := Option.bind_eq_some_iff.mp read
    obtain ⟨_, unwantedProtocol, read⟩ := Option.bind_eq_some_iff.mp read
    obtain ⟨_, proxyPrefix, read⟩ := Option.bind_eq_some_iff.mp read
    obtain ⟨_, script, read⟩ := Option.bind_eq_some_iff.mp read
    obtain ⟨_, disabled, read⟩ := Option.bind_eq_some_iff.mp read
    obtain ⟨_, proxies, read⟩ := Option.bind_eq_some_iff.mp read
    cases read
    exact ⟨fields, record, id, name, kind, url, path, wanted, unwanted, wantedProtocol,
      unwantedProtocol, proxyPrefix, script, disabled, proxies⟩
  · rintro ⟨fields, record, reads⟩
    refine Option.bind_eq_some_iff.mpr ⟨_, record, ?_⟩
    refine Option.bind_eq_some_iff.mpr ⟨_, reads.id, ?_⟩
    refine Option.bind_eq_some_iff.mpr ⟨_, reads.name, ?_⟩
    refine Option.bind_eq_some_iff.mpr ⟨_, reads.kind, ?_⟩
    refine Option.bind_eq_some_iff.mpr ⟨_, reads.url, ?_⟩
    refine Option.bind_eq_some_iff.mpr ⟨_, reads.path, ?_⟩
    refine Option.bind_eq_some_iff.mpr ⟨_, reads.wanted, ?_⟩
    refine Option.bind_eq_some_iff.mpr ⟨_, reads.unwanted, ?_⟩
    refine Option.bind_eq_some_iff.mpr ⟨_, reads.wantedProtocol, ?_⟩
    refine Option.bind_eq_some_iff.mpr ⟨_, reads.unwantedProtocol, ?_⟩
    refine Option.bind_eq_some_iff.mpr ⟨_, reads.proxyPrefix, ?_⟩
    refine Option.bind_eq_some_iff.mpr ⟨_, reads.script, ?_⟩
    refine Option.bind_eq_some_iff.mpr ⟨_, reads.disabled, ?_⟩
    refine Option.bind_eq_some_iff.mpr ⟨_, reads.proxies, ?_⟩
    rfl

/-- A text over which something was written. -/
def TextOverlaid : Json.Object → String → String → String → Prop :=
  Overlaid fun value text => value = .string text

/-- An index is given by a list of its entries. -/
def IsIndex (value : Value) (index : List ProxyIndex) : Prop :=
  ∃ documents, value = .array documents ∧
    List.Forall₂ (fun document entry => ProxyIndex.read? (ofValue document) = some entry)
      documents index

/-- A subscription over whose record some members were written. -/
structure Overlays (subscription : Subscription) (given : Json.Object) (updated : Subscription) :
    Prop where
  id : TextOverlaid given "id" subscription.id updated.id
  name : TextOverlaid given "name" subscription.name updated.name
  kind : Overlaid (fun value kind => IsChoice value kind.name) given "type" subscription.kind
    updated.kind
  url : TextOverlaid given "url" subscription.url updated.url
  path : TextOverlaid given "path" subscription.path updated.path
  wanted : TextOverlaid given "include" subscription.wanted updated.wanted
  unwanted : TextOverlaid given "exclude" subscription.unwanted updated.unwanted
  wantedProtocol : TextOverlaid given "includeProtocol" subscription.wantedProtocol
    updated.wantedProtocol
  unwantedProtocol : TextOverlaid given "excludeProtocol" subscription.unwantedProtocol
    updated.unwantedProtocol
  proxyPrefix : TextOverlaid given "proxyPrefix" subscription.proxyPrefix updated.proxyPrefix
  script : TextOverlaid given "script" subscription.script updated.script
  disabled : Overlaid (fun value flag => value = .bool flag) given "disabled"
    subscription.disabled updated.disabled
  proxies : Overlaid IsIndex given "proxies" subscription.proxies updated.proxies

/-- The members of the record of a subscription. -/
def members (subscription : Subscription) : Json.Object :=
  subscription.toJson.object?.getD []

theorem distinct_members (subscription : Subscription) : subscription.members.Distinct := by
  show (schema.filterMap List.head?).Nodup
  decide

section Overwriting

variable {subscription updated : Subscription} {given : Json.Object} {fields : Fields}

theorem text_iff_overlaid
    (gives : Gives schema (.object (subscription.members.insertAll given)) fields)
    {name old new : String} (known : schema.nameOf? name = some name)
    (stands : subscription.members.get? name = some (.string old)) :
    fields.text name = some new ↔ TextOverlaid given name old new :=
  get_iff_overlaid schema_single gives known Value.string
    (fun value => text?_ofValue_iff value new) stands rfl

theorem kind_iff_overlaid
    (gives : Gives schema (.object (subscription.members.insertAll given)) fields) :
    fields.choice "type" .http SubscriptionKind.ofName? = some updated.kind ↔
      Overlaid (fun value kind => IsChoice value kind.name) given "type" subscription.kind
        updated.kind := by
  refine get_iff_overlaid schema_single gives rfl
    (fun kind : SubscriptionKind => .string kind.name) (fun value => ?_) rfl
    (SubscriptionKind.ofName?_name subscription.kind)
  rw [Option.bind_eq_some_iff]
  constructor
  · rintro ⟨name, chosen, named⟩
    rw [(SubscriptionKind.ofName?_eq_some_iff _ _).mp named] at chosen
    exact (choice?_ofValue_iff _ _).mp chosen
  · intro chosen
    exact ⟨_, (choice?_ofValue_iff _ _).mpr chosen, SubscriptionKind.ofName?_name _⟩

theorem readsFields_iff_overlays
    (gives : Gives schema (.object (subscription.members.insertAll given)) fields) :
    ReadsFields fields updated ↔ Overlays subscription given updated := by
  have flag : fields.flag "disabled" = some updated.disabled ↔
      Overlaid (fun value flag => value = .bool flag) given "disabled" subscription.disabled
        updated.disabled :=
    get_iff_overlaid schema_single gives rfl Value.bool (fun value => flag?_ofValue_iff value _)
      rfl rfl
  have index : fields.list "proxies" ProxyIndex.read? = some updated.proxies ↔
      Overlaid IsIndex given "proxies" subscription.proxies updated.proxies :=
    get_iff_overlaid schema_single gives rfl
      (fun index => .array (index.map ProxyIndex.toJson))
      (fun value => listOf?_ofValue_iff value _) rfl
      (readsBack_list fun entry _ => entry.readsBack)
  constructor
  · intro reads
    exact
      { id := (text_iff_overlaid gives rfl rfl).mp reads.id
        name := (text_iff_overlaid gives rfl rfl).mp reads.name
        kind := (kind_iff_overlaid gives).mp reads.kind
        url := (text_iff_overlaid gives rfl rfl).mp reads.url
        path := (text_iff_overlaid gives rfl rfl).mp reads.path
        wanted := (text_iff_overlaid gives rfl rfl).mp reads.wanted
        unwanted := (text_iff_overlaid gives rfl rfl).mp reads.unwanted
        wantedProtocol := (text_iff_overlaid gives rfl rfl).mp reads.wantedProtocol
        unwantedProtocol := (text_iff_overlaid gives rfl rfl).mp reads.unwantedProtocol
        proxyPrefix := (text_iff_overlaid gives rfl rfl).mp reads.proxyPrefix
        script := (text_iff_overlaid gives rfl rfl).mp reads.script
        disabled := flag.mp reads.disabled
        proxies := index.mp reads.proxies }
  · intro overlays
    exact
      { id := (text_iff_overlaid gives rfl rfl).mpr overlays.id
        name := (text_iff_overlaid gives rfl rfl).mpr overlays.name
        kind := (kind_iff_overlaid gives).mpr overlays.kind
        url := (text_iff_overlaid gives rfl rfl).mpr overlays.url
        path := (text_iff_overlaid gives rfl rfl).mpr overlays.path
        wanted := (text_iff_overlaid gives rfl rfl).mpr overlays.wanted
        unwanted := (text_iff_overlaid gives rfl rfl).mpr overlays.unwanted
        wantedProtocol := (text_iff_overlaid gives rfl rfl).mpr overlays.wantedProtocol
        unwantedProtocol := (text_iff_overlaid gives rfl rfl).mpr overlays.unwantedProtocol
        proxyPrefix := (text_iff_overlaid gives rfl rfl).mpr overlays.proxyPrefix
        script := (text_iff_overlaid gives rfl rfl).mpr overlays.script
        disabled := flag.mpr overlays.disabled
        proxies := index.mpr overlays.proxies }

end Overwriting

/-- A subscription is overwritten if every field that is given can be read, and then to what
the fields say. -/
theorem overwrite_eq_ok_iff (subscription : Subscription) (given : Json.Object)
    (updated : Subscription) :
    subscription.overwrite given = .ok updated ↔ Overlays subscription given updated := by
  have read : Subscription.read? (ofValue (.object (subscription.members.insertAll given))) =
      some updated ↔ Overlays subscription given updated := by
    rw [read?_eq_some_iff]
    constructor
    · rintro ⟨fields, record, reads⟩
      exact (readsFields_iff_overlays (gives_of_record? record)).mp reads
    · intro overlays
      obtain ⟨fields, record⟩ :=
        exists_record? schema_single (subscription.distinct_members.insertAll given)
      exact ⟨fields, record,
        (readsFields_iff_overlays (gives_of_record? record)).mpr overlays⟩
  rw [← read]
  unfold overwrite members
  dsimp only
  split
  · rename_i other found
    rw [found, Except.ok.injEq, Option.some.injEq]
  · rename_i missing
    rw [missing]
    exact ⟨nofun, nofun⟩

theorem overwrite_eq_error {subscription : Subscription} {given : Json.Object} {error : Error}
    (fails : subscription.overwrite given = .error error) :
    error = .json ("subscription returned by " ++ subscription.name) := by
  unfold overwrite at fails
  dsimp only at fails
  split at fails <;> cases fails
  rfl

/-! ### The answer of a script -/

/-- An answer has a list of proxies and members of a record. -/
structure Answers (answer : Value) (written : List Value) (given : Json.Object) : Prop where
  proxies : answer.get? "proxies" = some (.array written)
  record : answer.get? "subscription" = some (.object given)

theorem items?_eq_some_iff (value : Value) (items : List Value) :
    value.items? = some items ↔ value = .array items := by
  cases value <;> simp [Value.items?]

theorem object?_eq_some_iff (value : Value) (members : Json.Object) :
    value.object? = some members ↔ value = .object members := by
  constructor
  · exact eq_object_of_object?
  · rintro rfl
    rfl

theorem answers_iff (answer : Value) (written : List Value) (given : Json.Object) :
    Answers answer written given ↔ (answer.get? "proxies").bind Value.items? = some written ∧
      (answer.get? "subscription").bind Value.object? = some given := by
  simp only [Option.bind_eq_some_iff, items?_eq_some_iff, object?_eq_some_iff, exists_eq_right]
  exact ⟨fun answers => ⟨answers.1, answers.2⟩, fun both => ⟨both.1, both.2⟩⟩

theorem scriptResult_of_answers {answer : Value} {written : List Value} {given : Json.Object}
    (subscription : Subscription) (answers : Answers answer written given) :
    subscription.scriptResult answer =
      (subscription.overwrite given).map fun updated => (updated, written) := by
  obtain ⟨proxies, record⟩ := (answers_iff _ _ _).mp answers
  unfold scriptResult
  rw [proxies, record]
  dsimp only
  cases subscription.overwrite given <;> rfl

theorem scriptResult_of_misshapen {answer : Value} (subscription : Subscription)
    (misshapen : ∀ written given, ¬Answers answer written given) :
    subscription.scriptResult answer = .error .wrongResult := by
  unfold scriptResult
  split
  · rename_i written given proxies record
    exact absurd ((answers_iff _ _ _).mpr ⟨proxies, record⟩) (misshapen written given)
  · rfl

/-- What a subscription and its list become by an answer that is taken over. -/
theorem answers_of_scriptResult {subscription updated : Subscription} {answer : Value}
    {written : List Value} (taken : subscription.scriptResult answer = .ok (updated, written)) :
    ∃ given, Answers answer written given ∧ Overlays subscription given updated := by
  by_cases shape : ∃ written given, Answers answer written given
  · obtain ⟨list, given, answers⟩ := shape
    rw [scriptResult_of_answers subscription answers] at taken
    cases overwrites : subscription.overwrite given with
    | error error =>
      rw [overwrites] at taken
      cases taken
    | ok other =>
      rw [overwrites] at taken
      cases taken
      exact ⟨given, answers, (overwrite_eq_ok_iff _ _ _).mp overwrites⟩
  · rw [scriptResult_of_misshapen subscription fun written given answers =>
      shape ⟨written, given, answers⟩] at taken
    cases taken

/-! ### Running a script -/

/-- How the script of a subscription ends on a list of proxies: what it gives, the subscription it
leaves behind, and the calls made so far. -/
inductive Scripted (runner : Script.Runner) (subscription : Subscription) (proxies : List Value)
    (history : List Script.Call) :
    Except Error (List Value) → Subscription → List Script.Call → Prop
  /-- A blank script is not called, and changes nothing. -/
  | blank (blank : Text.isBlankText subscription.script = true) :
    Scripted runner subscription proxies history (.ok proxies) subscription history
  /-- The call fails or does not end in time. -/
  | unanswered {failure : Script.Failure} (filled : Text.isBlankText subscription.script = false)
    (replied : runner.reply history (subscription.scriptCall proxies) = .error failure) :
    Scripted runner subscription proxies history (.error (.script failure)) subscription
      (history ++ [subscription.scriptCall proxies])
  /-- The answer has no list of proxies, or no members of a record. -/
  | misshapen {answer : Value} (filled : Text.isBlankText subscription.script = false)
    (replied : runner.reply history (subscription.scriptCall proxies) = .ok answer)
    (misshapen : ∀ written given, ¬Answers answer written given) :
    Scripted runner subscription proxies history (.error .wrongResult) subscription
      (history ++ [subscription.scriptCall proxies])
  /-- The members that are answered make no subscription. -/
  | unreadable {answer : Value} {written : List Value} {given : Json.Object}
    (filled : Text.isBlankText subscription.script = false)
    (replied : runner.reply history (subscription.scriptCall proxies) = .ok answer)
    (answers : Answers answer written given)
    (unreadable : ∀ updated, ¬Overlays subscription given updated) :
    Scripted runner subscription proxies history
      (.error (.json ("subscription returned by " ++ subscription.name))) subscription
      (history ++ [subscription.scriptCall proxies])
  /-- The answered list is the new one, and the answered members are written over the record. -/
  | merged {answer : Value} {written : List Value} {given : Json.Object} {updated : Subscription}
    (filled : Text.isBlankText subscription.script = false)
    (replied : runner.reply history (subscription.scriptCall proxies) = .ok answer)
    (answers : Answers answer written given) (overlays : Overlays subscription given updated) :
    Scripted runner subscription proxies history (.ok written) updated
      (history ++ [subscription.scriptCall proxies])

/-- A script either ends well and is merged exactly, or leaves the subscription as it was. -/
theorem scripted_runScriptInPlace (runner : Script.Runner) (subscription : Subscription)
    (proxies : List Value) (history : List Script.Call) :
    let run := ((runScriptInPlace runner proxies).run.run subscription).run history
    Scripted runner subscription proxies history run.1.1 run.1.2 run.2 := by
  dsimp only
  cases filled : Text.isBlankText subscription.script with
  | true =>
    rw [run_runScriptInPlace_of_blank runner proxies history filled]
    exact Scripted.blank filled
  | false =>
    rw [run_runScriptInPlace_of_filled runner proxies history filled]
    cases replied : runner.reply history (subscription.scriptCall proxies) with
    | error failure => exact Scripted.unanswered filled replied
    | ok answer =>
      by_cases shape : ∃ written given, Answers answer written given
      · obtain ⟨written, given, answers⟩ := shape
        simp only [Except.mapError, Except.bind, scriptResult_of_answers subscription answers]
        cases overwrites : subscription.overwrite given with
        | ok updated =>
          exact Scripted.merged filled replied answers
            ((overwrite_eq_ok_iff _ _ _).mp overwrites)
        | error error =>
          rw [overwrite_eq_error overwrites]
          refine Scripted.unreadable filled replied answers fun updated overlays => ?_
          rw [(overwrite_eq_ok_iff _ _ _).mpr overlays] at overwrites
          cases overwrites
      · have misshapen : ∀ written given, ¬Answers answer written given :=
          fun written given answers => shape ⟨written, given, answers⟩
        simp only [Except.mapError, Except.bind, scriptResult_of_misshapen subscription misshapen]
        exact Scripted.misshapen filled replied misshapen

end Subscription

end ProxyProfile
