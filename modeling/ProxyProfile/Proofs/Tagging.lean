/-
This file says which proxies bring a selection down.

The filters take any document for a proxy: what has no tag, or cannot have one,
is asked about with the empty text. The prefix is less patient. It is written into
every proxy that the filters let through and that does not begin with it, and
a text, a number, a truth value or a list has no place for it. So a selection
ends in a list or in the error of a filter, unless a prefix is wanted, both
filters accept the empty text, and one such value is among the proxies. Then it
breaks off: `untaggable` is the one error that is not an answer to the user but
stands for the end of the whole program.

An update selects what the plugins have made of a fetched body, and neither they
nor the check for other programs' lists ask whether an entry is an object. No
other step of an update can end that way.
-/

import ProxyProfile.Proofs.Ingestion
import ProxyProfile.Proofs.Strictness

namespace ProxyProfile.Subscription

/-! ### Values without a place for a tag -/

/-- A value that can be given a tag: an object, or null, which becomes one. -/
def isTaggable : Json.Value → Bool
  | .object _ => true
  | .null => true
  | _ => false

theorem withTag_eq_error_iff (tag : String) (proxy : Json.Value) (error : Error) :
    withTag tag proxy = .error error ↔ error = .untaggable ∧ isTaggable proxy = false := by
  cases proxy <;> simp [withTag, isTaggable, eq_comm]

/-- Where a tag has no place, the empty text stands in for everything that is looked for. -/
theorem textAt_of_not_taggable {proxy : Json.Value} (bare : isTaggable proxy = false)
    (key : String) : proxy.textAt key = "" := by
  cases proxy with
  | object members => cases bare
  | _ => rfl

theorem dropStart?_empty_isSome (start : String) :
    (Text.dropStart? start.toList "".toList).isSome = decide (start = "") := by
  by_cases empty : start = ""
  · subst empty
    rfl
  · have filled : start.toList ≠ [] := fun nil => empty (String.toList_eq_nil_iff.mp nil)
    obtain ⟨first, rest, begins⟩ := List.exists_cons_of_ne_nil filled
    rw [begins, decide_eq_false empty]
    rfl

/-- A prefix is refused by exactly those values that have no place for a tag. -/
theorem addPrefix_eq_error_iff (start : String) (proxy : Json.Value) (error : Error) :
    addPrefix start proxy = .error error ↔
      error = .untaggable ∧ start ≠ "" ∧ isTaggable proxy = false := by
  unfold addPrefix
  by_cases bare : isTaggable proxy = false
  · simp only [textAt_of_not_taggable bare, dropStart?_empty_isSome]
    by_cases empty : start = ""
    · simp [empty]
    · simp [empty, withTag_eq_error_iff, bare]
  · simp only
    split
    · simp [bare]
    · simp [withTag_eq_error_iff, bare]

/-- A value without a place for a tag passes the filters if they accept the empty text. -/
theorem passes_of_not_taggable (tags types : Pattern.Filter) {proxy : Json.Value}
    (bare : isTaggable proxy = false) :
    passes tags types proxy = (tags.accepts "" && types.accepts "") := by
  unfold passes
  rw [textAt_of_not_taggable bare, textAt_of_not_taggable bare]

/-! ### Selections -/

/-- A selection cannot come to an end: there is a prefix to be written, the filters let through
what has no tag, and a value without a place for one is among the proxies. -/
structure BreaksOff (subscription : Subscription) (proxies : List Json.Value) : Prop where
  prefixed : subscription.proxyPrefix ≠ ""
  accepting : ∃ tags types, subscription.tagFilter = .ok tags ∧
    subscription.typeFilter = .ok types ∧ tags.accepts "" ∧ types.accepts ""
  bare : ∃ proxy ∈ proxies, isTaggable proxy = false

theorem exists_of_tagFilter_error {subscription : Subscription} {error : Error}
    (failed : subscription.tagFilter = .error error) :
    ∃ field, error = .filter subscription.name field := by
  unfold tagFilter at failed
  split at failed
  · cases failed
  · cases failed
    exact ⟨.wanted, rfl⟩
  · cases failed
    exact ⟨.unwanted, rfl⟩

theorem exists_of_typeFilter_error {subscription : Subscription} {error : Error}
    (failed : subscription.typeFilter = .error error) :
    ∃ field, error = .filter subscription.name field := by
  unfold typeFilter at failed
  split at failed
  · cases failed
  · cases failed
    exact ⟨.wantedProtocol, rfl⟩
  · cases failed
    exact ⟨.unwantedProtocol, rfl⟩

theorem exists_of_mapM_ok {Item Value : Type} {compute : Item → Except Error Value}
    {items : List Item} {values : List Value} (success : items.mapM compute = .ok values) :
    ∀ item ∈ items, ∃ value, compute item = .ok value := by
  induction items generalizing values with
  | nil => exact fun item among => absurd among List.not_mem_nil
  | cons first rest inductionHypothesis =>
    rw [List.mapM_cons] at success
    cases head : compute first with
    | error error =>
      rw [head] at success
      cases success
    | ok value =>
      rw [head] at success
      cases tail : rest.mapM compute with
      | error error =>
        rw [tail] at success
        cases success
      | ok others =>
        intro item among
        rcases List.mem_cons.mp among with rfl | later
        · exact ⟨value, head⟩
        · exact inductionHypothesis tail item later

/-- Writing a prefix into some proxies fails exactly if there is one and some of them has no place
for it. -/
theorem mapM_addPrefix_eq_error_iff (start : String) (proxies : List Json.Value) (error : Error) :
    proxies.mapM (addPrefix start) = .error error ↔
      error = .untaggable ∧ start ≠ "" ∧ ∃ proxy ∈ proxies, isTaggable proxy = false := by
  constructor
  · intro failed
    obtain ⟨proxy, among, refused⟩ := Kernel.exists_of_mapM_error failed
    obtain ⟨reason, filled, bare⟩ := (addPrefix_eq_error_iff start proxy error).mp refused
    exact ⟨reason, filled, proxy, among, bare⟩
  · rintro ⟨rfl, filled, proxy, among, bare⟩
    have refused := (addPrefix_eq_error_iff start proxy .untaggable).mpr ⟨rfl, filled, bare⟩
    cases outcome : proxies.mapM (addPrefix start) with
    | ok values =>
      obtain ⟨value, given⟩ := exists_of_mapM_ok outcome proxy among
      rw [refused] at given
      cases given
    | error reason =>
      obtain ⟨other, _, failed⟩ := Kernel.exists_of_mapM_error outcome
      rw [((addPrefix_eq_error_iff start other reason).mp failed).1]

/-- A selection fails for a pattern that is none, or because it cannot come to an end. -/
theorem select_eq_error {subscription : Subscription} {proxies : List Json.Value} {error : Error}
    (failed : subscription.select proxies = .error error) :
    (∃ field, error = .filter subscription.name field) ∨
      error = .untaggable ∧ BreaksOff subscription proxies := by
  unfold select at failed
  cases tagged : subscription.tagFilter with
  | error reason =>
    rw [tagged] at failed
    cases failed
    exact Or.inl (exists_of_tagFilter_error tagged)
  | ok tags =>
    cases typed : subscription.typeFilter with
    | error reason =>
      rw [tagged, typed] at failed
      cases failed
      exact Or.inl (exists_of_typeFilter_error typed)
    | ok types =>
      rw [tagged, typed] at failed
      obtain ⟨reason, filled, proxy, kept, bare⟩ :=
        (mapM_addPrefix_eq_error_iff _ _ _).mp failed
      obtain ⟨among, passed⟩ := List.mem_filter.mp kept
      rw [passes_of_not_taggable tags types bare, Bool.and_eq_true] at passed
      exact Or.inr ⟨reason, filled, ⟨tags, types, tagged, typed, passed⟩, proxy, among, bare⟩

theorem BreaksOff.select {subscription : Subscription} {proxies : List Json.Value}
    (breaks : BreaksOff subscription proxies) :
    subscription.select proxies = .error .untaggable := by
  obtain ⟨tags, types, tagged, typed, tagless, typeless⟩ := breaks.accepting
  obtain ⟨proxy, among, bare⟩ := breaks.bare
  unfold Subscription.select
  rw [tagged, typed]
  refine (mapM_addPrefix_eq_error_iff _ _ _).mpr ⟨rfl, breaks.prefixed, proxy, ?_, bare⟩
  refine List.mem_filter.mpr ⟨among, ?_⟩
  rw [passes_of_not_taggable tags types bare, tagless, typeless]
  rfl

/-- A selection that cannot come to an end is told by its error. -/
theorem select_eq_untaggable_iff (subscription : Subscription) (proxies : List Json.Value) :
    subscription.select proxies = .error .untaggable ↔ BreaksOff subscription proxies := by
  refine ⟨fun failed => ?_, BreaksOff.select⟩
  rcases select_eq_error failed with ⟨field, other⟩ | ⟨_, breaks⟩
  · cases other
  · exact breaks

/-! ### Updates -/

/-- The proxies that the filters of a subscription get: those of the body behind the plugins, if
they are in the kernel's form. -/
def Reaches (host : Host) (subscription : Subscription) (body : String)
    (history : List Script.Call) (proxies : List Json.Value) : Prop :=
  subscription.kind ≠ .manual ∧
    ∃ fetched calls, parseBody body subscription.kind = .ok fetched ∧
      (host.onSubscribe fetched subscription).run.run history = (.ok proxies, calls) ∧
      ensureConverted proxies = .ok ()

theorem parseBody_ne_untaggable (body : String) (kind : SubscriptionKind) :
    parseBody body kind ≠ .error .untaggable := by
  unfold parseBody
  split
  · nofun
  · nofun
  · split
    · nofun
    · split
      · split <;> nofun
      · nofun

theorem failsWith_onSubscribe (host : Host) (fetched : List Json.Value)
    (subscription : Subscription) :
    Run.FailsWith (· ≠ .untaggable) (host.onSubscribe fetched subscription) := by
  unfold Host.onSubscribe
  induction host.registry.eligible .subscribe generalizing fetched with
  | nil => exact Run.failsWith_pure fetched
  | cons recipient rest inductionHypothesis =>
    obtain ⟨plugin, code⟩ := recipient
    refine Run.failsWith_bind (Run.failsWith_ask _ _ fun _ => nofun) fun answer => ?_
    cases answered : Host.answeredProxies plugin subscription.kind answer with
    | ok proxies => exact inductionHypothesis proxies
    | error error =>
      refine Run.failsWith_throw ?_
      unfold Host.answeredProxies at answered
      split at answered
      · cases answered
      · split at answered
        · cases answered
        · cases answered
          nofun
      · cases answered
        nofun

theorem failsWith_runScript (runner : Script.Runner) (subscription : Subscription)
    (proxies : List Json.Value) :
    Run.FailsWith (· ≠ .untaggable) (runScript runner subscription proxies) := by
  intro history calls error ran
  cases filled : Text.isBlankText subscription.script with
  | true =>
    rw [run_runScript_of_blank runner proxies history filled] at ran
    cases ran
  | false =>
    rw [run_runScript_of_filled runner proxies history filled] at ran
    obtain ⟨taken, _⟩ := Prod.mk.inj ran
    cases replied : runner.reply history (subscription.scriptCall proxies) with
    | error failure =>
      rw [replied] at taken
      cases taken
      nofun
    | ok answer =>
      rw [replied] at taken
      simp only [Except.mapError, Except.bind] at taken
      unfold scriptResult at taken
      split at taken
      · rename_i given _
        unfold overwrite at taken
        dsimp only at taken
        split at taken
        · cases taken
        · cases taken
          nofun
      · cases taken
        nofun

theorem ensureConverted_ne_untaggable (proxies : List Json.Value) :
    ensureConverted proxies ≠ .error .untaggable := by
  unfold ensureConverted
  dsimp only
  split <;> nofun

/-- Some proxies bring the check behind the plugins down if they are in the kernel's form and their
selection cannot come to an end. -/
theorem screen_untaggable_iff (subscription : Subscription) (proxies : List Json.Value) :
    (do
      ensureConverted proxies
      if subscription.kind = .manual then return proxies
      else subscription.select proxies : Except Error (List Json.Value)) = .error .untaggable ↔
      subscription.kind ≠ .manual ∧ ensureConverted proxies = .ok () ∧
        BreaksOff subscription proxies := by
  cases converted : ensureConverted proxies with
  | error error =>
    refine ⟨fun failed => ?_, fun ⟨_, form, _⟩ => nomatch form⟩
    cases failed
    exact absurd converted (ensureConverted_ne_untaggable proxies)
  | ok _ =>
    show (if subscription.kind = .manual then .ok proxies else subscription.select proxies) = _ ↔ _
    by_cases manual : subscription.kind = .manual
    · rw [if_pos manual]
      exact ⟨nofun, fun ⟨other, _⟩ => absurd manual other⟩
    · rw [if_neg manual, select_eq_untaggable_iff]
      exact ⟨fun breaks => ⟨manual, rfl, breaks⟩, fun ⟨_, _, breaks⟩ => breaks⟩

/-- The preparation of proxies breaks off exactly if they reach a selection that does. -/
theorem prepare_untaggable_iff (host : Host) (subscription : Subscription) (body : String)
    (history : List Script.Call) :
    ((prepare host subscription body).run.run history).1 = .error .untaggable ↔
      ∃ proxies, Reaches host subscription body history proxies ∧
        BreaksOff subscription proxies := by
  have parses : Run.FailsWith (· ≠ .untaggable)
      (liftM (parseBody body subscription.kind) : Run (List Json.Value)) :=
    Run.failsWith_lift fun error failed same =>
      parseBody_ne_untaggable body subscription.kind (same ▸ failed)
  unfold prepare Reaches
  rw [Run.error_bind_iff parses]
  constructor
  · rintro ⟨fetched, _, parsed, failed⟩
    rw [Run.run_lift] at parsed
    obtain ⟨read, rfl⟩ := Prod.mk.inj parsed
    rw [Run.error_bind_iff (failsWith_onSubscribe host fetched subscription)] at failed
    obtain ⟨proxies, calls, handed, failed⟩ := failed
    rw [Run.run_lift, screen_untaggable_iff] at failed
    obtain ⟨fetchedBody, converted, breaks⟩ := failed
    exact ⟨proxies, ⟨fetchedBody, fetched, calls, read, handed, converted⟩, breaks⟩
  · rintro ⟨proxies, ⟨fetchedBody, fetched, calls, parsed, handed, converted⟩, breaks⟩
    refine ⟨fetched, history, by rw [Run.run_lift, parsed], ?_⟩
    rw [Run.error_bind_iff (failsWith_onSubscribe host fetched subscription)]
    refine ⟨proxies, calls, handed, ?_⟩
    rw [Run.run_lift, screen_untaggable_iff]
    exact ⟨fetchedBody, converted, breaks⟩

/-- An update breaks off exactly if its selection does. -/
theorem ingest_untaggable_iff {σ : Type} [Storage σ] (host : Host) (storage : σ)
    (subscription : Subscription) (body : String) (history : List Script.Call) :
    ((ingest host storage subscription body).run history).1.result = .error .untaggable ↔
      ∃ proxies, Reaches host subscription body history proxies ∧
        BreaksOff subscription proxies := by
  rw [← prepare_untaggable_iff, run_ingest]
  generalize (prepare host subscription body).run.run history = prepares
  obtain ⟨_ | prepared, between⟩ := prepares
  · exact Iff.rfl
  dsimp only
  refine ⟨fun failed => ?_, nofun⟩
  -- Behind the preparation only the script and the storage can fail.
  generalize scripted :
    (runScript host.runner (subscription.refreshIndex prepared) prepared).run.run between =
      scripts at failed
  obtain ⟨reason | ⟨updated, written⟩, after⟩ := scripts
  · obtain rfl : reason = .untaggable := Except.error.inj failed
    exact absurd rfl (failsWith_runScript _ _ _ _ _ _ scripted)
  · unfold writeList at failed
    dsimp only at failed
    split at failed <;> cases failed

/-! ### Selections that end and selections that do not -/

/-- A selection ends in a list or in the error of a filter, unless it cannot come to an end, and
this is also the one way in which an update does not end. -/
theorem breaksOff_iff {σ : Type} [Storage σ] (host : Host) (storage : σ)
    (subscription : Subscription) (history : List Script.Call) :
    (∀ proxies, subscription.select proxies = .error .untaggable ↔
        BreaksOff subscription proxies) ∧
      (∀ proxies, ¬ BreaksOff subscription proxies →
        (∃ kept, subscription.select proxies = .ok kept) ∨
          ∃ field, subscription.select proxies = .error (.filter subscription.name field)) ∧
      ∀ body, ((ingest host storage subscription body).run history).1.result =
          .error .untaggable ↔
        ∃ proxies, Reaches host subscription body history proxies ∧
          BreaksOff subscription proxies := by
  refine ⟨select_eq_untaggable_iff subscription, fun proxies ends => ?_,
    fun body => ingest_untaggable_iff host storage subscription body history⟩
  cases outcome : subscription.select proxies with
  | ok kept => exact Or.inl ⟨kept, rfl⟩
  | error error =>
    rcases select_eq_error outcome with ⟨field, rfl⟩ | ⟨_, breaks⟩
    · exact Or.inr ⟨field, rfl⟩
    · exact absurd breaks ends

/-- A subscription with a prefix and without filters. -/
def prefixing : Subscription :=
  { id := "sub", path := "./sub.json", proxyPrefix := "P-" }

/-- A body whose only entry is a text. -/
def bodyOfText : Json.Value :=
  .object [("outbounds", .array [.string "x"])]

theorem parseBody_bodyOfText (kind : SubscriptionKind) :
    parseBody bodyOfText.compact kind = .ok [.string "x"] := by
  unfold parseBody kernelList?
  rw [Json.parse?_compact bodyOfText ⟨by decide, by decide⟩]
  rfl

theorem breaksOff_prefixing : BreaksOff prefixing [.string "x"] where
  prefixed := by decide
  accepting := ⟨⟨none, none⟩, ⟨none, none⟩, rfl, rfl, rfl, rfl⟩
  bare := ⟨_, List.mem_singleton_self _, rfl⟩

theorem reaches_bodyOfText :
    Reaches Kernel.silentHost prefixing bodyOfText.compact [] [.string "x"] :=
  ⟨by decide, [.string "x"], [], parseBody_bodyOfText _, rfl, rfl⟩

/-- A list without bare values is selected, with the prefix in front of its tags; a body with one
brings the update down. -/
theorem breaksOff_iff_prefixing :
    ¬ BreaksOff prefixing [.object [("tag", .string "A")], .null] ∧
      ((∃ kept, prefixing.select [.object [("tag", .string "A")], .null] = .ok kept) ∨
        ∃ field, prefixing.select [.object [("tag", .string "A")], .null] =
          .error (.filter prefixing.name field)) ∧
      prefixing.select [.string "x"] = .error .untaggable ∧
      ((ingest Kernel.silentHost ({} : Memory) prefixing bodyOfText.compact).run []).1.result =
        .error .untaggable := by
  obtain ⟨breaks, ends, updates⟩ :=
    breaksOff_iff Kernel.silentHost ({} : Memory) prefixing []
  have tagged : ¬ BreaksOff prefixing [.object [("tag", .string "A")], .null] := by
    rintro ⟨_, _, proxy, among, bare⟩
    rcases List.mem_cons.mp among with rfl | last
    · cases bare
    · rw [List.mem_singleton.mp last] at bare
      cases bare
  exact ⟨tagged, ends _ tagged, (breaks _).mpr breaksOff_prefixing,
    (updates _).mpr ⟨_, reaches_bodyOfText, breaksOff_prefixing⟩⟩

/-- One text among the entries of a body, and a prefix: the selection gives neither a list nor the
error of a filter, and the update breaks off although the subscription is not written by hand. -/
theorem not_selected_bodyOfText :
    prefixing.kind ≠ .manual ∧
      ¬ ((∃ kept, prefixing.select [.string "x"] = .ok kept) ∨
        ∃ field, prefixing.select [.string "x"] = .error (.filter prefixing.name field)) ∧
      ((ingest Kernel.silentHost ({} : Memory) prefixing bodyOfText.compact).run []).1.result =
        .error .untaggable := by
  refine ⟨by decide, ?_, (ingest_untaggable_iff _ _ _ _ _).mpr
    ⟨_, reaches_bodyOfText, breaksOff_prefixing⟩⟩
  rw [breaksOff_prefixing.select]
  rintro (⟨kept, ended⟩ | ⟨field, ended⟩)
  · cases ended
  · cases ended

end ProxyProfile.Subscription
