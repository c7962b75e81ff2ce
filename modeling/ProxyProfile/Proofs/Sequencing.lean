/-
This file proves that a text that JSON reads as an array is one in YAML as well, if it is
read at all.

The first token of such a text opens a list, so the first event starts one. No reader of
events takes back what is written down already; so that event is still the first one when
the readers are done, and the tree over the events is a list. The readers call one another,
which is why the induction is on the fuel and says it of all of them at once.
-/

import ProxyProfile.Proofs.Following
import ProxyProfile.Yaml.Reader

namespace ProxyProfile

namespace Yaml

/-! ### Events that stay -/

/-- A reader that takes back none of some events: where it gets to, later events are in front
of them. -/
def Extends (events : List Event) (read : Option Cursor) : Prop :=
  ∀ after, read = some after → events <:+ after.events

/-- What comes behind a reader takes back none of the events before it either. -/
def Continues (events : List Event) (next : Cursor → Option Cursor) : Prop :=
  ∀ between : Cursor, events <:+ between.events → Extends events (next between)

section Extends

variable {events : List Event} {cursor : Cursor} {fuel : Nat}

theorem extends_none : Extends events none :=
  nofun

theorem extends_some (kept : events <:+ cursor.events) : Extends events (some cursor) := by
  intro after equal
  cases equal
  exact kept

theorem extends_bind {read : Option Cursor} {next : Cursor → Option Cursor}
    (first : Extends events read)
    (second : Continues events next) : Extends events (read >>= next) := by
  intro after equal
  obtain ⟨between, reached, equal⟩ := Option.bind_eq_some_iff.mp equal
  exact second between (first between reached) after equal

theorem suffix_emit (kept : events <:+ cursor.events) (event : Event) :
    events <:+ (cursor.emit event).events :=
  kept.trans (List.suffix_cons event cursor.events)

theorem extends_emit (kept : events <:+ cursor.events) (event : Event) :
    Extends events (some (cursor.skip.emit event)) :=
  extends_some (suffix_emit kept event)

theorem events_anchor (cursor : Cursor) : cursor.anchor.2.events = cursor.events := by
  unfold Cursor.anchor
  split <;> rfl

theorem events_tag? {tag : Option String} {after : Cursor}
    (read : cursor.tag? = some (tag, after)) : after.events = cursor.events := by
  unfold Cursor.tag? at read
  split at read
  · obtain ⟨text, _, equal⟩ := Option.map_eq_some_iff.mp read
    cases equal
    rfl
  · cases read
    rfl

/-- Anchors and tags are no events. -/
theorem events_properties? {properties : Properties} {after : Cursor}
    (read : cursor.properties? = some (properties, after)) : after.events = cursor.events := by
  unfold Cursor.properties? at read
  split at read
  · obtain ⟨⟨tag, between⟩, tagged, equal⟩ := Option.bind_eq_some_iff.mp read
    cases equal
    exact (events_anchor between).trans (events_tag? tagged)
  · obtain ⟨⟨tag, between⟩, tagged, equal⟩ := Option.bind_eq_some_iff.mp read
    cases equal
    exact (events_tag? tagged).trans (events_anchor cursor)

theorem extends_properties {next : Properties × Cursor → Option Cursor}
    (kept : events <:+ cursor.events)
    (second : ∀ (properties : Properties) (between : Cursor), events <:+ between.events →
      Extends events (next (properties, between))) :
    Extends events (cursor.properties? >>= next) := by
  intro after equal
  obtain ⟨⟨properties, between⟩, before, equal⟩ := Option.bind_eq_some_iff.mp equal
  rw [← events_properties? before] at kept
  exact second properties between kept after equal

/-! ### The readers -/

/-- With some fuel no reader takes an event back. -/
structure ReadersExtend (fuel : Nat) : Prop where
  value : ∀ {events : List Event} (spot : Spot) (cursor : Cursor), events <:+ cursor.events →
    Extends events (value? fuel spot cursor)
  blockItems : ∀ {events : List Event} (cursor : Cursor), events <:+ cursor.events →
    Extends events (blockItems? fuel cursor)
  dashes : ∀ {events : List Event} (cursor : Cursor), events <:+ cursor.events →
    Extends events (dashes? fuel cursor)
  blockMembers : ∀ {events : List Event} (cursor : Cursor), events <:+ cursor.events →
    Extends events (blockMembers? fuel cursor)
  blockValue : ∀ {events : List Event} (cursor : Cursor), events <:+ cursor.events →
    Extends events (blockValue? fuel cursor)
  flowItems : ∀ {events : List Event} (isFirst : Bool) (cursor : Cursor),
    events <:+ cursor.events → Extends events (flowItems? fuel isFirst cursor)
  pair : ∀ {events : List Event} (cursor : Cursor), events <:+ cursor.events →
    Extends events (pair? fuel cursor)
  flowMembers : ∀ {events : List Event} (isFirst : Bool) (cursor : Cursor),
    events <:+ cursor.events → Extends events (flowMembers? fuel isFirst cursor)

theorem extends_orEmpty (kept : events <:+ cursor.events) (properties : Properties) :
    Extends events (orEmpty properties cursor) := by
  unfold orEmpty
  split
  · exact extends_some (suffix_emit kept _)
  · exact extends_none

theorem extends_value? (readers : ReadersExtend fuel) (kept : events <:+ cursor.events)
    (spot : Spot) : Extends events (value? (fuel + 1) spot cursor) := by
  rw [value?]
  split
  · intro after read
    obtain ⟨target, _, equal⟩ := Option.bind_eq_some_iff.mp read
    cases equal
    exact suffix_emit kept _
  · refine extends_properties kept fun properties between later => ?_
    dsimp only
    split
    · exact extends_emit later _
    · exact readers.flowItems true _ (suffix_emit later _)
    · exact readers.flowMembers true _ (suffix_emit later _)
    · split
      · exact readers.dashes _ (suffix_emit later _)
      · exact extends_orEmpty later properties
    · split
      · exact readers.blockItems _ (suffix_emit later _)
      · exact extends_orEmpty later properties
    · split
      · exact readers.blockMembers _ (suffix_emit later _)
      · exact extends_orEmpty later properties
    · exact extends_orEmpty later properties

theorem extends_blockItems? (readers : ReadersExtend fuel) (kept : events <:+ cursor.events) :
    Extends events (blockItems? (fuel + 1) cursor) := by
  rw [blockItems?]
  split
  · extract_lets next
    have continues : Continues events next := fun between => readers.blockItems between
    split
    · exact continues _ (suffix_emit kept _)
    · exact continues _ (suffix_emit kept _)
    · exact extends_bind (readers.value itemSpot _ kept) continues
  · exact extends_emit kept _
  · exact extends_none

theorem extends_dashes? (readers : ReadersExtend fuel) (kept : events <:+ cursor.events) :
    Extends events (dashes? (fuel + 1) cursor) := by
  rw [dashes?]
  split
  · extract_lets isEmpty next
    have continues : Continues events next := fun between => readers.dashes between
    split
    · exact continues _ (suffix_emit kept _)
    · exact extends_bind (readers.value itemSpot _ kept) continues
  · exact extends_some (suffix_emit kept _)

theorem extends_blockMembers? (readers : ReadersExtend fuel) (kept : events <:+ cursor.events) :
    Extends events (blockMembers? (fuel + 1) cursor) := by
  rw [blockMembers?]
  split
  · extract_lets next
    have continues : Continues events next := fun between later =>
      extends_bind (readers.blockValue between later) fun valued => readers.blockMembers valued
    split
    · exact continues _ (suffix_emit kept _)
    · exact extends_bind (readers.value keySpot _ kept) continues
  · exact extends_emit kept _
  · exact extends_none

theorem extends_blockValue? (readers : ReadersExtend fuel) (kept : events <:+ cursor.events) :
    Extends events (blockValue? (fuel + 1) cursor) := by
  rw [blockValue?]
  split
  · split
    · exact extends_emit kept _
    · exact readers.value keySpot _ kept
  · exact extends_some (suffix_emit kept _)

theorem extends_flowItems? (readers : ReadersExtend fuel) (kept : events <:+ cursor.events)
    (isFirst : Bool) : Extends events (flowItems? (fuel + 1) isFirst cursor) := by
  rw [flowItems?]
  split
  · exact extends_emit kept _
  · extract_lets next
    have continues : Continues events next := by
      intro between later
      dsimp only [next]
      split
      · exact extends_emit later _
      · exact extends_bind (readers.pair _ (suffix_emit later _)) fun paired further =>
          readers.flowItems false _ (suffix_emit further _)
      · exact extends_bind (readers.value flowSpot _ later) fun item =>
          readers.flowItems false item
    split
    · exact continues cursor kept
    · split
      · exact continues cursor.skip kept
      · exact extends_none

theorem extends_pair? (readers : ReadersExtend fuel) (kept : events <:+ cursor.events) :
    Extends events (pair? (fuel + 1) cursor) := by
  unfold pair?
  extract_lets next
  have continues : Continues events next := by
    intro between later
    dsimp only [next]
    split
    · exact extends_emit later _
    · exact extends_emit later _
    · exact readers.value flowSpot _ later
    · exact extends_some (suffix_emit later _)
  split
  · exact continues _ (suffix_emit kept _)
  · exact continues _ (suffix_emit kept _)
  · exact continues _ (suffix_emit kept _)
  · exact extends_bind (readers.value flowSpot _ kept) continues

theorem extends_flowMembers? (readers : ReadersExtend fuel) (kept : events <:+ cursor.events)
    (isFirst : Bool) : Extends events (flowMembers? (fuel + 1) isFirst cursor) := by
  rw [flowMembers?]
  split
  · exact extends_emit kept _
  · extract_lets last keyed next
    have lasts : Continues events last := fun member => readers.flowMembers false member
    have keeps : Continues events keyed := by
      intro key further
      dsimp only [keyed]
      split
      · exact lasts _ (suffix_emit further _)
      · exact lasts _ (suffix_emit further _)
      · exact extends_bind (readers.value flowSpot _ further) lasts
      · exact lasts _ (suffix_emit further _)
    have continues : Continues events next := by
      intro between later
      dsimp only [next]
      split
      · exact extends_emit later _
      · split
        · exact keeps _ (suffix_emit later _)
        · exact keeps _ (suffix_emit later _)
        · exact keeps _ (suffix_emit later _)
        · exact extends_bind (readers.value flowSpot _ later) keeps
      · exact extends_bind (readers.value flowSpot _ later) fun item further =>
          readers.flowMembers false _ (suffix_emit further _)
    split
    · exact continues cursor kept
    · split
      · exact continues cursor.skip kept
      · exact extends_none

/-- No reader takes an event back. -/
theorem readersExtend (fuel : Nat) : ReadersExtend fuel := by
  induction fuel with
  | zero =>
    constructor <;> intros <;> exact nofun
  | succ fuel inductionHypothesis =>
    exact {
      value := fun spot _ kept => extends_value? inductionHypothesis kept spot
      blockItems := fun _ kept => extends_blockItems? inductionHypothesis kept
      dashes := fun _ kept => extends_dashes? inductionHypothesis kept
      blockMembers := fun _ kept => extends_blockMembers? inductionHypothesis kept
      blockValue := fun _ kept => extends_blockValue? inductionHypothesis kept
      flowItems := fun isFirst _ kept => extends_flowItems? inductionHypothesis kept isFirst
      pair := fun _ kept => extends_pair? inductionHypothesis kept
      flowMembers := fun isFirst _ kept => extends_flowMembers? inductionHypothesis kept isFirst }

end Extends

/-! ### Lists -/

/-- Tokens that begin with a list give events that begin with one. -/
theorem head?_events? {tokens : List Token} {events : List Event}
    (first : tokens.head? = some .flowList) (grouped : events? tokens = some events) :
    events.head? = some (.startList {}) := by
  obtain ⟨rest, rfl⟩ : ∃ rest, tokens = .flowList :: rest := List.head?_eq_some_iff.mp first
  obtain ⟨cursor, read, equal⟩ := Option.bind_eq_some_iff.mp grouped
  have kept := (readersExtend _).flowItems true _ List.suffix_rfl cursor read
  obtain ⟨later, extended⟩ := kept
  obtain rfl := Option.some.inj (Option.ite_none_right_eq_some.mp equal).2
  rw [← extended]
  show (later ++ [Event.startList {}]).reverse.head? = some (.startList {})
  rw [List.head?_reverse, List.getLast?_concat]

/-- The tree of a list is a list, where one may still open. -/
theorem treeOf_startList (all : List Event) {fuel : Nat} (left : fuel ≠ 0) (depth jumps : Nat)
    (properties : Properties) (rest : List Event) :
    ∃ trees, (treeOf all fuel (depth + 1) jumps (.startList properties :: rest)).1 =
      .list (formOf properties) trees := by
  obtain ⟨less, rfl⟩ := Nat.exists_eq_succ_of_ne_zero left
  refine ⟨(itemsOf all less depth jumps rest).1, ?_⟩
  rw [treeOf]

/-- What JSON reads as an array stands for a list in YAML, if for anything. -/
theorem tree?_array {text : String} {items : List Json.Value}
    (array : Json.parse? text = some (.array items)) {tree : Tree}
    (read : tree? text = some tree) : ∃ form trees, tree = .list form trees := by
  obtain ⟨more, begins⟩ := Json.begins_of_parse? array rfl
  obtain ⟨_, planted, _⟩ := Option.bind_eq_some_iff.mp array
  obtain ⟨tokens, cut, read⟩ := Option.bind_eq_some_iff.mp read
  obtain ⟨events, grouped, read⟩ := Option.bind_eq_some_iff.mp read
  have first := head?_events? (head?_tokens?_array begins planted cut) grouped
  obtain ⟨rest, rfl⟩ := List.head?_eq_some_iff.mp first
  obtain rfl := Option.some.inj read
  have left : (2 * (Event.startList {} :: rest).length + 2) * (depthLimit + 2) ≠ 0 :=
    Nat.mul_ne_zero (Nat.succ_ne_zero _) (by decide)
  exact ⟨_, treeOf_startList _ left _ _ _ _⟩

/-- What JSON reads as an array is read as one in YAML, if at all. -/
theorem parse?_array {text : String} {items : List Json.Value}
    (array : Json.parse? text = some (.array items)) {value : Json.Value}
    (read : parse? text = some value) : ∃ others, value = .array others := by
  obtain ⟨tree, planted, read⟩ := Option.bind_eq_some_iff.mp read
  obtain ⟨form, trees, rfl⟩ := tree?_array array planted
  rw [Tree.value?] at read
  split at read
  · obtain ⟨others, _, equal⟩ := Option.map_eq_some_iff.mp read
    exact ⟨others, equal.symm⟩
  · cases read

end Yaml

end ProxyProfile
