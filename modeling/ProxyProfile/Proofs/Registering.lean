/-
This file proves that the plugins of a run never change their order.

A registry is changed by loading code, by reloading and removing plugins, by giving
out statuses, by triggers and by calls of the user, in any order. Of the ids of its
plugins a change keeps all, puts one behind all others, or takes one out, and this is
all that the order depends on: two plugins that are there the whole time never pass
each other. Every list that a trigger looks its plugins up in is a part of the list of
all plugins, so they never pass each other there either. Code is only kept for ids
that are there, and what takes an id out takes its code out as well.
-/

import Mathlib.Data.List.Forall2
import Mathlib.Data.List.Infix
import Mathlib.Data.List.Nodup
import ProxyProfile.Proofs.Firing

namespace ProxyProfile

/-! ### Parts of a list -/

/-- Two members of a part of a list without repetitions stand in the part as in the whole. -/
theorem pair_sublist_iff {α : Type} {part whole : List α} (among : part.Sublist whole)
    (distinct : whole.Nodup) {first second : α} (firstIn : first ∈ part) (secondIn : second ∈ part) :
    [first, second].Sublist part ↔ [first, second].Sublist whole := by
  refine ⟨fun inPart => inPart.trans among, fun inWhole => ?_⟩
  induction among with
  | slnil => exact inWhole
  | @cons part rest head among inductionHypothesis =>
    obtain ⟨fresh, distinct⟩ := List.nodup_cons.mp distinct
    have other : first ≠ head := ne_of_mem_of_not_mem (among.subset firstIn) fresh
    exact inductionHypothesis distinct firstIn secondIn (inWhole.of_cons_of_ne other)
  | @cons_cons part rest head among inductionHypothesis =>
    obtain ⟨_, distinctRest⟩ := List.nodup_cons.mp distinct
    have apart : first ≠ second := by simpa using distinct.sublist inWhole
    by_cases same : first = head
    · have later : second ∈ part := List.mem_of_ne_of_mem (same ▸ apart.symm) secondIn
      rw [same]
      exact List.cons_sublist_cons.mpr (List.singleton_sublist.mpr later)
    · have inRest := inWhole.of_cons_of_ne same
      have other : second ≠ head :=
        ne_of_mem_of_not_mem (inRest.subset (by simp)) (List.nodup_cons.mp distinct).1
      exact (inductionHypothesis distinctRest (List.mem_of_ne_of_mem same firstIn)
        (List.mem_of_ne_of_mem other secondIn) inRest).cons head

/-- What stands behind a whole list stands last in every part that it is in. -/
theorem getLast?_of_sublist_concat {α : Type} {part before : List α} {last : α}
    (among : part.Sublist (before ++ [last])) (fresh : last ∉ before) (present : last ∈ part) :
    part.getLast? = some last := by
  obtain ⟨front, back, rfl, inFront, inBack⟩ := List.sublist_append_iff.mp among
  rcases List.sublist_singleton.mp inBack with rfl | rfl
  · rw [List.append_nil] at present
    exact absurd (inFront.subset present) fresh
  · exact List.getLast?_concat

/-! ### Registries -/

namespace Registry

variable {registry : Registry}

theorem ids_replace (plugin : Plugin) (plugins : List Plugin) :
    (replace plugin plugins).map Plugin.id =
      if plugin.id ∈ plugins.map Plugin.id then plugins.map Plugin.id
      else plugins.map Plugin.id ++ [plugin.id] := by
  induction plugins with
  | nil => rfl
  | cons first rest inductionHypothesis =>
    unfold replace
    by_cases named : first.id = plugin.id
    · rw [if_pos named, List.map_cons, List.map_cons, named, if_pos List.mem_cons_self]
    · rw [if_neg named, List.map_cons, List.map_cons, inductionHypothesis]
      have later : plugin.id ∈ first.id :: rest.map Plugin.id ↔ plugin.id ∈ rest.map Plugin.id :=
        List.mem_cons.trans (or_iff_right (Ne.symm named))
      simp only [later]
      split <;> rfl

/-- A plugin with a new id comes last. -/
theorem replace_of_notMem {plugin : Plugin} {plugins : List Plugin}
    (fresh : plugin.id ∉ plugins.map Plugin.id) : replace plugin plugins = plugins ++ [plugin] := by
  induction plugins with
  | nil => rfl
  | cons first rest inductionHypothesis =>
    rw [List.map_cons, List.mem_cons, not_or] at fresh
    rw [replace, if_neg (Ne.symm fresh.1), inductionHypothesis fresh.2, List.cons_append]

theorem ids_eraseP (id : String) (plugins : List Plugin) :
    (plugins.eraseP fun plugin => plugin.id = id).map Plugin.id =
      (plugins.map Plugin.id).erase id := by
  rw [List.erase_eq_eraseP', List.eraseP_map]
  rfl

theorem ids_withStatus (id : String) (status : Int) (plugins : List Plugin) :
    (withStatus id status plugins).map Plugin.id = plugins.map Plugin.id := by
  induction plugins with
  | nil => rfl
  | cons first rest inductionHypothesis =>
    unfold withStatus
    split
    · rfl
    · rw [List.map_cons, inductionHypothesis, List.map_cons]

/-- Loading gives code to plugins only, and leaves them as they are. -/
theorem loadCodes_frame {σ : Type} [Storage σ] (storage : σ) (registry : Registry)
    (plugins : List Plugin) :
    (loadCodes storage registry plugins).plugins = registry.plugins ∧
      ∀ entry ∈ (loadCodes storage registry plugins).codes,
        entry ∈ registry.codes ∨ entry.1 ∈ plugins.map Plugin.id := by
  induction plugins generalizing registry with
  | nil => exact ⟨rfl, fun entry kept => Or.inl kept⟩
  | cons plugin rest inductionHypothesis =>
    unfold loadCodes
    split
    · rename_i code _
      obtain ⟨same, codes⟩ := inductionHypothesis (registry.putCode plugin.id code)
      refine ⟨same, fun entry among => ?_⟩
      rcases codes entry among with put | later
      · rcases List.mem_cons.mp put with rfl | kept
        · exact Or.inr List.mem_cons_self
        · exact Or.inl (List.mem_filter.mp kept).1
      · exact Or.inr (List.mem_cons_of_mem _ later)
    · obtain ⟨same, codes⟩ := inductionHypothesis registry
      exact ⟨same, fun entry among => (codes entry among).imp_right (List.mem_cons_of_mem _)⟩

/-- The ids differ, and there is code only for plugins. -/
structure Sound (registry : Registry) : Prop where
  distinct : registry.ids.Nodup
  owned : ∀ entry ∈ registry.codes, entry.1 ∈ registry.ids

theorem sound_new {plugins : List Plugin} (distinct : (plugins.map Plugin.id).Nodup)
    (settings : PluginSettings) : (Registry.new plugins settings).Sound :=
  ⟨distinct, fun _ among => absurd among List.not_mem_nil⟩

theorem Sound.code?_eq_none (sound : registry.Sound) {id : String} (absent : id ∉ registry.ids) :
    registry.code? id = none := by
  refine List.lookup_eq_none_iff.mpr fun entry among => bne_iff_ne.mpr ?_
  rintro rfl
  exact absent (sound.owned entry among)

/-- The lists in which plugins are looked up. -/
inductive Roster
  /-- All plugins. -/
  | all
  /-- Those that want to hear of a trigger. -/
  | observers (trigger : Trigger)
  /-- Those that a trigger reaches. -/
  | eligible (trigger : Trigger)

/-- The ids of the plugins in a list, in order. -/
def roster (registry : Registry) : Roster → List String
  | .all => registry.ids
  | .observers trigger => (registry.observers trigger).map Plugin.id
  | .eligible trigger => (registry.eligible trigger).map fun entry => entry.1.id

theorem roster_sublist (registry : Registry) (roster : Roster) :
    (registry.roster roster).Sublist registry.ids := by
  cases roster with
  | all => exact List.Sublist.refl _
  | observers trigger => exact List.filter_sublist.map Plugin.id
  | eligible trigger =>
    rw [Registry.roster, eligible_eq, List.map_map]
    exact List.filter_sublist.map Plugin.id

end Registry

namespace Host

/-! ### Changes -/

/-- A change of a registry. -/
inductive Change : Type 1
  /-- The code of all plugins is loaded, wherever files are kept. -/
  | load {σ : Type} [Storage σ] (storage : σ)
  | reload (plugin : Plugin) (code : String)
  | remove (id : String)
  | setStatus (id : String) (status : Int)
  | fire (trigger : Trigger)
  | callManually (id handler : String) (arguments : List Json.Value)

/-- A registry at some time, and the calls made until then. -/
structure Moment where
  registry : Registry
  calls : List Script.Call

namespace Moment

/-- What a computation leaves that changes a registry in place, whether it fails or not. -/
def ofRun {α : Type} (run : (Except Error α × Registry) × List Script.Call) : Moment :=
  ⟨run.1.2, run.2⟩

/-- The moment after a change. -/
def apply (runner : Script.Runner) (moment : Moment) : Change → Moment
  | @Change.load _ _ storage => { moment with registry := moment.registry.load storage }
  | .reload plugin code => { moment with registry := moment.registry.reload plugin code }
  | .remove id => { moment with registry := (moment.registry.remove id).2 }
  | .setStatus id status => { moment with registry := (moment.registry.setStatus id status).2 }
  | .fire trigger =>
    ofRun (((fireInPlace runner trigger).run.run moment.registry).run moment.calls)
  | .callManually id handler arguments =>
    ofRun (((callInPlace runner id handler arguments).run.run moment.registry).run moment.calls)

/-- The moment after several changes. -/
def applyAll (runner : Script.Runner) (moment : Moment) (changes : List Change) : Moment :=
  changes.foldl (apply runner) moment

/-- An id is registered before some changes, between them and after them. -/
def Keeps (runner : Script.Runner) (moment : Moment) (changes : List Change) (id : String) :
    Prop :=
  ∀ made, made <+: changes → id ∈ (moment.applyAll runner made).registry.ids

end Moment

/-! ### What a change does to ids and code -/

/-- The ids of the plugins after a change. -/
def Change.idsAfter : Change → List String → List String
  | .reload plugin _, ids => if plugin.id ∈ ids then ids else ids ++ [plugin.id]
  | .remove id, ids => ids.erase id
  | _, ids => ids

/-- A change has its effect on the ids, and adds code only for plugins that are there after it; a
plugin that is taken out leaves no code. -/
structure Change.Changes (change : Change) (before after : Registry) : Prop where
  ids : after.ids = change.idsAfter before.ids
  codes : ∀ entry ∈ after.codes, entry ∈ before.codes ∨ entry.1 ∈ after.ids
  cleared : ∀ id, change = .remove id → ∀ entry ∈ after.codes, entry.1 ≠ id

theorem ids_of_forall₂ {Related : Plugin → Plugin → Prop} {before after : List Plugin}
    (related : List.Forall₂ Related before after)
    (named : ∀ plugin other, Related plugin other → other.id = plugin.id) :
    after.map Plugin.id = before.map Plugin.id := by
  induction related with
  | nil => rfl
  | cons first _ inductionHypothesis =>
    rw [List.map_cons, List.map_cons, inductionHypothesis, named _ _ first]

/-- However a trigger ends, ids and code are what they were. -/
theorem Fired.frame {host : Host} {trigger : Trigger} {history calls : List Script.Call}
    {result : Except Error Unit} {after : Registry}
    (fired : Fired host trigger history result after calls) :
    after.ids = host.registry.ids ∧ after.codes = host.registry.codes := by
  cases result with
  | error error =>
    rw [(fired.fails error rfl).2]
    exact ⟨rfl, rfl⟩
  | ok =>
    obtain ⟨_, codes, _, taken⟩ := fired.succeeds rfl
    refine ⟨ids_of_forall₂ taken fun plugin other takes => ?_, codes⟩
    rw [takes.frame]

/-- However a call by the user ends, ids and code are what they were. -/
theorem CalledByHand.frame {host : Host} {id : String} {result : Except Error Json.Value}
    {after : Registry} (called : CalledByHand host id result after) :
    after.ids = host.registry.ids ∧ after.codes = host.registry.codes := by
  refine ⟨ids_of_forall₂ called.plugins fun plugin other same => ?_, called.codes⟩
  rw [same.1]

/-- A change that touches neither ids nor code. -/
theorem Change.Changes.of_frame {change : Change} {before after : Registry}
    (quiet : change.idsAfter before.ids = before.ids) (keeping : ∀ id, change ≠ .remove id)
    (frame : after.ids = before.ids ∧ after.codes = before.codes) :
    change.Changes before after := by
  refine ⟨frame.1.trans quiet.symm, fun entry among => Or.inl ?_, fun id same => ?_⟩
  · rwa [← frame.2]
  · exact absurd same (keeping id)

theorem changes_apply (runner : Script.Runner) {moment : Moment}
    (distinct : moment.registry.ids.Nodup) (change : Change) :
    change.Changes moment.registry (moment.apply runner change).registry := by
  cases change with
  | load storage =>
    obtain ⟨same, codes⟩ := Registry.loadCodes_frame storage moment.registry moment.registry.plugins
    have named : (moment.registry.load storage).ids = moment.registry.ids :=
      congrArg (List.map Plugin.id) same
    refine ⟨named, fun entry among => ?_, nofun⟩
    show _ ∨ entry.1 ∈ (moment.registry.load storage).ids
    rw [named]
    exact codes entry among
  | reload plugin code =>
    have named := Registry.ids_replace plugin moment.registry.plugins
    refine ⟨named, fun entry among => ?_, nofun⟩
    rcases List.mem_cons.mp among with rfl | kept
    · refine Or.inr ?_
      show plugin.id ∈ (Registry.replace plugin moment.registry.plugins).map Plugin.id
      rw [named]
      split
      · assumption
      · exact List.mem_append_right _ List.mem_cons_self
    · exact Or.inl (List.mem_filter.mp kept).1
  | remove id =>
    have kept : ∀ entry ∈ (moment.registry.remove id).2.codes,
        entry ∈ moment.registry.codes ∧ entry.1 ≠ id := by
      intro entry among
      simpa [Registry.remove] using among
    refine ⟨Registry.ids_eraseP id _, fun entry among => Or.inl (kept entry among).1, ?_⟩
    rintro _ ⟨⟩ entry among
    exact (kept entry among).2
  | setStatus id status =>
    exact .of_frame rfl nofun ⟨Registry.ids_withStatus id status _, rfl⟩
  | fire trigger =>
    have fires : Fires ⟨moment.registry, runner⟩ trigger moment.calls :=
      fires moment.calls distinct trigger
    obtain ⟨result, after, calls, run, fired⟩ := fires
    refine .of_frame rfl nofun ?_
    rw [Moment.apply, run]
    exact fired.frame
  | callManually id handler arguments =>
    have calledByHand : CallsByHand ⟨moment.registry, runner⟩ id handler arguments moment.calls :=
      callsByHand moment.calls distinct id handler arguments
    obtain ⟨result, after, calls, run, called⟩ := calledByHand
    refine .of_frame rfl nofun ?_
    rw [Moment.apply, run]
    exact called.frame

/-! ### What a change keeps -/

namespace Change

variable {change : Change}

/-- The ids before a change are a part of those after it, or the other way round. -/
theorem idsAfter_sublist (change : Change) (ids : List String) :
    ids.Sublist (change.idsAfter ids) ∨ (change.idsAfter ids).Sublist ids := by
  cases change with
  | reload plugin code =>
    refine Or.inl ?_
    rw [idsAfter]
    split
    · exact List.Sublist.refl _
    · exact List.sublist_append_left _ _
  | remove id => exact Or.inr List.erase_sublist
  | _ => exact Or.inl (List.Sublist.refl _)

theorem nodup_idsAfter (change : Change) {ids : List String} (distinct : ids.Nodup) :
    (change.idsAfter ids).Nodup := by
  cases change with
  | reload plugin code =>
    rw [idsAfter]
    split
    · exact distinct
    · rename_i fresh
      exact List.nodup_append.mpr ⟨distinct, List.pairwise_singleton _ _, fun id among other last =>
        List.mem_singleton.mp last ▸ ne_of_mem_of_not_mem among fresh⟩
  | remove id => exact distinct.erase id
  | _ => exact distinct

/-- Two ids that are there before and after a change do not pass each other. -/
theorem pair_idsAfter (change : Change) {ids : List String} (distinct : ids.Nodup)
    {first second : String} (firstIn : first ∈ ids) (secondIn : second ∈ ids)
    (firstStays : first ∈ change.idsAfter ids) (secondStays : second ∈ change.idsAfter ids) :
    [first, second].Sublist ids ↔ [first, second].Sublist (change.idsAfter ids) := by
  rcases change.idsAfter_sublist ids with grows | shrinks
  · exact pair_sublist_iff grows (change.nodup_idsAfter distinct) firstIn secondIn
  · exact (pair_sublist_iff shrinks distinct firstStays secondStays).symm

/-- An id that is not there is added only by reloading a plugin with it. -/
theorem notMem_idsAfter {ids : List String} {id : String} (absent : id ∉ ids)
    (other : ∀ plugin code, change = .reload plugin code → plugin.id ≠ id) :
    id ∉ change.idsAfter ids := by
  cases change with
  | reload plugin code =>
    have differs : id ≠ plugin.id := Ne.symm (other plugin code rfl)
    rw [idsAfter]
    split
    · exact absent
    · rw [List.mem_append, List.mem_singleton]
      exact not_or.mpr ⟨absent, differs⟩
  | remove id => exact fun stays => absent (List.mem_of_mem_erase stays)
  | _ => exact absent

theorem Changes.sound {before after : Registry} (changes : change.Changes before after)
    (sound : before.Sound) : after.Sound := by
  refine ⟨changes.ids ▸ change.nodup_idsAfter sound.distinct, fun entry among => ?_⟩
  rcases changes.codes entry among with old | present
  · have registered := sound.owned entry old
    rw [changes.ids]
    cases change with
    | reload plugin code =>
      rw [idsAfter]
      split
      · exact registered
      · exact List.mem_append_left _ registered
    | remove id =>
      exact (List.mem_erase_of_ne (changes.cleared id rfl entry among)).mpr registered
    | _ => exact registered
  · exact present

end Change

/-! ### Several changes -/

namespace Moment

variable {runner : Script.Runner} {moment : Moment}

theorem sound_apply (sound : moment.registry.Sound) (change : Change) :
    (moment.apply runner change).registry.Sound :=
  (changes_apply runner sound.distinct change).sound sound

theorem sound_applyAll (runner : Script.Runner) {moment : Moment}
    (sound : moment.registry.Sound) (changes : List Change) :
    (moment.applyAll runner changes).registry.Sound := by
  induction changes generalizing moment with
  | nil => exact sound
  | cons change rest inductionHypothesis => exact inductionHypothesis (sound_apply sound change)

theorem Keeps.tail {change : Change} {rest : List Change} {id : String}
    (keeps : moment.Keeps runner (change :: rest) id) :
    (moment.apply runner change).Keeps runner rest id :=
  fun made begins => keeps (change :: made) (List.cons_prefix_cons.mpr ⟨rfl, begins⟩)

/-- Two plugins that are registered the whole time do not pass each other. -/
theorem pair_applyAll (sound : moment.registry.Sound) {changes : List Change}
    {first second : String} (firstKept : moment.Keeps runner changes first)
    (secondKept : moment.Keeps runner changes second) :
    [first, second].Sublist moment.registry.ids ↔
      [first, second].Sublist (moment.applyAll runner changes).registry.ids := by
  induction changes generalizing moment with
  | nil => exact Iff.rfl
  | cons change rest inductionHypothesis =>
    have named := (changes_apply runner sound.distinct change).ids
    refine Iff.trans ?_ (inductionHypothesis (sound_apply sound change) firstKept.tail
      secondKept.tail)
    have firstStays := firstKept.tail [] List.nil_prefix
    have secondStays := secondKept.tail [] List.nil_prefix
    rw [applyAll, List.foldl_nil, named] at firstStays secondStays
    rw [named]
    exact change.pair_idsAfter sound.distinct (firstKept [] List.nil_prefix)
      (secondKept [] List.nil_prefix) firstStays secondStays

theorem notMem_applyAll (sound : moment.registry.Sound) {changes : List Change} {id : String}
    (absent : id ∉ moment.registry.ids)
    (other : ∀ plugin code, Change.reload plugin code ∈ changes → plugin.id ≠ id) :
    id ∉ (moment.applyAll runner changes).registry.ids := by
  induction changes generalizing moment with
  | nil => exact absent
  | cons change rest inductionHypothesis =>
    refine inductionHypothesis (sound_apply sound change) ?_ fun plugin code later =>
      other plugin code (List.mem_cons_of_mem _ later)
    rw [(changes_apply runner sound.distinct change).ids]
    refine Change.notMem_idsAfter absent fun plugin code same => ?_
    exact other plugin code (same ▸ List.mem_cons_self)

/-- A plugin that was removed is not registered until it is added again. -/
theorem notMem_of_removed (sound : moment.registry.Sound) (before : List Change) {id : String}
    {after : List Change}
    (other : ∀ plugin code, Change.reload plugin code ∈ after → plugin.id ≠ id) :
    id ∉ (moment.applyAll runner (before ++ .remove id :: after)).registry.ids := by
  have soundBefore := sound_applyAll runner sound before
  rw [applyAll, List.foldl_append, List.foldl_cons]
  refine notMem_applyAll (sound_apply soundBefore _) ?_ other
  rw [(changes_apply runner soundBefore.distinct _).ids]
  exact fun stays => ((List.Nodup.mem_erase_iff soundBefore.distinct).mp stays).1 rfl

end Moment

/-- What holds of a registry after some changes: the ids differ and all code is that of
plugins; plugins that were registered the whole time follow each other in every list as they did
in every list before; a plugin that would be added now would come last in every list that it is
in; and one that was removed and not added again has no code. -/
structure Orderly (runner : Script.Runner) (start : Moment) (changes : List Change)
    (after : Moment) : Prop where
  distinct : after.registry.ids.Nodup
  owned : ∀ entry ∈ after.registry.codes, entry.1 ∈ after.registry.ids
  order : ∀ first second, start.Keeps runner changes first → start.Keeps runner changes second →
    ∀ early late,
      first ∈ start.registry.roster early → second ∈ start.registry.roster early →
      first ∈ after.registry.roster late → second ∈ after.registry.roster late →
      ([first, second].Sublist (start.registry.roster early) ↔
        [first, second].Sublist (after.registry.roster late))
  added : ∀ plugin code, plugin.id ∉ after.registry.ids →
    (after.apply runner (.reload plugin code)).registry.plugins =
      after.registry.plugins ++ [plugin] ∧
    ∀ roster, plugin.id ∈ (after.apply runner (.reload plugin code)).registry.roster roster →
      ((after.apply runner (.reload plugin code)).registry.roster roster).getLast? =
        some plugin.id
  gone : ∀ id before rest, changes = before ++ .remove id :: rest →
    (∀ plugin code, Change.reload plugin code ∈ rest → plugin.id ≠ id) →
    after.registry.code? id = none

theorem orderly_of_sound (runner : Script.Runner) {start : Moment} (sound : start.registry.Sound)
    (changes : List Change) :
    Orderly runner start changes (start.applyAll runner changes) := by
  have soundAfter := Moment.sound_applyAll runner sound changes
  refine ⟨soundAfter.distinct, soundAfter.owned, ?_, fun plugin code fresh => ?_, ?_⟩
  · intro first second firstKept secondKept early late firstEarly secondEarly firstLate secondLate
    calc [first, second].Sublist (start.registry.roster early)
      _ ↔ [first, second].Sublist start.registry.ids :=
        pair_sublist_iff (start.registry.roster_sublist early) sound.distinct firstEarly secondEarly
      _ ↔ [first, second].Sublist (start.applyAll runner changes).registry.ids :=
        Moment.pair_applyAll sound firstKept secondKept
      _ ↔ [first, second].Sublist ((start.applyAll runner changes).registry.roster late) :=
        (pair_sublist_iff (Registry.roster_sublist _ late) soundAfter.distinct firstLate
          secondLate).symm
  · have placed := Registry.replace_of_notMem fresh
    refine ⟨placed, fun roster present => ?_⟩
    have named : ((start.applyAll runner changes).apply runner (.reload plugin code)).registry.ids =
        (start.applyAll runner changes).registry.ids ++ [plugin.id] := by
      show (Registry.replace plugin _).map Plugin.id = _
      rw [placed, List.map_append]
      rfl
    have part := Registry.roster_sublist
      ((start.applyAll runner changes).apply runner (.reload plugin code)).registry roster
    rw [named] at part
    exact getLast?_of_sublist_concat part fresh present
  · rintro id before rest rfl other
    exact soundAfter.code?_eq_none (Moment.notMem_of_removed sound before other)

/-- If no two of the plugins that a run starts with share an id, then its registry stays in order:
whatever was changed before, and whatever is changed from then on. -/
theorem registry_orderly (runner : Script.Runner) (plugins : List Plugin)
    (settings : PluginSettings) (calls : List Script.Call)
    (distinct : (plugins.map Plugin.id).Nodup) (earlier later : List Change) :
    Orderly runner (Moment.applyAll runner ⟨.new plugins settings, calls⟩ earlier) later
      (Moment.applyAll runner ⟨.new plugins settings, calls⟩ (earlier ++ later)) := by
  have start : (Moment.mk (.new plugins settings) calls).registry.Sound :=
    Registry.sound_new distinct settings
  have sound := Moment.sound_applyAll runner start earlier
  have behind : Moment.applyAll runner ⟨.new plugins settings, calls⟩ (earlier ++ later) =
      (Moment.applyAll runner ⟨.new plugins settings, calls⟩ earlier).applyAll runner later :=
    List.foldl_append
  rw [behind]
  exact orderly_of_sound runner sound later

/-- Three plugins that want to hear of the start. -/
def startingPlugins : List Plugin :=
  ["first", "second", "third"].map fun id => { id, name := id, triggers := [.known .startup] }

/-- The code of the plugins is brought in, and the middle one gets a new definition. -/
def startingChanges : List Change :=
  startingPlugins.map (Change.reload · "return 1") ++
    [.reload { id := "second", name := "Second" } "return 2"]

/-- The middle one is taken out, the others are called, and it is added again. -/
def renewingChanges : List Change :=
  [.remove "second", .fire .startup,
    .reload { id := "second", name := "Second", triggers := [.known .startup] } "return 3"]

theorem registry_orderly_renewing :
    (startingPlugins.map Plugin.id).Nodup ∧
      Orderly unevenHost.runner
        (Moment.applyAll unevenHost.runner ⟨.new startingPlugins [], []⟩ startingChanges)
        renewingChanges
        (Moment.applyAll unevenHost.runner ⟨.new startingPlugins [], []⟩
          (startingChanges ++ renewingChanges)) ∧
      (∀ id ∈ ["first", "third"],
        (Moment.applyAll unevenHost.runner ⟨.new startingPlugins [], []⟩ startingChanges).Keeps
          unevenHost.runner renewingChanges id) ∧
      (Moment.applyAll unevenHost.runner ⟨.new startingPlugins [], []⟩
        (startingChanges ++ renewingChanges)).registry.roster (.eligible .startup) =
          ["first", "third", "second"] := by
  have distinct : (startingPlugins.map Plugin.id).Nodup := by decide
  have kept : ∀ made ∈ renewingChanges.inits, ∀ id ∈ ["first", "third"],
      id ∈ ((Moment.applyAll unevenHost.runner ⟨.new startingPlugins [], []⟩
        startingChanges).applyAll unevenHost.runner made).registry.ids := by
    decide
  refine ⟨distinct, registry_orderly unevenHost.runner startingPlugins [] [] distinct
    startingChanges renewingChanges, fun id among made begins => ?_, by decide⟩
  exact kept made ((List.mem_inits made renewingChanges).mpr begins) id among

end Host

end ProxyProfile
