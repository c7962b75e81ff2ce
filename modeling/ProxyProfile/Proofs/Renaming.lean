/-
This file defines what it means to give the things of a profile other ids.

An id stands where a thing is defined and wherever something refers to it. Most
references are fields of their own; a rule may also carry an id, or a list of
them, in its payload, and there the blanks around each id and the commas between
them belong to the text and not to the ids. So a payload is renamed piece by
piece, and in every piece only what is left when it is trimmed. The content is
that the ids read back from a renamed payload are the renamed ids, as long as no
new id has a comma in it or blanks around it.
-/

import Mathlib.Data.List.TakeWhile
import ProxyProfile.Kernel.Rule
import ProxyProfile.Profile.Basic

namespace ProxyProfile

namespace Text

/-! ### Cutting and gluing -/

theorem splitChars_of_notMem {separator : Char} {piece : List Char} (free : separator ∉ piece) :
    splitChars separator piece = [piece] := by
  induction piece with
  | nil => rfl
  | cons c rest inductionHypothesis =>
    have different : c ≠ separator := fun same => free (same ▸ List.mem_cons_self)
    rw [splitChars, if_neg different,
      inductionHypothesis fun inside => free (List.mem_cons_of_mem _ inside)]

theorem splitChars_append {separator : Char} {piece : List Char} (free : separator ∉ piece)
    (rest : List Char) :
    splitChars separator (piece ++ separator :: rest) = piece :: splitChars separator rest := by
  induction piece with
  | nil => rw [List.nil_append, splitChars, if_pos rfl]
  | cons c others inductionHypothesis =>
    have different : c ≠ separator := fun same => free (same ▸ List.mem_cons_self)
    rw [List.cons_append, splitChars, if_neg different,
      inductionHypothesis fun inside => free (List.mem_cons_of_mem _ inside)]

/-- Gluing and cutting gives the pieces back, if no piece has the separator in it. -/
theorem splitChars_joinChars {separator : Char} {pieces : List (List Char)} (some : pieces ≠ [])
    (free : ∀ piece ∈ pieces, separator ∉ piece) :
    splitChars separator (joinChars separator pieces) = pieces := by
  induction pieces with
  | nil => exact absurd rfl some
  | cons piece rest inductionHypothesis =>
    have first := free piece List.mem_cons_self
    cases rest with
    | nil => exact splitChars_of_notMem first
    | cons next others =>
      rw [joinChars, splitChars_append first, inductionHypothesis (List.cons_ne_nil _ _)
        fun piece among => free piece (List.mem_cons_of_mem _ among)]

/-- Cutting in front of a separator and behind it gives all pieces. -/
theorem splitChars_append_cons (separator : Char) (front back : List Char) :
    splitChars separator (front ++ separator :: back) =
      splitChars separator front ++ splitChars separator back := by
  induction front with
  | nil => exact splitChars_append List.not_mem_nil back
  | cons c rest inductionHypothesis =>
    rw [List.cons_append, splitChars, splitChars, inductionHypothesis]
    split
    · rfl
    · cases pieces : splitChars separator rest with
      | nil => exact absurd pieces (splitChars_ne_nil separator rest)
      | cons piece more => rfl

theorem endsWith_iff {text ending : String} :
    text.endsWith ending = true ↔ ending.toList <:+ text.toList := by
  rw [String.endsWith_eq_endsWith_toSlice, String.Slice.endsWith_string_iff, String.copy_toSlice]

/-! ### Blanks around a text -/

/-- The blank characters at the beginning of a list. -/
def blankStart (characters : List Char) : List Char :=
  characters.takeWhile isBlank

/-- The blank characters at the end of a list that is not all blank. -/
def blankEnd (characters : List Char) : List Char :=
  ((characters.dropWhile isBlank).reverse.takeWhile isBlank).reverse

/-- A list is what is left when it is trimmed, between the blanks around it. -/
theorem blankStart_trimChars_blankEnd (characters : List Char) :
    blankStart characters ++ trimChars characters ++ blankEnd characters = characters := by
  have inner : trimChars characters ++ blankEnd characters = characters.dropWhile isBlank := by
    unfold trimChars dropBlankEnd blankEnd
    rw [← List.reverse_append, List.takeWhile_append_dropWhile, List.reverse_reverse]
  rw [List.append_assoc, inner]
  exact List.takeWhile_append_dropWhile

theorem length_dropBlankEnd_le (characters : List Char) :
    (dropBlankEnd characters).length ≤ characters.length := by
  have cut : characters.reverse.dropWhile isBlank <:+ characters.reverse :=
    List.dropWhile_suffix isBlank
  simpa [dropBlankEnd] using cut.length_le

/-- A trimmed list has no blanks at its beginning and none at its end. -/
theorem ends_of_trimmed {core : List Char} (trimmed : trimChars core = core) :
    core.dropWhile isBlank = core ∧ dropBlankEnd core = core := by
  have shorter := length_dropBlankEnd_le (core.dropWhile isBlank)
  have whole : (dropBlankEnd (core.dropWhile isBlank)).length = core.length :=
    congrArg List.length trimmed
  have start : core.dropWhile isBlank = core :=
    (List.dropWhile_suffix isBlank).eq_of_length_le (whole ▸ shorter)
  refine ⟨start, ?_⟩
  rwa [trimChars, start] at trimmed

theorem dropBlankEnd_append {after : List Char} (blank : ∀ c ∈ after, isBlank c)
    (core : List Char) : dropBlankEnd (core ++ after) = dropBlankEnd core := by
  unfold dropBlankEnd
  rw [List.reverse_append, List.dropWhile_append_of_pos fun c inside =>
    blank c (List.mem_reverse.mp inside)]

theorem dropWhile_of_notBlank {characters : List Char} (none : ∀ c ∈ characters, ¬ isBlank c) :
    characters.dropWhile isBlank = characters := by
  cases characters with
  | nil => rfl
  | cons c rest => exact List.dropWhile_cons_of_neg (none c List.mem_cons_self)

/-- Trimming keeps a list without blanks. -/
theorem trimChars_of_notBlank {characters : List Char} (none : ∀ c ∈ characters, ¬ isBlank c) :
    trimChars characters = characters := by
  unfold trimChars dropBlankEnd
  rw [dropWhile_of_notBlank none,
    dropWhile_of_notBlank fun c inside => none c (List.mem_reverse.mp inside),
    List.reverse_reverse]

/-- Blanks around a trimmed list are what trimming takes away. -/
theorem trimChars_append {before core after : List Char} (blankBefore : ∀ c ∈ before, isBlank c)
    (blankAfter : ∀ c ∈ after, isBlank c) (trimmed : trimChars core = core) :
    trimChars (before ++ core ++ after) = core := by
  obtain ⟨start, finish⟩ := ends_of_trimmed trimmed
  unfold trimChars
  rw [List.append_assoc, List.dropWhile_append_of_pos blankBefore, List.dropWhile_append, start]
  cases core with
  | nil =>
    have nothing : after.dropWhile isBlank = [] := List.dropWhile_eq_nil_iff.mpr blankAfter
    rw [List.isEmpty_nil, if_pos rfl, nothing]
    rfl
  | cons c rest =>
    rw [List.isEmpty_cons, if_neg (by decide), dropBlankEnd_append blankAfter, finish]

/-- A list that is blank altogether is trimmed to nothing. -/
theorem trimChars_of_blank {characters : List Char} (blank : ∀ c ∈ characters, isBlank c) :
    trimChars characters = [] := by
  have nothing : trimChars (characters ++ [] ++ []) = [] :=
    trimChars_append blank (List.forall_mem_nil _) rfl
  rwa [List.append_nil, List.append_nil] at nothing

theorem isBlank_blankStart (characters : List Char) : ∀ c ∈ blankStart characters, isBlank c :=
  fun _ inside => List.mem_takeWhile_imp inside

theorem isBlank_blankEnd (characters : List Char) : ∀ c ∈ blankEnd characters, isBlank c :=
  fun _ inside => List.mem_takeWhile_imp (List.mem_reverse.mp inside)

/-! ### Renaming ids in a text -/

/-- A text with another name for what is left of it when it is trimmed. -/
def renameChars (rename : String → String) (characters : List Char) : List Char :=
  blankStart characters ++ (rename (String.ofList (trimChars characters))).toList ++
    blankEnd characters

/-- A text that is an id with blanks around it, with another name for the id. -/
def renameId (rename : String → String) (text : String) : String :=
  String.ofList (renameChars rename text.toList)

/-- A text that is a list of ids, with other names for them. -/
def renameIds (rename : String → String) (text : String) : String :=
  String.ofList (joinChars ',' ((splitChars ',' text.toList).map (renameChars rename)))

theorem renameChars_id (characters : List Char) : renameChars id characters = characters := by
  unfold renameChars
  rw [id, String.toList_ofList, blankStart_trimChars_blankEnd]

theorem renameId_id (text : String) : renameId id text = text := by
  rw [renameId, renameChars_id, String.ofList_toList]

theorem renameIds_id (text : String) : renameIds id text = text := by
  rw [renameIds, show renameChars id = id from funext renameChars_id, List.map_id,
    joinChars_splitChars, String.ofList_toList]

end Text

/-! ### Renaming a profile -/

/-- A member with other names for ids; what it draws from a subscription has no id of the
profile. -/
def Member.rename (rename : String → String) (member : Member) : Member :=
  match member.source with
  | .builtIn => { member with id := rename member.id }
  | .subscription => member
  | .proxy _ => member

def Outbound.rename (rename : String → String) (outbound : Outbound) : Outbound :=
  { outbound with
    id := rename outbound.id
    members := outbound.members.map (Member.rename rename) }

namespace Rule

def renamedPayload (rename : String → String) (rule : Rule) : String :=
  match rule.kind with
  | .ruleSet => Text.renameIds rename rule.payload
  | .inbound => Text.renameId rename rule.payload
  | _ => rule.payload

/-- A rule for traffic with other names for ids: its outbound holds an id under the action
`route`, and its server does under the action `resolve`. -/
def renameRoute (rename : String → String) (rule : Rule) : Rule :=
  { rule with
    payload := rule.renamedPayload rename
    outbound := if rule.action = .route then rename rule.outbound else rule.outbound
    server := if rule.action = .resolve then rename rule.server else rule.server }

/-- A rule for names with other names for ids: its server holds an id under the action
`route`. -/
def renameDns (rename : String → String) (rule : Rule) : Rule :=
  { rule with
    payload := rule.renamedPayload rename
    server := if rule.action = .route then rename rule.server else rule.server }

end Rule

def RuleSet.rename (rename : String → String) (ruleSet : RuleSet) : RuleSet :=
  { ruleSet with
    id := rename ruleSet.id
    downloadDetour := rename ruleSet.downloadDetour }

def DomainResolver.rename (rename : String → String) (resolver : DomainResolver) :
    DomainResolver :=
  { resolver with server := rename resolver.server }

def Route.rename (rename : String → String) (route : Route) : Route :=
  { route with
    rules := route.rules.map (Rule.renameRoute rename)
    ruleSets := route.ruleSets.map (RuleSet.rename rename)
    finalOutbound := rename route.finalOutbound
    defaultDomainResolver := route.defaultDomainResolver.rename rename }

def DnsServer.rename (rename : String → String) (server : DnsServer) : DnsServer :=
  { server with
    id := rename server.id
    detour := rename server.detour
    domainResolver := rename server.domainResolver }

def Dns.rename (rename : String → String) (dns : Dns) : Dns :=
  { dns with
    servers := dns.servers.map (DnsServer.rename rename)
    rules := dns.rules.map (Rule.renameDns rename)
    finalServer := rename dns.finalServer }

def Inbound.rename (rename : String → String) (inbound : Inbound) : Inbound :=
  { inbound with id := rename inbound.id }

def Experimental.rename (rename : String → String) (experimental : Experimental) :
    Experimental :=
  { experimental with
    clashApi := { experimental.clashApi with
      downloadDetour := rename experimental.clashApi.downloadDetour } }

/-- A profile with other names for the ids of its outbounds, name servers, rule-sets and
inbounds, where they are defined and where they are referred to. -/
def Profile.rename (rename : String → String) (profile : Profile) : Profile :=
  { profile with
    experimental := profile.experimental.rename rename
    inbounds := profile.inbounds.map (Inbound.rename rename)
    outbounds := profile.outbounds.map (Outbound.rename rename)
    route := profile.route.rename rename
    dns := profile.dns.rename rename }

/-! ### Names that stay -/

theorem member_rename_id (member : Member) : member.rename id = member := by
  unfold Member.rename
  cases member.source <;> rfl

theorem outbound_rename_id (outbound : Outbound) : outbound.rename id = outbound := by
  have members : outbound.members.map (Member.rename id) = outbound.members := by
    rw [show Member.rename id = id from funext member_rename_id, List.map_id]
  rw [Outbound.rename, members]
  rfl

theorem rule_renamedPayload_id (rule : Rule) : rule.renamedPayload id = rule.payload := by
  unfold Rule.renamedPayload
  split
  · exact Text.renameIds_id rule.payload
  · exact Text.renameId_id rule.payload
  · rfl

theorem rule_renameRoute_id (rule : Rule) : rule.renameRoute id = rule := by
  rw [Rule.renameRoute, rule_renamedPayload_id, id, id, ite_self, ite_self]

theorem rule_renameDns_id (rule : Rule) : rule.renameDns id = rule := by
  rw [Rule.renameDns, rule_renamedPayload_id, id, ite_self]

theorem route_rename_id (route : Route) : route.rename id = route := by
  have rules : route.rules.map (Rule.renameRoute id) = route.rules := by
    rw [show Rule.renameRoute id = id from funext rule_renameRoute_id, List.map_id]
  have ruleSets : route.ruleSets.map (RuleSet.rename id) = route.ruleSets := by
    rw [show RuleSet.rename id = id from funext fun _ => rfl, List.map_id]
  rw [Route.rename, rules, ruleSets]
  rfl

theorem dns_rename_id (dns : Dns) : dns.rename id = dns := by
  have servers : dns.servers.map (DnsServer.rename id) = dns.servers := by
    rw [show DnsServer.rename id = id from funext fun _ => rfl, List.map_id]
  have rules : dns.rules.map (Rule.renameDns id) = dns.rules := by
    rw [show Rule.renameDns id = id from funext rule_renameDns_id, List.map_id]
  rw [Dns.rename, servers, rules]
  rfl

/-- A profile in which every id keeps its name stays as it is. -/
theorem profile_rename_id (profile : Profile) : profile.rename id = profile := by
  have inbounds : profile.inbounds.map (Inbound.rename id) = profile.inbounds := by
    rw [show Inbound.rename id = id from funext fun _ => rfl, List.map_id]
  have outbounds : profile.outbounds.map (Outbound.rename id) = profile.outbounds := by
    rw [show Outbound.rename id = id from funext outbound_rename_id, List.map_id]
  rw [Profile.rename, inbounds, outbounds, route_rename_id, dns_rename_id]
  rfl

/-! ### Renamings -/

/-- An id that can stand in a list of ids. -/
structure PlainId (id : String) : Prop where
  given : id ≠ ""
  single : ',' ∉ id.toList
  trimmed : Text.trim id = id

/-- New names for ids, different ones for different ids. The empty id and the ids of the
outbounds that exist without being declared mean something and are kept. -/
structure Renaming where
  name : String → String
  injective : Function.Injective name
  empty : name "" = ""
  direct : name "direct" = "direct"
  block : name "block" = "block"
  plain : ∀ id, id ≠ "" → id ≠ "direct" → id ≠ "block" → PlainId (name id)

namespace Renaming

variable (names : Renaming)

/-- Only an id that is kept has itself for a new name. -/
theorem name_eq_iff {kept : String} (fixed : names.name kept = kept) (id : String) :
    names.name id = kept ↔ id = kept := by
  constructor
  · intro same
    exact names.injective (same.trans fixed.symm)
  · rintro rfl
    exact fixed

/-- No new name has a comma in it or blanks around it. -/
theorem name_single_trimmed (id : String) :
    ',' ∉ (names.name id).toList ∧ Text.trim (names.name id) = names.name id := by
  by_cases nothing : id = ""
  · rw [nothing, names.empty]
    decide
  · by_cases isDirect : id = "direct"
    · rw [isDirect, names.direct]
      decide
    · by_cases isBlock : id = "block"
      · rw [isBlock, names.block]
        decide
      · have plain := names.plain id nothing isDirect isBlock
        exact ⟨plain.single, plain.trimmed⟩

theorem trimChars_renameChars (characters : List Char) :
    Text.trimChars (Text.renameChars names.name characters) =
      (names.name (String.ofList (Text.trimChars characters))).toList := by
  have trimmed := congrArg String.toList
    (names.name_single_trimmed (String.ofList (Text.trimChars characters))).2
  rw [Text.trim, String.toList_ofList] at trimmed
  exact Text.trimChars_append (Text.isBlank_blankStart characters)
    (Text.isBlank_blankEnd characters) trimmed

/-- The id in a renamed text is the renamed id. -/
theorem trim_renameId (text : String) :
    Text.trim (Text.renameId names.name text) = names.name (Text.trim text) := by
  rw [Text.trim, Text.renameId, String.toList_ofList, names.trimChars_renameChars,
    String.ofList_toList, Text.trim]

theorem notMem_renameChars (characters : List Char) :
    ',' ∉ Text.renameChars names.name characters := by
  have blank : ¬ Text.isBlank ',' := by decide
  intro inside
  rcases List.mem_append.mp inside with around | after
  · rcases List.mem_append.mp around with before | core
    · exact blank (Text.isBlank_blankStart characters _ before)
    · exact (names.name_single_trimmed _).1 core
  · exact blank (Text.isBlank_blankEnd characters _ after)

/-- The ids in a renamed list are the renamed ids, in order. -/
theorem ruleSetIds_renameIds (payload : String) :
    Kernel.ruleSetIds (Text.renameIds names.name payload) =
      (Kernel.ruleSetIds payload).map names.name := by
  have pieces : Text.splitChars ',' (Text.renameIds names.name payload).toList =
      (Text.splitChars ',' payload.toList).map (Text.renameChars names.name) := by
    rw [Text.renameIds, String.toList_ofList]
    refine Text.splitChars_joinChars ?_ ?_
    · rw [ne_eq, List.map_eq_nil_iff]
      exact Text.splitChars_ne_nil _ _
    · intro piece among
      obtain ⟨old, _, rfl⟩ := List.mem_map.mp among
      exact names.notMem_renameChars old
  have trimmed : ∀ piece : List Char,
      Text.trim (String.ofList (Text.renameChars names.name piece)) =
        names.name (Text.trim (String.ofList piece)) := by
    intro piece
    rw [Text.trim, String.toList_ofList, names.trimChars_renameChars, String.ofList_toList,
      Text.trim, String.toList_ofList]
  have given : ∀ id : String, decide (names.name id ≠ "") = decide (id ≠ "") :=
    fun id => decide_eq_decide.mpr (not_congr (names.name_eq_iff names.empty id))
  unfold Kernel.ruleSetIds Text.split
  rw [pieces]
  simp only [List.map_map, List.filter_map, Function.comp_def, trimmed, given]

end Renaming

/-! ### A renaming -/

/-- A character as so many strokes and a full stop. -/
def strokes (c : Char) : List Char :=
  List.replicate c.toNat 'i' ++ ['.']

theorem replicate_cancel {first second : Nat} {rest others : List Char}
    (same : List.replicate first 'i' ++ '.' :: rest = List.replicate second 'i' ++ '.' :: others) :
    first = second ∧ rest = others := by
  induction first generalizing second with
  | zero =>
    cases second with
    | zero => exact ⟨rfl, (List.cons.inj same).2⟩
    | succ count => simp [List.replicate_succ] at same
  | succ count inductionHypothesis =>
    cases second with
    | zero => simp [List.replicate_succ] at same
    | succ other =>
      obtain ⟨equal, tails⟩ := inductionHypothesis (List.cons.inj same).2
      exact ⟨congrArg Nat.succ equal, tails⟩

/-- Different texts have different strokes. -/
theorem strokes_injective {first second : List Char}
    (same : first.flatMap strokes = second.flatMap strokes) : first = second := by
  induction first generalizing second with
  | nil =>
    cases second with
    | nil => rfl
    | cons c rest => simp [strokes] at same
  | cons c rest inductionHypothesis =>
    cases second with
    | nil => simp [strokes] at same
    | cons other others =>
      simp only [List.flatMap_cons, strokes, List.append_assoc, List.singleton_append] at same
      obtain ⟨count, tails⟩ := replicate_cancel same
      rw [Char.toNat_inj.mp count, inductionHypothesis tails]

theorem mem_strokes {characters : List Char} {c : Char} (inside : c ∈ characters.flatMap strokes) :
    c = 'i' ∨ c = '.' := by
  obtain ⟨old, _, among⟩ := List.mem_flatMap.mp inside
  rcases List.mem_append.mp among with stroke | stop
  · exact Or.inl (List.eq_of_mem_replicate stroke)
  · exact Or.inr (List.mem_singleton.mp stop)

/-- An id in strokes, unless it has to be kept. -/
def inStrokes (id : String) : String :=
  if id ∈ ["", "direct", "block"] then id
  else String.ofList ('#' :: id.toList.flatMap strokes)

theorem inStrokes_injective : Function.Injective inStrokes := by
  -- Only a new name begins with the mark; behind it the strokes tell the ids apart.
  have starts : ∀ id ∈ ["", "direct", "block"], id.toList.head? ≠ some '#' := by
    decide
  have unmarked : ∀ id ∈ ["", "direct", "block"], ∀ rest, id ≠ String.ofList ('#' :: rest) := by
    intro id kept rest equal
    refine starts id kept ?_
    rw [equal, String.toList_ofList, List.head?_cons]
  intro first second same
  unfold inStrokes at same
  split at same
  · rename_i kept
    split at same
    · exact same
    · exact absurd same (unmarked first kept _)
  · split at same
    · rename_i kept
      exact absurd same.symm (unmarked second kept _)
    · have lists := (List.cons.inj (String.ofList_injective same)).2
      exact String.toList_injective (strokes_injective lists)

theorem inStrokes_plain (id : String) (other : id ∉ ["", "direct", "block"]) :
    PlainId (inStrokes id) := by
  have letters : ∀ c ∈ '#' :: id.toList.flatMap strokes, c = '#' ∨ c = 'i' ∨ c = '.' := by
    intro c inside
    rcases List.mem_cons.mp inside with mark | later
    · exact Or.inl mark
    · exact Or.inr (mem_strokes later)
  have unlike : ∀ c, c = '#' ∨ c = 'i' ∨ c = '.' → c ≠ ',' ∧ ¬ Text.isBlank c := by
    rintro c (rfl | rfl | rfl) <;> decide
  rw [inStrokes, if_neg other]
  refine ⟨fun nothing => ?_, fun comma => ?_, ?_⟩
  · have none := congrArg String.toList nothing
    rw [String.toList_ofList] at none
    cases none
  · rw [String.toList_ofList] at comma
    exact (unlike _ (letters _ comma)).1 rfl
  · rw [Text.trim, String.toList_ofList,
      Text.trimChars_of_notBlank fun c inside => (unlike c (letters c inside)).2]

/-- The renaming that puts ids in strokes. -/
def Renaming.strokes : Renaming where
  name := inStrokes
  injective := inStrokes_injective
  empty := rfl
  direct := rfl
  block := rfl
  plain id given notDirect notBlock := inStrokes_plain id (by simp [given, notDirect, notBlock])

end ProxyProfile
