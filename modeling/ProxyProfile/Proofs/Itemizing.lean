/-
This file proves that the lists in payloads lose nothing.

Most payloads are lists of texts, and every piece of such a list is written as it
is, blanks and empty pieces included, so that gluing the pieces with commas gives the
payload back. A list of ports is read piece by piece; it is refused for its first piece
that is no port, and otherwise its numbers are written in order. In both cases a single
item stands for itself. What is written for the type of a rule is there before the
action writes anything, and stays but for a key that an action has in common with it.
-/

import Mathlib.Data.List.Forall2
import ProxyProfile.Proofs.Numbering

namespace ProxyProfile

/-! ### Pieces between commas -/

/-- Some pieces are what stands between the commas of a text. -/
structure CommaSeparated (pieces : List String) (text : String) : Prop where
  some : pieces ≠ []
  free : ∀ piece ∈ pieces, ',' ∉ piece.toList
  whole : ",".intercalate pieces = text

namespace Text

theorem joinChars_eq_intercalate (separator : Char) (pieces : List (List Char)) :
    joinChars separator pieces = [separator].intercalate pieces := by
  induction pieces with
  | nil => rfl
  | cons piece rest inductionHypothesis =>
    cases rest with
    | nil => rw [joinChars, List.intercalate_singleton]
    | cons next others =>
      rw [joinChars, inductionHypothesis, List.intercalate_cons_cons, List.append_assoc,
        List.singleton_append]

/-- The pieces between the commas are what a text is cut into. -/
theorem split_eq_iff {text : String} {pieces : List String} :
    split ',' text = pieces ↔ CommaSeparated pieces text := by
  have glued : ∀ pieces : List String, (",".intercalate pieces).toList =
      joinChars ',' (pieces.map String.toList) := fun pieces => by
    rw [String.toList_intercalate, joinChars_eq_intercalate]
    rfl
  have letters : ∀ pieces : List (List Char),
      (pieces.map String.ofList).map String.toList = pieces := fun pieces => by
    simp
  constructor
  · rintro rfl
    unfold split
    refine ⟨?_, ?_, ?_⟩
    · rw [ne_eq, List.map_eq_nil_iff]
      exact splitChars_ne_nil ',' text.toList
    · intro piece among
      obtain ⟨characters, cut, rfl⟩ := List.mem_map.mp among
      rw [String.toList_ofList]
      exact notMem_of_mem_splitChars ',' text.toList characters cut
    · refine String.toList_injective ?_
      rw [glued, letters, joinChars_splitChars]
  · intro separated
    have cut : splitChars ',' text.toList = pieces.map String.toList := by
      rw [← separated.whole, glued]
      refine splitChars_joinChars ?_ ?_
      · rw [ne_eq, List.map_eq_nil_iff]
        exact separated.some
      · intro characters among
        obtain ⟨piece, given, rfl⟩ := List.mem_map.mp among
        exact separated.free piece given
    rw [split, cut, List.map_map]
    exact (List.map_congr_left fun _ _ => String.ofList_toList).trans (List.map_id _)

end Text

namespace Kernel

/-! ### Items as a value -/

/-- A value stands for some items: for a single one it is the item, for several or none an array
of them. -/
structure IsListOf (items : List Json.Value) (value : Json.Value) : Prop where
  single : ∀ item, items = [item] → value = item
  several : items.length ≠ 1 → value = .array items

theorem isListOf_collapse (items : List Json.Value) : IsListOf items (collapse items) := by
  rcases items with _ | ⟨first, _ | ⟨second, rest⟩⟩
  · exact ⟨nofun, fun _ => rfl⟩
  · exact ⟨fun item same => (List.cons.inj same).1, fun several => absurd rfl several⟩
  · exact ⟨nofun, fun _ => rfl⟩

/-! ### Rules -/

/-- The kinds whose payloads are not lists of texts. -/
def otherKinds : List RuleKind :=
  [.inline, .ruleSet, .inbound, .ipIsPrivate, .clashMode, .port, .sourcePort]

section Rules

variable {scope : Scope} {rule : Rule} {encoder : RuleEncoder}

theorem encodeMatch_texts (texts : rule.kind ∉ otherKinds) (start : Json.Object) :
    encodeMatch scope rule start = return some (start.insert rule.kind.name
      (collapse ((Text.split ',' rule.payload).map .string))) := by
  unfold encodeMatch
  cases kind : rule.kind with
  | inline | ruleSet | inbound | ipIsPrivate | clashMode | port | sourcePort =>
    exact absurd (by rw [kind]; decide) texts
  | _ => rfl

theorem encodeMatch_ports (ports : rule.kind = .port ∨ rule.kind = .sourcePort)
    (start : Json.Object) :
    encodeMatch scope rule start = (do
      let context := rule.kind.name ++ " of rule " ++ rule.id
      let ports ← ((Text.split ',' rule.payload).mapM (readPort context) : Except Error _)
      return some (start.insert rule.kind.name (collapse ports))) := by
  unfold encodeMatch
  rcases ports with kind | kind <;> rw [kind] <;> rfl

/-- A rule is encoded with a value written for its type: this is all that its match writes, and
what is written behind it stands at other keys or is written by the action. -/
structure EncodesValue (encoder : RuleEncoder) (scope : Scope) (rule : Rule)
    (value : Json.Value) : Prop where
  matched : Gives (encodeMatch scope rule (startRule rule))
    (· = some ((startRule rule).insert rule.kind.name value))
  encoded : Gives (encoder.encode scope rule) fun result => ∃ encoded, result = some encoded ∧
    encoder.Extends ((startRule rule).insert rule.kind.name value) encoded

theorem encodesValue_of_match (keyed : rule.kind ≠ .inline) (plain : encoder.MergesNothing rule)
    (granted : scope.policy = .lenient ∨ encoder.Reaches scope rule) {value : Json.Value}
    (matched : Gives (encodeMatch scope rule (startRule rule))
      (· = some ((startRule rule).insert rule.kind.name value))) :
    EncodesValue encoder scope rule value := by
  refine ⟨matched, ?_⟩
  have given : Gives (encodeMatch scope rule (startRule rule)) fun result =>
      ∃ matched, result = some matched ∧
        matched = (startRule rule).insert rule.kind.name value :=
    matched.imp fun result equal => ⟨_, equal, rfl⟩
  refine (encoder.gives_encode keyed plain granted given).imp ?_
  rintro _ ⟨_, encoded, rfl, rfl, keeps⟩
  exact ⟨encoded, rfl, keeps⟩

theorem not_inline_of_texts (texts : rule.kind ∉ otherKinds) : rule.kind ≠ .inline := by
  intro inline
  rw [inline] at texts
  exact texts List.mem_cons_self

/-- A list of texts is written with every piece as it is. -/
theorem encodesValue_texts (texts : rule.kind ∉ otherKinds) (plain : encoder.MergesNothing rule)
    (granted : scope.policy = .lenient ∨ encoder.Reaches scope rule) :
    ∃ pieces value, CommaSeparated pieces rule.payload ∧
      IsListOf (pieces.map .string) value ∧ EncodesValue encoder scope rule value := by
  refine ⟨_, _, Text.split_eq_iff.mp rfl, isListOf_collapse _, ?_⟩
  refine encodesValue_of_match (not_inline_of_texts texts) plain granted ?_
  rw [encodeMatch_texts texts]
  exact gives_pure _ rfl

/-! ### Lists of ports -/

section Ports

variable {context : String}

theorem mapM_readPort_ok {pieces : List String} {ports : List Nat}
    (read : List.Forall₂ IsPort pieces ports) :
    pieces.mapM (readPort context) = .ok (ports.map .natural) := by
  induction read with
  | nil => rfl
  | cons isPort _ inductionHypothesis =>
    rw [List.mapM_cons, readPort_of_isPort isPort, inductionHypothesis]
    rfl

theorem mapM_readPort_error {front : List String} {bad : String}
    (before : ∀ piece ∈ front, ∃ port, IsPort piece port) (unread : ¬ ∃ port, IsPort bad port)
    (back : List String) :
    (front ++ bad :: back).mapM (readPort context) = .error (.invalidNumber context bad) := by
  induction front with
  | nil =>
    rw [List.nil_append, List.mapM_cons, readPort_of_not_isPort unread]
    rfl
  | cons piece rest inductionHypothesis =>
    obtain ⟨⟨port, isPort⟩, others⟩ := List.forall_mem_cons.mp before
    rw [List.cons_append, List.mapM_cons, readPort_of_isPort isPort, inductionHypothesis others]
    rfl

theorem exists_ports {pieces : List String} (all : ∀ piece ∈ pieces, ∃ port, IsPort piece port) :
    ∃ ports, List.Forall₂ IsPort pieces ports := by
  induction pieces with
  | nil => exact ⟨[], .nil⟩
  | cons piece rest inductionHypothesis =>
    obtain ⟨⟨port, isPort⟩, others⟩ := List.forall_mem_cons.mp all
    obtain ⟨ports, read⟩ := inductionHypothesis others
    exact ⟨port :: ports, .cons isPort read⟩

end Ports

/-- A list of ports is read piece by piece: it is encoded if every piece is a port, with the ports
in order, and otherwise it is refused for the first piece that is none. -/
structure ReadsPorts (encoder : RuleEncoder) (scope : Scope) (rule : Rule)
    (pieces : List String) : Prop where
  succeeds : Gives (encoder.encode scope rule) (fun _ => True) ↔
    ∀ piece ∈ pieces, ∃ port, IsPort piece port
  written : ∀ ports, List.Forall₂ IsPort pieces ports →
    ∃ value, IsListOf (ports.map .natural) value ∧ EncodesValue encoder scope rule value
  refused : ∀ front bad back, pieces = front ++ bad :: back →
    (∀ piece ∈ front, ∃ port, IsPort piece port) → (¬ ∃ port, IsPort bad port) →
    Fails (encoder.encode scope rule)
      (.invalidNumber (rule.kind.name ++ " of rule " ++ rule.id) bad)

theorem readsPorts (numeric : rule.kind = .port ∨ rule.kind = .sourcePort)
    (plain : encoder.MergesNothing rule)
    (granted : scope.policy = .lenient ∨ encoder.Reaches scope rule) {pieces : List String}
    (separated : CommaSeparated pieces rule.payload) :
    ReadsPorts encoder scope rule pieces := by
  have keyed : rule.kind ≠ .inline := by
    rcases numeric with kind | kind <;> rw [kind] <;> nofun
  have cut := Text.split_eq_iff.mpr separated
  have written : ∀ ports, List.Forall₂ IsPort pieces ports →
      ∃ value, IsListOf (ports.map .natural) value ∧ EncodesValue encoder scope rule value := by
    intro ports read
    refine ⟨_, isListOf_collapse _, encodesValue_of_match keyed plain granted ?_⟩
    rw [encodeMatch_ports numeric, cut]
    refine gives_bind (gives_lift (mapM_readPort_ok read)) fun given equal => gives_pure _ ?_
    rw [equal]
  have refused : ∀ front bad back, pieces = front ++ bad :: back →
      (∀ piece ∈ front, ∃ port, IsPort piece port) → (¬ ∃ port, IsPort bad port) →
      Fails (encoder.encode scope rule)
        (.invalidNumber (rule.kind.name ++ " of rule " ++ rule.id) bad) := by
    rintro front bad back rfl before unread
    refine encoder.fails_encode keyed ?_
    rw [encodeMatch_ports numeric, cut]
    exact fails_first (fails_lift (mapM_readPort_error before unread back)) _
  refine ⟨⟨fun gives => ?_, fun all => ?_⟩, written, refused⟩
  · classical
    -- The first piece that is no port would be refused.
    cases found : pieces.find? fun piece => ¬ ∃ port, IsPort piece port with
    | none => simpa using found
    | some bad =>
      obtain ⟨unread, front, back, split, before⟩ := List.find?_eq_some_iff_append.mp found
      refine absurd (refused front bad back split ?_ ?_) gives.not_fails
      · simpa using before
      · simpa using unread
  · obtain ⟨ports, read⟩ := exists_ports all
    obtain ⟨value, _, encodes⟩ := written ports read
    exact encodes.encoded.imp fun _ _ => trivial

end Rules

/-! ### Lists and ports -/

/-- What is written for a list holds all that the list says. Under the lenient policy a rule whose
action merges nothing in has the pieces of its payload as texts, with nothing added or lost, or
the ports that they are; and a piece that is no port is the error. The port of a name server that
is asked at an address is read in the same way, from a text or from a number, and the numbers
that are ports are the whole ones from zero to 65535. -/
theorem encode_lists (profile : Profile) :
    (∀ (encoder : RuleEncoder) (rule : Rule), encoder.MergesNothing rule →
      rule.kind ∉ otherKinds → ∃ pieces value, CommaSeparated pieces rule.payload ∧
        IsListOf (pieces.map .string) value ∧
        EncodesValue encoder ⟨profile, .lenient⟩ rule value) ∧
    (∀ (encoder : RuleEncoder) (rule : Rule), encoder.MergesNothing rule →
      rule.kind = .port ∨ rule.kind = .sourcePort → ∃ pieces,
        CommaSeparated pieces rule.payload ∧
        ReadsPorts encoder ⟨profile, .lenient⟩ rule pieces) ∧
    (∀ (scope : Scope) (document value : Json.Value) (server : DnsServer) (text : String),
      DnsServer.read? (Tree.ofValue document) = some server → server.type ∈ addressedTypes →
      DnsServer.schema.given? document "server_port" = some value → SpellsText value text →
      ¬ Text.isBlankText text →
      scope.Grants server.detour (scope.reachedOutbound? server.detour) →
      scope.Grants server.domainResolver (scope.reachedDnsServer? server.domainResolver) →
      ServerReads scope server text) ∧
    ∀ (number : Json.Number) (port : Nat),
      IsPort (Json.Value.number number).compact port ↔ number = .integer port ∧ port ≤ 65535 := by
  refine ⟨fun encoder rule plain texts => ?_, fun encoder rule plain numeric => ?_, ?_,
    isPort_compact_iff⟩
  · exact encodesValue_texts texts plain (Or.inl rfl)
  · exact ⟨_, Text.split_eq_iff.mp rfl,
      readsPorts numeric plain (Or.inl rfl) (Text.split_eq_iff.mp rfl)⟩
  · intro scope document value server text read addressed given spells visible detour resolver
    obtain rfl := serverPort_of_read? read given spells
    exact serverReads addressed visible detour resolver

/-- A rule for some domains, one of which is blank. -/
def domainsRule : Rule where
  kind := .domain
  payload := "a.example, ,b.example"

/-- A rule with ports that are written in three ways. -/
def portsRule : Rule where
  kind := .sourcePort
  payload := "0080, +443,8080 "
  action := .reject

/-- A server that is asked at a port which is written as a number. -/
def numberedDocument : Json.Value :=
  .object [("type", .string "udp"), ("server_port", .number (.integer 53))]

example : port? (Text.trim " +0080 ") = some 80 ∧ port? (Text.trim "65536") = none ∧
    port? (Text.trim "+ 80") = none := by
  decide

theorem encode_lists_mixed :
    (∃ pieces value, CommaSeparated pieces domainsRule.payload ∧
      IsListOf (pieces.map .string) value ∧
      EncodesValue (.names true) ⟨{}, .lenient⟩ domainsRule value) ∧
    (∃ pieces, CommaSeparated pieces portsRule.payload ∧
      ReadsPorts .traffic ⟨{}, .lenient⟩ portsRule pieces) ∧
    ∃ server, DnsServer.read? (Tree.ofValue numberedDocument) = some server ∧
      Gives (encodeServer ⟨{}, .strict⟩ server) fun entry =>
        entry.get? "server_port" = some (.natural 53) := by
  obtain ⟨texts, ports, servers, numbers⟩ := encode_lists {}
  refine ⟨texts (.names true) domainsRule nofun (by decide),
    ports .traffic portsRule nofun (Or.inr rfl), _, rfl, ?_⟩
  have port := (numbers (.integer 53) 53).mpr ⟨rfl, by decide⟩
  have reads := servers ⟨{}, .strict⟩ numberedDocument _ _ _ rfl (by decide) rfl (.number _)
    (not_isBlankText_of_isPort port) (Or.inr (Or.inl rfl)) (Or.inr (Or.inl rfl))
  exact reads.written 53 port

end Kernel

end ProxyProfile
