/-
This file proves which texts are numbers of ports.

Ports are read at two places, in the payloads of rules and in the field of a name
server, and both take the same texts: decimal digits, perhaps behind a plus sign,
worth at most 65535, with blanks around them. Leading zeros mean nothing, and there
is no bound on the length. The field of a server may also hold a number, which is
taken for its text: so a whole number from zero to 65535 is a port, and no other
number is, because the text of every other one has a character in it that is no
digit and no plus sign.
-/

import ProxyProfile.Proofs.Composing
import ProxyProfile.Proofs.Renaming
import ProxyProfile.Proofs.Surviving

namespace ProxyProfile

/-! ### Texts of ports -/

/-- Decimal digits, perhaps behind a plus sign, stand for a number. -/
inductive Denotes : List Char → Nat → Prop
  | plain {digits : List Char} (some : digits ≠ []) (decimal : ∀ c ∈ digits, Decimal.isDigit c) :
      Denotes digits (Decimal.value digits)
  | signed {digits : List Char} (some : digits ≠ []) (decimal : ∀ c ∈ digits, Decimal.isDigit c) :
      Denotes ('+' :: digits) (Decimal.value digits)

/-- A text is the number of a port, with blanks around it. -/
structure IsPort (text : String) (number : Nat) : Prop where
  spelled : ∃ before core after : List Char, text.toList = before ++ core ++ after ∧
    (∀ c ∈ before, Text.isBlank c) ∧ (∀ c ∈ after, Text.isBlank c) ∧ Denotes core number
  bounded : number ≤ 65535

theorem Decimal.notBlank_of_isDigit {c : Char} (digit : isDigit c) : ¬ Text.isBlank c := by
  unfold isDigit at digit
  unfold Text.isBlank
  simp only [Bool.and_eq_true, decide_eq_true_eq] at digit
  simp only [Bool.or_eq_true, Bool.and_eq_true, decide_eq_true_eq, beq_iff_eq]
  omega

theorem Denotes.mem {core : List Char} {number : Nat} (denotes : Denotes core number) :
    ∀ c ∈ core, c = '+' ∨ Decimal.isDigit c := by
  cases denotes with
  | plain _ decimal => exact fun c inside => Or.inr (decimal c inside)
  | signed _ decimal =>
    exact List.forall_mem_cons.mpr ⟨Or.inl rfl, fun c inside => Or.inr (decimal c inside)⟩

theorem Denotes.trimmed {core : List Char} {number : Nat} (denotes : Denotes core number) :
    Text.trimChars core = core := by
  refine Text.trimChars_of_notBlank fun c inside => ?_
  rcases denotes.mem c inside with rfl | digit
  · decide
  · exact Decimal.notBlank_of_isDigit digit

theorem IsPort.mem {text : String} {port : Nat} (isPort : IsPort text port) :
    ∀ c ∈ text.toList, c = '+' ∨ Decimal.isDigit c ∨ Text.isBlank c := by
  obtain ⟨before, core, after, whole, blankBefore, blankAfter, denotes⟩ := isPort.spelled
  intro c inside
  rw [whole] at inside
  rcases List.mem_append.mp inside with inner | behind
  · rcases List.mem_append.mp inner with ahead | within
    · exact Or.inr (Or.inr (blankBefore c ahead))
    · exact (denotes.mem c within).imp_right Or.inl
  · exact Or.inr (Or.inr (blankAfter c behind))

namespace Kernel

theorem digits_eq_some_iff {digits : List Char} {number : Nat} :
    (if digits.isEmpty || !digits.all Decimal.isDigit then none
      else if Decimal.value digits < 65536 then some (Decimal.value digits) else none) =
        some number ↔
      digits ≠ [] ∧ (∀ c ∈ digits, Decimal.isDigit c) ∧ Decimal.value digits = number ∧
        number ≤ 65535 := by
  have numeral : ¬ (digits.isEmpty || !digits.all Decimal.isDigit) = true ↔
      digits ≠ [] ∧ ∀ c ∈ digits, Decimal.isDigit c := by
    simp
  rw [Option.ite_none_left_eq_some, numeral, Option.ite_none_right_eq_some, Option.some.injEq,
    and_assoc]
  refine and_congr_right fun _ => and_congr_right fun _ => ?_
  omega

/-- The reader of ports takes a number of at most sixteen bits. -/
theorem port?_eq_some_iff {text : String} {number : Nat} :
    port? text = some number ↔ Denotes text.toList number ∧ number ≤ 65535 := by
  unfold port?
  generalize text.toList = core
  dsimp only
  rw [digits_eq_some_iff]
  split
  · rename_i rest
    constructor
    · rintro ⟨some, decimal, rfl, bounded⟩
      exact ⟨.signed some decimal, bounded⟩
    · rintro ⟨denotes, bounded⟩
      cases denotes with
      | plain _ decimal => exact absurd (decimal '+' List.mem_cons_self) (by decide)
      | signed some decimal => exact ⟨some, decimal, rfl, bounded⟩
  · rename_i unsigned
    constructor
    · rintro ⟨some, decimal, rfl, bounded⟩
      exact ⟨.plain some decimal, bounded⟩
    · rintro ⟨denotes, bounded⟩
      cases denotes with
      | plain some decimal => exact ⟨some, decimal, rfl, bounded⟩
      | signed _ _ => exact absurd rfl (unsigned _)

/-- What is left of a text when it is trimmed is read as the port that the text is. -/
theorem port?_trim_iff {text : String} {number : Nat} :
    port? (Text.trim text) = some number ↔ IsPort text number := by
  rw [port?_eq_some_iff, Text.trim, String.toList_ofList]
  constructor
  · rintro ⟨denotes, bounded⟩
    exact ⟨⟨_, _, _, (Text.blankStart_trimChars_blankEnd text.toList).symm,
      Text.isBlank_blankStart _, Text.isBlank_blankEnd _, denotes⟩, bounded⟩
  · rintro ⟨⟨before, core, after, whole, blankBefore, blankAfter, denotes⟩, bounded⟩
    rw [whole, Text.trimChars_append blankBefore blankAfter denotes.trimmed]
    exact ⟨denotes, bounded⟩

theorem readPort_of_isPort {text : String} {number : Nat} (isPort : IsPort text number)
    (context : String) : readPort context text = .ok (.natural number) := by
  unfold readPort
  rw [port?_trim_iff.mpr isPort]

theorem readPort_of_not_isPort {text : String} (bad : ¬ ∃ number, IsPort text number)
    (context : String) : readPort context text = .error (.invalidNumber context text) := by
  have unread : port? (Text.trim text) = none := by
    rw [Option.eq_none_iff_forall_ne_some]
    exact fun number read => bad ⟨number, port?_trim_iff.mp read⟩
  unfold readPort
  rw [unread]

/-- A text that is a port is not blank. -/
theorem not_isBlankText_of_isPort {text : String} {number : Nat} (isPort : IsPort text number) :
    ¬ Text.isBlankText text := by
  obtain ⟨before, core, after, whole, _, _, denotes⟩ := isPort.spelled
  intro blank
  have nothing : Text.trimChars core = [] := by
    refine Text.trimChars_of_blank fun c inside => List.all_eq_true.mp blank c ?_
    rw [whole]
    exact List.mem_append_left _ (List.mem_append_right _ inside)
  rw [denotes.trimmed] at nothing
  subst nothing
  cases denotes
  contradiction

/-! ### Numbers that are ports -/

/-- A floating point number that is laid out as anything has a point or an exponent. -/
theorem scaledChars_cases (layout : Decimal.Layout) (decimal : Decimal.Scaled) :
    layout.scaledChars decimal = [] ∨ '.' ∈ layout.scaledChars decimal ∨
      'e' ∈ layout.scaledChars decimal := by
  unfold Decimal.Layout.scaledChars
  obtain ⟨kept, zeros⟩ := Decimal.dropZeros (Decimal.digits decimal.digits)
  dsimp only
  split
  · split
    · exact Or.inl rfl
    · exact Or.inr (Or.inr (by simp [Decimal.Layout.exponentChars]))
    · exact Or.inr (Or.inl (by simp))
  · refine Or.inr (Or.inl ?_)
    split
    · simp
    · split <;> simp

theorem not_isPort_binary (value : Decimal.Binary64) (port : Nat) :
    ¬ IsPort (Json.Value.number (.binary value)).compact port := by
  intro isPort
  have characters := isPort.mem
  have shape : (Json.Value.number (.binary value)).compact.toList =
      Json.floatLayout.chars value := String.toList_ofList
  -- The text is not empty, since it has a digit in it.
  have some : Json.floatLayout.chars value ≠ [] := by
    rw [← shape]
    intro nothing
    refine not_isBlankText_of_isPort isPort ?_
    rw [Text.isBlankText, nothing]
    rfl
  rw [shape] at characters
  unfold Decimal.Layout.chars at characters some
  dsimp only at characters some
  split at characters
  · exact absurd (characters '.' (by simp)) (by decide)
  · rename_i positive
    rw [if_neg positive] at some
    rcases scaledChars_cases Json.floatLayout (Decimal.shortest value) with none | point | exponent
    · rw [none, List.append_nil] at characters some
      split at characters
      · exact absurd (characters '-' List.mem_cons_self) (by decide)
      · rename_i unsigned
        exact some (if_neg unsigned)
    · exact absurd (characters '.' (List.mem_append_right _ point)) (by decide)
    · exact absurd (characters 'e' (List.mem_append_right _ exponent)) (by decide)

theorem denotes_digits_iff {number port : Nat} :
    Denotes (Decimal.digits number) port ↔ port = number := by
  have decimal := List.all_eq_true.mp (Decimal.all_isDigit_digits number)
  constructor
  · intro denotes
    generalize equal : Decimal.digits number = core at denotes decimal
    cases denotes with
    | plain _ _ => rw [← equal, Decimal.value_digits]
    | signed _ _ => exact absurd (decimal '+' List.mem_cons_self) (by decide)
  · rintro rfl
    have denotes := Denotes.plain (Decimal.digits_ne_nil port) decimal
    rwa [Decimal.value_digits] at denotes

/-- The numbers that are ports are the whole ones from zero to 65535. -/
theorem isPort_compact_iff (number : Json.Number) (port : Nat) :
    IsPort (Json.Value.number number).compact port ↔ number = .integer port ∧ port ≤ 65535 := by
  have letters : (Json.Value.number number).compact.toList = number.chars := String.toList_ofList
  cases number with
  | binary value => exact ⟨fun isPort => absurd isPort (not_isPort_binary value port), nofun⟩
  | integer value =>
    cases value with
    | negSucc value =>
      refine ⟨fun isPort => ?_, nofun⟩
      have minus := isPort.mem '-' (by rw [letters]; exact List.mem_cons_self)
      exact absurd minus (by decide)
    | ofNat value =>
      have decimal := List.all_eq_true.mp (Decimal.all_isDigit_digits value)
      have trimmed : Text.trim (Json.Value.number (.integer (.ofNat value))).compact =
          String.ofList (Decimal.digits value) := by
        rw [Text.trim, letters]
        refine congrArg String.ofList (Text.trimChars_of_notBlank fun c inside => ?_)
        exact Decimal.notBlank_of_isDigit (decimal c inside)
      rw [← port?_trim_iff, trimmed, port?_eq_some_iff, String.toList_ofList, denotes_digits_iff]
      refine and_congr_left fun _ => ?_
      constructor
      · rintro rfl
        rfl
      · intro same
        cases same
        rfl

/-! ### Ports of name servers -/

/-- A text, or a number, which is taken for its text. -/
inductive SpellsText : Json.Value → String → Prop
  | text (text : String) : SpellsText (.string text) text
  | number (number : Json.Number) : SpellsText (.number number) (Json.Value.number number).compact

/-- A server has the port that its document gives, as a text. -/
theorem serverPort_of_read? {document value : Json.Value} {server : DnsServer} {text : String}
    (read : DnsServer.read? (Tree.ofValue document) = some server)
    (given : DnsServer.schema.given? document "server_port" = some value)
    (spells : SpellsText value text) : server.serverPort = text := by
  unfold DnsServer.read? at read
  obtain ⟨fields, record, read⟩ := Option.bind_eq_some_iff.mp read
  iterate 6 obtain ⟨_, _, read⟩ := Option.bind_eq_some_iff.mp read
  obtain ⟨port, taken, read⟩ := Option.bind_eq_some_iff.mp read
  iterate 6 obtain ⟨_, _, read⟩ := Option.bind_eq_some_iff.mp read
  cases read
  have held := Tree.gives_of_record? record "server_port"
  rw [given, Option.map_some] at held
  unfold Tree.Fields.get at taken
  rw [held] at taken
  have loose : DnsServer.looseText? (Tree.ofValue value) = some text := by
    cases spells with
    | text text => rfl
    | number number => cases number <;> rfl
  exact Option.some.inj (taken.symm.trans loose)

/-- The types of servers that are asked at an address. -/
def addressedTypes : List DnsServerType :=
  [.tcp, .udp, .tls, .quic, .https, .h3]

section Server

variable {server : DnsServer}

/-- An address is written with its port. -/
theorem insertAddress_of_isPort {port : Nat} (isPort : IsPort server.serverPort port)
    (written : Json.Object) :
    insertAddress server written =
      .ok ((written.insert "server" (.string server.server)).insert "server_port"
        (.natural port)) := by
  unfold insertAddress
  simp only [if_neg (not_isBlankText_of_isPort isPort), readPort_of_isPort isPort]
  rfl

theorem insertAddress_of_not_isPort (given : ¬ Text.isBlankText server.serverPort)
    (bad : ¬ ∃ port, IsPort server.serverPort port) (written : Json.Object) :
    insertAddress server written =
      .error (.invalidNumber ("server_port of dns server " ++ server.tag) server.serverPort) := by
  unfold insertAddress
  simp only [if_neg given, readPort_of_not_isPort bad]
  rfl

/-- A server that is asked at an address has no more than the address and perhaps a path. -/
theorem insertDetails_of_addressed (addressed : server.type ∈ addressedTypes)
    (written : Json.Object) :
    ∃ finish : Json.Object → Json.Object,
      insertDetails server written = (insertAddress server written).map finish ∧
      ∀ object, (finish object).get? "server_port" = object.get? "server_port" := by
  have path : ∀ object, (insertText object "path" server.path).get? "server_port" =
      object.get? "server_port" := fun object => get?_insertText_of_ne _ _ (by decide)
  have alone : insertAddress server written = (insertAddress server written).map id := by
    cases insertAddress server written <;> rfl
  have followed : (do return insertText (← insertAddress server written) "path" server.path) =
      (insertAddress server written).map fun object => insertText object "path" server.path := by
    cases insertAddress server written <;> rfl
  unfold addressedTypes at addressed
  unfold insertDetails
  cases type : server.type with
  | tcp => exact ⟨id, alone, fun _ => rfl⟩
  | udp => exact ⟨id, alone, fun _ => rfl⟩
  | tls => exact ⟨id, alone, fun _ => rfl⟩
  | quic => exact ⟨id, alone, fun _ => rfl⟩
  | https => exact ⟨_, followed, path⟩
  | h3 => exact ⟨_, followed, path⟩
  | _ =>
    rw [type] at addressed
    exact absurd addressed (by decide)

/-- A server is encoded with the port that a text is, and is refused if the text is none. -/
structure ServerReads (scope : Scope) (server : DnsServer) (text : String) : Prop where
  written : ∀ port, IsPort text port → Gives (encodeServer scope server) fun entry =>
    entry.get? "server_port" = some (.natural port)
  refused : (¬ ∃ port, IsPort text port) → Fails (encodeServer scope server)
    (.invalidNumber ("server_port of dns server " ++ server.tag) text)

/-- The port of a server that is asked at an address is read, if no reference is refused. -/
theorem serverReads {scope : Scope} (addressed : server.type ∈ addressedTypes)
    (given : ¬ Text.isBlankText server.serverPort)
    (detour : scope.Grants server.detour (scope.reachedOutbound? server.detour))
    (resolver : scope.Grants server.domainResolver
      (scope.reachedDnsServer? server.domainResolver)) :
    ServerReads scope server server.serverPort := by
  refine ⟨fun port isPort => ?_, fun bad => ?_⟩ <;> unfold encodeServer
  · refine gives_bind (gives_outbound detour) fun _ _ => ?_
    refine gives_bind (gives_dnsServer resolver) fun _ _ => ?_
    obtain ⟨finish, details, kept⟩ := insertDetails_of_addressed addressed _
    rw [insertAddress_of_isPort isPort] at details
    refine gives_bind (gives_lift details) fun after equal => gives_pure _ ?_
    rw [equal]
    exact (kept _).trans (Json.Object.get?_insert_self _ _ _)
  · refine fails_second (gives_outbound detour) fun _ _ => ?_
    refine fails_second (gives_dnsServer resolver) fun _ _ => ?_
    obtain ⟨finish, details, _⟩ := insertDetails_of_addressed addressed _
    rw [insertAddress_of_not_isPort given bad] at details
    exact fails_first (fails_lift details) _

end Server

end Kernel

end ProxyProfile
