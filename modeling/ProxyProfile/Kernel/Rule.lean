/-
This file encodes rules as the kernel takes them.

An encoded rule starts with its action; then comes what it matches, then what the
action needs, then what an option text adds, and last whether it is inverted. A
rule for an inbound that is disabled or not there is dropped, and so is a rule
for made-up addresses where no server makes them up; such a rule carries a mark
that the kernel never sees.
-/

import ProxyProfile.Json.Merge
import ProxyProfile.Json.Reader
import ProxyProfile.Kernel.Scope

namespace ProxyProfile.Kernel

/-! ### Parts of a rule -/

/-- Merges the text of a document into an object. Blank text adds nothing. -/
def mergeText (written : Json.Object) (text ruleId : String) : Compile Json.Object :=
  if Text.isBlankText text then return written
  else
    match Json.parse? text with
    | some value => return Json.mergeInto written value
    | none => throw (.json ("rule " ++ ruleId))

/-- A single value stands for itself, several or none as an array. -/
def collapse : List Json.Value → Json.Value
  | [value] => value
  | values => .array values

/-- The number of a port: decimal digits, perhaps behind a plus sign, worth less than
65536. -/
def port? (text : String) : Option Nat :=
  let unsigned :=
    match text.toList with
    | '+' :: rest => rest
    | rest => rest
  if unsigned.isEmpty || !unsigned.all Decimal.isDigit then none
  else
    let number := Decimal.value unsigned
    if number < 65536 then some number else none

/-- The number of a port with blanks around it, or the error that it is none. -/
def readPort (context text : String) : Except Error Json.Value :=
  match port? (Text.trim text) with
  | some number => .ok (.natural number)
  | none => .error (.invalidNumber context text)

/-- The ids in a list of rule-sets. -/
def ruleSetIds (payload : String) : List String :=
  ((Text.split ',' payload).map Text.trim).filter (· ≠ "")

/-- The rule-sets of a rule: a single one is left out if it leads nowhere, and among several
each keeps its place. -/
def encodeRuleSets (scope : Scope) (payload : String) : Compile (Option Json.Value) :=
  match ruleSetIds payload with
  | [] => return none
  | [id] => do return (← scope.ruleSet id).map .string
  | ids => do
    let tags ← ids.mapM fun id => do
      return (← scope.ruleSet id).elim Json.Value.null Json.Value.string
    return some (.array tags)

/-- Writes what a rule matches behind what is written already; nothing if the rule is to be
dropped. -/
def encodeMatch (scope : Scope) (rule : Rule) (written : Json.Object) :
    Compile (Option Json.Object) :=
  let field := rule.kind.name
  match rule.kind with
  | .inline => do return some (← mergeText written rule.payload rule.id)
  | .ruleSet => do
    match ← encodeRuleSets scope rule.payload with
    | some value => return some (written.insert field value)
    | none => return some written
  | .inbound =>
    match scope.inbound? (Text.trim rule.payload) with
    | some tag => return some (written.insert field (.string tag))
    | none => return none
  | kind => do
    if kind.isBoolean then return some (written.insert field (.bool (rule.payload = "true")))
    else if kind.isEnumerated then return some (written.insert field (.string rule.payload))
    else if kind.isNumeric then
      let context := field ++ " of rule " ++ rule.id
      let ports ← ((Text.split ',' rule.payload).mapM (readPort context) : Except Error _)
      return some (written.insert field (collapse ports))
    else
      return some (written.insert field (collapse ((Text.split ',' rule.payload).map .string)))

/-! ### Optional members -/

/-- Writes a member if there is something to write. -/
def insertSome (written : Json.Object) (key : String) (value : Option Json.Value) : Json.Object :=
  match value with
  | some value => written.insert key value
  | none => written

/-- Writes a text if it is not empty. -/
def insertText (written : Json.Object) (key text : String) : Json.Object :=
  if text = "" then written else written.insert key (.string text)

/-- Writes a truth value if it is true. -/
def insertFlag (written : Json.Object) (key : String) (flag : Bool) : Json.Object :=
  if flag then written.insert key (.bool true) else written

/-- Writes a strategy if it is not the default. -/
def insertStrategy (written : Json.Object) (strategy : Strategy) : Json.Object :=
  if strategy = .default then written
  else written.insert "strategy" (.string strategy.name)

/-! ### Rules for traffic -/

/-- Writes what the action of a rule for traffic needs. -/
def encodeRouteAction (scope : Scope) (rule : Rule) (written : Json.Object) :
    Compile Json.Object :=
  match rule.action with
  | .route => do
    return insertSome written "outbound" ((← scope.outbound rule.outbound).map .string)
  | .routeOptions => mergeText written rule.outbound rule.id
  | .reject =>
    if rule.outbound = "default" || rule.outbound = "drop" then
      return written.insert "method" (.string rule.outbound)
    else return written
  | .sniff =>
    if rule.sniffer.isEmpty then return written
    else return written.insert "sniffer" (.strings rule.sniffer)
  | .resolve => do
    let written := insertStrategy written rule.strategy
    return insertSome written "server" ((← scope.dnsServer rule.server).map .string)
  | .hijackDns => return written
  | .predefined => return written

/-- The action that an encoded rule starts with. -/
def startRule (rule : Rule) : Json.Object :=
  [("action", .string rule.action.name)]

/-- A rule for traffic; nothing if it is to be dropped. -/
def encodeRouteRule (scope : Scope) (rule : Rule) : Compile (Option Json.Object) := do
  match ← encodeMatch scope rule (startRule rule) with
  | none => return none
  | some written =>
    let written ← encodeRouteAction scope rule written
    return some (insertFlag written "invert" rule.invert)

/-! ### Rules for names -/

/-- The mark of a rule that only applies where addresses are made up. -/
def fakeIpMark : String := "__is_fake_ip"

/-- Writes what the action of a rule for names needs. -/
def encodeDnsAction (scope : Scope) (rule : Rule) (written : Json.Object) :
    Compile Json.Object :=
  match rule.action with
  | .route => do
    let written := insertSome written "server" ((← scope.dnsServer rule.server).map .string)
    let written := insertStrategy written rule.strategy
    let written := insertFlag written "disable_cache" rule.disableCache
    return insertText written "client_subnet" rule.clientSubnet
  | .routeOptions => mergeText written rule.server rule.id
  | .predefined => mergeText written rule.server rule.id
  | .reject => return insertText written "method" rule.server
  | .hijackDns => return written
  | .sniff => return written
  | .resolve => return written

/-- A rule for names; nothing if it is to be dropped. -/
def encodeDnsRule (scope : Scope) (hasFakeIp : Bool) (rule : Rule) :
    Compile (Option Json.Object) := do
  match ← encodeMatch scope rule (startRule rule) with
  | none => return none
  | some written =>
    let isMarked := rule.kind = .inline && written.has fakeIpMark
    if isMarked && !hasFakeIp then return none
    let written := if isMarked then written.erase fakeIpMark else written
    let written ← encodeDnsAction scope rule written
    return some (insertFlag written "invert" rule.invert)

/-- The encoded rules that are not dropped. -/
def encodeRules (encode : Rule → Compile (Option Json.Object)) (rules : List Rule) :
    Compile (List Json.Value) := do
  let encoded ← rules.mapM encode
  return (encoded.filterMap id).map .object

end ProxyProfile.Kernel
