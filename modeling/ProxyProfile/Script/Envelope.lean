/-
This file says how code is run by an interpreter in a process of its own.

The interpreter is given a program that frames the code: the program reads the
arguments of the call from its input, keeps its output to itself so that nothing
the code prints gets between, calls the function, and writes one object with one
member. The member tells whether the function answered, raised an error, or is not
there. Everything else that comes out, also no output at all, is a failure, and the
interpreter's own complaint is the reason if it has one.
-/

import ProxyProfile.Json.Reader
import ProxyProfile.Script.Basic
import ProxyProfile.Text.Utf8

namespace ProxyProfile.Script

/-! ### The program -/

/-- A name that can be called: letters, digits, underscores and dollar signs, no digit
first. -/
def isIdentifier (name : String) : Bool :=
  let isStart (c : Char) : Bool := c.isAlpha || c = '_' || c = '$'
  match name.toList with
  | [] => false
  | c :: rest => isStart c && rest.all fun d => isStart d || d.isDigit

/-- The program before the code. -/
def programHead : List String := [
  "const __boxforge_input = JSON.parse(require('fs').readFileSync(0, 'utf8'));",
  "const __boxforge_write = process.stdout.write.bind(process.stdout);",
  "const __boxforge_emit = (envelope) => __boxforge_write(JSON.stringify(envelope));",
  "const __boxforge_done = Symbol('boxforge');",
  "process.stdout.write = process.stderr.write.bind(process.stderr);",
  "globalThis.console = new (require('console').Console)(process.stderr, process.stderr);",
  "",
  "(async (Plugin, __boxforge_args) => \x7b \x7b"]

/-- The program behind the code. -/
def programTail (handler : String) : List String := [
  ";",
  "if (typeof " ++ handler ++
    " !== 'function') return \x7b [__boxforge_done]: true, missing: true \x7d;",
  "return \x7b [__boxforge_done]: true, ok: await " ++ handler ++ "(...__boxforge_args) \x7d;",
  "\x7d \x7d)(__boxforge_input.plugin, __boxforge_input.args).then(",
  "  (result) => \x7b",
  "    if (!result || !result[__boxforge_done] || result.missing) \x7b",
  "      __boxforge_emit(\x7b missing: '" ++ handler ++ "' \x7d);",
  "    \x7d else \x7b",
  "      __boxforge_emit(\x7b ok: result.ok === undefined ? null : result.ok \x7d);",
  "    \x7d",
  "  \x7d,",
  "  (error) => __boxforge_emit(\x7b error: String((error && error.message) || error) \x7d),",
  ");"]

/-- The program that calls a function of some code. -/
def program (code handler : String) : Except Failure String :=
  if isIdentifier handler then
    let lines := programHead ++ code :: programTail handler
    .ok (String.join (lines.map (· ++ "\n")))
  else .error (.invalidHandler handler)

/-- The text that the program reads: what the code sees of its plugin, and the arguments. -/
def Call.input (call : Call) : String :=
  (Json.Value.object [
    ("plugin", call.plugin.getD .null),
    ("args", .array call.arguments)]).compact

/-! ### The answer -/

/-- What a process writes. -/
structure Streams where
  output : ByteArray
  errors : ByteArray

/-- What one object with one member says. -/
def envelope? (text : String) : Option (Except Failure Json.Value) :=
  match Json.tree? text with
  | some (.table _ [(some name, item)]) =>
    if name = "ok" then item.value?.map .ok
    else if name = "error" then item.text?.map fun message => .error (.raised message)
    else if name = "missing" then item.text?.map fun handler => .error (.missingHandler handler)
    else none
  | _ => none

/-- The part of a text before a mark, if the mark is in it. -/
def before? (mark text : String) : Option String :=
  (Text.cutAt? mark.toList text.toList).map fun sides => String.ofList sides.1

/-- A line that names an error: a name that ends in `Error`, perhaps with a code in brackets,
before a colon. -/
def isErrorLine (line : String) : Bool :=
  match before? ": " line with
  | none => false
  | some head =>
    let name := (before? " [" head).getD head
    name.endsWith "Error" && name.toList.all fun c => c.isAlphanum || c = '_'

/-- What an interpreter complains about. -/
def complaint (errors : String) : String :=
  let lines := (Text.split '\n' errors).map Text.trim
  match lines.find? isErrorLine with
  | some line => line
  | none => if Text.isBlankText errors then "no output" else Text.trim errors

/-- What the streams of a process say about a call. -/
def Streams.read (streams : Streams) : Except Failure Json.Value :=
  match envelope? (Text.trim (Text.decodeLossy streams.output)) with
  | some result => result
  | none => .error (.invalidOutput (complaint (Text.decodeLossy streams.errors)))

/-! ### Processes -/

/-- Runs a program on an input; nothing if the interpreter does not start. -/
abbrev Launch := String → String → Option Streams

/-- How a call ends that an interpreter runs. -/
def Call.runBy (interpreter : String) (launch : Launch) (call : Call) : Outcome :=
  match program call.code call.handler with
  | .error reason => .failure reason
  | .ok text =>
    match launch text call.input with
    | none => .failure (.spawn interpreter)
    | some streams =>
      match streams.read with
      | .ok value => .answer value
      | .error reason => .failure reason

/-- The engine that runs every call by an interpreter. -/
def Engine.ofProcess (interpreter : String) (launch : Launch) : Engine :=
  .stateless fun call => call.runBy interpreter launch

end ProxyProfile.Script
