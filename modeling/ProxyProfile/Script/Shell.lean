/-
This file is a small shell, the interpreter that the program brings along.

It knows simple commands one after the other, with words in quotes and output
that is thrown away or goes with the errors. The commands are those that copy
their input and print texts; every other one is not found.
-/

import ProxyProfile.Script.Envelope

namespace ProxyProfile.Script.Shell

/-! ### Words -/

/-- A part of a command line. -/
inductive Lexeme
  | word (text : String)
  /-- The end of a command. -/
  | semicolon
  /-- An arrow; what follows it says where the output goes. -/
  | redirect
deriving DecidableEq

/-- What stands between double quotes, and what follows them. -/
def doubleQuoted : List Char → List Char × List Char
  | [] => ([], [])
  | '"' :: rest => ([], rest)
  | '\\' :: c :: rest =>
    let (text, after) := doubleQuoted rest
    (if "\"\\$`".contains c then c :: text else '\\' :: c :: text, after)
  | c :: rest =>
    let (text, after) := doubleQuoted rest
    (c :: text, after)

/-- A character that ends a word. -/
def endsWord (c : Char) : Bool :=
  c = ' ' || c = '\t' || c = '\n' || c = ';' || c = '>'

/-- A word, and what follows it. -/
def word : Nat → List Char → List Char × List Char
  | 0, characters => ([], characters)
  | _ + 1, [] => ([], [])
  | fuel + 1, c :: rest =>
    if c = '\'' then
      let quoted := rest.takeWhile (· ≠ '\'')
      let (text, after) := word fuel (rest.drop (quoted.length + 1))
      (quoted ++ text, after)
    else if c = '"' then
      let (quoted, rest) := doubleQuoted rest
      let (text, after) := word fuel rest
      (quoted ++ text, after)
    else if c = '\\' then
      let (text, after) := word fuel (rest.drop 1)
      (rest.take 1 ++ text, after)
    else if endsWord c then ([], c :: rest)
    else
      let (text, after) := word fuel rest
      (c :: text, after)

/-- The parts of a command line. -/
def lexemes : Nat → List Char → List Lexeme
  | 0, _ => []
  | _ + 1, [] => []
  | fuel + 1, c :: rest =>
    if c = ' ' || c = '\t' then lexemes fuel rest
    else if c = ';' || c = '\n' then .semicolon :: lexemes fuel rest
    else if c = '>' then .redirect :: lexemes fuel rest
    else
      let (text, after) := word (rest.length + 2) (c :: rest)
      .word (String.ofList text) :: lexemes fuel after

/-! ### Commands -/

/-- Where the output of a command goes. -/
inductive Target
  | output
  | errors
  | nowhere
deriving DecidableEq

/-- A command: its words, and where its output goes. -/
structure Simple where
  words : List String := []
  target : Target := .output

/-- The commands of a line, `current` being the one that is not yet complete. -/
def commands (current : Simple) : List Lexeme → List Simple
  | [] => [current]
  | .semicolon :: rest => current :: commands {} rest
  | .redirect :: .word target :: rest =>
    commands { current with target := if target = "&2" then .errors else .nowhere } rest
  | .redirect :: rest => commands { current with target := .nowhere } rest
  | .word text :: rest => commands { current with words := current.words ++ [text] } rest

/-- A text with its escapes resolved. -/
def unescape : List Char → List Char
  | '\\' :: 'n' :: rest => '\n' :: unescape rest
  | '\\' :: 't' :: rest => '\t' :: unescape rest
  | '\\' :: '\\' :: rest => '\\' :: unescape rest
  | '\\' :: '"' :: rest => '"' :: unescape rest
  | c :: rest => c :: unescape rest
  | [] => []

/-- A format with its places filled by words. -/
def format : List Char → List String → List Char
  | '%' :: '%' :: rest, words => '%' :: format rest words
  | '%' :: 's' :: rest, text :: words => text.toList ++ format rest words
  | '%' :: 's' :: rest, [] => format rest []
  | c :: rest, words => c :: format rest words
  | [], _ => []

/-- What a command prints, what it complains about, and the input that it leaves. -/
def perform (words : List String) (input : String) : String × String × String :=
  match words with
  | [] => ("", "", input)
  | name :: arguments =>
    if name = "cat" then (input, "", "")
    else if name = "printf" then
      match arguments with
      | [] => ("", "printf: usage: printf format [arg ...]\n", input)
      | shape :: values => (String.ofList (format (unescape shape.toList) values), "", input)
    else if name = "echo" then (" ".intercalate arguments ++ "\n", "", input)
    else if name = "true" || name = ":" then ("", "", input)
    else ("", name ++ ": not found\n", input)

/-- Runs commands, one after the other. -/
def runAll : List Simple → String → String × String
  | [], _ => ("", "")
  | command :: rest, input =>
    let (printed, complaint, left) := perform command.words input
    let (output, errors) := runAll rest left
    match command.target with
    | .output => (printed ++ output, complaint ++ errors)
    | .errors => (output, printed ++ complaint ++ errors)
    | .nowhere => (output, complaint ++ errors)

/-- What a command line writes on an input. -/
def run (line input : String) : Streams :=
  let parsed := commands {} (lexemes (line.toList.length + 1) line.toList)
  let (output, errors) := runAll parsed input
  { output := output.toUTF8, errors := errors.toUTF8 }

/-- Starts an interpreter with its arguments. Only the shell itself is there, and it takes a
command line. -/
def launch (interpreter : String) (arguments : List String) : Launch := fun _ input =>
  match arguments with
  | "-c" :: line :: _ =>
    if interpreter = "sh" || interpreter = "/bin/sh" then some (run line input) else none
  | _ => none

end ProxyProfile.Script.Shell
