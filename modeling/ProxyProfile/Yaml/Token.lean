/-
This file lists the tokens of YAML.

Brackets, dashes and marks are tokens of their own; so are the borders of blocks,
which no character marks: they come from the indentation. The text of a scalar is
what it stands for, with folded lines and escapes already resolved, and its style
tells how it was written.
-/

namespace ProxyProfile.Yaml

/-- How a scalar is written. -/
inductive Style
  | plain
  | quoted
  | literal
  | folded
deriving DecidableEq

/-- A token. -/
inductive Token
  /-- The version directive. -/
  | version (major minor : Nat)
  /-- The directive that gives a handle of tags its meaning. -/
  | handle (name meaning : String)
  | documentStart
  | documentEnd
  | blockList
  | blockTable
  | blockEnd
  | flowList
  | flowListEnd
  | flowTable
  | flowTableEnd
  /-- The dash before an item. -/
  | dash
  | comma
  | key
  | value
  | alias (name : String)
  | anchor (name : String)
  | tag (handle suffix : String)
  | scalar (style : Style) (text : String)

end ProxyProfile.Yaml
