/-
This file weighs patterns.

The weight of a pattern is about the number of states that an automaton for it
has: one for a byte of a character, many for a set of characters that the tables
of Unicode spread over the code points, and for a repetition the weight of what
is repeated as often as it is written out. An assertion weighs nothing, however
often it is repeated, because it is the same to ask twice. Patterns above a limit
are refused, which keeps a few characters from standing for millions of states.

The weight is an estimate, and so is the limit. States that an automaton shares
between branches are counted for each of them, and all states count alike, whatever
room they take. So near the limit a large repetition may be accepted or refused
although the exact size of its automaton says otherwise.
-/

import ProxyProfile.Pattern.Basic

namespace ProxyProfile.Pattern

/-- The weight of a set of characters. -/
def CharSet.weight : CharSet → Nat
  | range _ greatest => if greatest < 0x80 then 1 else if greatest < 0x10000 then 3 else 4
  | categories _ => 300
  | script _ => 50
  | usedIn _ => 50
  | feature _ => 300
  | words => 1500
  | union first second => max first.weight second.weight
  | intersection first second => max first.weight second.weight
  | difference first second => max first.weight second.weight
  | oneSided first second => max first.weight second.weight
  | complement set => set.weight + 3
  | anyCase set => set.weight

/-- The weight of a pattern. -/
def Node.weight : Node → Nat
  | empty => 0
  | one set => set.weight
  | look .. => 0
  | sequence first second => first.weight + second.weight
  | choice first second => first.weight + second.weight + 1
  | star node => node.weight + 1
  | between least more node =>
    if node.weight = 0 then 0 else least * node.weight + more * (node.weight + 1)

/-- The weight that no pattern exceeds. -/
def weightLimit : Nat := 327680

end ProxyProfile.Pattern
