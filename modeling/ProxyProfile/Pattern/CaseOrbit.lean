/-
This file tells which characters differ from each other by case only.

Two characters are equal but for case when they have the same simple case
folding of Unicode. The classes of this relation with two members come in runs:
an entry `first.count.stride.distance` stands for `count` pairs, the lower
members of which are `stride` apart and the upper members `distance` above them.
The few classes with more members are written out.
-/

import ProxyProfile.Pattern.Runs

namespace ProxyProfile.Pattern

/-- The classes with two members, as runs. -/
def pairRuns : List (List Nat) :=
  (entriesOf
    "41.a.1.20 4c.8.2.20 4d.3.2.20 55.3.2.20 c0.10.2.20 c1.2.2.20 c7.8.2.20 d9.3.2.20 df.1.1.1dbf
    ff.1.1.79 100.18.2.1 132.3.2.1 139.8.2.1 14a.17.2.1 179.3.2.1 180.1.1.c3 181.1.1.d2 182.2.2.1
    186.1.1.ce 187.1.1.1 189.2.1.cd 18b.1.1.1 18e.1.1.4f 18f.1.1.ca 190.1.1.cb 191.1.1.1
    193.1.1.cd 194.1.1.cf 195.1.1.61 196.1.1.d3 197.1.1.d1 198.1.1.1 19a.1.1.a3 19c.1.1.d3
    19d.1.1.d5 19e.1.1.82 19f.1.1.d6 1a0.3.2.1 1a6.1.1.da 1a7.1.1.1 1a9.1.1.da 1ac.1.1.1
    1ae.1.1.da 1af.1.1.1 1b1.2.1.d9 1b3.2.2.1 1b7.1.1.db 1b8.1.1.1 1bc.1.1.1 1bf.1.1.38 1cd.8.2.1
    1de.9.2.1 1f4.1.1.1 1f8.14.2.1 222.9.2.1 23a.1.1.2a2b 23b.1.1.1 23e.1.1.2a28 23f.2.1.2a3f
    241.1.1.1 244.1.1.45 245.1.1.47 246.5.2.1 250.1.1.2a1f 251.1.1.2a1c 252.1.1.2a1e 25c.1.1.a54f
    261.1.1.a54b 265.1.1.a528 266.1.1.a544 26a.1.1.a544 26b.1.1.29f7 26c.1.1.a541 271.1.1.29fd
    27d.1.1.29e7 282.1.1.a543 287.1.1.a52a 29d.1.1.a515 29e.1.1.a512 370.2.2.1 376.1.1.1
    37b.3.1.82 37f.1.1.74 386.1.1.26 388.3.1.25 38c.1.1.40 38e.2.1.3f 391.2.2.20 394.2.2.20
    397.1.1.20 39b.3.2.20 39e.1.1.20 3a4.2.1.20 3a7.2.1.20 3aa.2.1.20 3cf.1.1.8 3d8.c.2.1
    3f2.1.1.7 3f7.1.1.1 3fa.1.1.1 400.10.1.50 410.2.1.20 413.7.2.20 416.4.2.20 420.1.1.20
    423.7.1.20 42b.5.1.20 460.1.1.1 464.f.2.1 48a.1b.2.1 4c0.1.1.f 4c1.7.2.1 4d0.30.2.1
    531.26.1.30 10a0.26.1.1c60 10c7.1.1.1c60 10cd.1.1.1c60 10d0.2b.1.bc0 10fd.3.1.bc0
    13a0.50.1.97d0 13f0.6.1.8 1d79.1.1.8a04 1d7d.1.1.ee6 1d8e.1.1.8a38 1e00.30.2.1 1e62.1a.2.1
    1ea0.30.2.1 1f00.8.1.8 1f10.6.1.8 1f20.8.1.8 1f30.8.1.8 1f40.6.1.8 1f51.4.2.8 1f60.8.1.8
    1f70.2.1.4a 1f72.4.1.56 1f76.2.1.64 1f78.2.1.80 1f7a.2.1.70 1f7c.2.1.7e 1f80.8.1.8 1f90.8.1.8
    1fa0.8.1.8 1fb0.2.1.8 1fb3.1.1.9 1fc3.1.1.9 1fd0.2.1.8 1fe0.2.1.8 1fe5.1.1.7 1ff3.1.1.9
    2132.1.1.1c 2160.10.1.10 2183.1.1.1 24b6.1a.1.1a 2c00.30.1.30 2c60.1.1.1 2c67.3.2.1 2c72.1.1.1
    2c75.1.1.1 2c80.32.2.1 2ceb.2.2.1 2cf2.1.1.1 a640.5.2.1 a64c.11.2.1 a680.e.2.1 a722.7.2.1
    a732.1f.2.1 a779.2.2.1 a77e.5.2.1 a78b.1.1.1 a790.2.2.1 a794.1.1.30 a796.a.2.1 a7b3.1.1.3a0
    a7b4.8.2.1 a7c7.2.2.1 a7d0.1.1.1 a7d6.2.2.1 a7f5.1.1.1 ff21.1a.1.20 10400.28.1.28
    104b0.24.1.28 10570.13.2.27 10571.5.2.27 1057d.7.2.27 1058d.3.2.27 10595.1.1.27 10c80.33.1.40
    118a0.20.1.20 16e40.20.1.20 1e900.22.1.22").map
    fun entry => (entry.splitOn ".").map fun number => hexNumber number.toList

/-- The classes with more than two members. -/
def greaterOrbits : List (List Nat) :=
  (entriesOf
    "4b=6b=212a 53=73=17f b5=39c=3bc c5=e5=212b 1c4=1c5=1c6 1c7=1c8=1c9 1ca=1cb=1cc 1f1=1f2=1f3
    345=399=3b9=1fbe 392=3b2=3d0 395=3b5=3f5 398=3b8=3d1=3f4 39a=3ba=3f0 3a0=3c0=3d6 3a1=3c1=3f1
    3a3=3c2=3c3 3a6=3c6=3d5 3a9=3c9=2126 412=432=1c80 414=434=1c81 41e=43e=1c82 421=441=1c83
    422=442=1c84=1c85 42a=44a=1c86 462=463=1c87 1c88=a64a=a64b 1e60=1e61=1e9b").map
    fun entry => (entry.splitOn "=").map fun number => hexNumber number.toList

/-- The other member of a code point's class of two, as far as a run of such classes tells. -/
def partnerIn? (point : Nat) : List Nat → Option Nat
  | [first, count, stride, distance] =>
    let isMember (candidate : Nat) :=
      first ≤ candidate && candidate < first + count * stride && (candidate - first) % stride == 0
    if isMember point then some (point + distance)
    else if distance ≤ point && isMember (point - distance) then some (point - distance)
    else none
  | _ => none

/-- The code points that equal a given one but for case, itself among them. -/
def caseOrbit (point : Nat) : List Nat :=
  match greaterOrbits.find? fun orbit => orbit.contains point with
  | some orbit => orbit
  | none =>
    match pairRuns.findSome? (partnerIn? point) with
    | some partner => [point, partner]
    | none => [point]

end ProxyProfile.Pattern
