/-
This file tells the features of a character: the properties of Unicode that a
character has or has not, such as being alphabetic or an emoji.

A table gives every code point the features it has, each by a letter, and `n` to
code points with none. Where a feature follows from the general category for most
characters, the table names only the ones that have it besides. The characters are
those of version 15.0 of the standard.
-/

import ProxyProfile.Pattern.Runs

namespace ProxyProfile.Pattern

/-- A property that a character has or has not. -/
inductive Feature
  /-- Alphabetic, though neither a letter nor a letter number. -/
  | otherAlphabetic
  /-- Upper case, though no letter of upper case. -/
  | otherUppercase
  /-- Lower case, though no letter of lower case. -/
  | otherLowercase
  | ideographic
  | unifiedIdeograph
  | hexDigit
  | dash
  | quotationMark
  | variationSelector
  | emoji
  /-- Shown as an emoji unless something else is asked for. -/
  | emojiPresentation
  /-- Gives an emoji a tone of skin. -/
  | emojiModifier
  | emojiModifierBase
  /-- Stands in sequences that make up an emoji. -/
  | emojiComponent
  | pictographic
  /-- Sets the direction of text. -/
  | bidiControl
  /-- Shown mirrored in text from right to left. -/
  | bidiMirrored
  /-- Passed over where case depends on what is near, though no mark, format, modifier letter or
  modifier symbol. -/
  | otherCaseIgnorable
  /-- Changes when case is folded. -/
  | folds
  /-- Changes in lower case. -/
  | lowers
  /-- Changes in title case. -/
  | titles
  /-- Changes in upper case. -/
  | uppers
  /-- Shows nothing where it is not known. -/
  | defaultIgnorable
  | deprecated
  | diacritic
  /-- Lengthens what is in front of it. -/
  | extender
  /-- Continues a grapheme, though no mark that does. -/
  | otherGraphemeExtend
  | graphemeLink
  | hyphen
  /-- Written in front of what it is spoken behind. -/
  | logicalOrderException
  /-- Mathematical, though no mathematical symbol. -/
  | otherMath
  /-- Kept free for the syntax of patterns. -/
  | patternSyntax
  | prependedMark
  | sentenceTerminal
  /-- Has a dot that goes when a mark is put above. -/
  | softDotted
  | terminalPunctuation
deriving DecidableEq

/-- The letter of a feature in the table. -/
def Feature.letter : Feature → Char
  | otherAlphabetic => 'a'
  | otherUppercase => 'u'
  | otherLowercase => 'l'
  | ideographic => 'i'
  | unifiedIdeograph => 't'
  | hexDigit => 'h'
  | dash => 'd'
  | quotationMark => 'q'
  | variationSelector => 'v'
  | emoji => 'e'
  | emojiPresentation => 'p'
  | emojiModifier => 'm'
  | emojiModifierBase => 'b'
  | emojiComponent => 'c'
  | pictographic => 'x'
  | bidiControl => 'B'
  | bidiMirrored => 'M'
  | otherCaseIgnorable => 'C'
  | folds => 'F'
  | lowers => 'L'
  | titles => 'T'
  | uppers => 'U'
  | defaultIgnorable => 'D'
  | deprecated => 'P'
  | diacritic => 'A'
  | extender => 'E'
  | otherGraphemeExtend => 'G'
  | graphemeLink => 'K'
  | hyphen => 'H'
  | logicalOrderException => 'O'
  | otherMath => 'Z'
  | patternSyntax => 'Q'
  | prependedMark => 'R'
  | sentenceTerminal => 's'
  | softDotted => 'j'
  | terminalPunctuation => 'k'

/-- The features along the code points. -/
def featureRuns : Array Run := runsOf
    "n:21 Qsk:1 qQ:1 ecQ:1 Q:3 qCQ:1 MQ:2 ecQ:1 Q:1 Qk:1 dHQ:1 CQsk:1 Q:1 hec:a CQk:1 Qk:1 MQ:1 Q:1
    MQ:1 Qsk:1 Q:1 hFL:6 FL:14 MQ:1 Q:1 MQ:1 AZQ:1 n:1 AQ:1 hTU:6 TU:2 TUj:2 TU:10 MQ:1 Q:1 MQ:1 Q:1
    n:22 Q:7 A:1 exQ:1 l:1 qMQ:1 Q:1 DH:1 exQ:1 A:1 Q:2 n:2 A:1 FTU:1 Q:1 CAE:1 A:1 n:1 l:1 qMQ:1
    n:3 Q:1 FL:17 Q:1 FL:7 FTU:1 TU:17 Q:1 TU:8 FL:1 TU:1 FL:1 TU:1 FL:1 TU:1 FL:1 TU:1 FL:1 TU:1
    FL:1 TU:1 FL:1 TU:1 FL:1 TU:1 FL:1 TU:1 FL:1 TU:1 FL:1 TU:1 FL:1 TU:1 FL:1 TU:1 FL:1 TU:1 FL:1
    TU:1 FL:1 TU:1 FL:1 TU:1 FL:1 TU:1 FL:1 TU:1 FL:1 TU:1 FL:1 TU:1 FL:1 TU:1 FL:1 TU:1 FL:1 TUj:1
    FL:1 TU:1 FL:1 TU:1 FL:1 TU:1 FL:1 TU:1 n:1 FL:1 TU:1 FL:1 TU:1 FL:1 TU:1 FL:1 TU:1 FL:1 TU:1
    FL:1 TU:1 FL:1 TU:1 FL:1 TU:1 FTUP:1 FL:1 TU:1 FL:1 TU:1 FL:1 TU:1 FL:1 TU:1 FL:1 TU:1 FL:1 TU:1
    FL:1 TU:1 FL:1 TU:1 FL:1 TU:1 FL:1 TU:1 FL:1 TU:1 FL:1 TU:1 FL:1 TU:1 FL:1 TU:1 FL:1 TU:1 FL:1
    TU:1 FL:1 TU:1 FL:1 TU:1 FL:1 TU:1 FL:1 TU:1 FL:1 TU:1 FL:1 TU:1 FL:1 TU:1 FL:2 TU:1 FL:1 TU:1
    FL:1 TU:1 FTU:1 TU:1 FL:2 TU:1 FL:1 TU:1 FL:2 TU:1 FL:3 TU:1 n:1 FL:4 TU:1 FL:2 TU:1 FL:3 TU:2
    n:1 FL:2 TU:1 FL:2 TU:1 FL:1 TU:1 FL:1 TU:1 FL:2 TU:1 FL:1 n:2 FL:1 TU:1 FL:2 TU:1 FL:3 TU:1
    FL:1 TU:1 FL:2 TU:1 n:2 FL:1 TU:1 n:1 TU:1 n:4 FLT:1 FLU:1 TU:1 FLT:1 FLU:1 TU:1 FLT:1 FLU:1
    TU:1 FL:1 TU:1 FL:1 TU:1 FL:1 TU:1 FL:1 TU:1 FL:1 TU:1 FL:1 TU:1 FL:1 TU:1 FL:1 TU:2 FL:1 TU:1
    FL:1 TU:1 FL:1 TU:1 FL:1 TU:1 FL:1 TU:1 FL:1 TU:1 FL:1 TU:1 FL:1 TU:1 FL:1 TU:2 FLT:1 FLU:1 TU:1
    FL:1 TU:1 FL:3 TU:1 FL:1 TU:1 FL:1 TU:1 FL:1 TU:1 FL:1 TU:1 FL:1 TU:1 FL:1 TU:1 FL:1 TU:1 FL:1
    TU:1 FL:1 TU:1 FL:1 TU:1 FL:1 TU:1 FL:1 TU:1 FL:1 TU:1 FL:1 TU:1 FL:1 TU:1 FL:1 TU:1 FL:1 TU:1
    FL:1 TU:1 FL:1 TU:1 FL:1 n:1 FL:1 TU:1 FL:1 TU:1 FL:1 TU:1 FL:1 TU:1 FL:1 TU:1 FL:1 TU:1 FL:1
    TU:1 FL:1 TU:1 FL:1 TU:1 n:6 FL:2 TU:1 FL:2 TU:2 FL:1 TU:1 FL:4 TU:1 FL:1 TUj:1 FL:1 TU:1 FL:1
    TU:1 FL:1 TU:6 n:1 TU:2 n:1 TU:1 n:1 TU:2 n:3 TU:2 n:1 TU:1 n:1 TU:2 n:1 TUj:1 TU:4 n:2 TU:1 n:1
    TU:2 n:2 TU:1 n:7 TU:1 n:2 TU:1 n:1 TU:2 n:3 TU:6 n:5 TU:1 n:a TUj:1 TU:1 n:11 lA:2 lAj:1 lA:6
    A:7 lA:2 A:e AE:2 A:e lA:5 A:60 alFTUA:1 A:9 D:1 A:8 n:5 A:6 n:d FL:1 TU:1 FL:1 TU:1 A:2 FL:1
    TU:1 n:2 lA:1 TU:3 k:1 FL:1 n:4 A:2 FL:1 Ck:1 FL:3 n:1 FL:1 n:1 FL:2 TU:1 FL:11 n:1 FL:9 TU:16
    FTU:1 TU:c FL:1 FTUZ:2 Z:1 n:2 FTUZ:1 FTU:1 TU:1 FL:1 TU:1 FL:1 TU:1 FL:1 TU:1 FL:1 TU:1 FL:1
    TU:1 FL:1 TU:1 FL:1 TU:1 FL:1 TU:1 FL:1 TU:1 FL:1 TU:1 FL:1 TU:1 FL:1 TU:1 FTUZ:2 TU:1 TUj:1
    FLZ:1 FTUZ:1 n:1 FL:1 TU:1 FL:2 TU:1 n:1 FL:33 TU:26 TUj:1 TU:1 TUj:1 TU:7 FL:1 TU:1 FL:1 TU:1
    FL:1 TU:1 FL:1 TU:1 FL:1 TU:1 FL:1 TU:1 FL:1 TU:1 FL:1 TU:1 FL:1 TU:1 FL:1 TU:1 FL:1 TU:1 FL:1
    TU:1 FL:1 TU:1 FL:1 TU:1 FL:1 TU:1 FL:1 TU:1 FL:1 TU:1 n:1 A:5 n:2 FL:1 TU:1 FL:1 TU:1 FL:1 TU:1
    FL:1 TU:1 FL:1 TU:1 FL:1 TU:1 FL:1 TU:1 FL:1 TU:1 FL:1 TU:1 FL:1 TU:1 FL:1 TU:1 FL:1 TU:1 FL:1
    TU:1 FL:1 TU:1 FL:1 TU:1 FL:1 TU:1 FL:1 TU:1 FL:1 TU:1 FL:1 TU:1 FL:1 TU:1 FL:1 TU:1 FL:1 TU:1
    FL:1 TU:1 FL:1 TU:1 FL:1 TU:1 FL:1 TU:1 FL:1 TU:1 FL:2 TU:1 FL:1 TU:1 FL:1 TU:1 FL:1 TU:1 FL:1
    TU:1 FL:1 TU:1 FL:1 TU:2 FL:1 TU:1 FL:1 TU:1 FL:1 TU:1 FL:1 TU:1 FL:1 TU:1 FL:1 TU:1 FL:1 TU:1
    FL:1 TU:1 FL:1 TU:1 FL:1 TU:1 FL:1 TU:1 FL:1 TU:1 FL:1 TU:1 FL:1 TU:1 FL:1 TU:1 FL:1 TU:1 FL:1
    TU:1 FL:1 TU:1 FL:1 TU:1 FL:1 TU:1 FL:1 TU:1 FL:1 TU:1 FL:1 TU:1 FL:1 TU:1 FL:1 TU:1 FL:1 TU:1
    FL:1 TU:1 FL:1 TU:1 FL:1 TU:1 FL:1 TU:1 FL:1 TU:1 FL:1 TU:1 FL:1 TU:1 FL:1 TU:1 FL:1 TU:1 FL:1
    TU:1 FL:1 TU:1 FL:1 TU:1 FL:1 TU:1 FL:1 TU:1 FL:1 TU:1 FL:1 TU:1 FL:1 TU:1 FL:1 TU:1 FL:1 TU:1
    FL:1 TU:1 FL:1 TU:1 FL:1 TU:1 n:1 FL:26 n:2 A:1 n:5 C:1 n:1 TU:26 FTU:1 n:1 sk:1 dH:1 n:6 A:11
    n:1 A:d aA:e d:1 aA:1 n:1 aA:2 k:1 aA:1 a:1 n:1 a:1 n:2c C:1 n:b R:6 n:6 k:1 n:3 a:b k:1 BD:1
    sk:3 n:20 E:1 n:a aA:8 a:4 aA:1 A:1 a:7 n:10 a:1 n:2 P:1 n:60 sk:1 n:1 a:7 R:1 n:1 A:2 a:4 A:2
    a:2 n:1 A:3 a:1 n:12 sk:3 k:8 n:1 k:1 n:2 R:1 n:1 a:1 n:1e aA:10 A:b n:5b aA:b n:3a A:b n:2 k:1
    sk:1 E:1 n:1b a:2 A:2 n:1 a:9 n:1 a:3 n:1 a:4 n:3 k:7 sk:1 k:1 sk:1 k:3 sk:2 n:1f k:1 n:31 R:2
    n:6 A:8 n:29 A:a n:1 a:c n:2 R:1 aA:7 A:6 aA:f a:5 n:36 a:2 A:1 n:1 a:f AK:1 a:2 n:1 A:4 a:3 n:a
    a:2 sk:2 n:b A:1 n:f a:3 n:38 A:1 n:1 aG:1 a:6 n:2 a:2 n:2 a:2 AK:1 n:9 aG:1 n:a a:2 n:1d a:3
    n:38 A:1 n:1 a:5 n:4 a:2 n:2 a:2 AK:1 n:3 a:1 n:1e a:2 n:3 a:1 n:b a:3 n:38 A:1 n:1 a:8 n:1 a:3
    n:1 a:2 AK:1 n:14 a:2 n:16 a:3 A:3 n:1 a:3 n:38 A:1 n:1 aG:1 a:6 n:2 a:2 n:2 a:2 AK:1 n:7 AE:1
    a:1 aG:1 n:a a:2 n:1e a:1 n:3b aG:1 a:4 n:3 a:3 n:1 a:3 AK:1 n:9 aG:1 n:28 a:5 n:37 A:1 n:1 a:7
    n:1 a:3 n:1 a:3 AK:1 n:7 a:2 n:b a:2 n:1d a:3 n:38 A:1 n:1 a:4 aG:1 a:2 n:1 a:3 n:1 a:3 AK:1 n:7
    aG:2 n:b a:2 n:f a:1 n:c a:4 n:37 AK:2 n:1 aG:1 a:6 n:1 a:3 n:1 a:3 AK:1 n:9 aG:1 n:a a:2 n:1d
    a:3 n:46 AK:1 n:4 aG:1 a:5 n:1 a:1 n:1 a:7 aG:1 n:12 a:2 n:3d a:1 n:2 a:6 aK:1 n:5 O:5 n:1 E:1
    A:6 a:1 A:1 n:b k:2 n:55 a:1 n:2 a:6 AK:1 a:2 n:3 O:5 n:1 E:1 n:1 A:5 a:1 n:3a k:1 n:4 k:6 n:5
    A:2 n:1b A:1 n:1 A:1 n:1 A:1 M:4 A:2 n:31 a:6 aP:1 a:1 aP:1 a:8 aA:2 AK:1 n:1 A:2 n:5 a:b n:1
    a:24 n:9 A:1 n:64 a:c A:1 a:1 AK:2 a:4 n:b sk:2 n:a a:4 n:4 a:3 n:1 a:1 aA:2 n:2 a:2 aA:5 n:3
    a:4 n:d a:5 aA:7 n:1 aA:1 n:a aA:2 a:2 n:2 FL:26 n:1 FL:1 n:5 FL:1 n:2 U:2b n:1 l:1 U:3 n:5f D:2
    n:1fc A:3 n:1 k:1 sk:1 k:4 sk:2 n:37 L:56 n:2 FTU:6 n:2 d:1 n:26d sk:1 n:2c M:2 n:4e k:3 n:24
    a:2 AK:2 n:1c a:2 K:1 sk:2 n:1b a:2 n:1e a:2 n:2f P:2 n:f D:2 a:13 A:9 AK:1 A:1 k:3 n:3 k:1 n:2
    A:1 n:24 k:1 sk:1 k:2 dH:1 n:1 k:1 sk:1 E:1 vD:3 D:1 vD:1 n:33 E:1 n:41 a:2 n:22 a:1 n:76 a:c
    n:4 a:9 A:3 n:8 sk:2 n:6f O:3 n:2 O:1 n:5c a:5 n:39 a:a n:1 K:1 a:14 A:8 n:2 A:1 n:27 E:1 sk:4
    n:4 A:f a:2 A:b a:3 n:31 a:5 n:2f A:1 aG:1 a:e AK:1 n:15 sk:2 n:1 k:1 sk:2 n:b A:9 n:9 sk:2 n:1
    a:3 n:1e a:9 AK:2 a:2 n:39 a:b K:2 n:30 a:12 aAE:1 A:1 n:3 sk:2 k:3 n:38 A:3 AE:1 A:2 sk:2 FTU:9
    n:7 FL:2b n:2 FL:3 n:10 A:19 n:4 A:1 n:6 A:1 n:2 A:3 n:32 lA:36 lAj:1 lA:8 n:d l:1 TU:1 n:3 TU:1
    n:10 TU:1 n:7 j:1 n:4 l:9 lj:1 l:3 lj:1 l:17 n:4 A:c n:17 a:e A:b FL:1 TU:1 FL:1 TU:1 FL:1 TU:1
    FL:1 TU:1 FL:1 TU:1 FL:1 TU:1 FL:1 TU:1 FL:1 TU:1 FL:1 TU:1 FL:1 TU:1 FL:1 TU:1 FL:1 TU:1 FL:1
    TU:1 FL:1 TU:1 FL:1 TU:1 FL:1 TU:1 FL:1 TU:1 FL:1 TU:1 FL:1 TU:1 FL:1 TU:1 FL:1 TU:1 FL:1 TU:1
    FL:1 TUj:1 FL:1 TU:1 FL:1 TU:1 FL:1 TU:1 FL:1 TU:1 FL:1 TU:1 FL:1 TU:1 FL:1 TU:1 FL:1 TU:1 FL:1
    TU:1 FL:1 TU:1 FL:1 TU:1 FL:1 TU:1 FL:1 TU:1 FL:1 TU:1 FL:1 TU:1 FL:1 TU:1 FL:1 TU:1 FL:1 TU:1
    FL:1 TU:1 FL:1 TU:1 FL:1 TU:1 FL:1 TU:1 FL:1 TU:1 FL:1 TU:1 FL:1 TU:1 FL:1 TU:1 FL:1 TU:1 FL:1
    TU:1 FL:1 TU:1 FL:1 TU:1 FL:1 TU:1 FL:1 TU:1 FL:1 TU:1 FL:1 TU:1 FL:1 TU:1 FL:1 TU:1 FL:1 TU:1
    FL:1 TU:1 FL:1 TU:1 FL:1 TU:1 FL:1 TU:1 FL:1 TU:1 FL:1 TU:1 FL:1 TU:1 FL:1 TU:1 FL:1 TU:1 FL:1
    TU:1 FL:1 TU:1 FL:1 TU:1 FL:1 TU:1 FL:1 TU:1 FL:1 TU:5 FTU:2 n:2 FL:1 n:1 FL:1 TU:1 FL:1 TU:1
    FL:1 TU:1 FL:1 TU:1 FL:1 TU:1 FL:1 TU:1 FL:1 TU:1 FL:1 TU:1 FL:1 TU:1 FL:1 TU:1 FL:1 TU:1 FL:1
    TU:1 FL:1 TU:1 FL:1 TU:1 FL:1 TU:1 FL:1 TU:1 FL:1 TU:1 FL:1 TU:1 FL:1 TU:1 FL:1 TU:1 FL:1 TU:1
    FL:1 TUj:1 FL:1 TU:1 FL:1 TU:1 FL:1 TU:1 FL:1 TU:1 FL:1 TU:1 FL:1 TU:1 FL:1 TU:1 FL:1 TU:1 FL:1
    TU:1 FL:1 TU:1 FL:1 TU:1 FL:1 TU:1 FL:1 TU:1 FL:1 TU:1 FL:1 TU:1 FL:1 TU:1 FL:1 TU:1 FL:1 TU:1
    FL:1 TU:1 FL:1 TU:1 FL:1 TU:1 FL:1 TU:1 FL:1 TU:1 FL:1 TU:1 FL:1 TU:1 FL:1 TU:9 FL:8 TU:6 n:2
    FL:6 n:2 TU:8 FL:8 TU:8 FL:8 TU:6 n:2 FL:6 n:2 TU:8 n:1 FL:1 n:1 FL:1 n:1 FL:1 n:1 FL:1 TU:8
    FL:8 TU:e n:2 FTU:8 FLU:8 FTU:8 FLU:8 FTU:8 FLU:8 TU:2 FTU:3 n:1 TU:1 FTU:1 FL:4 FLU:1 A:1 TU:1
    A:3 FTU:3 n:1 TU:1 FTU:1 FL:4 FLU:1 A:3 TU:4 n:2 TU:2 FL:4 n:1 A:3 TU:8 FL:5 A:3 n:2 FTU:3 n:1
    TU:1 FTU:1 FL:4 FLU:1 A:2 n:c D:1 DG:1 cD:1 BD:2 dHQ:2 dQ:4 ZQ:1 Q:1 qCQ:2 qQ:6 Q:4 CQ:1 Q:2
    CQ:1 n:2 BD:5 n:1 Q:2 ZQ:3 Q:4 qMQ:2 Q:1 exQsk:1 Qsk:1 Q:1 n:1 Z:1 Q:4 MQ:2 Qsk:2 exQsk:1 Q:9
    dQ:1 n:1 Q:a n:1 D:1 DZ:4 D:1 BD:4 DP:6 n:1 lj:1 n:9 d:1 n:1 MZ:2 l:1 n:b d:1 n:1 MZ:2 n:1 l:d
    n:33 Z:d n:4 Z:1 n:1 c:1 n:1 Z:2 n:4 Z:5 n:12 Z:1 n:4 Z:1 n:2 Z:a n:1 Z:1 n:3 Z:5 n:4 ex:1 n:1
    Z:1 n:1 FL:1 n:1 Z:2 FL:2 Z:2 n:1 Z:3 FL:1 Z:6 ex:1 n:2 Z:4 M:1 n:4 Z:3 Zj:2 n:4 TU:1 n:11
    uFL:10 lTU:10 n:3 FL:1 TU:1 n:b Q:4 exQ:1 exZQ:5 Q:2 ZQ:4 Q:1 ZQ:2 Q:1 ZQ:2 Q:1 ZQ:1 Q:1 exZQ:2
    ZQ:3 Q:2 ZQ:2 Q:4 ZQ:2 Q:4 ZQ:12 Q:2 ZQ:2 Q:1 ZQ:1 Q:1 ZQ:7 Q:1 ZQ:1 Q:6 ZQ:2 Q:1b MQ:4 Q:3 MQ:6
    Q:3 MQ:1 dQ:1 Q:2 MQ:2 Q:3 MQ:4 Q:1 MQ:4 Q:1 MQ:1 Q:1 MQ:1 Q:4 MQ:9 Q:5 MQ:1 Q:1 MQ:12 Q:5 MQ:4
    Q:9 MQ:2 Q:1 MQ:1 Q:1 MQ:8 Q:2 MQ:1f Q:2 MQ:4 Q:5 MQ:1 Q:9 MQ:2 Q:2 MQ:13 Q:5 MQ:2 Q:9 MQ:5 Q:2
    MQ:2 Q:4 MQ:18 Q:2 MQ:10 Q:8 MZQ:4 Q:e epxQ:2 Q:4 MQ:2 Q:6 exQ:1 MPQ:2 Q:5d xQ:1 Q:2b ZQ:2 Q:1
    ZQ:1 Q:17 exQ:1 ZQ:1 Q:11 ZQ:1 Q:6 epxQ:4 exQ:3 epxQ:1 exQ:2 epxQ:1 Q:4 exQ:3 Q:65 n:56 auFL:c
    auexFL:1 auFL:d alTU:1a n:16 Q:a0 ZQ:2 Q:8 exQ:2 Q:2 ZQ:8 exZQ:1 Q:5 ZQ:4 exZQ:1 Q:5 ZQ:2 Q:2
    ZQ:2 Q:3 ZQ:5 Q:e ZQ:1 Q:1 ZQ:1 Q:2 ZQ:6 Q:e exQ:2 epxQ:2 Q:1 exQ:5 xZQ:1 ZQ:1 xQ:7 exQ:1 xQ:2
    exQ:1 xQ:1 Q:1 epxQ:2 xQ:2 exQ:1 xQ:4 ebxQ:1 xQ:2 exQ:1 xQ:1 exQ:2 xQ:2 exQ:1 xQ:3 exQ:1 xQ:3
    exQ:2 xQ:8 exQ:3 xQ:5 exZQ:1 xQ:1 exZQ:1 xQ:5 epxQ:c xQ:b exQ:1 exZQ:1 xZQ:2 exZQ:1 xQ:1 exQ:2
    xQ:1 exQ:1 xQ:4 xZQ:2 xQ:c exQ:1 xQ:2 exQ:1 epxQ:1 xQ:6 Q:a xQ:2 exQ:1 epxQ:1 exQ:4 xQ:1 exQ:1
    xQ:1 exQ:2 xQ:3 exQ:1 epxQ:1 xQ:5 exQ:1 xQ:2 epxQ:2 xQ:4 exQ:2 xQ:b epxQ:2 xQ:5 epxQ:2 xQ:2
    exQ:1 xQ:5 epxQ:1 exQ:1 xQ:1 exQ:1 xQ:1 exQ:1 epxQ:1 xQ:14 exQ:1 epxQ:1 xQ:5 exQ:2 epxQ:2 exQ:1
    epxQ:1 xQ:1 exQ:2 ebxQ:1 epxQ:1 xQ:2 epxQ:1 xQ:4 exQ:1 xQ:2 epxQ:1 Q:2 exQ:2 epbxQ:2 ebxQ:2 xQ:1
    exQ:1 xQ:2 exQ:1 Q:1 exQ:1 Q:1 exQ:1 Q:6 exQ:1 Q:3 exQ:1 Q:6 epxQ:1 Q:a exQ:2 Q:f exQ:1 Q:2
    exQ:1 Q:4 epxQ:1 Q:1 epxQ:1 Q:4 epxQ:3 Q:1 epxQ:1 Q:b exQ:2 xQ:3 MQ:e n:1e Q:1 epxQ:3 Q:9 exQ:1
    Q:e epxQ:1 Q:e epxQ:1 MQ:1 Q:2 MQ:2 MZQ:2 Q:1 MQ:2 Q:1 MQ:3 Q:5 MQ:4 Q:5 MQ:3 Q:3 MQ:4 MZQ:a
    Q:144 exQ:2 Q:4d MZQ:16 Q:2 MQ:6 Q:1 MQ:e Q:8 MQ:1 Q:7 MQ:6 Q:3 MQ:1 Q:4 MQ:5 Q:1 MQ:2 Q:2 MZQ:4
    MQ:1 Q:4 MQ:1 Q:1 MQ:3 Q:2 MQ:2 Q:a MQ:6 Q:2 MZQ:2 Q:c MQ:13 Q:1 MQ:4 Q:2 MQ:1 Q:1 MQ:1 Q:2 MQ:1
    Q:1 MQ:4 Q:5 MQ:2 Q:6 MQ:3 Q:18 MQ:2 Q:b MQ:2 Q:4 MQ:4 Q:1 MQ:2 Q:2 MQ:2 Q:4 MQ:2b Q:2 MQ:8 Q:1
    MQ:28 Q:5 MQ:1 Q:1 MQ:1 Q:3 MQ:5 Q:5 MQ:3 Q:4 MQ:1 Q:3 MQ:5 Q:1 MQ:1 Q:7 exQ:3 Q:13 epxQ:2 Q:33
    epxQ:1 Q:4 epxQ:1 Q:a8 MQ:1 Q:1 FL:30 TU:30 FL:1 TU:1 FL:3 TU:2 FL:1 TU:1 FL:1 TU:1 FL:1 TU:1
    FL:4 n:1 FL:1 TU:1 n:1 FL:1 TU:1 n:5 lj:1 l:1 FL:3 TU:1 FL:1 TU:1 FL:1 TU:1 FL:1 TU:1 FL:1 TU:1
    FL:1 TU:1 FL:1 TU:1 FL:1 TU:1 FL:1 TU:1 FL:1 TU:1 FL:1 TU:1 FL:1 TU:1 FL:1 TU:1 FL:1 TU:1 FL:1
    TU:1 FL:1 TU:1 FL:1 TU:1 FL:1 TU:1 FL:1 TU:1 FL:1 TU:1 FL:1 TU:1 FL:1 TU:1 FL:1 TU:1 FL:1 TU:1
    FL:1 TU:1 FL:1 TU:1 FL:1 TU:1 FL:1 TU:1 FL:1 TU:1 FL:1 TU:1 FL:1 TU:1 FL:1 TU:1 FL:1 TU:1 FL:1
    TU:1 FL:1 TU:1 FL:1 TU:1 FL:1 TU:1 FL:1 TU:1 FL:1 TU:1 FL:1 TU:1 FL:1 TU:1 FL:1 TU:1 FL:1 TU:1
    FL:1 TU:1 FL:1 TU:1 FL:1 TU:1 FL:1 TU:1 FL:1 TU:1 FL:1 TU:1 FL:1 TU:1 n:7 FL:1 TU:1 FL:1 TU:1
    A:3 FL:1 TU:1 n:c TU:26 n:1 TU:1 n:5 TU:1 n:51 K:1 n:60 a:20 Q:2 MQ:4 Q:3 MQ:2 Q:1 MQ:2 Q:9
    dHQ:1 Q:2 dQ:1 Q:1 MQ:2 Q:2 MQ:a Q:4 Qsk:1 AQ:1 Q:a dQ:2 Qsk:1 Q:3 dQ:1 Qk:1 qQ:1 Q:9 Qk:1 Q:1
    Qk:2 Q:3 Qsk:2 MQ:8 dQ:1 Q:22 n:181 Qk:1 Qsk:1 Q:1 n:1 E:1 i:2 MQ:4 qMQ:4 MQ:2 Q:2 MQ:8 dQ:1
    qQ:3 Q:1 i:9 A:4 AG:2 dexQ:1 E:5 n:2 i:3 n:2 ex:1 n:5b A:4 E:2 n:1 d:1 n:5a H:1 AE:1 E:2 n:65
    D:1 n:132 ex:1 n:1 ex:1 n:166 it:19c0 n:40 it:5200 n:15 E:1 n:4e8 k:1 sk:1 n:10c E:1 k:1 sk:2
    n:30 FL:1 TU:1 FL:1 TU:1 FL:1 TU:1 FL:1 TU:1 FL:1 TU:1 FL:1 TU:1 FL:1 TU:1 FL:1 TU:1 FL:1 TU:1
    FL:1 TU:1 FL:1 TU:1 FL:1 TU:1 FL:1 TU:1 FL:1 TU:1 FL:1 TU:1 FL:1 TU:1 FL:1 TU:1 FL:1 TU:1 FL:1
    TU:1 FL:1 TU:1 FL:1 TU:1 FL:1 TU:1 FL:1 TU:1 n:1 A:1 n:4 a:8 A:2 n:1 A:1 FL:1 TU:1 FL:1 TU:1
    FL:1 TU:1 FL:1 TU:1 FL:1 TU:1 FL:1 TU:1 FL:1 TU:1 FL:1 TU:1 FL:1 TU:1 FL:1 TU:1 FL:1 TU:1 FL:1
    TU:1 FL:1 TU:1 FL:1 TU:1 lA:2 a:2 n:50 A:2 n:1 sk:1 k:3 sk:1 n:8 A:22 FL:1 TU:1 FL:1 TU:1 FL:1
    TU:1 FL:1 TU:1 FL:1 TU:1 FL:1 TU:1 FL:1 TU:1 n:2 FL:1 TU:1 FL:1 TU:1 FL:1 TU:1 FL:1 TU:1 FL:1
    TU:1 FL:1 TU:1 FL:1 TU:1 FL:1 TU:1 FL:1 TU:1 FL:1 TU:1 FL:1 TU:1 FL:1 TU:1 FL:1 TU:1 FL:1 TU:1
    FL:1 TU:1 FL:1 TU:1 FL:1 TU:1 FL:1 TU:1 FL:1 TU:1 FL:1 TU:1 FL:1 TU:1 FL:1 TU:1 FL:1 TU:1 FL:1
    TU:1 FL:1 TU:1 FL:1 TU:1 FL:1 TU:1 FL:1 TU:1 FL:1 TU:1 FL:1 TU:1 FL:1 TU:1 l:1 n:8 FL:1 TU:1
    FL:1 TU:1 FL:2 TU:1 FL:1 TU:1 FL:1 TU:1 FL:1 TU:1 FL:1 TU:1 A:3 FL:1 TU:1 FL:1 n:2 FL:1 TU:1
    FL:1 TU:2 n:1 FL:1 TU:1 FL:1 TU:1 FL:1 TU:1 FL:1 TU:1 FL:1 TU:1 FL:1 TU:1 FL:1 TU:1 FL:1 TU:1
    FL:1 TU:1 FL:1 TU:1 FL:5 n:1 FL:5 TU:1 FL:1 TU:1 FL:1 TU:1 FL:1 TU:1 FL:1 TU:1 FL:1 TU:1 FL:1
    TU:1 FL:1 TU:1 FL:4 TU:1 FL:1 TU:1 n:5 FL:1 TU:1 n:4 FL:1 TU:1 FL:1 TU:1 n:18 l:3 FL:1 TU:1 n:1
    lA:2 n:8 a:1 n:3 K:1 n:4 a:1 n:17 a:5 n:4 K:1 n:49 sk:2 n:8 a:2 n:32 a:10 AK:1 a:1 n:8 sk:2 n:10
    A:12 n:d a:1 n:26 a:5 A:4 sk:1 n:17 a:c AK:1 n:2c a:4 n:2f A:1 a:c AK:1 n:6 k:1 sk:2 n:5 E:1
    n:15 aA:1 E:1 n:42 a:e n:c a:1 n:8 a:2 n:f sk:3 n:10 E:1 n:a aA:3 n:32 a:1 n:1 a:3 O:2 a:2 O:1
    n:1 O:2 n:1 a:1 A:4 n:1a E:1 n:1 k:1 n:b a:5 sk:2 n:1 E:2 a:1 AK:1 n:5c TU:1 n:7 A:1 lA:4 n:9
    lA:1 A:2 n:4 FTU:50 n:23 a:8 sk:1 A:1 AK:1 n:4d12 i:10e it:2 i:1 it:1 i:1 it:2 i:a it:1 i:1 it:1
    i:1 it:2 i:2 it:3 i:44 n:2 i:6a n:26 FTU:7 n:c FTU:5 n:6 aA:1 n:21f Q:2 n:c0 vD:f vcD:1 n:3 C:1
    n:c A:10 n:1 d:2 n:e q:4 Q:2 n:9 k:2 Csk:1 n:1 k:1 Ck:1 sk:2 d:1 M:6 n:2 Z:1 n:1 dHZ:1 M:2 n:2
    Z:1 n:96 D:1 n:1 sk:1 q:1 n:4 qC:1 M:2 n:2 k:1 dH:1 Csk:1 n:1 h:a Ck:1 k:1 M:1 n:1 M:1 sk:1 n:1
    hFL:6 FL:14 M:1 Z:1 M:1 AZ:1 n:1 A:1 hTU:6 TU:14 M:1 n:1 M:1 n:1 M:2 sk:1 qM:2 k:1 H:1 n:a AE:1
    n:2d AG:2 D:1 n:42 A:1 n:c D:9 n:2e7 A:1 n:95 a:5 n:24 k:1 n:30 k:1 n:2f FL:28 TU:28 n:60 FL:24
    n:4 TU:24 n:74 FL:b n:1 FL:f n:1 FL:7 n:1 FL:2 n:1 TU:b n:1 TU:f n:1 TU:7 n:1 TU:2 n:1c3 lA:1
    AE:2 lA:3 n:1 lA:2a n:1 lA:9 n:9c k:1 n:c7 k:1 n:e1 a:3 n:1 a:2 n:5 a:4 n:2f K:1 n:16 sk:2 n:8d
    A:2 n:9 k:6 n:44 k:6 n:59 k:4 n:e3 FL:33 n:d TU:33 n:2f A:2 aA:4 n:183 a:2 d:1 n:4f A:3 n:46 A:b
    n:4 sk:5 n:28 A:4 sk:4 n:76 a:3 n:35 a:e AK:1 sk:2 k:5 n:22 AK:1 n:2 a:2 n:a K:1 a:3 n:2d a:9
    AK:1 A:1 n:2 R:1 sk:4 a:1 n:a R:1 n:32 a:3 n:24 a:c AK:2 n:c sk:3 n:1 a:2 n:2c A:1 n:c a:3 n:30
    a:d AK:1 n:4 sk:2 n:3 A:3 sk:1 a:2 n:e sk:2 n:4c a:9 AK:1 A:1 a:1 sk:2 k:1 sk:2 n:1 a:1 n:2 a:1
    n:67 sk:1 n:35 a:a A:1 AK:1 n:15 a:4 n:38 A:1 n:1 aG:1 a:6 n:2 a:2 n:2 a:2 AK:1 n:9 aG:1 n:5 E:1
    n:4 a:2 n:2 A:7 n:3 A:5 n:c0 a:d AK:1 a:3 A:1 n:4 sk:2 k:1 n:c k:2 n:54 aG:1 a:c aG:1 a:4 AK:1
    A:1 n:eb aG:1 a:6 n:2 a:7 AK:1 A:1 n:1 sk:2 k:2 E:3 sk:f n:4 a:2 n:52 a:f AK:1 a:1 sk:2 n:68 a:b
    AK:1 A:1 n:65 a:e AK:1 n:10 sk:3 n:ed a:d AK:1 A:1 n:65 FL:20 TU:20 n:50 aG:1 a:5 n:1 a:2 n:2
    a:2 AK:2 n:1 a:1 n:1 a:1 A:1 sk:1 n:1 sk:1 n:8a a:7 n:2 a:6 AK:1 n:3 a:1 n:1c a:a n:29 AK:1 a:5
    n:1 a:4 n:3 sk:2 n:3 AK:1 n:9 a:b n:2e a:e E:1 AK:1 n:1 sk:2 n:4 k:2 n:18c a:8 n:1 a:7 AK:1 n:1
    sk:2 k:1 n:2d k:1 n:20 a:16 n:1 a:e n:7a a:6 n:3 a:1 n:1 a:2 n:1 a:3 A:1 a:1 AK:2 n:1 a:1 n:42
    a:5 n:1 a:2 n:1 a:4 AK:1 n:15b a:4 sk:2 n:7 a:2 n:1 a:1 n:30 a:7 n:3 a:3 K:2 sk:2 n:52b k:5
    n:fd2 A:f n:3618 sk:2 n:80 A:5 sk:1 n:3a A:7 sk:2 k:1 n:8 E:2 sk:1 n:2fb FL:20 TU:20 n:17 k:1
    sk:1 n:b6 a:1 n:1 a:37 n:7 aA:4 A:d n:40 E:2 n:1 E:1 i:1 n:b aA:2 n:e i:17f8 n:8 i:4d6 n:2a i:9
    n:22e7 A:4 n:1 A:7 n:1 A:2 n:171 i:18c n:9a2 a:1 sk:1 D:4 n:125c A:2e n:2 A:17 n:21e G:1 n:1 A:3
    n:3 A:1 AG:5 D:8 A:8 n:2 A:7 n:1e A:4 n:252 Z:22 Zj:2 Z:31 n:1 Zj:2 Z:32 Zj:2 Z:11 n:1 Z:2 n:2
    Z:1 n:2 Z:2 n:2 Z:4 n:1 Z:c n:1 Z:1 n:1 Z:1 Zj:2 Z:4 n:1 Z:2d Zj:2 Z:12 n:1 Z:4 n:2 Z:8 n:1 Z:7
    n:1 Z:8 Zj:2 Z:12 n:1 Z:4 n:1 Z:5 n:1 Z:1 n:3 Z:7 n:1 Z:8 Zj:2 Z:32 Zj:2 Z:32 Zj:2 Z:32 Zj:2
    Z:32 Zj:2 Z:32 Zj:2 Z:32 Zj:2 Z:12 n:2 Z:19 n:1 Z:19 M:1 Z:1f n:1 Z:19 M:1 Z:1f n:1 Z:19 M:1
    Z:1f n:1 Z:19 M:1 Z:1f n:1 Z:19 M:1 Z:8 n:2 Z:32 n:287 k:1 sk:1 k:2 n:48f j:1 n:e5 a:7 n:1 a:11
    n:2 a:7 n:1 a:2 n:1 a:5 n:5 lA:1c lAj:2 lA:1a lAj:1 lA:5 n:21 a:1 n:a0 A:7 n:5 E:2 n:170 A:1
    n:3d A:4 n:5e0 A:7 n:29 FL:22 TU:22 AE:3 a:1 A:3 n:4b5 Z:4 n:1 Z:1b n:1 Z:2 n:1 Z:1 n:2 Z:1 n:1
    Z:a n:1 Z:4 n:1 Z:1 n:1 Z:1 n:6 Z:1 n:4 Z:1 n:1 Z:1 n:1 Z:1 n:1 Z:3 n:1 Z:2 n:1 Z:1 n:2 Z:1 n:1
    Z:1 n:1 Z:1 n:1 Z:1 n:1 Z:1 n:1 Z:2 n:1 Z:1 n:2 Z:4 n:1 Z:7 n:1 Z:4 n:1 Z:4 n:1 Z:1 n:1 Z:a n:1
    Z:11 n:5 Z:3 n:1 Z:5 n:1 Z:11 n:144 x:4 epx:1 x:ca epx:1 x:30 n:d x:3 n:1f x:1 au:1a n:6 au:1a
    n:2 x:4 auex:2 au:c auex:2 au:a n:4 epx:1 n:2 epx:a n:12 x:39 epc:1a n:1 epx:1 ex:1 x:d n:a
    epx:1 n:14 epx:1 n:2 epx:5 ex:1 epx:3 n:1 x:4 n:9 x:7 epx:2 x:ae epx:21 ex:1 x:2 ex:9 epx:9 ex:1
    epx:46 ex:1 epx:7 epbx:1 epx:e x:2 ex:2 x:1 ex:3 x:2 ex:2 epx:22 epbx:3 epx:2 epbx:1 epx:2
    epbx:1 ebx:2 ex:2 epx:5 ex:c epx:11 x:2 ex:1 epx:1 ex:1 x:1 ex:1 epx:3 epmc:5 epx:3f ex:1 epx:1
    ex:1 epbx:2 epx:2 epbx:b epx:15 epbx:13 epx:3 epbx:1 epx:4 epbx:3 epx:1 epbx:3 epx:7 epbx:1
    epx:1 epbx:1 epx:18 epbx:1 epx:52 ex:1 x:1 epx:3f n:8 x:3 ex:2 epx:4 x:1 epx:18 x:7 ex:2 x:2
    ex:1 ebx:2 ex:4 epbx:1 x:c ex:1 x:2 ex:4 x:2 ebx:1 x:4 epbx:2 x:d epx:1 ex:1 x:2 ex:1 x:8 ex:2
    x:9 ex:1 x:5 ex:3 x:c ex:3 x:8 ex:3 x:2 ex:1 x:1 ex:1 x:4 ex:1 x:6 ex:1 x:3 ex:1 x:6 ex:1 epx:4a
    epbx:3 epx:3 epbx:5 n:30 epx:23 epbx:1 epx:10 epbx:3 epx:9 epbx:1 epx:5 x:5 ex:1 epbx:1 ex:3
    epx:3 x:2 epx:3 x:4 epx:4 ex:6 x:3 ex:1 x:1 epx:2 x:3 ex:1 x:2 ex:1 epx:9 x:3 n:74 x:c n:55 x:b
    epx:c x:4 epx:1 x:f n:c x:4 n:38 x:8 n:a x:6 n:28 x:8 n:1e x:52 n:c epbx:1 epx:2 epbx:1 epx:8
    epbx:8 epx:6 epbx:1 epx:9 epbx:a epx:1 n:1 epbx:3 epx:7 n:1 epx:30 epbx:1 epx:38 epcx:4 epx:1
    epbx:2 epx:1 epbx:2 epx:1 epbx:1 epx:11 epbx:3 epx:1 epbx:d epx:22 x:70 epx:d x:3 epx:9 x:7
    epx:2e x:1 epx:4 epbx:3 x:8 epx:e x:4 epx:9 x:7 epbx:9 x:7 n:100 x:3fe n:2 it:a6e0 n:20 it:103a
    n:6 it:de n:2 it:1682 n:e it:1d31 n:c1f i:21e n:5e2 it:134b n:5 it:1060 n:adc50 D:1 DP:1 D:1e
    cDG:60 D:80 vD:f0 D:e10 n:2f000"

/-- Whether a code point has a feature. -/
def hasFeature (feature : Feature) (point : Nat) : Bool :=
  (valueAt featureRuns point).toList.contains feature.letter

end ProxyProfile.Pattern
