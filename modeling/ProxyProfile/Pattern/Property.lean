/-
This file finds the sets of characters that patterns name: the short classes of
digits, blanks and words, the bracketed names of ASCII, and the properties of
Unicode.

Names of properties are compared without regard to case, blanks, hyphens and
underscores, and without a leading `is`. A name alone is a feature, a general
category or else a script; a name with a value asks for a general category, for the
script of a character or for one of the scripts that use it.

Nothing else is known. A pattern that asks when a character came into the standard,
or where graphemes, words and sentences break, is refused as one that names no
property, and so is one that gives a feature a value.
-/

import ProxyProfile.Pattern.Basic

namespace ProxyProfile.Pattern

namespace CharSet

/-- The digits of ASCII. -/
def asciiDigits : CharSet := range 48 57

/-- The letters of ASCII. -/
def asciiLetters : CharSet := union (range 65 90) (range 97 122)

/-- The characters of words of ASCII. -/
def asciiWord : CharSet := unions [asciiLetters, asciiDigits, single '_']

/-- The blank characters of ASCII. -/
def asciiSpace : CharSet := union (range 9 13) (single ' ')

/-- The characters of Unicode's property `White_Space`. -/
def space : CharSet :=
  unions [range 9 13, single ' ', range 0x85 0x85, range 0xA0 0xA0, range 0x1680 0x1680,
    range 0x2000 0x200A, range 0x2028 0x2029, range 0x202F 0x202F, range 0x205F 0x205F,
    range 0x3000 0x3000]

end CharSet

/-- The class of the letters `d`, `s` and `w`, of all characters or of ASCII. -/
def shortClass? (unicode : Bool) (letter : Char) : Option CharSet :=
  match letter with
  | 'd' => some (if unicode then .categories ["Nd"] else .asciiDigits)
  | 's' => some (if unicode then .space else .asciiSpace)
  | 'w' => some (if unicode then .words else .asciiWord)
  | _ => none

/-- The classes of ASCII that have names in brackets. -/
def asciiClass? (name : String) : Option CharSet :=
  match name with
  | "alnum" => some (.union .asciiLetters .asciiDigits)
  | "alpha" => some .asciiLetters
  | "ascii" => some (.range 0 127)
  | "blank" => some (.union (.single '\t') (.single ' '))
  | "cntrl" => some (.union (.range 0 31) (.range 127 127))
  | "digit" => some .asciiDigits
  | "graph" => some (.range 33 126)
  | "lower" => some (.range 97 122)
  | "print" => some (.range 32 126)
  | "punct" =>
    some (.unions [.range 33 47, .range 58 64, .range 91 96, .range 123 126])
  | "space" => some .asciiSpace
  | "upper" => some (.range 65 90)
  | "word" => some .asciiWord
  | "xdigit" => some (.unions [.asciiDigits, .range 65 70, .range 97 102])
  | _ => none

/-- A name without case, blanks, hyphens and underscores, and without a leading `is`. -/
def plainName (name : List Char) : String :=
  let kept := (name.filter fun c => !(Text.isBlank c || c = '_' || c = '-')).map Char.toLower
  match kept with
  | ['i', 's', 'c'] => "isc"
  | 'i' :: 's' :: rest => String.ofList rest
  | _ => String.ofList kept

/-- The characters of a general category. -/
def categorySet? (name : String) : Option CharSet :=
  match name with
  | "any" => some .all
  | "ascii" => some (.range 0 127)
  | "assigned" => some (.complement (.categories ["Cn"]))
  | _ => (categoryMembers? (categoryAlias name)).map .categories

/-- The alphabetic characters. -/
def CharSet.alphabetic : CharSet :=
  .union (.categories ["Lu", "Ll", "Lt", "Lm", "Lo", "Nl"]) (.feature .otherAlphabetic)

/-- The characters of upper case. -/
def CharSet.uppercase : CharSet :=
  .union (.categories ["Lu"]) (.feature .otherUppercase)

/-- The characters of lower case. -/
def CharSet.lowercase : CharSet :=
  .union (.categories ["Ll"]) (.feature .otherLowercase)

/-- The code points that never stand for a character: a block of them, and the last two of
every plane. -/
def CharSet.nonCharacters : CharSet :=
  .union (.range 0xFDD0 0xFDEF) <| .unions <|
    (List.range 17).map fun plane => .range (plane * 0x10000 + 0xFFFE) (plane * 0x10000 + 0xFFFF)

/-- The characters that are passed over where case depends on what is near. -/
def CharSet.caseIgnorable : CharSet :=
  .union (.categories ["Mn", "Me", "Cf", "Lm", "Sk"]) (.feature .otherCaseIgnorable)

/-- The characters that continue a grapheme. -/
def CharSet.graphemeExtend : CharSet :=
  .union (.categories ["Mn", "Me"]) (.feature .otherGraphemeExtend)

/-- The characters that begin a grapheme. -/
def CharSet.graphemeBase : CharSet :=
  .complement <| .union .graphemeExtend <|
    .categories ["Cc", "Cf", "Cs", "Co", "Cn", "Zl", "Zp"]

/-- The blanks of patterns. -/
def CharSet.patternSpace : CharSet :=
  .unions [.range 9 13, .single ' ', .range 0x85 0x85, .range 0x200E 0x200F, .range 0x2028 0x2029]

/-- What begins names though it is no letter. -/
def CharSet.otherNameStart : CharSet :=
  .unions [.range 0x1885 0x1886, .range 0x2118 0x2118, .range 0x212E 0x212E, .range 0x309B 0x309C]

/-- What continues names though it is no letter, mark, digit or connector. -/
def CharSet.otherNamePart : CharSet :=
  .unions [.range 0xB7 0xB7, .range 0x387 0x387, .range 0x1369 0x1371, .range 0x19DA 0x19DA]

/-- Characters without those that patterns keep for themselves. -/
def CharSet.freeOfPatterns (set : CharSet) : CharSet :=
  .difference set (.union (.feature .patternSyntax) .patternSpace)

/-- What a name may begin with. -/
def CharSet.nameStart : CharSet :=
  .freeOfPatterns <| .union (.categories ["Lu", "Ll", "Lt", "Lm", "Lo", "Nl"]) .otherNameStart

/-- What a name may hold. -/
def CharSet.namePart : CharSet :=
  .freeOfPatterns <| .unions [.nameStart, .categories ["Mn", "Mc", "Nd", "Pc"], .otherNamePart]

/-- What no longer continues a name in a normal form of the text. -/
def CharSet.looseNamePart : CharSet :=
  .unions <| .range 0x37A 0x37A :: .range 0x309B 0x309C :: .range 0xFC5E 0xFC63 ::
    .range 0xFDFA 0xFDFB :: (List.range 8).map fun step =>
      .range (0xFE70 + 2 * step) (0xFE70 + 2 * step)

/-- What no longer begins a name in a normal form of the text. -/
def CharSet.looseNameStart : CharSet :=
  .unions [.looseNamePart, .range 0xE33 0xE33, .range 0xEB3 0xEB3, .range 0xFF9E 0xFF9F]

/-- The characters with a property that they have or have not. -/
def binarySet? (name : String) : Option CharSet :=
  match name with
  | "whitespace" | "wspace" | "space" => some .space
  | "alphabetic" | "alpha" => some .alphabetic
  | "otheralphabetic" | "oalpha" => some (.feature .otherAlphabetic)
  | "uppercase" | "upper" => some .uppercase
  | "otheruppercase" | "oupper" => some (.feature .otherUppercase)
  | "lowercase" | "lower" => some .lowercase
  | "otherlowercase" | "olower" => some (.feature .otherLowercase)
  | "cased" => some (.unions [.uppercase, .lowercase, .categories ["Lt"]])
  | "caseignorable" | "ci" => some .caseIgnorable
  | "changeswhencasefolded" | "cwcf" => some (.feature .folds)
  | "changeswhenlowercased" | "cwl" => some (.feature .lowers)
  | "changeswhentitlecased" | "cwt" => some (.feature .titles)
  | "changeswhenuppercased" | "cwu" => some (.feature .uppers)
  | "changeswhencasemapped" | "cwcm" =>
    some (.unions [.feature .lowers, .feature .titles, .feature .uppers])
  | "softdotted" | "sd" => some (.feature .softDotted)
  | "ideographic" | "ideo" => some (.feature .ideographic)
  | "unifiedideograph" | "uideo" => some (.feature .unifiedIdeograph)
  | "radical" => some (.unions [.range 0x2E80 0x2E99, .range 0x2E9B 0x2EF3, .range 0x2F00 0x2FD5])
  | "idsbinaryoperator" | "idsb" => some (.union (.range 0x2FF0 0x2FF1) (.range 0x2FF4 0x2FFB))
  | "idstrinaryoperator" | "idst" => some (.range 0x2FF2 0x2FF3)
  | "hexdigit" | "hex" => some (.feature .hexDigit)
  | "asciihexdigit" | "ahex" => some (.unions [.asciiDigits, .range 65 70, .range 97 102])
  | "math" => some (.union (.categories ["Sm"]) (.feature .otherMath))
  | "othermath" | "omath" => some (.feature .otherMath)
  | "dash" => some (.feature .dash)
  | "hyphen" => some (.feature .hyphen)
  | "quotationmark" | "qmark" => some (.feature .quotationMark)
  | "terminalpunctuation" | "term" => some (.feature .terminalPunctuation)
  | "sentenceterminal" | "sterm" => some (.feature .sentenceTerminal)
  | "diacritic" | "dia" => some (.feature .diacritic)
  | "extender" | "ext" => some (.feature .extender)
  | "graphemebase" | "grbase" => some .graphemeBase
  | "graphemeextend" | "grext" => some .graphemeExtend
  | "othergraphemeextend" | "ogrext" => some (.feature .otherGraphemeExtend)
  | "graphemelink" | "grlink" => some (.feature .graphemeLink)
  | "prependedconcatenationmark" | "pcm" => some (.feature .prependedMark)
  | "joincontrol" | "joinc" => some (.range 0x200C 0x200D)
  | "bidicontrol" | "bidic" => some (.feature .bidiControl)
  | "bidimirrored" | "bidim" => some (.feature .bidiMirrored)
  | "logicalorderexception" | "loe" => some (.feature .logicalOrderException)
  | "variationselector" | "vs" => some (.feature .variationSelector)
  | "defaultignorablecodepoint" | "di" => some (.feature .defaultIgnorable)
  | "otherdefaultignorablecodepoint" | "odi" =>
    some (.difference (.feature .defaultIgnorable)
      (.union (.categories ["Cf"]) (.feature .variationSelector)))
  | "deprecated" | "dep" => some (.feature .deprecated)
  | "noncharactercodepoint" | "nchar" => some .nonCharacters
  | "idstart" | "ids" => some .nameStart
  | "otheridstart" | "oids" => some .otherNameStart
  | "idcontinue" | "idc" => some .namePart
  | "otheridcontinue" | "oidc" => some .otherNamePart
  | "xidstart" | "xids" => some (.difference .nameStart .looseNameStart)
  | "xidcontinue" | "xidc" => some (.difference .namePart .looseNamePart)
  | "patternsyntax" | "patsyn" => some (.feature .patternSyntax)
  | "patternwhitespace" | "patws" => some .patternSpace
  | "regionalindicator" | "ri" => some (.range 0x1F1E6 0x1F1FF)
  | "emoji" => some (.feature .emoji)
  | "emojipresentation" | "epres" => some (.feature .emojiPresentation)
  | "emojimodifier" | "emod" => some (.feature .emojiModifier)
  | "emojimodifierbase" | "ebase" => some (.feature .emojiModifierBase)
  | "emojicomponent" | "ecomp" => some (.feature .emojiComponent)
  | "extendedpictographic" | "extpict" => some (.feature .pictographic)
  | _ => none

/-- The characters of a property that is given by a name alone. -/
def namedSet? (name : String) : Option CharSet :=
  match binarySet? name with
  | some set => some set
  | none =>
    match categorySet? name with
    | some set => some set
    | none => (scriptName? name).map .script

/-- The characters whose property has a value. -/
def valuedSet? (property value : String) : Option CharSet :=
  match property with
  | "generalcategory" | "gc" => categorySet? value
  | "script" | "sc" => (scriptName? value).map .script
  | "scriptextensions" | "scx" => (scriptName? value).map .usedIn
  | _ => none

/-- The characters of a property as it is written between braces. -/
def propertySet? (shown : List Char) : Option CharSet :=
  match Text.cutAt? ['!', '='] shown with
  | some (property, value) =>
    (valuedSet? (plainName property) (plainName value)).map .complement
  | none =>
    match Text.cutAt? [':'] shown with
    | some (property, value) => valuedSet? (plainName property) (plainName value)
    | none =>
      match Text.cutAt? ['='] shown with
      | some (property, value) => valuedSet? (plainName property) (plainName value)
      | none => namedSet? (plainName shown)

end ProxyProfile.Pattern
