/-
This file tells the script of a character and the scripts that use it, by tables of
Unicode. Scripts have long names and names of four letters; both are compared in
lower case and without the marks between words.

Most characters are used by their own script only. A second table has the others:
those that belong to several scripts, and the few that a single script uses though
it is not counted as theirs. The characters are those of version 15.0 of the
standard.
-/

import ProxyProfile.Pattern.Runs

namespace ProxyProfile.Pattern

/-- The scripts along the code points. -/
def scriptRuns : Array Run := runsOf
    "common:41 latin:1a common:6 latin:1a common:2f latin:1 common:f latin:1 common:5 latin:17
    common:1 latin:1f common:1 latin:1c1 common:27 latin:5 common:5 bopomofo:2 common:14
    inherited:70 greek:4 common:1 greek:3 unknown:2 greek:4 common:1 greek:1 unknown:4 greek:1
    common:1 greek:1 common:1 greek:3 unknown:1 greek:1 unknown:1 greek:14 unknown:1 greek:3f
    coptic:e greek:10 cyrillic:85 inherited:2 cyrillic:a9 unknown:1 armenian:26 unknown:2
    armenian:32 unknown:2 armenian:3 unknown:1 hebrew:37 unknown:8 hebrew:1b unknown:4 hebrew:6
    unknown:b arabic:5 common:1 arabic:6 common:1 arabic:e common:1 arabic:3 common:1 arabic:20
    common:1 arabic:a inherited:b arabic:1a inherited:1 arabic:6c common:1 arabic:22 syriac:e
    unknown:1 syriac:3c unknown:2 syriac:3 arabic:30 thaana:32 unknown:e nko:3b unknown:2 nko:3
    samaritan:2e unknown:2 samaritan:f unknown:1 mandaic:1c unknown:2 mandaic:1 unknown:1 syriac:b
    unknown:5 arabic:1f unknown:1 arabic:2 unknown:6 arabic:4a common:1 arabic:1d devanagari:51
    inherited:4 devanagari:f common:2 devanagari:1a bengali:4 unknown:1 bengali:8 unknown:2
    bengali:2 unknown:2 bengali:16 unknown:1 bengali:7 unknown:1 bengali:1 unknown:3 bengali:4
    unknown:2 bengali:9 unknown:2 bengali:2 unknown:2 bengali:4 unknown:8 bengali:1 unknown:4
    bengali:2 unknown:1 bengali:5 unknown:2 bengali:19 unknown:2 gurmukhi:3 unknown:1 gurmukhi:6
    unknown:4 gurmukhi:2 unknown:2 gurmukhi:16 unknown:1 gurmukhi:7 unknown:1 gurmukhi:2 unknown:1
    gurmukhi:2 unknown:1 gurmukhi:2 unknown:2 gurmukhi:1 unknown:1 gurmukhi:5 unknown:4 gurmukhi:2
    unknown:2 gurmukhi:3 unknown:3 gurmukhi:1 unknown:7 gurmukhi:4 unknown:1 gurmukhi:1 unknown:7
    gurmukhi:11 unknown:a gujarati:3 unknown:1 gujarati:9 unknown:1 gujarati:3 unknown:1
    gujarati:16 unknown:1 gujarati:7 unknown:1 gujarati:2 unknown:1 gujarati:5 unknown:2
    gujarati:a unknown:1 gujarati:3 unknown:1 gujarati:3 unknown:2 gujarati:1 unknown:f gujarati:4
    unknown:2 gujarati:c unknown:7 gujarati:7 unknown:1 oriya:3 unknown:1 oriya:8 unknown:2
    oriya:2 unknown:2 oriya:16 unknown:1 oriya:7 unknown:1 oriya:2 unknown:1 oriya:5 unknown:2
    oriya:9 unknown:2 oriya:2 unknown:2 oriya:3 unknown:7 oriya:3 unknown:4 oriya:2 unknown:1
    oriya:5 unknown:2 oriya:12 unknown:a tamil:2 unknown:1 tamil:6 unknown:3 tamil:3 unknown:1
    tamil:4 unknown:3 tamil:2 unknown:1 tamil:1 unknown:1 tamil:2 unknown:3 tamil:2 unknown:3
    tamil:3 unknown:3 tamil:c unknown:4 tamil:5 unknown:3 tamil:3 unknown:1 tamil:4 unknown:2
    tamil:1 unknown:6 tamil:1 unknown:e tamil:15 unknown:5 telugu:d unknown:1 telugu:3 unknown:1
    telugu:17 unknown:1 telugu:10 unknown:2 telugu:9 unknown:1 telugu:3 unknown:1 telugu:4
    unknown:7 telugu:2 unknown:1 telugu:3 unknown:2 telugu:1 unknown:2 telugu:4 unknown:2 telugu:a
    unknown:7 telugu:9 kannada:d unknown:1 kannada:3 unknown:1 kannada:17 unknown:1 kannada:a
    unknown:1 kannada:5 unknown:2 kannada:9 unknown:1 kannada:3 unknown:1 kannada:4 unknown:7
    kannada:2 unknown:6 kannada:2 unknown:1 kannada:4 unknown:2 kannada:a unknown:1 kannada:3
    unknown:c malayalam:d unknown:1 malayalam:3 unknown:1 malayalam:33 unknown:1 malayalam:3
    unknown:1 malayalam:6 unknown:4 malayalam:10 unknown:2 malayalam:1a unknown:1 sinhala:3
    unknown:1 sinhala:12 unknown:3 sinhala:18 unknown:1 sinhala:9 unknown:1 sinhala:1 unknown:2
    sinhala:7 unknown:3 sinhala:1 unknown:4 sinhala:6 unknown:1 sinhala:1 unknown:1 sinhala:8
    unknown:6 sinhala:a unknown:2 sinhala:3 unknown:c thai:3a unknown:4 common:1 thai:1c
    unknown:25 lao:2 unknown:1 lao:1 unknown:1 lao:5 unknown:1 lao:18 unknown:1 lao:1 unknown:1
    lao:17 unknown:2 lao:5 unknown:1 lao:1 unknown:1 lao:7 unknown:1 lao:a unknown:2 lao:4
    unknown:20 tibetan:48 unknown:1 tibetan:24 unknown:4 tibetan:27 unknown:1 tibetan:24 unknown:1
    tibetan:f unknown:1 tibetan:7 common:4 tibetan:2 unknown:25 myanmar:a0 georgian:26 unknown:1
    georgian:1 unknown:5 georgian:1 unknown:2 georgian:2b common:1 georgian:4 hangul:100
    ethiopic:49 unknown:1 ethiopic:4 unknown:2 ethiopic:7 unknown:1 ethiopic:1 unknown:1
    ethiopic:4 unknown:2 ethiopic:29 unknown:1 ethiopic:4 unknown:2 ethiopic:21 unknown:1
    ethiopic:4 unknown:2 ethiopic:7 unknown:1 ethiopic:1 unknown:1 ethiopic:4 unknown:2 ethiopic:f
    unknown:1 ethiopic:39 unknown:1 ethiopic:4 unknown:2 ethiopic:43 unknown:2 ethiopic:20
    unknown:3 ethiopic:1a unknown:6 cherokee:56 unknown:2 cherokee:6 unknown:2
    canadianaboriginal:280 ogham:1d unknown:3 runic:4b common:3 runic:b unknown:7 tagalog:16
    unknown:9 tagalog:1 hanunoo:15 common:2 unknown:9 buhid:14 unknown:c tagbanwa:d unknown:1
    tagbanwa:3 unknown:1 tagbanwa:2 unknown:c khmer:5e unknown:2 khmer:a unknown:6 khmer:a
    unknown:6 mongolian:2 common:2 mongolian:1 common:1 mongolian:14 unknown:6 mongolian:59
    unknown:7 mongolian:2b unknown:5 canadianaboriginal:46 unknown:a limbu:1f unknown:1 limbu:c
    unknown:4 limbu:c unknown:4 limbu:1 unknown:3 limbu:c taile:1e unknown:2 taile:5 unknown:b
    newtailue:2c unknown:4 newtailue:1a unknown:6 newtailue:b unknown:3 newtailue:2 khmer:20
    buginese:1c unknown:2 buginese:2 taitham:3f unknown:1 taitham:1d unknown:2 taitham:b unknown:6
    taitham:a unknown:6 taitham:e unknown:2 inherited:1f unknown:31 balinese:4d unknown:3
    balinese:2f unknown:1 sundanese:40 batak:34 unknown:8 batak:4 lepcha:38 unknown:3 lepcha:f
    unknown:3 lepcha:3 olchiki:30 cyrillic:9 unknown:7 georgian:2b unknown:2 georgian:3
    sundanese:8 unknown:8 inherited:3 common:1 inherited:d common:1 inherited:7 common:4
    inherited:1 common:6 inherited:1 common:3 inherited:2 common:1 unknown:5 latin:26 greek:5
    cyrillic:1 latin:31 greek:5 latin:4 greek:5 latin:d cyrillic:1 latin:46 greek:1 inherited:40
    latin:100 greek:16 unknown:2 greek:6 unknown:2 greek:26 unknown:2 greek:6 unknown:2 greek:8
    unknown:1 greek:1 unknown:1 greek:1 unknown:1 greek:1 unknown:1 greek:1f unknown:2 greek:35
    unknown:1 greek:f unknown:1 greek:e unknown:2 greek:6 unknown:1 greek:13 unknown:2 greek:3
    unknown:1 greek:9 unknown:1 common:c inherited:2 common:57 unknown:1 common:b latin:1
    unknown:2 common:b latin:1 common:f unknown:1 latin:d unknown:3 common:21 unknown:f
    inherited:21 unknown:f common:26 greek:1 common:3 latin:2 common:6 latin:1 common:1b latin:1
    common:11 latin:29 common:3 unknown:4 common:297 unknown:19 common:b unknown:15 common:3a0
    braille:100 common:274 unknown:2 common:20 unknown:1 common:69 glagolitic:60 latin:20
    coptic:74 unknown:5 coptic:7 georgian:26 unknown:1 georgian:1 unknown:5 georgian:1 unknown:2
    tifinagh:38 unknown:7 tifinagh:2 unknown:e tifinagh:1 ethiopic:17 unknown:9 ethiopic:7
    unknown:1 ethiopic:7 unknown:1 ethiopic:7 unknown:1 ethiopic:7 unknown:1 ethiopic:7 unknown:1
    ethiopic:7 unknown:1 ethiopic:7 unknown:1 ethiopic:7 unknown:1 cyrillic:20 common:5e
    unknown:22 han:1a unknown:1 han:59 unknown:c han:d6 unknown:1a common:c unknown:4 common:5
    han:1 common:1 han:1 common:19 han:9 inherited:4 hangul:2 common:8 han:4 common:4 unknown:1
    hiragana:56 unknown:2 inherited:2 common:2 hiragana:3 common:1 katakana:5a common:2 katakana:3
    unknown:5 bopomofo:2b unknown:1 hangul:5e unknown:1 common:10 bopomofo:20 common:24 unknown:c
    katakana:10 hangul:1f unknown:1 common:40 hangul:1f common:51 katakana:2f common:1 katakana:58
    common:a8 han:19c0 common:40 han:5200 yi:48d unknown:3 yi:37 unknown:9 lisu:30 vai:12c
    unknown:14 cyrillic:60 bamum:58 unknown:8 common:22 latin:66 common:3 latin:40 unknown:5
    latin:2 unknown:1 latin:1 unknown:1 latin:5 unknown:18 latin:e sylotinagri:2d unknown:3
    common:a unknown:6 phagspa:38 unknown:8 saurashtra:46 unknown:8 saurashtra:c unknown:6
    devanagari:20 kayahli:2e common:1 kayahli:1 rejang:24 unknown:b rejang:1 hangul:1d unknown:3
    javanese:4e unknown:1 common:1 javanese:a unknown:4 javanese:2 myanmar:1f unknown:1 cham:37
    unknown:9 cham:e unknown:2 cham:a unknown:2 cham:4 myanmar:20 taiviet:43 unknown:18 taiviet:5
    meeteimayek:17 unknown:a ethiopic:6 unknown:2 ethiopic:6 unknown:2 ethiopic:6 unknown:9
    ethiopic:7 unknown:1 ethiopic:7 unknown:1 latin:2b common:1 latin:9 greek:1 latin:4 common:2
    unknown:4 cherokee:50 meeteimayek:2e unknown:2 meeteimayek:a unknown:6 hangul:2ba4 unknown:c
    hangul:17 unknown:4 hangul:31 unknown:2104 han:16e unknown:2 han:6a unknown:26 latin:7
    unknown:c armenian:5 unknown:5 hebrew:1a unknown:1 hebrew:5 unknown:1 hebrew:1 unknown:1
    hebrew:2 unknown:1 hebrew:2 unknown:1 hebrew:a arabic:73 unknown:10 arabic:16b common:2
    arabic:50 unknown:2 arabic:36 unknown:7 arabic:1 unknown:20 arabic:10 inherited:10 common:a
    unknown:6 inherited:e cyrillic:2 common:23 unknown:1 common:13 unknown:1 common:4 unknown:4
    arabic:5 unknown:1 arabic:87 unknown:2 common:1 unknown:1 common:20 latin:1a common:6 latin:1a
    common:b katakana:a common:1 katakana:2d common:2 hangul:1f unknown:3 hangul:6 unknown:2
    hangul:6 unknown:2 hangul:6 unknown:2 hangul:3 unknown:3 common:7 unknown:1 common:7 unknown:a
    common:5 unknown:2 linearb:c unknown:1 linearb:1a unknown:1 linearb:13 unknown:1 linearb:2
    unknown:1 linearb:f unknown:2 linearb:e unknown:22 linearb:7b unknown:5 common:3 unknown:4
    common:2d unknown:3 common:9 greek:4f unknown:1 common:d unknown:3 greek:1 unknown:2f
    common:2d inherited:1 unknown:82 lycian:1d unknown:3 carian:31 unknown:f inherited:1 common:1b
    unknown:4 olditalic:24 unknown:9 olditalic:3 gothic:1b unknown:5 oldpermic:2b unknown:5
    ugaritic:1e unknown:1 ugaritic:1 oldpersian:24 unknown:4 oldpersian:e unknown:2a deseret:50
    shavian:30 osmanya:1e unknown:2 osmanya:a unknown:6 osage:24 unknown:4 osage:24 unknown:4
    elbasan:28 unknown:8 caucasianalbanian:34 unknown:b caucasianalbanian:1 vithkuqi:b unknown:1
    vithkuqi:f unknown:1 vithkuqi:7 unknown:1 vithkuqi:2 unknown:1 vithkuqi:b unknown:1 vithkuqi:f
    unknown:1 vithkuqi:7 unknown:1 vithkuqi:2 unknown:43 lineara:137 unknown:9 lineara:16
    unknown:a lineara:8 unknown:18 latin:6 unknown:1 latin:2a unknown:1 latin:9 unknown:45
    cypriot:6 unknown:2 cypriot:1 unknown:1 cypriot:2c unknown:1 cypriot:2 unknown:3 cypriot:1
    unknown:2 cypriot:1 imperialaramaic:16 unknown:1 imperialaramaic:9 palmyrene:20 nabataean:1f
    unknown:8 nabataean:9 unknown:30 hatran:13 unknown:1 hatran:2 unknown:5 hatran:5 phoenician:1c
    unknown:3 phoenician:1 lydian:1a unknown:5 lydian:1 unknown:40 meroitichieroglyphs:20
    meroiticcursive:18 unknown:4 meroiticcursive:14 unknown:2 meroiticcursive:2e kharoshthi:4
    unknown:1 kharoshthi:2 unknown:5 kharoshthi:8 unknown:1 kharoshthi:3 unknown:1 kharoshthi:1d
    unknown:2 kharoshthi:3 unknown:4 kharoshthi:a unknown:7 kharoshthi:9 unknown:7
    oldsoutharabian:20 oldnortharabian:20 unknown:20 manichaean:27 unknown:4 manichaean:c
    unknown:9 avestan:36 unknown:3 avestan:7 inscriptionalparthian:16 unknown:2
    inscriptionalparthian:8 inscriptionalpahlavi:13 unknown:5 inscriptionalpahlavi:8
    psalterpahlavi:12 unknown:7 psalterpahlavi:4 unknown:c psalterpahlavi:7 unknown:50
    oldturkic:49 unknown:37 oldhungarian:33 unknown:d oldhungarian:33 unknown:7 oldhungarian:6
    hanifirohingya:28 unknown:8 hanifirohingya:a unknown:126 arabic:1f unknown:1 yezidi:2a
    unknown:1 yezidi:3 unknown:2 yezidi:2 unknown:4b arabic:3 oldsogdian:28 unknown:8 sogdian:2a
    unknown:16 olduyghur:1a unknown:26 chorasmian:1c unknown:14 elymaic:17 unknown:9 brahmi:4e
    unknown:4 brahmi:24 unknown:9 brahmi:1 kaithi:43 unknown:a kaithi:1 unknown:2 sorasompeng:19
    unknown:7 sorasompeng:a unknown:6 chakma:35 unknown:1 chakma:12 unknown:8 mahajani:27
    unknown:9 sharada:60 unknown:1 sinhala:14 unknown:b khojki:12 unknown:1 khojki:2f unknown:3e
    multani:7 unknown:1 multani:1 unknown:1 multani:4 unknown:1 multani:f unknown:1 multani:b
    unknown:6 khudawadi:3b unknown:5 khudawadi:a unknown:6 grantha:4 unknown:1 grantha:8 unknown:2
    grantha:2 unknown:2 grantha:16 unknown:1 grantha:7 unknown:1 grantha:2 unknown:1 grantha:5
    unknown:1 inherited:1 grantha:9 unknown:2 grantha:2 unknown:2 grantha:3 unknown:2 grantha:1
    unknown:6 grantha:1 unknown:5 grantha:7 unknown:2 grantha:7 unknown:3 grantha:5 unknown:8b
    newa:5c unknown:1 newa:5 unknown:1e tirhuta:48 unknown:8 tirhuta:a unknown:a6 siddham:36
    unknown:2 siddham:26 unknown:22 modi:45 unknown:b modi:a unknown:6 mongolian:d unknown:13
    takri:3a unknown:6 takri:a unknown:36 ahom:1b unknown:2 ahom:f unknown:4 ahom:17 unknown:b9
    dogra:3c unknown:64 warangciti:53 unknown:c warangciti:1 divesakuru:7 unknown:2 divesakuru:1
    unknown:2 divesakuru:8 unknown:1 divesakuru:2 unknown:1 divesakuru:1e unknown:1 divesakuru:2
    unknown:2 divesakuru:c unknown:9 divesakuru:a unknown:46 nandinagari:8 unknown:2
    nandinagari:2e unknown:2 nandinagari:b unknown:1b zanabazarsquare:48 unknown:8 soyombo:53
    unknown:d canadianaboriginal:10 paucinhau:39 unknown:7 devanagari:a unknown:f6 bhaiksuki:9
    unknown:1 bhaiksuki:2d unknown:1 bhaiksuki:e unknown:a bhaiksuki:1d unknown:3 marchen:20
    unknown:2 marchen:16 unknown:1 marchen:e unknown:49 masaramgondi:7 unknown:1 masaramgondi:2
    unknown:1 masaramgondi:2c unknown:3 masaramgondi:1 unknown:1 masaramgondi:2 unknown:1
    masaramgondi:9 unknown:8 masaramgondi:a unknown:6 gunjalagondi:6 unknown:1 gunjalagondi:2
    unknown:1 gunjalagondi:25 unknown:1 gunjalagondi:2 unknown:1 gunjalagondi:6 unknown:7
    gunjalagondi:a unknown:136 makasar:19 unknown:7 kawi:11 unknown:1 kawi:29 unknown:3 kawi:1c
    unknown:56 lisu:1 unknown:f tamil:32 unknown:d tamil:1 cuneiform:39a unknown:66 cuneiform:6f
    unknown:1 cuneiform:5 unknown:b cuneiform:c4 unknown:a4c cyprominoan:63 unknown:d
    egyptianhieroglyphs:456 unknown:faa anatolianhieroglyphs:247 unknown:21b9 bamum:239 unknown:7
    mro:1f unknown:1 mro:a unknown:4 mro:2 tangsa:4f unknown:1 tangsa:a unknown:6 bassavah:1e
    unknown:2 bassavah:6 unknown:a pahawhhmong:46 unknown:a pahawhhmong:a unknown:1 pahawhhmong:7
    unknown:1 pahawhhmong:15 unknown:5 pahawhhmong:13 unknown:2b0 medefaidrin:5b unknown:65
    miao:4b unknown:4 miao:39 unknown:7 miao:11 unknown:40 tangut:1 nushu:1 han:2
    khitansmallscript:1 unknown:b han:2 unknown:e tangut:17f8 unknown:8 tangut:300
    khitansmallscript:1d6 unknown:2a tangut:9 unknown:22e7 katakana:4 unknown:1 katakana:7
    unknown:1 katakana:2 unknown:1 katakana:1 hiragana:11f katakana:3 unknown:f hiragana:1
    unknown:1d hiragana:3 unknown:2 katakana:1 unknown:e katakana:4 unknown:8 nushu:18c
    unknown:904 duployan:6b unknown:5 duployan:d unknown:3 duployan:9 unknown:7 duployan:a
    unknown:2 duployan:4 common:4 unknown:125c inherited:2e unknown:2 inherited:17 unknown:9
    common:74 unknown:3c common:f6 unknown:a common:27 unknown:2 common:3e inherited:3 common:11
    inherited:8 common:2 inherited:7 common:1e inherited:4 common:3d unknown:15 greek:46
    unknown:7a common:14 unknown:c common:14 unknown:c common:57 unknown:9 common:19 unknown:87
    common:55 unknown:1 common:47 unknown:1 common:2 unknown:2 common:1 unknown:2 common:2
    unknown:2 common:4 unknown:1 common:c unknown:1 common:1 unknown:1 common:7 unknown:1
    common:41 unknown:1 common:4 unknown:2 common:8 unknown:1 common:7 unknown:1 common:1c
    unknown:1 common:4 unknown:1 common:5 unknown:1 common:1 unknown:3 common:7 unknown:1
    common:154 unknown:2 common:124 unknown:2 common:32 signwriting:28c unknown:f signwriting:5
    unknown:1 signwriting:f unknown:450 latin:1f unknown:6 latin:6 unknown:d5 glagolitic:7
    unknown:1 glagolitic:11 unknown:2 glagolitic:7 unknown:1 glagolitic:2 unknown:1 glagolitic:5
    unknown:5 cyrillic:3e unknown:21 cyrillic:1 unknown:70 nyiakengpuachuehmong:2d unknown:3
    nyiakengpuachuehmong:e unknown:2 nyiakengpuachuehmong:a unknown:4 nyiakengpuachuehmong:2
    unknown:140 toto:1f unknown:11 wancho:3a unknown:5 wancho:1 unknown:1d0 nagmundari:2a
    unknown:2e6 ethiopic:7 unknown:1 ethiopic:4 unknown:1 ethiopic:2 unknown:1 ethiopic:f
    unknown:1 mendekikakui:c5 unknown:2 mendekikakui:10 unknown:29 adlam:4c unknown:4 adlam:a
    unknown:4 adlam:2 unknown:311 common:44 unknown:4c common:3d unknown:c2 arabic:4 unknown:1
    arabic:1b unknown:1 arabic:2 unknown:1 arabic:1 unknown:2 arabic:1 unknown:1 arabic:a
    unknown:1 arabic:4 unknown:1 arabic:1 unknown:1 arabic:1 unknown:6 arabic:1 unknown:4 arabic:1
    unknown:1 arabic:1 unknown:1 arabic:1 unknown:1 arabic:3 unknown:1 arabic:2 unknown:1 arabic:1
    unknown:2 arabic:1 unknown:1 arabic:1 unknown:1 arabic:1 unknown:1 arabic:1 unknown:1 arabic:1
    unknown:1 arabic:2 unknown:1 arabic:1 unknown:2 arabic:4 unknown:1 arabic:7 unknown:1 arabic:4
    unknown:1 arabic:4 unknown:1 arabic:1 unknown:1 arabic:a unknown:1 arabic:11 unknown:5
    arabic:3 unknown:1 arabic:5 unknown:1 arabic:11 unknown:34 arabic:2 unknown:10e common:2c
    unknown:4 common:64 unknown:c common:f unknown:2 common:f unknown:1 common:f unknown:1
    common:25 unknown:a common:ae unknown:38 common:1a hiragana:1 common:2 unknown:d common:2c
    unknown:4 common:9 unknown:7 common:2 unknown:e common:6 unknown:9a common:3d8 unknown:4
    common:11 unknown:3 common:d unknown:3 common:77 unknown:4 common:5f unknown:6 common:c
    unknown:4 common:1 unknown:f common:c unknown:4 common:38 unknown:8 common:a unknown:6
    common:28 unknown:8 common:1e unknown:2 common:2 unknown:4e common:154 unknown:c common:e
    unknown:2 common:d unknown:3 common:9 unknown:7 common:2e unknown:1 common:7 unknown:8
    common:e unknown:4 common:9 unknown:7 common:9 unknown:7 common:93 unknown:1 common:37
    unknown:25 common:a unknown:406 han:a6e0 unknown:20 han:103a unknown:6 han:de unknown:2
    han:1682 unknown:e han:1d31 unknown:c1f han:21e unknown:5e2 han:134b unknown:5 han:1060
    unknown:adc51 common:1 unknown:1e common:60 unknown:80 inherited:f0 unknown:2fe10"

/-- The script of a character, in lower case. -/
def script (c : Char) : String :=
  valueAt scriptRuns c.toNat

/-- The names of four letters, each with the long name behind it. -/
def scriptCodes : List (List String) :=
  (entriesOf
    "adlm:adlam aghb:caucasianalbanian ahom:ahom arab:arabic armi:imperialaramaic armn:armenian
    avst:avestan bali:balinese bamu:bamum bass:bassavah batk:batak beng:bengali bhks:bhaiksuki
    bopo:bopomofo brah:brahmi brai:braille bugi:buginese buhd:buhid cakm:chakma
    cans:canadianaboriginal cari:carian cham:cham cher:cherokee chrs:chorasmian copt:coptic
    cpmn:cyprominoan cprt:cypriot cyrl:cyrillic deva:devanagari diak:divesakuru dogr:dogra
    dsrt:deseret dupl:duployan egyp:egyptianhieroglyphs elba:elbasan elym:elymaic ethi:ethiopic
    geor:georgian glag:glagolitic gong:gunjalagondi gonm:masaramgondi goth:gothic gran:grantha
    grek:greek gujr:gujarati guru:gurmukhi hang:hangul hani:han hano:hanunoo hatr:hatran
    hebr:hebrew hira:hiragana hluw:anatolianhieroglyphs hmng:pahawhhmong hmnp:nyiakengpuachuehmong
    hung:oldhungarian ital:olditalic java:javanese kali:kayahli kana:katakana kawi:kawi
    khar:kharoshthi khmr:khmer khoj:khojki kits:khitansmallscript knda:kannada kthi:kaithi
    lana:taitham laoo:lao latn:latin lepc:lepcha limb:limbu lina:lineara linb:linearb lisu:lisu
    lyci:lycian lydi:lydian mahj:mahajani maka:makasar mand:mandaic mani:manichaean marc:marchen
    medf:medefaidrin mend:mendekikakui merc:meroiticcursive mero:meroitichieroglyphs
    mlym:malayalam modi:modi mong:mongolian mroo:mro mtei:meeteimayek mult:multani mymr:myanmar
    nagm:nagmundari nand:nandinagari narb:oldnortharabian nbat:nabataean newa:newa nkoo:nko
    nshu:nushu ogam:ogham olck:olchiki orkh:oldturkic orya:oriya osge:osage osma:osmanya
    ougr:olduyghur palm:palmyrene pauc:paucinhau perm:oldpermic phag:phagspa
    phli:inscriptionalpahlavi phlp:psalterpahlavi phnx:phoenician plrd:miao
    prti:inscriptionalparthian rjng:rejang rohg:hanifirohingya runr:runic samr:samaritan
    sarb:oldsoutharabian saur:saurashtra sgnw:signwriting shaw:shavian shrd:sharada sidd:siddham
    sind:khudawadi sinh:sinhala sogd:sogdian sogo:oldsogdian sora:sorasompeng soyo:soyombo
    sund:sundanese sylo:sylotinagri syrc:syriac tagb:tagbanwa takr:takri tale:taile talu:newtailue
    taml:tamil tang:tangut tavt:taiviet telu:telugu tfng:tifinagh tglg:tagalog thaa:thaana
    thai:thai tibt:tibetan tirh:tirhuta tnsa:tangsa toto:toto ugar:ugaritic vaii:vai vith:vithkuqi
    wara:warangciti wcho:wancho xpeo:oldpersian xsux:cuneiform yezi:yezidi yiii:yi
    zanb:zanabazarsquare zinh:inherited zyyy:common zzzz:unknown").map
    fun entry => entry.splitOn ":"

/-- The long name of a script, given by either of its names, if there is such a script. -/
def scriptName? (name : String) : Option String :=
  (scriptCodes.find? fun names => names.contains name).bind List.getLast?

/-- The scripts that use a character, along the code points, and `n` where that is its own
script. -/
def sharedRuns : Array Run := runsOf
    "n:342 grek:1 n:2 grek:1 n:1d latn:d n:113 cyrl+perm:1 cyrl+glag:1 cyrl+latn:2 cyrl+glag:1 n:184
    arab+nkoo+rohg+syrc+thaa+yezi:1 n:e arab+nkoo+rohg+syrc+thaa+yezi:1 arab+syrc+thaa:1 n:2
    adlm+arab+nkoo+rohg+syrc+thaa+yezi:1 n:20 adlm+arab+mand+mani+ougr+phlp+rohg+sogd+syrc:1 n:a
    arab+syrc:b n:a arab+thaa+yezi:a n:6 arab+syrc:1 n:63 arab+rohg:1 n:27c
    beng+deva+gran+gujr+guru+knda+latn+mlym+orya+shrd+taml+telu+tirh:1
    beng+deva+gran+gujr+guru+knda+latn+mlym+orya+taml+telu+tirh:1 n:11
    beng+deva+dogr+gong+gonm+gran+gujr+guru+knda+mahj+mlym+nand+orya+sind+sinh+sylo+takr+taml+telu+tirh:1
    beng+deva+dogr+gong+gonm+gran+gujr+guru+knda+limb+mahj+mlym+nand+orya+sind+sinh+sylo+takr+taml+telu+tirh:1
    deva+dogr+kthi+mahj:a n:76 beng+cakm+sylo:a n:76 guru+mult:a n:76 gujr+khoj:a n:f6 gran+taml:e
    n:f2 knda+nand:a n:350 cakm+mymr+tale:a n:b1 geor+latn:1 n:639 buhd+hano+tagb+tglg:2 n:cb
    mong+phag:2 n:1 mong+phag:1 n:4ca beng+deva+gran+knda:1 deva:1 beng+deva+gran+knda:1 deva+gran:1
    deva:1 beng+deva:2 deva+shrd:1 beng+deva:1 deva+shrd:1 deva+knda+mlym+orya+taml+telu:1 deva:1
    deva+shrd:2 deva:2 deva+shrd:1 beng+deva:1 deva:7 deva+nand:1 beng+deva:1 deva:2 beng+deva:1
    deva:4 beng+deva+gran+knda+nand+orya+telu+tirh:1 deva+gran:1 deva+gran+knda:1 beng+deva:2 beng:1
    deva+gran:2 nand:1 n:c5 grek:2 n:36 cyrl+syrc:1 n:1 syrc:1 n:234 latn+mong:1 n:c0
    deva+gran+latn:1 n:d52 cyrl+glag:1 n:1bd bopo+hang+hani+hira+kana+yiii:2
    bopo+hang+hani+hira+kana:1 n:2 hani:1 n:1 bopo+hang+hani+hira+kana+yiii:a n:1
    bopo+hang+hani+hira+kana:1 bopo+hang+hani+hira+kana+yiii:8 bopo+hang+hani+hira+kana:4 n:a
    bopo+hani:4 n:2 bopo+hang+hani+hira+kana:1 hira+kana:5 n:1 bopo+hang+hani+hira+kana:1 n:4
    hani+hira+kana:2 hani:2 n:59 hira+kana:4 n:3 hira+kana:1 n:5a bopo+hang+hani+hira+kana+yiii:1
    hira+kana:1 n:93 hani:10 n:20 hani:24 n:3c hani:28 n:38 hani:31 n:f hani:c n:33 hani:1 n:58
    hani:19 n:a hani:5 n:60 hani:1f n:7270 cyrl+glag:1 n:90 hani+latn:8 n:128
    deva+dogr+gujr+guru+khoj+knda+kthi+mahj+mlym+modi+nand+sind+takr+tirh:3
    deva+dogr+gujr+guru+khoj+knda+kthi+mahj+modi+nand+sind+takr+tirh:3
    deva+dogr+gujr+guru+khoj+kthi+mahj+modi+sind+takr+tirh:4 n:b7 beng+deva:1 n:1 deva+taml:1 n:3a
    kali+latn+mymr:1 n:a0 bugi+java:1 n:536e arab+nkoo:2 n:b2 arab+thaa:1 n:a arab+thaa:1 n:47
    bopo+hang+hani+hira+kana:2 n:11a bopo+hang+hani+hira+kana+yiii:5 n:a hira+kana:1 n:2d
    hira+kana:2 n:160 cpmn+cprt+linb:2 cprt+linb:1 n:4 cprt+lina+linb:2d n:3 cprt+linb:9 n:1a0
    arab+copt:1c n:7f6 mani+ougr:1 n:80e gran+taml:1 n:1 gran+taml:1 n:37 gran+taml:2 n:c93
    gran+taml:2 n:1 gran+taml:1 n:9ccc dupl:4 n:16bc hani:12 n:1ede hani:2 n:f0dae"

/-- Whether a script uses a character. -/
def isUsedIn (name : String) (point : Nat) : Bool :=
  let shared := valueAt sharedRuns point
  if shared = "n" then valueAt scriptRuns point == name
  else (shared.splitOn "+").any fun code => scriptName? code == some name

end ProxyProfile.Pattern
