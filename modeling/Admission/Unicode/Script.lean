import Admission.Unicode.CharSet

/-!
# Scripts — the writing systems characters belong to

  `byName` gives the characters whose script is the named one, `extensionsByName`
  those that are used in texts of that script, which may be used in others too.
  The names are the four-letter code and the long name of a script in the loose form
  of `Names.normalize`.
-/

namespace Admission.Unicode.Script

/-- The characters of each script. -/
def byName : List (List String × CharSet) :=
  [(["adlm", "adlam"], CharSet.packed
     ["wEW3I24a42"]),
   (["ahom"], CharSet.packed
     ["wUB2r2f4n"]),
   (["hluw", "anatolianhieroglyphs"], CharSet.packed
     ["wwN2Di"]),
   (["arab", "arabic"], CharSet.packed
     ["wM15161e131w11abq1I31y1M2M1M7v125H21tMOY1P3gHb2M22S171w1gM351D4zX3vz23T14wUT141r1211211a",
      "141111614111111312112111111111121124171414111a1h53151hQ12"]),
   (["armn", "armenian"], CharSet.packed
     ["NF1C12O123zIZ15"]),
   (["avst", "avestan"], CharSet.packed
     ["wUy2S137"]),
   (["bali", "balinese"], CharSet.packed
     ["wU6J21O1"]),
   (["bamu", "bamum"], CharSet.packed
     ["wRF1U2EEM1Vh"]),
   (["bass", "bassavah"], CharSet.packed
     ["MSW2u26"]),
   (["batk", "batak"], CharSet.packed
     ["w.6Q184"]),
   (["beng", "bengali"], CharSet.packed
     ["wI2418222m1711342922248142152p"]),
   (["bhks", "bhaiksuki"], CharSet.packed
     ["wwD291J11eat"]),
   (["bopo", "bopomofo"], CharSet.packed
     ["Gn2VMbH1M3w1"]),
   (["brah", "brahmi"], CharSet.packed
     ["wwA2K24A191"]),
   (["brai", "braille"], CharSet.packed
     ["wwaw8"]),
   (["bugi", "buginese"], CharSet.packed
     ["wM6s22"]),
   (["buhd", "buhid"], CharSet.packed
     ["wW5k"]),
   (["cans", "canadianaboriginal"], CharSet.packed
     ["ww5wkMhC2WJw2g"]),
   (["cari", "carian"], CharSet.packed
     ["wRw2N1"]),
   (["aghb", "caucasianalbanian"], CharSet.packed
     ["MFx2Q1b1"]),
   (["cakm", "chakma"], CharSet.packed
     ["wEA2R11i"]),
   (["cham"], CharSet.packed
     ["wMG1T19e2a24"]),
   (["cher", "cherokee"], CharSet.packed
     ["wZ4S226OXB1M2"]),
   (["chrs", "chorasmian"], CharSet.packed
     ["MZz2s"]),
   (["zyyy", "common"], CharSet.packed
     ["0x2q6qL11f15n1v1xeD1552kQ31916111Zj161e131w11Y41Ag1x42VC11Rc4y91LL13D22H6211JC11d1741613",
      "21Boc2T21b3b1fhx1_1C113261r1hF134Wkmblwtw8Qj2w11F3wg.2Ocl111pf844X2231W22P4gw1C191M1w2vN",
      "2L11U2E5wK6w2wEmy1C33B5aQ71w51Hc1e2OKk2M6amz11j14P411w1q6qba1J12w2717a5y834J139M2dP1J1A7",
      "rAJK14YW3W76QdY4Q3Y1S7aD12.13h827u4Z1R6kckcT29pD4R21D2122122241c11171x21428171s141511371",
      "Qa2A92O1Nz5A2I2Z1ymI14A3cf2f1f1B1aK5U1q12dI14972e6W4Uu4h3d3T34_26c41fc4U18a6E18u2c42.1Qa",
      "ce2d3a5U17f2b697P41C3Dwxo1uw3"]),
   (["copt", "coptic", "qaac"], CharSet.packed
     ["yveMAaQ357"]),
   (["xsux", "cuneiform"], CharSet.packed
     ["wwE2WsC3L315bA6"]),
   (["cprt", "cypriot"], CharSet.packed
     ["wwy26211I1123121"]),
   (["cpmn", "cyprominoan"], CharSet.packed
     ["MYH2z3"]),
   (["cyrl", "cyrillic"], CharSet.packed
     ["ww1B42F5MW5bw51I21Dz4w1wyuw3KYl2wMU1.1x11"]),
   (["dsrt", "deseret"], CharSet.packed
     ["wwx2M2"]),
   (["deva", "devanagari"], CharSet.packed
     ["wE2N24f2qwXD1w1wMsa"]),
   (["diak", "divesakuru"], CharSet.packed
     ["wEC272128121u122c9a"]),
   (["dogr", "dogra"], CharSet.packed
     ["wwC2Y1"]),
   (["dupl", "duployan"], CharSet.packed
     ["wwL3H35d397a24"]),
   (["egyp", "egyptianhieroglyphs"], CharSet.packed
     ["wwI2Sy1aXY3"]),
   (["elba", "elbasan"], CharSet.packed
     ["wEx2E1"]),
   (["elym", "elymaic"], CharSet.packed
     ["w_z2n"]),
   (["ethi", "ethiopic"], CharSet.packed
     ["wM4F2142711142F1142x1142711142f1V1142z22w13qCL6n9717171717171717yFv626269717NBL2714121f"]),
   (["gara", "garay"], CharSet.packed
     ["wGz2C13t82"]),
   (["geor", "georgian"], CharSet.packed
     ["wB4C111512H114MY2H123wy4C11151"]),
   (["glag", "glagolitic"], CharSet.packed
     ["wwbw3wZI371h271215"]),
   (["goth", "gothic"], CharSet.packed
     ["MVw2r"]),
   (["gran", "grantha"], CharSet.packed
     ["wUA2418222m1712152922232161572735"]),
   (["grek", "greek"], CharSet.packed
     ["Mr4132411411113111k1_1egCF65O1545Q21wam262C126281111111v2R11f1e261j2319D91.Ny11WKlL2h1_y",
      "Q1C2"]),
   (["gujr", "gujarati"], CharSet.packed
     ["xQ2319131m1712152a131321f42c77"]),
   (["gong", "gunjalagondi"], CharSet.packed
     ["wHD26121B112167a"]),
   (["guru", "gurmukhi"], CharSet.packed
     ["xM2316422m17121212211542233174117h"]),
   (["gukh", "gurungkhema"], CharSet.packed
     ["wEU2W1"]),
   (["hani", "han"], CharSet.packed
     ["wQbq1V2cS6L1111p9e4AuwK6w2wMkwEmKb2G3EEt2c2KwA1wTF1w1Wx46.62yQ5eNF7fKjyJ2.gyL1HW45wz4"]),
   (["hang", "hangul"], CharSet.packed
     ["wE4w8KN72x8.2N3vx2vxTttzkAZacn4N1AZ9v36262623"]),
   (["rohg", "hanifirohingya"], CharSet.packed
     ["wEz2E18a"]),
   (["hano", "hanunoo"], CharSet.packed
     ["wV5l"]),
   (["hatr", "hatran"], CharSet.packed
     ["wDy2j1255"]),
   (["hebr", "hebrew"], CharSet.packed
     ["NI1T18r46EFZ1q151112121a"]),
   (["hira", "hiragana"], CharSet.packed
     ["xycS263xX_2_8i1t3JBg1"]),
   (["armi", "imperialaramaic"], CharSet.packed
     ["wyy2m19"]),
   (["zinh", "inherited", "qaai"], CharSet.packed
     ["woM3R82Aebq1wn4XG4vxg31d17416132C6w2Ig2y6x1VV34H32BHP1ggeLu1y71Wy41A.K1K12nwh3h827u4OWHo",
      "M7"]),
   (["phli", "inscriptionalpahlavi"], CharSet.packed
     ["wXy2j58"]),
   (["prti", "inscriptionalparthian"], CharSet.packed
     ["wWy2m28"]),
   (["java", "javanese"], CharSet.packed
     ["wIG1K22a42"]),
   (["kthi", "kaithi"], CharSet.packed
     ["wAA2z2a1"]),
   (["knda", "kannada"], CharSet.packed
     ["wA3d131n1a152913147262142a13"]),
   (["kana", "katakana"], CharSet.packed
     ["xBcW223M7gM6L11U2KwP1a1J1OyI14171211_83O11e4"]),
   (["kawi"], CharSet.packed
     ["wUD2h1F13t"]),
   (["kali", "kayahli"], CharSet.packed
     ["wEG1K111"]),
   (["khar", "kharoshthi"], CharSet.packed
     ["wMy241258131t234a79"]),
   (["kits", "khitansmallscript"], CharSet.packed
     ["A_X21XU6SeF11"]),
   (["khmr", "khmer"], CharSet.packed
     ["wY5.22a6aCfw1"]),
   (["khoj", "khojki"], CharSet.packed
     ["wMA2i1L1"]),
   (["sind", "khudawadi"], CharSet.packed
     ["MRA2X15a"]),
   (["krai", "kiratrai"], CharSet.packed
     ["wGX2W1"]),
   (["laoo", "lao"], CharSet.packed
     ["xQ3211151o111n2511171a24"]),
   (["latn", "latin"], CharSet.packed
     ["x2q6qL11f15n1v1xeD15XM6C16N1545d1C2x2w8Nb1d1gdJ4261r1hF1TS2w1yRuC33z2221118leMpH11914SYj",
      "7Ww1q6qBx261G119BWR1v66"]),
   (["lepc", "lepcha"], CharSet.packed
     ["ww7U13f33"]),
   (["limb", "limbu"], CharSet.packed
     ["wE6v1c4c413c"]),
   (["lina", "lineara"], CharSet.packed
     ["wMx2T99ma8"]),
   (["linb", "linearb"], CharSet.packed
     ["www2c1q1j121f2ey1X3"]),
   (["lisu"], CharSet.packed
     ["MCF1M1MRu1"]),
   (["lyci", "lycian"], CharSet.packed
     ["wQw2t"]),
   (["lydi", "lydian"], CharSet.packed
     ["wFy2q51"]),
   (["mahj", "mahajani"], CharSet.packed
     ["MGA2D1"]),
   (["maka", "makasar"], CharSet.packed
     ["wTD2p"]),
   (["mlym", "malayalam"], CharSet.packed
     ["wE3d131P113164g2q"]),
   (["mand", "mandaic"], CharSet.packed
     ["wy2s21"]),
   (["mani", "manichaean"], CharSet.packed
     ["wSy2D14c"]),
   (["marc", "marchen"], CharSet.packed
     ["MzD2w12m1e"]),
   (["gonm", "masaramgondi"], CharSet.packed
     ["wED27121I13112198a"]),
   (["medf", "medefaidrin"], CharSet.packed
     ["wOX2X2"]),
   (["mtei", "meeteimayek"], CharSet.packed
     ["wTG1nF6K12a"]),
   (["mend", "mendekikakui"], CharSet.packed
     ["wwW3B62g"]),
   (["merc", "meroiticcursive"], CharSet.packed
     ["wJy2o4k2K1"]),
   (["mero", "meroitichieroglyphs"], CharSet.packed
     ["wIy2w1"]),
   (["plrd", "miao"], CharSet.packed
     ["wUX2H24V17h"]),
   (["modi"], CharSet.packed
     ["wMB2B2ba"]),
   (["mong", "mongolian"], CharSet.packed
     ["ww62211k6V27H1RJ_1d"]),
   (["mroo", "mro"], CharSet.packed
     ["wOW2v1a42"]),
   (["mult", "multani"], CharSet.packed
     ["wQA2711141f1b"]),
   (["mymr", "myanmar"], CharSet.packed
     ["ww4w5wGC1vx3w1Myrk"]),
   (["nbat", "nabataean"], CharSet.packed
     ["wAy2v89"]),
   (["nagm", "nagmundari"], CharSet.packed
     ["MCV3G1"]),
   (["nand", "nandinagari"], CharSet.packed
     ["wJC282K12b"]),
   (["talu", "newtailue"], CharSet.packed
     ["wI6I14q6b32"]),
   (["newa"], CharSet.packed
     ["wwB2Y215"]),
   (["nkoo", "nko"], CharSet.packed
     ["w.1X123"]),
   (["nshu", "nushu"], CharSet.packed
     ["x_X21KIgIc"]),
   (["hmnp", "nyiakengpuachuehmong"], CharSet.packed
     ["wEU3J13e2a42"]),
   (["ogam", "ogham"], CharSet.packed
     ["wQ5t"]),
   (["olck", "olchiki"], CharSet.packed
     ["My7M1"]),
   (["onao", "olonal"], CharSet.packed
     ["MKV3H141"]),
   (["hung", "oldhungarian"], CharSet.packed
     ["wAz2P1dP176"]),
   (["ital", "olditalic"], CharSet.packed
     ["wUw2A193"]),
   (["narb", "oldnortharabian"], CharSet.packed
     ["wQy2w1"]),
   (["perm", "oldpermic"], CharSet.packed
     ["MWw2H1"]),
   (["xpeo", "oldpersian"], CharSet.packed
     ["wZw2A14e"]),
   (["sogo", "oldsogdian"], CharSet.packed
     ["wUz2E1"]),
   (["sarb", "oldsoutharabian"], CharSet.packed
     ["wPy2w1"]),
   (["orkh", "oldturkic"], CharSet.packed
     ["wwz2F2"]),
   (["ougr", "olduyghur"], CharSet.packed
     ["MXz2q"]),
   (["orya", "oriya"], CharSet.packed
     ["xU2318222m1712152922237342152i"]),
   (["osge", "osage"], CharSet.packed
     ["MBx2A14A1"]),
   (["osma", "osmanya"], CharSet.packed
     ["wAx2u2a"]),
   (["hmng", "pahawhhmong"], CharSet.packed
     ["wUW2C2aa171l5j"]),
   (["palm", "palmyrene"], CharSet.packed
     ["wzy2w1"]),
   (["pauc", "paucinhau"], CharSet.packed
     ["wSC2V1"]),
   (["phag", "phagspa"], CharSet.packed
     ["wyG1U1"]),
   (["phnx", "phoenician"], CharSet.packed
     ["wEy2s31"]),
   (["phlp", "psalterpahlavi"], CharSet.packed
     ["wYy2i74c7"]),
   (["rjng", "rejang"], CharSet.packed
     ["MFG1A1b1"]),
   (["runr", "runic"], CharSet.packed
     ["wR5H23b"]),
   (["samr", "samaritan"], CharSet.packed
     ["ww2K12f"]),
   (["saur", "saurashtra"], CharSet.packed
     ["wAG1C28c"]),
   (["shrd", "sharada"], CharSet.packed
     ["wIA2w3"]),
   (["shaw", "shavian"], CharSet.packed
     ["Myx2M1"]),
   (["sidd", "siddham"], CharSet.packed
     ["wIB2S12C1"]),
   (["sgnw", "signwriting"], CharSet.packed
     ["wwS3Ikf51f"]),
   (["sinh", "sinhala"], CharSet.packed
     ["xI331i3o191127314611186a23I_w2k"]),
   (["sogd", "sogdian"], CharSet.packed
     ["MVz2G1"]),
   (["sora", "sorasompeng"], CharSet.packed
     ["MCA2p7a"]),
   (["soyo", "soyombo"], CharSet.packed
     ["MOC2P2"]),
   (["sund", "sundanese"], CharSet.packed
     ["wY6w2w88"]),
   (["sunu", "sunuwar"], CharSet.packed
     ["w.C2y1ea"]),
   (["sylo", "sylotinagri"], CharSet.packed
     ["wwG1J1"]),
   (["syrc", "syriac"], CharSet.packed
     ["wU1e1Y123M8b"]),
   (["tglg", "tagalog"], CharSet.packed
     ["wU5m91"]),
   (["tagb", "tagbanwa"], CharSet.packed
     ["wX5d1312"]),
   (["tale", "taile"], CharSet.packed
     ["MG6u25"]),
   (["lana", "taitham"], CharSet.packed
     ["wN6_11t2b6a6e"]),
   (["tavt", "taiviet"], CharSet.packed
     ["wQG1z2o5"]),
   (["takr", "takri"], CharSet.packed
     ["wQB2W16a"]),
   (["taml", "tamil"], CharSet.packed
     ["yY2216331432111232333c4533142161elB.A2O1d1"]),
   (["tnsa", "tangsa"], CharSet.packed
     ["MPW2L21a"]),
   (["tang", "tangut"], CharSet.packed
     ["w_X21vU_58wowg9"]),
   (["telu", "telugu"], CharSet.packed
     ["ww3d131n1g291314721321242a79"]),
   (["thaa", "thaana"], CharSet.packed
     ["wY1O1"]),
   (["thai"], CharSet.packed
     ["xM3W15s"]),
   (["tibt", "tibetan"], CharSet.packed
     ["wU3E21A14D11A11f1742"]),
   (["tfng", "tifinagh"], CharSet.packed
     ["MFbU172e1"]),
   (["tirh", "tirhuta"], CharSet.packed
     ["wAB2E28a"]),
   (["todr", "todhri"], CharSet.packed
     ["wKx2Q1"]),
   (["toto"], CharSet.packed
     ["MQU3v"]),
   (["tutg", "tulutigalari"], CharSet.packed
     ["wYA2a11211C11a1121141a1282"]),
   (["ugar", "ugaritic"], CharSet.packed
     ["wYw2u11"]),
   (["vaii", "vai"], CharSet.packed
     ["wEF1I9"]),
   (["vith", "vithkuqi"], CharSet.packed
     ["MHx2b1f17121b1f1712"]),
   (["wcho", "wancho"], CharSet.packed
     ["wSU3W151"]),
   (["wara", "warangciti"], CharSet.packed
     ["wBC2P2c1"]),
   (["yezi", "yezidi"], CharSet.packed
     ["wQz2G11322"]),
   (["yiii", "yi"], CharSet.packed
     ["wwE1JA13T1"]),
   (["zanb", "zanabazarsquare"], CharSet.packed
     ["wMC2E2"])]

/-- The characters used in texts of each script. -/
def extensionsByName : List (List String × CharSet) :=
  [(["adlm", "adlam"], CharSet.packed
     ["_M11w11KM61NL31.RK3I24a42"]),
   (["ahom"], CharSet.packed
     ["wUB2r2f4n"]),
   (["hluw", "anatolianhieroglyphs"], CharSet.packed
     ["wwN2Di"]),
   (["arab", "arabic"], CharSet.packed
     ["wM151T61y1M2M1M7v125H21tLW51NL31KEP1P3gZd2S171w1gM351D4zvsAX2vz23T14wUT141r1211211a14111",
      "1614111111312112111111111121124171414111a1h53151hQ12"]),
   (["armn", "armenian"], CharSet.packed
     ["Eo1EhC12O123zIZ15"]),
   (["avst", "avestan"], CharSet.packed
     ["T51UHb2KCT1S137"]),
   (["bali", "balinese"], CharSet.packed
     ["wU6J21O1"]),
   (["bamu", "bamum"], CharSet.packed
     ["wRF1U2EEM1Vh"]),
   (["bass", "bassavah"], CharSet.packed
     ["MSW2u26"]),
   (["batk", "batak"], CharSet.packed
     ["w.6Q184"]),
   (["beng", "bengali"], CharSet.packed
     ["Yl1QQ12h2q418222m1711342922248142152pNS411122118181214123V_y11"]),
   (["bhks", "bhaiksuki"], CharSet.packed
     ["wwD291J11eat"]),
   (["bopo", "bopomofo"], CharSet.packed
     ["Dm113d1g2REb34a1da42161z619H1M3w1BAP12W85"]),
   (["brah", "brahmi"], CharSet.packed
     ["wwA2K24A191"]),
   (["brai", "braille"], CharSet.packed
     ["wwaw8"]),
   (["bugi", "buginese"], CharSet.packed
     ["wM6s22LZz11"]),
   (["buhd", "buhid"], CharSet.packed
     ["RV529k"]),
   (["cans", "canadianaboriginal"], CharSet.packed
     ["ww5wkMhC2WJw2g"]),
   (["cari", "carian"], CharSet.packed
     ["T51yZ7121PK31KzR1N1"]),
   (["aghb", "caucasianalbanian"], CharSet.packed
     ["Ao1I11I11NKw2Q1b1"]),
   (["cakm", "chakma"], CharSet.packed
     ["CL2aMO1aSBw2R11i"]),
   (["cham"], CharSet.packed
     ["wMG1T19e2a24"]),
   (["cher", "cherokee"], CharSet.packed
     ["wo31162m2b2Kz4S226OXB1M2"]),
   (["chrs", "chorasmian"], CharSet.packed
     ["MZz2s"]),
   (["zyyy", "common"], CharSet.packed
     ["0x2q6qL11c1215n1v1xe31a1131191116552k.316111Zj1T61Ag1YG11Rc4Dx4c2x11v1a12171b3b1fhx1_1C1",
      "13261r1hF134Wkmblwtw8Qj2w11F3wgn1o2a14111qyd131d1d1l1Ngov1N1fc4x5a5w3v1wK6w2EEmqC33Mu1e2",
      "ARkaml2c1j14P411w1q6q6_3717a5OcdP1J1zMO1W76QdY4Q3Y1S7aD12.13h827u4Z1R6kckcT2r7D4R21D2122",
      "122241c11171x21428171s141511371Qa2A92O1Nz5A2I2Z1ymI14A3cf2f1f1B1aK5U1q12dI149n6W4Uu4h3d3",
      "T34_26c41fc4U18a6E18u2c42.1Qace2d3a5U17f2b697P41C3Dwxo1uw3"]),
   (["copt", "coptic", "qaac"], CharSet.packed
     ["T51Ei13211I32I3eMAaQ357T81ECR1s"]),
   (["xsux", "cuneiform"], CharSet.packed
     ["wwE2WsC3L315bA6"]),
   (["cprt", "cypriot"], CharSet.packed
     ["wEw234J139wS16211I1123121"]),
   (["cpmn", "cyprominoan"], CharSet.packed
     ["wEw22KQbz3"]),
   (["cyrl", "cyrillic"], CharSet.packed
     ["Yl1z231111112151K7M9MW5bw51I21_31D_3w1z21Y_tw3KYl2wMU1.1x11"]),
   (["dsrt", "deseret"], CharSet.packed
     ["wwx2M2"]),
   (["deva", "devanagari"], CharSet.packed
     ["Yl1zO1P22H1MW4D112Sv1_Vx1aC5w1wMsa"]),
   (["diak", "divesakuru"], CharSet.packed
     ["wEC272128121u122c9a"]),
   (["dogr", "dogra"], CharSet.packed
     ["AH2cwSD1aC.rY1"]),
   (["dupl", "duployan"], CharSet.packed
     ["T51Li211o2TUa1zKz3H35d397a28"]),
   (["egyp", "egyptianhieroglyphs"], CharSet.packed
     ["wwI2Sy1aXY3"]),
   (["elba", "elbasan"], CharSet.packed
     ["T51Ji1WLw2E1"]),
   (["elym", "elymaic"], CharSet.packed
     ["w_z2n"]),
   (["ethi", "ethiopic"], CharSet.packed
     ["Ko1NT3F2142711142F1142x1142711142f1V1142z22w13qCL6n9717171717171717yFv626269717NBL271412",
      "1f"]),
   (["gara", "garay"], CharSet.packed
     ["IM11e131wVx2C13t82"]),
   (["geor", "georgian"], CharSet.packed
     ["T51NC11SU2C111512M1MY2H123Ws1BB3C11151z81"]),
   (["glag", "glagolitic"], CharSet.packed
     ["T51Hi111.b121x81NX21.W31BZ2w3zf1Hxu1MIK271h271215"]),
   (["goth", "gothic"], CharSet.packed
     ["T51Ii221E11.__1r"]),
   (["gran", "grantha"], CharSet.packed
     ["NG22h2wkeYC4112u332Sv1LMY1418222m1712151a22232161572735Xy3211"]),
   (["grek", "greek"], CharSet.packed
     ["T51Ei2211111a1K1121G182411411113111k1_1egCF65O1545Q23.9m262C126281111111v2R11f1e261j2319",
      ".21E61.Ny11WKlL2h1_yQ1C2"]),
   (["gujr", "gujarati"], CharSet.packed
     ["NG22h2X8319131m1712152a131321f42c77MFD1a"]),
   (["gong", "gunjalagondi"], CharSet.packed
     ["T51IB22W_A26121B112167a"]),
   (["guru", "gurmukhi"], CharSet.packed
     ["NG22h2X4316422m17121212211542233174117hVJD1a"]),
   (["gukh", "gurungkhema"], CharSet.packed
     ["BH21WYR2W1"]),
   (["hani", "han"], CharSet.packed
     ["T51EKbq1V2cS6qg131d1d1d2169X51Q4gw1C191M1E1U1N1fcP11U2pa5w3v1wK6w2wMkwU18ULkKb2G3Hr2W85Y",
      "zs2c2KXoi.S72KJ3wTF1w1Wx46.62yQ5eNF7fKjyJ2.gyL1HW45wz4"]),
   (["hang", "hangul"], CharSet.packed
     ["wE4w8xM734a1de361z61R1.2N3vx2vxTttzkAZacn4N1FO92W85W1v36262623"]),
   (["rohg", "hanifirohingya"], CharSet.packed
     ["IM11e131w11P41HNx2E18a"]),
   (["hano", "hanunoo"], CharSet.packed
     ["wV5n"]),
   (["hatr", "hatran"], CharSet.packed
     ["wDy2j1255"]),
   (["hebr", "hebrew"], CharSet.packed
     ["Do2EkT18r46EFZ1q151112121a"]),
   (["hira", "hiragana"], CharSet.packed
     ["xwc34a1dg611423S228W22EGP12W85a1J12xzI1_8i1t3JBg1"]),
   (["armi", "imperialaramaic"], CharSet.packed
     ["wyy2m19"]),
   (["zinh", "inherited", "qaai"], CharSet.packed
     ["Lo1211c1237212g121i1514ML12XG4vPnS11115Ig2y6w1MET1ggeLu1yEP1K12nwh3h827u4OWHoM7"]),
   (["phli", "inscriptionalpahlavi"], CharSet.packed
     ["wXy2j58"]),
   (["prti", "inscriptionalparthian"], CharSet.packed
     ["wWy2m28"]),
   (["java", "javanese"], CharSet.packed
     ["wIG1K21b42"]),
   (["kthi", "kaithi"], CharSet.packed
     ["CH2axC91.LuaCyqz2a1"]),
   (["knda", "kannada"], CharSet.packed
     ["NG22h2Wod131n1a152913147262142a13Y.311261n111XVy16"]),
   (["kana", "katakana"], CharSet.packed
     ["Bo1t1ZCb34a1dg61142X243w3M7gM6L11U2JTO12W8_1MyI14171211_83O11e4"]),
   (["kawi"], CharSet.packed
     ["wUD2h1F13t"]),
   (["kali", "kayahli"], CharSet.packed
     ["wEG1M1"]),
   (["khar", "kharoshthi"], CharSet.packed
     ["wMy241258131t234a79"]),
   (["kits", "khitansmallscript"], CharSet.packed
     ["A_X21XU6SeF11"]),
   (["khmr", "khmer"], CharSet.packed
     ["wY5.22a6aCfw1"]),
   (["khoj", "khojki"], CharSet.packed
     ["CT2awGD1aCKqi1L1"]),
   (["sind", "khudawadi"], CharSet.packed
     ["AH22GSD1aSPqX15a"]),
   (["krai", "kiratrai"], CharSet.packed
     ["wGX2W1"]),
   (["laoo", "lao"], CharSet.packed
     ["xQ3211151o111n2511171a24"]),
   (["latn", "latin"], CharSet.packed
     ["x2q6qL11c1215n1v1xe31a11311911165rf1211c1237212C11514dR82GC12EZ11Aw3C16N1545d1C2V117w8L9",
      "1x21d1gdP21V1261r1hF1TS2w1Tc1EDu8qC33z2221118leK91xgH11914SYj7Ww1q6qBx261G119BWR1v66"]),
   (["lepc", "lepcha"], CharSet.packed
     ["ww7U13f33"]),
   (["limb", "limbu"], CharSet.packed
     ["BH21WY3v1c4c413c"]),
   (["lina", "lineara"], CharSet.packed
     ["DEw2J1IC1T99ma8"]),
   (["linb", "linearb"], CharSet.packed
     ["www2c1q1j121f2ey1X3534J139"]),
   (["lisu"], CharSet.packed
     ["Yl1g1YFb2ACtM1MRu1"]),
   (["lyci", "lycian"], CharSet.packed
     ["Wy81BNU1t"]),
   (["lydi", "lydian"], CharSet.packed
     ["T51VHb1KTS1q51"]),
   (["mahj", "mahajani"], CharSet.packed
     ["T51IB2cwSD1aSEqD1"]),
   (["maka", "makasar"], CharSet.packed
     ["wTD2p"]),
   (["mlym", "malayalam"], CharSet.packed
     ["NG22h2Wsd131P113164g2qWW31n1ZVy13"]),
   (["mand", "mandaic"], CharSet.packed
     ["wO11_fs21"]),
   (["mani", "manichaean"], CharSet.packed
     ["wO11_zx2D14c"]),
   (["marc", "marchen"], CharSet.packed
     ["MzD2w12m1e"]),
   (["gonm", "masaramgondi"], CharSet.packed
     ["AH22WYA27121I13112198a"]),
   (["medf", "medefaidrin"], CharSet.packed
     ["wOX2X2"]),
   (["mtei", "meeteimayek"], CharSet.packed
     ["wTG1nF6K12a"]),
   (["mend", "mendekikakui"], CharSet.packed
     ["wwW3B62g"]),
   (["merc", "meroiticcursive"], CharSet.packed
     ["wJy2o4k2K1"]),
   (["mero", "meroitichieroglyphs"], CharSet.packed
     ["Zy81yFW1w1"]),
   (["plrd", "miao"], CharSet.packed
     ["wUX2H24V17h"]),
   (["modi"], CharSet.packed
     ["MxG1aCKrB2ba"]),
   (["mong", "mongolian"], CharSet.packed
     ["ww6q6V27H1AY11N.3254QOV1d"]),
   (["mroo", "mro"], CharSet.packed
     ["wOW2v1a42"]),
   (["mult", "multani"], CharSet.packed
     ["CP2aMwy2711141f1b"]),
   (["mymr", "myanmar"], CharSet.packed
     ["ww4w5KAC11N5vx3w1Myrk"]),
   (["nbat", "nabataean"], CharSet.packed
     ["wAy2v89"]),
   (["nagm", "nagmundari"], CharSet.packed
     ["MCV3G1"]),
   (["nand", "nandinagari"], CharSet.packed
     ["AH22wsaV_318171RVy16GHs82K12b"]),
   (["talu", "newtailue"], CharSet.packed
     ["wI6I14q6b32"]),
   (["newa"], CharSet.packed
     ["wwB2Y215"]),
   (["nkoo", "nko"], CharSet.packed
     ["IM11e131wdX123.FZ12"]),
   (["nshu", "nushu"], CharSet.packed
     ["x_X21KIgIc"]),
   (["hmnp", "nyiakengpuachuehmong"], CharSet.packed
     ["wEU3J13e2a42"]),
   (["ogam", "ogham"], CharSet.packed
     ["wQ5t"]),
   (["olck", "olchiki"], CharSet.packed
     ["My7M1"]),
   (["onao", "olonal"], CharSet.packed
     ["AH22GzT3H141"]),
   (["hung", "oldhungarian"], CharSet.packed
     ["Wy8121PK31f1.NT1P1dP176"]),
   (["ital", "olditalic"], CharSet.packed
     ["wUw2A193"]),
   (["narb", "oldnortharabian"], CharSet.packed
     ["wQy2w1"]),
   (["perm", "oldpermic"], CharSet.packed
     ["T51Ei153a1Lb1IS_1H1"]),
   (["xpeo", "oldpersian"], CharSet.packed
     ["wZw2A14e"]),
   (["sogo", "oldsogdian"], CharSet.packed
     ["wUz2E1"]),
   (["sarb", "oldsoutharabian"], CharSet.packed
     ["wPy2w1"]),
   (["orkh", "oldturkic"], CharSet.packed
     ["Wy81RK31LKT1F2"]),
   (["ougr", "olduyghur"], CharSet.packed
     ["wO11NBx21Zz1q"]),
   (["orya", "oriya"], CharSet.packed
     ["NG22h2Xc318222m1712152922237342152iyH41n1"]),
   (["osge", "osage"], CharSet.packed
     ["xo12161I21TGw2A14A1"]),
   (["osma", "osmanya"], CharSet.packed
     ["wAx2u2a"]),
   (["hmng", "pahawhhmong"], CharSet.packed
     ["wUW2C2aa171l5j"]),
   (["palm", "palmyrene"], CharSet.packed
     ["wzy2w1"]),
   (["pauc", "paucinhau"], CharSet.packed
     ["wSC2V1"]),
   (["phag", "phagspa"], CharSet.packed
     ["yw6211Fx21O.31ZxuU1"]),
   (["phnx", "phoenician"], CharSet.packed
     ["wEy2s31"]),
   (["phlp", "psalterpahlavi"], CharSet.packed
     ["wO11_Fx2i74c7"]),
   (["rjng", "rejang"], CharSet.packed
     ["MFG1A1b1"]),
   (["runr", "runic"], CharSet.packed
     ["wR5V2"]),
   (["samr", "samaritan"], CharSet.packed
     ["ww2K12fOL91"]),
   (["saur", "saurashtra"], CharSet.packed
     ["wAG1C28c"]),
   (["shrd", "sharada"], CharSet.packed
     ["NG21BY41112221LWy1621DGqw3"]),
   (["shaw", "shavian"], CharSet.packed
     ["T51UYw2M1"]),
   (["sidd", "siddham"], CharSet.packed
     ["wIB2S12C1"]),
   (["sgnw", "signwriting"], CharSet.packed
     ["wwS3Ikf51f"]),
   (["sinh", "sinhala"], CharSet.packed
     ["AH22Xw131i3o191127314611186a23ZT31KDZ1k"]),
   (["sogd", "sogdian"], CharSet.packed
     ["wO11LDy2G1"]),
   (["sora", "sorasompeng"], CharSet.packed
     ["MCA2p7a"]),
   (["soyo", "soyombo"], CharSet.packed
     ["MOC2P2"]),
   (["sund", "sundanese"], CharSet.packed
     ["wY6w2w88"]),
   (["sunu", "sunuwar"], CharSet.packed
     ["wo2119121s131KAC2y1ea"]),
   (["sylo", "sylotinagri"], CharSet.packed
     ["AH22w4aMMD1J1"]),
   (["syrc", "syriac"], CharSet.packed
     ["zo22211l1237211Xm1e221w11abq1L4e1Y123M8bJI5111"]),
   (["tglg", "tagalog"], CharSet.packed
     ["wU5m91l2"]),
   (["tagb", "tagbanwa"], CharSet.packed
     ["RV52F1d1312"]),
   (["tale", "taile"], CharSet.packed
     ["wo25231PF3aCE2u25"]),
   (["lana", "taitham"], CharSet.packed
     ["wN6_11t2b6a6e"]),
   (["tavt", "taiviet"], CharSet.packed
     ["wQG1z2o5"]),
   (["takr", "takri"], CharSet.packed
     ["AH22GSD1aCOrW16a"]),
   (["taml", "tamil"], CharSet.packed
     ["NG22h2Yg216331432111232333c4533142161el_C41Uwz11JMq111T12zA3O1d1"]),
   (["tnsa", "tangsa"], CharSet.packed
     ["MPW2L21a"]),
   (["tang", "tangut"], CharSet.packed
     ["M_bgLf1MLL21vU_58wowg9"]),
   (["telu", "telugu"], CharSet.packed
     ["NG22h2Wkd131n1g291314721321242a79Wy41n1"]),
   (["thaa", "thaana"], CharSet.packed
     ["IM11e221w2aS8O1wOZ11a1"]),
   (["thai"], CharSet.packed
     ["Yl1q1H11J11LS2W15s"]),
   (["tibt", "tibetan"], CharSet.packed
     ["wU3E21A14D11A11f1742Jx84"]),
   (["tfng", "tifinagh"], CharSet.packed
     ["yo1112111CNaU172e1"]),
   (["tirh", "tirhuta"], CharSet.packed
     ["NG22h2IY41ZVy1aCyrE28a"]),
   (["todr", "todhri"], CharSet.packed
     ["xo121219111G21xPw2Q1"]),
   (["toto"], CharSet.packed
     ["Yl1P.T3v"]),
   (["tutg", "tulutigalari"], CharSet.packed
     ["CD3ayw4111XVy16X51KQqa11211C11a1121141a1282"]),
   (["ugar", "ugaritic"], CharSet.packed
     ["wYw2u11"]),
   (["vaii", "vai"], CharSet.packed
     ["wEF1I9"]),
   (["vith", "vithkuqi"], CharSet.packed
     ["MHx2b1f17121b1f1712"]),
   (["wcho", "wancho"], CharSet.packed
     ["wSU3W151"]),
   (["wara", "warangciti"], CharSet.packed
     ["wBC2P2c1"]),
   (["yezi", "yezidi"], CharSet.packed
     ["IM11e131w2aSwy2G11322"]),
   (["yiii", "yi"], CharSet.packed
     ["xwc25a28_61AUrJA13T1WQm5"]),
   (["zanb", "zanabazarsquare"], CharSet.packed
     ["wMC2E2"])]

end Admission.Unicode.Script
